import CatalogSearch.CommandLine.Arguments

/-!
# Usage

The texts that explain the program.
-/

set_option autoImplicit false

namespace CatalogSearch.CommandLine

/-- The program and its version. -/
def versionText : String := "unified-search 0.1.0"

/-- An option as help shows it. -/
def OptionSpec.usage (o : OptionSpec) : String :=
  let letter :=
    match o.letter with
    | some c => String.ofList ['-', c] ++ ", "
    | none => "    "
  let value := if o.arity.takesValue then " <" ++ o.long.toUpper ++ ">" else ""
  "  " ++ letter ++ "--" ++ o.long ++ value

/-- A command as help shows it. -/
def commandUsage (command : String × Level) : String :=
  let operand := if 0 < command.2.operands then " <QUERY>" else ""
  "  " ++ command.1 ++ operand ++ "\n" ++
    "\n".intercalate (command.2.options.map fun o => "    " ++ o.usage)

/-- How the program is used. -/
def helpText : String :=
  "\n".intercalate
    (["Tenant-aware search over parts, equipment, companies, listings and services", "",
        "Usage: unified-search [OPTIONS] <COMMAND>", "", "Options:"] ++
      topLevel.options.map OptionSpec.usage ++ ["", "Commands:"] ++ commandLevels.map commandUsage)

end CatalogSearch.CommandLine
