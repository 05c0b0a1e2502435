import CatalogSearch.Text.Blank

/-!
# Options of a command line

The words of a command line are options with their values, and operands.  An option is known by a long
name and possibly by a letter; its value is part of the same word or is the next word, which must not
look like an option itself.  A value is checked when the next option or operand comes, so that help
that was asked for is not refused because of the word before it.
-/

set_option autoImplicit false

namespace CatalogSearch.CommandLine

/-- How often an option may be given, and whether it takes a value. -/
inductive Arity where
  /-- No value, at most once. -/
  | flag
  /-- A value, at most once. -/
  | single
  /-- A value each time. -/
  | many
  /-- Asks for help. -/
  | help
  /-- Asks for the version. -/
  | version
  deriving DecidableEq, Repr

namespace Arity

/-- Whether an option takes a value. -/
def takesValue : Arity → Bool
  | .single | .many => true
  | .flag | .help | .version => false

end Arity

/-- An option. -/
structure OptionSpec where
  long : String
  letter : Option Char
  arity : Arity
  /-- Whether a value is accepted. -/
  accepts : String → Bool := fun _ => true

/-- What a level of a command line may hold. -/
structure Level where
  options : List OptionSpec
  /-- The number of operands. -/
  operands : Nat := 0
  /-- The commands that may follow. -/
  commands : List String := []

namespace Level

/-- The option with a long name. -/
def byName? (l : Level) (name : String) : Option OptionSpec :=
  l.options.find? (fun o => o.long == name)

/-- The option with a letter. -/
def byLetter? (l : Level) (letter : Char) : Option OptionSpec :=
  l.options.find? (fun o => o.letter == some letter)

end Level

/-- Why reading stopped. -/
inductive Stop where
  | help
  | version
  /-- The words are no command line. -/
  | refused
  deriving DecidableEq, Repr

/-- What has been read of a level. -/
structure Reading where
  /-- The options with their values, in order. -/
  given : List (String × String) := []
  operands : List String := []
  /-- The last option, whose value may still have to come and has not been checked. -/
  pending : Option (OptionSpec × Option String) := none
  /-- Whether only operands may follow. -/
  operandsOnly : Bool := false

namespace Reading

/-- The values of an option. -/
def values (r : Reading) (name : String) : List String :=
  (r.given.filter fun g => g.1 == name).map (·.2)

/-- The value of an option that may be given once. -/
def value? (r : Reading) (name : String) : Option String := (r.values name).head?

/-- Whether an option was given. -/
def has (r : Reading) (name : String) : Bool := r.given.any fun g => g.1 == name

/-- Whether a value must come next. -/
def awaitsValue (r : Reading) : Bool :=
  match r.pending with
  | some (_, none) => true
  | _ => false

/-- An option taken in with its value. -/
def take (r : Reading) (o : OptionSpec) (value : String) : Except Stop Reading :=
  if !o.accepts value || (o.arity != .many && r.has o.long) then .error .refused
  else .ok { r with given := r.given ++ [(o.long, value)] }

/-- The last option settled: its value must be there and be accepted. -/
def settle (r : Reading) : Except Stop Reading :=
  match r.pending with
  | none => .ok r
  | some (_, none) => .error .refused
  | some (o, some value) => { r with pending := none }.take o value

/-- An option that takes no value. -/
def raise (r : Reading) (o : OptionSpec) : Except Stop Reading := do
  let r ← r.settle
  match o.arity with
  | .help => throw .help
  | .version => throw .version
  | _ => r.take o ""

/-- An option that takes a value, which may have come with it. -/
def begin (r : Reading) (o : OptionSpec) (attached : Option String) : Except Stop Reading := do
  let r ← r.settle
  match attached with
  | some value => r.take o value
  | none => return { r with pending := some (o, none) }

/-- A word that begins with two dashes, without them. -/
def long (r : Reading) (l : Level) (word : List Char) : Except Stop Reading :=
  let name := String.ofList (word.takeWhile (· != '='))
  let attached :=
    match word.dropWhile (· != '=') with
    | _ :: value => some (String.ofList value)
    | [] => none
  match l.byName? name with
  | none => .error .refused
  | some o =>
    if o.arity.takesValue then r.begin o attached
    else if attached.isSome then .error .refused
    else r.raise o

/-- A word that begins with one dash, without it: letters, of which the last one may take the rest of
the word for its value. -/
def short (r : Reading) (l : Level) : List Char → Except Stop Reading
  | [] => .ok r
  | c :: rest =>
    match l.byLetter? c with
    | none => .error .refused
    | some o =>
      if o.arity.takesValue then
        r.begin o (match rest with
          | [] => none
          | '=' :: value => some (String.ofList value)
          | value => some (String.ofList value))
      else do (← r.raise o).short l rest

/-- An operand. -/
def operand (r : Reading) (l : Level) (word : String) : Except Stop Reading := do
  let r ← r.settle
  if r.operands.length < l.operands then return { r with operands := r.operands ++ [word] }
  else throw .refused

/-- A word that is no option: the value that is awaited, or an operand. -/
def plain (r : Reading) (l : Level) (word : String) : Except Stop Reading :=
  match r.pending with
  | some (o, none) => .ok { r with pending := some (o, some word) }
  | _ => r.operand l word

/-- A word that is no command. -/
def word (r : Reading) (l : Level) (word : String) : Except Stop Reading :=
  if r.operandsOnly then r.operand l word
  else
    match word.toList with
    | ['-', '-'] => .ok { r with operandsOnly := true }
    | '-' :: '-' :: rest => r.long l rest
    | ['-'] => r.plain l word
    | '-' :: rest => r.short l rest
    | _ => r.plain l word

end Reading

/-- Read the words of a level up to a command, which comes with the words after it. -/
def Level.read (l : Level) (r : Reading) :
    List String → Except Stop (Reading × Option (String × List String))
  | [] => .ok (r, none)
  | word :: rest =>
    if !r.operandsOnly && !r.awaitsValue && l.commands.contains word then .ok (r, some (word, rest))
    else
      match r.word l word with
      | .ok r => l.read r rest
      | .error stop => .error stop

end CatalogSearch.CommandLine
