/-!
# Parameters of a command

A level of the command line is a row of words. A word with a hyphen in front names parameters; a
word after a parameter that takes a value is the value. A value is looked at only when the next
parameter comes or the row ends, so an unknown parameter is reported before a bad value in front of
it.
-/

namespace FlowTraffic.CommandLine

/-- Why a command line is refused, or that it asks for a text instead of a run. -/
inductive UsageError
  | unknownArgument
  | missingValue
  | badValue
  | conflict
  | missingRequired
  | missingCommand
  | unknownCommand
  | unexpectedValue
  | help
  | version
  | helpForNothing
  deriving DecidableEq, Repr

/-- The exit code: asking for help or the version is no failure. -/
def UsageError.exitCode : UsageError → Nat
  | help | version => 0
  | _ => 2

def UsageError.message : UsageError → String
  | unknownArgument => "unexpected argument"
  | missingValue => "a value is required"
  | badValue => "invalid value"
  | conflict => "an argument cannot be used multiple times"
  | missingRequired => "a required argument was not provided"
  | missingCommand => "a subcommand is required"
  | unknownCommand => "unrecognized subcommand"
  | unexpectedValue => "an argument takes no value"
  | help | helpForNothing => "usage: flowgre COMMAND [OPTIONS]"
  | version => "flowgre 0.1.0"

/-- What a parameter does to the arguments it is given for. -/
inductive Effect (α : Type)
  | flag (set : α → α)
  | value (repeats : Bool) (read : String → Except UsageError (α → α))
  | stop (why : UsageError)

/-- A parameter with its long name and perhaps a letter. -/
structure Param (α : Type) where
  long : String
  short : Option Char := none
  effect : Effect α

/-- What a level knows: its parameters and the words that start the next level. -/
structure Level (α : Type) where
  params : List (Param α)
  commands : List String := []

/-- The arguments read so far. A parameter that takes a value is pending until its value is looked
at; it waits for the value as long as it has none. -/
structure Reading (α : Type) where
  args : α
  given : List String := []
  pending : Option (Param α × Option String) := none

namespace Reading

variable {α : Type}

/-- Whether the next plain word is a value. -/
def waits (r : Reading α) : Bool :=
  match r.pending with
  | some (_, none) => true
  | _ => false

/-- Looks at a parameter with its value, if it has one. What can be given once is refused the
second time. -/
def apply (r : Reading α) (p : Param α) (value : Option String) :
    Except UsageError (Reading α) := do
  let again := r.given.contains p.long
  let r := { r with given := p.long :: r.given }
  match p.effect, value with
  | .stop why, _ => throw why
  | .flag set, _ => if again then throw .conflict else return { r with args := set r.args }
  | .value _ _, none => throw .missingValue
  | .value repeats read, some v =>
    if again && !repeats then throw .conflict
    return { r with args := (← read v) r.args }

def settle (r : Reading α) : Except UsageError (Reading α) :=
  match r.pending with
  | none => .ok r
  | some (p, value) => { r with pending := none }.apply p value

/-- Takes a parameter that has no value attached. -/
def take (r : Reading α) (p : Param α) : Except UsageError (Reading α) := do
  let r ← r.settle
  match p.effect with
  | .value _ _ => return { r with pending := some (p, none) }
  | _ => r.apply p none

/-- Takes a parameter with the value attached to it. -/
def takeWith (r : Reading α) (p : Param α) (value : String) : Except UsageError (Reading α) := do
  (← r.settle).apply p (some value)

/-- Gives the value to the parameter that waits for it. -/
def fill (r : Reading α) (value : String) : Reading α :=
  { r with pending := r.pending.map fun (p, _) => (p, some value) }

end Reading

namespace Level

variable {α : Type}

/-- Whether the word starts the next level. `help` does wherever there is a next level. -/
def isCommand (l : Level α) (word : String) : Bool :=
  l.commands.contains word || (!l.commands.isEmpty && word == "help")

/-- What is wrong with a word that is neither a parameter nor a value nor a command. -/
def stray (l : Level α) (word : String) (trailing : Bool) : UsageError :=
  if l.commands.isEmpty || (trailing && l.isCommand word) then .unknownArgument
  else .unknownCommand

/-- A word after two hyphens: a name, perhaps with a value after an equals sign. -/
def long (l : Level α) (body : List Char) (r : Reading α) : Except UsageError (Reading α) :=
  let name := String.ofList (body.takeWhile (· != '='))
  let value := (body.dropWhile (· != '=')).tail?.map String.ofList
  match l.params.find? (·.long == name), value with
  | none, _ => .error .unknownArgument
  | some p, none => r.take p
  | some p, some v =>
    match p.effect with
    | .value _ _ => r.takeWith p v
    | _ => .error .unexpectedValue

/-- Letters after one hyphen. The first letter of a parameter with a value takes what follows as
that value, less an equals sign in front. -/
def letters (l : Level α) : List Char → Reading α → Except UsageError (Reading α)
  | [], r => .ok r
  | c :: cs, r =>
    match l.params.find? (·.short == some c) with
    | none => .error .unknownArgument
    | some p =>
      match p.effect, cs with
      | .value _ _, [] => r.take p
      | .value _ _, '=' :: v => r.takeWith p (String.ofList v)
      | .value _ _, v => r.takeWith p (String.ofList v)
      | _, cs => do l.letters cs (← r.take p)

/-- Reads a level up to its end or to the word that starts the next one, which comes with the words
after it. After two hyphens alone all words are plain. -/
def read (l : Level α) (trailing : Bool) :
    List String → Reading α → Except UsageError (Reading α × Option (String × List String))
  | [], r => .ok (r, none)
  | word :: words, r =>
    if trailing then .error (l.stray word true)
    else if !r.waits && l.isCommand word then .ok (r, some (word, words))
    else
      match word.toList with
      | ['-', '-'] => l.read true words r
      | '-' :: '-' :: body => do l.read false words (← l.long body r)
      | '-' :: c :: cs => do l.read false words (← l.letters (c :: cs) r)
      | _ => if r.waits then l.read false words (r.fill word) else .error (l.stray word false)

end Level

end FlowTraffic.CommandLine
