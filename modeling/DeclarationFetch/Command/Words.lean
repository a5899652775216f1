import DeclarationFetch.Pins
import DeclarationFetch.Text.Basic

/-!
# Words of a command line

Words that start with a hyphen name options; a lone hyphen does not. An option with a value takes the
text after the equals sign or else the next word, whatever that looks like. Two hyphens alone end the
options.
-/

namespace DeclarationFetch.Command

inductive UsageFault where
  /-- A command that only groups others was called alone. -/
  | noArguments
  | missingCommand
  | unknownCommand (name : String)
  | unknownOption (name : String)
  | missingValue (option : String)
  | unexpectedValue (option : String)
  | badValue (parameter : String)
  | missingParameter (parameter : String)
  | extraArguments
  | badPin (pin : BadPin)
  deriving Repr, DecidableEq

def UsageFault.message : UsageFault → String
  | noArguments => "A command is needed."
  | missingCommand => "Missing command."
  | unknownCommand name => s!"No such command '{name}'."
  | unknownOption name => s!"No such option: {name}"
  | missingValue option => s!"Option '{option}' requires an argument."
  | unexpectedValue option => s!"Option '{option}' does not take a value."
  | badValue parameter => s!"Invalid value for '{parameter}'."
  | missingParameter parameter => s!"Missing parameter '{parameter}'."
  | extraArguments => "Got unexpected extra arguments."
  | badPin pin => pin.message

structure Flag where
  name : String
  short : Option Char := none
  takesValue : Bool := true
  deriving Repr, DecidableEq

/-- The options of a command line in their order, with their values, and its other words. -/
structure Words where
  given : List (String × String) := []
  others : List String := []
  deriving Repr, DecidableEq

namespace Words

def has (w : Words) (name : String) : Bool := w.given.any fun entry => entry.1 = name

/-- The names of the options in the order in which they first appear. -/
def names (w : Words) : List String := (w.given.map Prod.fst).eraseDups

def values (w : Words) (name : String) : List String :=
  w.given.filterMap fun entry => if entry.1 = name then some entry.2 else none

def give (entries : List (String × String)) (w : Words) : Words := { w with given := entries ++ w.given }

/-! ## Reading -/

def isOption (word : String) : Bool :=
  match word.toList with
  | '-' :: _ :: _ => true
  | _ => false

/-- The name before the first equals sign, and the text after it. -/
def splitValue (word : String) : String × Option String :=
  let (name, rest) := word.toList.span (· ≠ '=')
  (String.ofList name, if rest.isEmpty then none else some (String.ofList (rest.drop 1)))

/-- The flags whose letters stand after one hyphen. -/
def shortFlags (flags : List Flag) : List Char → Except UsageFault (List (String × String))
  | [] => .ok []
  | c :: rest =>
      match flags.find? fun flag => flag.short = some c with
      | some flag => (shortFlags flags rest).map ((flag.name, "") :: ·)
      | none => .error (.unknownOption (String.ofList ['-', c]))

/-- What the word of an option gives, or the option that takes the next word as its value. -/
def readOption (flags : List Flag) (word : String) :
    Except UsageFault (List (String × String) ⊕ Flag) :=
  let (name, value) := splitValue word
  match flags.find? fun flag => flag.name = name with
  | some flag =>
      match flag.takesValue, value with
      | true, some value => .ok (.inl [(flag.name, value)])
      | true, none => .ok (.inr flag)
      | false, some _ => .error (.unexpectedValue name)
      | false, none => .ok (.inl [(flag.name, "")])
  | none =>
      if Text.startsWith word "--" then .error (.unknownOption name)
      else (shortFlags flags (word.toList.drop 1)).map .inl

/-- The options and other words. Unless options may stand `anywhere`, the first other word ends them. -/
def read (flags : List Flag) (anywhere : Bool) : List String → Except UsageFault Words
  | [] => .ok {}
  | word :: rest =>
      if word = "--" then .ok { others := rest }
      else if isOption word then do
        match ← readOption flags word with
        | .inl entries => .ok ((← read flags anywhere rest).give entries)
        | .inr flag =>
            match rest with
            | [] => .error (.missingValue flag.name)
            | value :: rest => .ok ((← read flags anywhere rest).give [(flag.name, value)])
      else if anywhere then do
        let w ← read flags anywhere rest
        .ok { w with others := word :: w.others }
      else .ok { others := word :: rest }

end Words

end DeclarationFetch.Command
