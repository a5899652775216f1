import DeclarationFetch.FileTree
import DeclarationFetch.Options.Validation
import DeclarationFetch.Settings.Merge
import DeclarationFetch.Yaml.Document

/-!
# Loading settings

Settings are kept in files that need not be there. Their mappings go over each other in the order of the
files, and what the caller sets goes over all of them.
-/

namespace DeclarationFetch.Settings

/-- A file of settings: how it is named to the user, and where it is. -/
structure Source where
  name : String
  route : Route
  deriving Repr, DecidableEq

inductive Fault where
  | malformed (file : String)
  | notMapping (file kind : String)
  | invalid (reason : Invalid)
  | unreadable (fault : FileFault)
  /-- A text of settings that are no settings for another reason than their form. -/
  | unusable (fault : Yaml.Fault)
  deriving Repr, DecidableEq

/-- What the user is told; no message is made for the other faults. -/
def Fault.message? : Fault → Option String
  | malformed file => some s!"Invalid YAML in {file}"
  | notMapping file kind => some s!"Settings in {file} must be a mapping, got {kind}"
  | invalid _ => some "Invalid settings"
  | _ => none

/-! ## Files -/

/-- The entries of a settings text. A text whose value is unset has none. -/
def entriesOf (name text : String) : Except Fault (List (Value × Value)) :=
  match Yaml.read text with
  | .error .malformed => .error (.malformed name)
  | .error fault => .error (.unusable fault)
  | .ok (.map entries) => .ok entries
  | .ok value => if value.isSet then .error (.notMapping name value.kindName) else .ok []

def readFile (t : FileTree) (source : Source) : Except Fault (List (Value × Value)) := do
  if ← (t.there source.route).mapError .unreadable then
    entriesOf source.name (← (t.read source.route).mapError .unreadable)
  else .ok []

def load (t : FileTree) (sources : List Source) : Except Fault (List (Value × Value)) :=
  (sources.mapM (readFile t)).map mergeAll

/-! ## Options -/

/-- What the caller sets; null leaves a setting alone. -/
def given (overrides : List (Value × Value)) : List (Value × Value) :=
  overrides.filter fun entry =>
    match entry.2 with
    | .null => false
    | _ => true

def loadOptions (t : FileTree) (sources : List Source) (overrides : List (Value × Value)) :
    Except Fault Options := do
  let settings ← load t sources
  (Options.ofValue (.map (mergeEntries settings (given overrides)))).mapError .invalid

end DeclarationFetch.Settings
