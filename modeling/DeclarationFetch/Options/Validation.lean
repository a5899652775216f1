import DeclarationFetch.Options
import DeclarationFetch.Value.Display
import DeclarationFetch.Value.Scalar

/-!
# Options from values

Options are written as a mapping from field names. A field that is missing keeps its default, every
value is checked, and all problems are found at once. Assigning to one field checks that field and
leaves the others alone.
-/

namespace DeclarationFetch.Options

def title : String := "Options"

def keyText : Value → String
  | .text name => name
  | .bool b => if b then "1" else "0"
  | key => key.inner

/-! ## The table of versions -/

def readPin (key value : Value) : Except (List Problem) (String × String) :=
  let problem (loc : List String) (kind : ProblemKind) : List Problem := [⟨"versions" :: loc, kind⟩]
  Problem.both (key.asText.mapError (problem [keyText key, "[key]"]))
    (value.asText.mapError (problem [keyText key]))

def readPins : List (Value × Value) → Except (List Problem) (List (String × String))
  | [] => .ok []
  | (key, value) :: rest =>
      (Problem.both (readPin key value) (readPins rest)).map fun (pin, pins) => pin :: pins

def readVersions : Value → Except (List Problem) (Option (Assoc String))
  | .null => .ok none
  | .map entries => (readPins entries).map fun pins => some (Assoc.ofList pins)
  | _ => .error [⟨["versions"], .dictType⟩]

/-! ## Fields -/

def located {α : Type} (name : String) (read : Except ProblemKind α) : Except (List Problem) α :=
  read.mapError fun kind => [⟨[name], kind⟩]

/-- A handler cannot be given by a value, but it can be taken away. -/
def dropHandler (o : Options) (name : String) (value : Value) (without : Handlers) :
    Except (List Problem) Options :=
  (located name value.asHandler).map fun _ => { o with handlers := without }

/-- The options with one field read from a value; `none` for an unknown field. -/
def setField? (o : Options) (name : String) (value : Value) : Option (Except (List Problem) Options) :=
  match name with
  | "file_root_path" => some ((located name value.asText).map fun s => { o with fileRootPath := s })
  | "only_specified_packages" =>
      some ((located name value.asBool).map fun b => { o with onlySpecifiedPackages := b })
  | "preload_packages" => some ((located name value.asBool).map fun b => { o with preloadPackages := b })
  | "share_cache" => some ((located name value.asBool).map fun b => { o with shareCache := b })
  | "skip_refresh_after_resolve" =>
      some ((located name value.asBool).map fun b => { o with skipRefreshAfterResolve := b })
  | "debounce_duration" => some ((located name value.asFloat).map fun x => { o with debounceDuration := x })
  | "file_recursion_depth" =>
      some ((located name value.asInt).map fun n => { o with fileRecursionDepth := n })
  | "package_recursion_depth" =>
      some ((located name value.asInt).map fun n => { o with packageRecursionDepth := n })
  | "versions" => some ((readVersions value).map fun pins => { o with versions := pins })
  | "on_error" => some (dropHandler o name value { o.handlers with errors := false })
  | "on_update" => some (dropHandler o name value { o.handlers with updates := false })
  | "on_update_versions" => some (dropHandler o name value { o.handlers with versions := false })
  | _ => none

/-! ## Whole options -/

/-- The options after one more entry of a mapping, with the problems so far. -/
def addEntry (so : Options × List Problem) (entry : Value × Value) : Options × List Problem :=
  match entry.1 with
  | .text name =>
      match setField? so.1 name entry.2 with
      | some (.ok o) => (o, so.2)
      | some (.error problems) => (so.1, so.2 ++ problems)
      | none => (so.1, so.2 ++ [⟨[name], .extraForbidden⟩])
  | key => (so.1, so.2 ++ [⟨[keyText key], .invalidKey⟩])

def readEntries (entries : List (Value × Value)) : Except (List Problem) Options :=
  match entries.foldl addEntry ({}, []) with
  | (o, []) => .ok o
  | (_, problems) => .error problems

def ofValue (value : Value) : Except Invalid Options :=
  match value with
  | .map entries => (readEntries entries).mapError fun problems => ⟨title, problems⟩
  | _ => .error ⟨title, [⟨[], .modelType⟩]⟩

def toValue (o : Options) : Value := .object [
  ("file_root_path", .text o.fileRootPath),
  ("only_specified_packages", .bool o.onlySpecifiedPackages),
  ("preload_packages", .bool o.preloadPackages),
  ("share_cache", .bool o.shareCache),
  ("skip_refresh_after_resolve", .bool o.skipRefreshAfterResolve),
  ("debounce_duration", .float o.debounceDuration),
  ("file_recursion_depth", .int o.fileRecursionDepth),
  ("package_recursion_depth", .int o.packageRecursionDepth),
  ("versions", (o.versions.map fun pins => .object (pins.map .text).entries).getD .null)]

/-- A name that is set aside for the private use of whoever holds the options. -/
def isPrivate (name : String) : Bool := name.toList.head? = some '_'

/-- The options with one field changed. What is kept under a private name is no option. -/
def assign (o : Options) (name : String) (value : Value) : Except Invalid Options :=
  match setField? o name value with
  | some result => result.mapError fun problems => ⟨title, problems⟩
  | none => if isPrivate name then .ok o else .error ⟨title, [⟨[name], .noSuchAttribute⟩]⟩

end DeclarationFetch.Options
