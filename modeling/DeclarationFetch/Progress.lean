import DeclarationFetch.Assoc
import DeclarationFetch.Value.Display

/-!
# Progress

What is reported while declarations are looked up: the type of an update, its data and a line of text
about it.
-/

namespace DeclarationFetch

structure Update where
  type : String
  data : Assoc Value := {}

namespace Update

/-! ## The updates of a pass -/

def codeChanged : Update := ⟨"CodeChanged", {}⟩

def resolveNewImports : Update := ⟨"ResolveNewImports", {}⟩

def lookedUpTypeFile (path : String) (success : Bool) : Update :=
  ⟨"LookedUpTypeFile", ⟨[("path", .text path), ("success", .bool success)]⟩⟩

def attemptedLookUpFile (path : String) (success : Bool) : Update :=
  ⟨"AttemptedLookUpFile", ⟨[("path", .text path), ("success", .bool success)]⟩⟩

def lookedUpPackage (package : String) (definitelyTyped success : Bool) : Update :=
  ⟨"LookedUpPackage", ⟨[("package", .text package), ("definitely_typed", .bool definitelyTyped),
    ("success", .bool success)]⟩⟩

def loadedFromCache (key : String) : Update := ⟨"LoadedFromCache", ⟨[("import_path", .text key)]⟩⟩

def storedToCache (key : String) : Update := ⟨"StoredToCache", ⟨[("import_path", .text key)]⟩⟩

/-! ## The text -/

/-- A part of the data as it reads in the text; one that is missing reads as an empty value. -/
def shown (u : Update) (name : String) : String := ((u.data.get? name).getD .null).display

def holds (u : Update) (name : String) : Bool := ((u.data.get? name).getD .null).isSet

def success (u : Update) : Bool := u.holds "success"

def message (u : Update) : String :=
  match u.type with
  | "CodeChanged" => "Changes detected"
  | "ResolveNewImports" => "Resolving source file imports"
  | "LookedUpTypeFile" =>
      (if u.success then "Successfully looked up" else "Could not find") ++ " type file " ++
        u.shown "path"
  | "AttemptedLookUpFile" => (if u.success then "Found " else "Missed ") ++ u.shown "path"
  | "LookedUpPackage" =>
      if u.success then
        "Resolved types for package " ++ u.shown "package" ++
          (if u.holds "definitely_typed" then " from DefinitelyTyped" else "")
      else "Could not resolve types for package " ++ u.shown "package"
  | "LoadedFromCache" => "Loaded " ++ u.shown "import_path" ++ " from cache"
  | "StoredToCache" => "Stored " ++ u.shown "import_path" ++ " to cache"
  | other => other

end Update

end DeclarationFetch
