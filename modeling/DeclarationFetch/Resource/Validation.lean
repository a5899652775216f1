import DeclarationFetch.Problem
import DeclarationFetch.Resource
import DeclarationFetch.Value

/-!
# Resources from values

A resource written as a mapping names its kind in the field `kind`; the other fields depend on it.
Fields that the kind does not have are passed over.
-/

namespace DeclarationFetch.Resource

def title : String := "tagged-union[PackagePath,RelativePath,RelativeInPackagePath]"

/-- A text field; without a default it has to be present. -/
def readText (kind name : String) (default : Option String) (nonempty : Bool) (value : Value) :
    Except (List Problem) String :=
  match value.field? name, default with
  | none, some text => .ok text
  | none, none => .error [⟨[kind, name], .missing⟩]
  | some (.text s), _ =>
      if nonempty && s = "" then .error [⟨[kind, name], .stringTooShort⟩] else .ok s
  | some _, _ => .error [⟨[kind, name], .stringType⟩]

def readPackage (value : Value) : Except (List Problem) Resource :=
  (Problem.both (readText "package" "package_name" none true value)
    (readText "package" "import_path" (some "") false value)).map fun (name, path) =>
      .package name path

def readRelative (value : Value) : Except (List Problem) Resource :=
  (Problem.both (readText "relative" "import_path" none false value)
    (readText "relative" "source_path" none false value)).map fun (path, source) =>
      .relative path source

def readInPackage (value : Value) : Except (List Problem) Resource :=
  let kind := "relative-in-package"
  (Problem.both (readText kind "package_name" none true value)
    (Problem.both (readText kind "source_path" (some "") false value)
      (readText kind "import_path" none false value))).map fun (name, source, path) =>
        .inPackage name source path

/-- The kind decides how the other fields are read. -/
def readTagged (value : Value) : Except (List Problem) Resource :=
  match value with
  | .map _ =>
      match value.field? "kind" with
      | none => .error [⟨[], .unionTagNotFound⟩]
      | some (.text "package") => readPackage value
      | some (.text "relative") => readRelative value
      | some (.text "relative-in-package") => readInPackage value
      | some _ => .error [⟨[], .unionTagInvalid⟩]
  | _ => .error [⟨[], .modelAttributesType⟩]

def ofValue (value : Value) : Except Invalid Resource :=
  (readTagged value).mapError fun problems => ⟨title, problems⟩

def toValue : Resource → Value
  | .package name path => .object
      [("kind", .text "package"), ("package_name", .text name), ("import_path", .text path)]
  | .relative path source => .object
      [("kind", .text "relative"), ("import_path", .text path), ("source_path", .text source)]
  | .inPackage name source path => .object
      [("kind", .text "relative-in-package"), ("package_name", .text name),
        ("source_path", .text source), ("import_path", .text path)]

/-- A text stands for a directory and a mapping for a resource. -/
def parentOfValue : Value → Except Invalid Parent
  | .text s => .ok (.directory s)
  | .map entries => (ofValue (.map entries)).map .resource
  | _ => .ok .unsupported

end DeclarationFetch.Resource
