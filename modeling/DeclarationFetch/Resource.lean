import DeclarationFetch.Path
import DeclarationFetch.Text.Quoted

/-!
# Resources

Where the target of an import is to be looked for: in a package, in a directory, or in a package that
is already known, next to one of its files. The key of a resource names its target within one pass.
-/

namespace DeclarationFetch

inductive Resource where
  | package (name importPath : String)
  | relative (importPath sourcePath : String)
  | inPackage (name sourcePath importPath : String)
  deriving Repr, DecidableEq

/-- The name of a package together with the version asked for, if there is one. -/
def versioned (name : String) (version : Option String) : String :=
  match version with
  | some v => if v = "" then name else name ++ "@" ++ v
  | none => name

namespace Resource

def kind : Resource → String
  | package _ _ => "package"
  | relative _ _ => "relative"
  | inPackage _ _ _ => "relative-in-package"

/-- Resources with the same key have the same target. -/
def key (version : Option String) : Resource → String
  | package name path => versioned name version ++ "/" ++ path
  | relative path source => Path.join [source, path]
  | inPackage name source path => versioned name version ++ "/" ++ Path.join [source, path]

def shown : Resource → String
  | package name path =>
      "PackagePath(kind='package', package_name=" ++ Text.quoted name ++
        ", import_path=" ++ Text.quoted path ++ ")"
  | relative path source =>
      "RelativePath(kind='relative', import_path=" ++ Text.quoted path ++
        ", source_path=" ++ Text.quoted source ++ ")"
  | inPackage name source path =>
      "RelativeInPackagePath(kind='relative-in-package', package_name=" ++ Text.quoted name ++
        ", source_path=" ++ Text.quoted source ++ ", import_path=" ++ Text.quoted path ++ ")"

end Resource

/-- What an import is written in: the file of a directory, or the target of another import. -/
inductive Parent where
  | directory (path : String)
  | resource (r : Resource)
  | unsupported
  deriving Repr, DecidableEq

end DeclarationFetch
