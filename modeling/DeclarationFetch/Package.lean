import DeclarationFetch.Resource

/-!
# Names of package files

The keys under which the files of packages are cached, the places where they are put, and the addresses at
which a registry serves them, below the name and the version of the package.
-/

namespace DeclarationFetch.Package

def fileKey (name : String) (version : Option String) (path : String) : String :=
  versioned name version ++ "/" ++ path

def typesScope : String := "@types/"

/-- The package that declares the types of a package that has none of its own. -/
def definitelyTyped (name : String) : String :=
  match name.toList with
  | '@' :: rest => typesScope ++ Text.replaceFirst (String.ofList rest) "/" "__"
  | _ => typesScope ++ name

/-- Where a type checker looks for a file: the files of a package that declares types for another are
put where that other package is looked up. -/
def hostPath (name path : String) : String :=
  Text.replaceFirst (Path.join ["node_modules", name, path]) typesScope ""

end DeclarationFetch.Package

namespace DeclarationFetch.Registry

def defaultRoot : String := "https://unpkg.com"

def trimRoot (root : String) : String := String.ofList (Text.trimRight '/' root.toList)

/-- The address of a file, or of the package itself if the path is empty. -/
def address (root name : String) (version : Option String) (path : String) : String :=
  let below := path.toList.dropWhile (· = '/')
  let package := root ++ "/" ++ versioned name version
  if below = [] then package else package ++ "/" ++ String.ofList below

end DeclarationFetch.Registry
