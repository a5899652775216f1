import DeclarationFetch.Resource
import DeclarationFetch.Specifier.Scan

/-!
# Classifying import specifiers

Which resource a specifier names depends on what it is written in.

* `node:<name>` names a file of the package with the declarations of the runtime, everywhere.
* A specifier with a leading dot stays in the directory or the package of its parent.
* Any other names a package, the first part of it or, after an `@`, the first two, and a path in it.
-/

namespace DeclarationFetch.Specifier

inductive Fault where
  | emptyPackageName
  | impossibleParent (specifier : String) (parent : Resource)
  | unsupportedParent
  deriving Repr, DecidableEq

/-- The message about a parent that no import is ever written in. -/
def impossibleParentMessage (specifier : String) (parent : Resource) : String :=
  s!"Cannot resolve '{specifier}' relative to a {parent.kind} parent: {parent.shown}"

def nodeTypes : String := "@types/node"

/-- The name after `node:`, if there is one. -/
def nodeName? (specifier : String) : Option String :=
  match after? "node:".toList specifier.toList with
  | some (c :: rest) => some (String.ofList (c :: rest))
  | _ => none

def isRelative (specifier : String) : Bool := specifier.toList.head? = some '.'

/-- How many parts of a specifier make up the package name. -/
def nameParts (specifier : String) : Nat := if specifier.toList.head? = some '@' then 2 else 1

def packageOf (specifier : String) : Except Fault Resource :=
  let parts := Path.parts specifier.toList
  let name := String.ofList (Path.unparts (parts.take (nameParts specifier)))
  let path := String.ofList (Path.unparts (parts.drop (nameParts specifier)))
  if name = "" then .error .emptyPackageName else .ok (.package name path)

def classify (specifier : String) (parent : Parent) : Except Fault Resource :=
  match nodeName? specifier with
  | some name => .ok (.inPackage nodeTypes "" (name ++ ".d.ts"))
  | none =>
      match parent with
      | .directory path =>
          if isRelative specifier then .ok (.relative specifier path) else packageOf specifier
      | .resource (.inPackage name source path) =>
          if isRelative specifier then .ok (.inPackage name (Path.join [source, path]) specifier)
          else packageOf specifier
      | .resource other => .error (.impossibleParent specifier other)
      | .unsupported => .error .unsupportedParent

/-- The resources of all imports of a source text, unless one of them names nothing. -/
def dependencies (source : String) (parent : Parent) : Except Fault (List Resource) :=
  (extract source).mapM fun specifier => classify specifier parent

end DeclarationFetch.Specifier
