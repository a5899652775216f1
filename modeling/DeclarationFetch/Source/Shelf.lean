import DeclarationFetch.Resolution.Walk

/-!
# Packages at hand

A source of packages that holds them in memory. Some of its packages or files may be out of reach, and
it keeps the requests that were made of it.
-/

namespace DeclarationFetch

structure PackageShelf where
  /-- The files of each package, by its name or by its name and version. -/
  packages : Assoc (Assoc String) := {}
  /-- Names of packages, and of files with their packages, that are out of reach. -/
  failing : List String := []
  /-- The requests made so far, the latest first. -/
  requests : List Resolution.Request := []

namespace PackageShelf

def put (s : PackageShelf) (package path content : String) : PackageShelf :=
  let files := (s.packages.get? package).getD {}
  { s with packages := s.packages.insert package (files.insert path content) }

def remove (s : PackageShelf) (package path : String) : PackageShelf :=
  match s.packages.get? package with
  | some files => { s with packages := s.packages.insert package (files.erase path) }
  | none => s

/-- The files of a package at a version, or else those of the package. -/
def filesOf (s : PackageShelf) (package : String) (version : Value) : Assoc String :=
  let pinned := if version.isSet then s.packages.get? (package ++ "@" ++ version.display) else none
  (pinned.or (s.packages.get? package)).getD {}

def answer (s : PackageShelf) (r : Resolution.Request) : Resolution.Answer :=
  let target := r.package ++ "/" ++ r.path
  if r.package ∈ s.failing ∨ target ∈ s.failing then
    .error (.fetch (.unreachable target "connection reset"))
  else .ok ((s.filesOf r.package r.version).get? r.path)

def record (s : PackageShelf) (r : Resolution.Request) : PackageShelf :=
  { s with requests := r :: s.requests }

def fetch (r : Resolution.Request) (s : PackageShelf) : Resolution.Answer × PackageShelf :=
  (s.answer r, s.record r)

end PackageShelf

end DeclarationFetch
