import DeclarationFetch.Resolution.Lookup

/-! # What lookups come to

What the lookups of a pass come to, given what is found under each path: the order in which paths are
tried, the manifests that count, and the files that they lead to.

* `Findings`: what was found at the paths of packages.
* `FoundFile found w o`: looking for the wanted file `w` comes to `o`.
* `FoundEntry found package subPath o`: looking for the entry of a package comes to `o`.
* `Leads found r f`: taking up the dependency `r` comes to the file `f`.
* `Route found pursued package path`: how the lookups for the dependencies `pursued` come to a path.

More findings lead to more. Where at most one thing is found under each path, a lookup comes to one
result only, and a dependency to one file (`Leads.unique`).
-/

namespace DeclarationFetch.Resolution

/-- What was found at a path of a package, `none` for nothing. -/
abbrev Findings := String → String → Option Value → Prop

def Findings.Functional (found : Findings) : Prop :=
  ∀ package path o o', found package path o → found package path o' → o = o'

theorem Findings.Functional.eq {found : Findings} {package path : String} {o o' : Option Value}
    (hu : found.Functional) (h : found package path o) (h' : found package path o') : o = o' :=
  hu package path o o' h h'

/-! ## Files -/

/-- A file at exactly one path. -/
def FoundAt (found : Findings) (package path : String) (o : Option (Value × String)) : Prop :=
  ∃ content, found package path content ∧ o = content.map fun value => (value, path)

/-- The first file with one of the endings. -/
inductive FoundFirst (found : Findings) (package path : String) :
    List String → Option (Value × String) → Prop
  | none : FoundFirst found package path [] none
  | hit {ending : String} {rest : List String} {content : Value}
      (h : found package (path ++ ending) (some content)) :
      FoundFirst found package path (ending :: rest) (some (content, path ++ ending))
  | miss {ending : String} {rest : List String} {o : Option (Value × String)}
      (h : found package (path ++ ending) none) (hr : FoundFirst found package path rest o) :
      FoundFirst found package path (ending :: rest) o

/-- The file that the manifest of a directory names. -/
inductive FoundInDirectory (found : Findings) (package path : String) :
    Option (Value × String) → Prop
  | absent (h : found package (Path.join [path, "package.json"]) none) :
      FoundInDirectory found package path none
  | silent {text : String} {manifest : Manifest}
      (h : found package (Path.join [path, "package.json"]) (some (.text text)))
      (hm : Manifest.read package text = .ok manifest) (ht : manifest.types? = none) :
      FoundInDirectory found package path none
  | named {text types : String} {manifest : Manifest} {o : Option (Value × String)}
      (h : found package (Path.join [path, "package.json"]) (some (.text text)))
      (hm : Manifest.read package text = .ok manifest) (ht : manifest.types? = some types)
      (ho : FoundAt found package (Path.join [path, Path.stripDotSlash types]) o) :
      FoundInDirectory found package path o

/-- The file at a path that has an ending, or else the first with one. -/
inductive FoundDirectly (found : Findings) (package path : String) : Option (Value × String) → Prop
  | exact {o : Option (Value × String)} (he : hasExtension path = true)
      (h : FoundAt found package path o) : FoundDirectly found package path o
  | probed {o : Option (Value × String)} (he : hasExtension path = false)
      (h : FoundFirst found package path extensions o) : FoundDirectly found package path o

/-- A wanted file: found directly, or else in the directory of its path. -/
inductive FoundFile (found : Findings) (w : Wanted) : Option (Value × String) → Prop
  | outside (h : leavesPackage (filePath w) = true) : FoundFile found w none
  | directly {file : Value × String} (h : leavesPackage (filePath w) = false)
      (hd : FoundDirectly found w.package (filePath w) (some file)) : FoundFile found w (some file)
  | inDirectory {o : Option (Value × String)} (h : leavesPackage (filePath w) = false)
      (hd : FoundDirectly found w.package (filePath w) none)
      (ho : FoundInDirectory found w.package (filePath w) o) : FoundFile found w o

/-! ## Entries of packages -/

/-- The entry that the manifest of a directory names. -/
inductive EntryIn (package directory subPath : String) : Value → Option Wanted → Prop
  | silent {text : String} {manifest : Manifest} (hm : Manifest.read package text = .ok manifest)
      (he : manifest.entry? = none) : EntryIn package directory subPath (.text text) none
  | named {text entry : String} {manifest : Manifest}
      (hm : Manifest.read package text = .ok manifest) (he : manifest.entry? = some entry) :
      EntryIn package directory subPath (.text text)
        (some ⟨package, "", entryPath directory subPath entry⟩)

/-- The manifest for a path in a package, with its directory. -/
inductive FoundManifest (found : Findings) (package subPath : String) :
    Option (Value × String) → Prop
  | own {content : Value} (h : found package (Path.join [subPath, "package.json"]) (some content)) :
      FoundManifest found package subPath (some (content, subPath))
  | absent (h : found package (Path.join [subPath, "package.json"]) none) (hs : subPath = "") :
      FoundManifest found package subPath none
  | root {content : Option Value} (h : found package (Path.join [subPath, "package.json"]) none)
      (hs : subPath ≠ "") (hr : found package "package.json" content) :
      FoundManifest found package subPath (content.map fun value => (value, ""))

/-- The entry in the package that declares the types of another. -/
inductive FoundTyped (found : Findings) (package subPath : String) : Option Wanted → Prop
  | absent (h : found (Package.definitelyTyped package) "package.json" none) :
      FoundTyped found package subPath none
  | present {content : Value} {o : Option Wanted}
      (h : found (Package.definitelyTyped package) "package.json" (some content))
      (ho : EntryIn (Package.definitelyTyped package) "" subPath content o) :
      FoundTyped found package subPath o

/-- The entry of a package, by its own manifest or that of the package that declares its types. -/
inductive FoundEntry (found : Findings) (package subPath : String) : Option Wanted → Prop
  | absent (h : FoundManifest found package subPath none) : FoundEntry found package subPath none
  | own {content : Value} {directory : String} {w : Wanted}
      (h : FoundManifest found package subPath (some (content, directory)))
      (he : EntryIn package directory subPath content (some w)) :
      FoundEntry found package subPath (some w)
  | typed {content : Value} {directory : String} {o : Option Wanted}
      (h : FoundManifest found package subPath (some (content, directory)))
      (he : EntryIn package directory subPath content none)
      (ht : FoundTyped found package subPath o) : FoundEntry found package subPath o

/-! ## Files that dependencies lead to -/

structure File where
  package : String
  path : String
  text : String
  deriving Repr, DecidableEq

/-- The file that is wanted when a dependency is taken up. -/
inductive Names (found : Findings) : Resource → Wanted → Prop
  | package {package subPath : String} {w : Wanted} (h : FoundEntry found package subPath (some w)) :
      Names found (.package package subPath) w
  | inPackage (package source path : String) :
      Names found (.inPackage package source path) ⟨package, source, path⟩

/-- The text file that a dependency leads to. -/
def Leads (found : Findings) (r : Resource) (f : File) : Prop :=
  ∃ w, Names found r w ∧ w.package = f.package ∧
    FoundFile found w (some (.text f.text, f.path))

/-! ## Paths -/

/-- The paths that are tried for a wanted file. -/
inductive Tried (found : Findings) (w : Wanted) : String → Prop
  | itself (he : hasExtension (filePath w) = true) : Tried found w (filePath w)
  | ending {ending : String} (he : hasExtension (filePath w) = false) (h : ending ∈ extensions) :
      Tried found w (filePath w ++ ending)
  | directory : Tried found w (Path.join [filePath w, "package.json"])
  | named {text types : String} {manifest : Manifest}
      (h : found w.package (Path.join [filePath w, "package.json"]) (some (.text text)))
      (hm : Manifest.read w.package text = .ok manifest) (ht : manifest.types? = some types) :
      Tried found w (Path.join [filePath w, Path.stripDotSlash types])

/-- The ways in which a pass comes to a path of a package, from the dependencies that it pursues. -/
inductive Route (found : Findings) (pursued : Resource → Prop) : String → String → Prop
  | entry {package subPath : String} (h : pursued (.package package subPath)) :
      Route found pursued package (Path.join [subPath, "package.json"])
  | root {package subPath : String} (h : pursued (.package package subPath)) :
      Route found pursued package "package.json"
  | typed {package subPath : String} (h : pursued (.package package subPath)) :
      Route found pursued (Package.definitelyTyped package) "package.json"
  | file {r : Resource} {w : Wanted} {path : String} (h : pursued r) (hn : Names found r w)
      (hl : leavesPackage (filePath w) = false) (ht : Tried found w path) :
      Route found pursued w.package path

theorem FoundFirst.exists_ending {found : Findings} {package path : String} {endings : List String}
    {file : Value × String} (h : FoundFirst found package path endings (some file)) :
    ∃ ending ∈ endings, file.2 = path ++ ending := by
  generalize ho : some file = o at h
  induction h with
  | none => cases ho
  | hit h =>
    cases ho
    exact ⟨_, List.mem_cons_self .., rfl⟩
  | miss h _ ih =>
    obtain ⟨ending, he, hp⟩ := ih ho
    exact ⟨ending, List.mem_cons_of_mem _ he, hp⟩

theorem FoundFirst.found_content {found : Findings} {package path : String} {endings : List String}
    {file : Value × String} (h : FoundFirst found package path endings (some file)) :
    found package file.2 (some file.1) := by
  generalize ho : some file = o at h
  induction h with
  | none => cases ho
  | hit h => cases ho; exact h
  | miss _ _ ih => exact ih ho

theorem FoundAt.found_content {found : Findings} {package path : String} {file : Value × String}
    (h : FoundAt found package path (some file)) : found package file.2 (some file.1) := by
  obtain ⟨content, hc, ho⟩ := h
  cases content with
  | none => cases ho
  | some value => cases ho; exact hc

theorem FoundAt.path_eq {found : Findings} {package path : String} {file : Value × String}
    (h : FoundAt found package path (some file)) : file.2 = path := by
  obtain ⟨content, _, ho⟩ := h
  cases content with
  | none => cases ho
  | some value => cases ho; rfl

theorem FoundFile.tried {found : Findings} {w : Wanted} {file : Value × String}
    (h : FoundFile found w (some file)) :
    leavesPackage (filePath w) = false ∧ Tried found w file.2 := by
  cases h with
  | directly hl hd =>
    refine ⟨hl, ?_⟩
    cases hd with
    | exact he h => exact h.path_eq ▸ .itself he
    | probed he h =>
      obtain ⟨ending, hm, hp⟩ := h.exists_ending
      exact hp ▸ .ending he hm
  | inDirectory hl _ ho =>
    refine ⟨hl, ?_⟩
    cases ho with
    | named h hm ht ho => exact ho.path_eq ▸ .named h hm ht

theorem FoundFile.found_content {found : Findings} {w : Wanted} {file : Value × String}
    (h : FoundFile found w (some file)) : found w.package file.2 (some file.1) := by
  cases h with
  | directly _ hd =>
    cases hd with
    | exact _ h => exact h.found_content
    | probed _ h => exact h.found_content
  | inDirectory _ _ ho =>
    cases ho with
    | named _ _ _ ho => exact ho.found_content

namespace FoundManifest

variable {found : Findings} {package subPath directory : String} {content : Value}

theorem directory_eq (h : FoundManifest found package subPath (some (content, directory))) :
    directory = subPath ∨ directory = "" := by
  generalize ho : some (content, directory) = o at h
  cases h with
  | own h => cases ho; exact .inl rfl
  | absent => cases ho
  | @root content => cases content <;> cases ho; exact .inr rfl

theorem pursued {pursued : Resource → Prop} (hp : pursued (.package package subPath))
    (h : FoundManifest found package subPath (some (content, directory))) :
    directory = "" ∨ pursued (.package package directory) := by
  rcases h.directory_eq with rfl | rfl
  · exact .inr hp
  · exact .inl rfl

theorem found_content (h : FoundManifest found package subPath (some (content, directory))) :
    found package (Path.join [directory, "package.json"]) (some content) := by
  generalize ho : some (content, directory) = o at h
  cases h with
  | own h => cases ho; exact h
  | absent => cases ho
  | @root content _ _ hr => cases content <;> cases ho; exact hr

theorem route {pursued : Resource → Prop} (hp : pursued (.package package subPath))
    (h : FoundManifest found package subPath (some (content, directory))) :
    Route found pursued package (Path.join [directory, "package.json"]) := by
  rcases h.directory_eq with rfl | rfl
  · exact .entry hp
  · exact .root hp

end FoundManifest

theorem Leads.found_text {found : Findings} {r : Resource} {f : File} (h : Leads found r f) :
    found f.package f.path (some (.text f.text)) := by
  obtain ⟨w, _, hp, hw⟩ := h
  exact hp ▸ hw.found_content

theorem Leads.route {found : Findings} {pursued : Resource → Prop} {r : Resource} {f : File}
    (hr : pursued r) (h : Leads found r f) : Route found pursued f.package f.path := by
  obtain ⟨w, hn, hp, hw⟩ := h
  exact hp ▸ .file hr hn hw.tried.1 hw.tried.2

/-! ## More findings -/

section Mono

variable {found found' : Findings} (hf : ∀ package path o, found package path o → found' package path o)
include hf

theorem FoundAt.mono {package path : String} {o : Option (Value × String)}
    (h : FoundAt found package path o) : FoundAt found' package path o := by
  obtain ⟨content, hc, ho⟩ := h
  exact ⟨content, hf _ _ _ hc, ho⟩

theorem FoundFirst.mono {package path : String} {endings : List String} {o : Option (Value × String)}
    (h : FoundFirst found package path endings o) : FoundFirst found' package path endings o := by
  induction h with
  | none => exact .none
  | hit h => exact .hit (hf _ _ _ h)
  | miss h _ ih => exact .miss (hf _ _ _ h) ih

theorem FoundInDirectory.mono {package path : String} {o : Option (Value × String)}
    (h : FoundInDirectory found package path o) : FoundInDirectory found' package path o := by
  cases h with
  | absent h => exact .absent (hf _ _ _ h)
  | silent h hm ht => exact .silent (hf _ _ _ h) hm ht
  | named h hm ht ho => exact .named (hf _ _ _ h) hm ht (ho.mono hf)

theorem FoundDirectly.mono {package path : String} {o : Option (Value × String)}
    (h : FoundDirectly found package path o) : FoundDirectly found' package path o := by
  cases h with
  | exact he h => exact .exact he (h.mono hf)
  | probed he h => exact .probed he (h.mono hf)

theorem FoundFile.mono {w : Wanted} {o : Option (Value × String)} (h : FoundFile found w o) :
    FoundFile found' w o := by
  cases h with
  | outside h => exact .outside h
  | directly h hd => exact .directly h (hd.mono hf)
  | inDirectory h hd ho => exact .inDirectory h (hd.mono hf) (ho.mono hf)

theorem FoundManifest.mono {package subPath : String} {o : Option (Value × String)}
    (h : FoundManifest found package subPath o) : FoundManifest found' package subPath o := by
  cases h with
  | own h => exact .own (hf _ _ _ h)
  | absent h hs => exact .absent (hf _ _ _ h) hs
  | root h hs hr => exact .root (hf _ _ _ h) hs (hf _ _ _ hr)

theorem FoundTyped.mono {package subPath : String} {o : Option Wanted}
    (h : FoundTyped found package subPath o) : FoundTyped found' package subPath o := by
  cases h with
  | absent h => exact .absent (hf _ _ _ h)
  | present h ho => exact .present (hf _ _ _ h) ho

theorem FoundEntry.mono {package subPath : String} {o : Option Wanted}
    (h : FoundEntry found package subPath o) : FoundEntry found' package subPath o := by
  cases h with
  | absent h => exact .absent (h.mono hf)
  | own h he => exact .own (h.mono hf) he
  | typed h he ht => exact .typed (h.mono hf) he (ht.mono hf)

theorem Names.mono {r : Resource} {w : Wanted} (h : Names found r w) : Names found' r w := by
  cases h with
  | package h => exact .package (h.mono hf)
  | inPackage package source path => exact .inPackage package source path

theorem Leads.mono {r : Resource} {f : File} (h : Leads found r f) : Leads found' r f := by
  obtain ⟨w, hn, hp, hw⟩ := h
  exact ⟨w, hn.mono hf, hp, hw.mono hf⟩

theorem Tried.mono {w : Wanted} {path : String} (h : Tried found w path) : Tried found' w path := by
  cases h with
  | itself he => exact .itself he
  | ending he h => exact .ending he h
  | directory => exact .directory
  | named h hm ht => exact .named (hf _ _ _ h) hm ht

theorem Route.mono {pursued pursued' : Resource → Prop} (hp : ∀ r, pursued r → pursued' r)
    {package path : String} (h : Route found pursued package path) :
    Route found' pursued' package path := by
  cases h with
  | entry h => exact .entry (hp _ h)
  | root h => exact .root (hp _ h)
  | typed h => exact .typed (hp _ h)
  | file h hn hl ht => exact .file (hp _ h) (hn.mono hf) hl (ht.mono hf)

end Mono

/-! ## One result -/

section Unique

variable {found : Findings} (hu : found.Functional)
include hu

theorem FoundAt.unique {package path : String} {o o' : Option (Value × String)}
    (h : FoundAt found package path o) (h' : FoundAt found package path o') : o = o' := by
  obtain ⟨content, hc, rfl⟩ := h
  obtain ⟨content', hc', rfl⟩ := h'
  rw [hu.eq hc hc']

theorem FoundFirst.unique {package path : String} {endings : List String}
    {o o' : Option (Value × String)} (h : FoundFirst found package path endings o)
    (h' : FoundFirst found package path endings o') : o = o' := by
  induction h with
  | none => cases h'; rfl
  | hit h =>
    cases h' with
    | hit h' => cases hu.eq h h'; rfl
    | miss h' _ => cases hu.eq h h'
  | miss h _ ih =>
    cases h' with
    | hit h' => cases hu.eq h h'
    | miss _ hr => exact ih hr

theorem FoundInDirectory.unique {package path : String} {o o' : Option (Value × String)}
    (h : FoundInDirectory found package path o) (h' : FoundInDirectory found package path o') :
    o = o' := by
  cases h with
  | absent h =>
    cases h' with
    | absent => rfl
    | silent h' => cases hu.eq h h'
    | named h' => cases hu.eq h h'
  | silent h hm ht =>
    cases h' with
    | absent => rfl
    | silent => rfl
    | named h' hm' ht' =>
      cases hu.eq h h'
      cases hm.symm.trans hm'
      cases ht.symm.trans ht'
  | named h hm ht ho =>
    cases h' with
    | absent h' => cases hu.eq h h'
    | silent h' hm' ht' =>
      cases hu.eq h h'
      cases hm.symm.trans hm'
      cases ht.symm.trans ht'
    | named h' hm' ht' ho' =>
      cases hu.eq h h'
      cases hm.symm.trans hm'
      cases ht.symm.trans ht'
      exact ho.unique hu ho'

theorem FoundDirectly.unique {package path : String} {o o' : Option (Value × String)}
    (h : FoundDirectly found package path o) (h' : FoundDirectly found package path o') : o = o' := by
  cases h with
  | exact he h =>
    cases h' with
    | exact _ h' => exact h.unique hu h'
    | probed he' => cases he.symm.trans he'
  | probed he h =>
    cases h' with
    | exact he' => cases he.symm.trans he'
    | probed _ h' => exact h.unique hu h'

theorem FoundFile.unique {w : Wanted} {o o' : Option (Value × String)} (h : FoundFile found w o)
    (h' : FoundFile found w o') : o = o' := by
  cases h with
  | outside hl =>
    cases h' with
    | outside => rfl
    | directly hl' => cases hl.symm.trans hl'
    | inDirectory hl' => cases hl.symm.trans hl'
  | directly hl hd =>
    cases h' with
    | outside hl' => cases hl.symm.trans hl'
    | directly _ hd' => exact hd.unique hu hd'
    | inDirectory _ hd' => cases hd.unique hu hd'
  | inDirectory hl hd ho =>
    cases h' with
    | outside hl' => cases hl.symm.trans hl'
    | directly _ hd' => cases hd.unique hu hd'
    | inDirectory _ _ ho' => exact ho.unique hu ho'

omit hu in
theorem EntryIn.unique {package directory subPath : String} {content : Value} {o o' : Option Wanted}
    (h : EntryIn package directory subPath content o)
    (h' : EntryIn package directory subPath content o') : o = o' := by
  cases h with
  | silent hm he =>
    cases h' with
    | silent => rfl
    | named hm' he' =>
      cases hm.symm.trans hm'
      cases he.symm.trans he'
  | named hm he =>
    cases h' with
    | silent hm' he' =>
      cases hm.symm.trans hm'
      cases he.symm.trans he'
    | named hm' he' =>
      cases hm.symm.trans hm'
      cases he.symm.trans he'
      rfl

theorem FoundManifest.unique {package subPath : String} {o o' : Option (Value × String)}
    (h : FoundManifest found package subPath o) (h' : FoundManifest found package subPath o') :
    o = o' := by
  cases h with
  | own h =>
    cases h' with
    | own h' => cases hu.eq h h'; rfl
    | absent h' => cases hu.eq h h'
    | root h' => cases hu.eq h h'
  | absent h hs =>
    cases h' with
    | own h' => cases hu.eq h h'
    | absent => rfl
    | root _ hs' => exact absurd hs hs'
  | root h hs hr =>
    cases h' with
    | own h' => cases hu.eq h h'
    | absent _ hs' => exact absurd hs' hs
    | root _ _ hr' => rw [hu.eq hr hr']

theorem FoundTyped.unique {package subPath : String} {o o' : Option Wanted}
    (h : FoundTyped found package subPath o) (h' : FoundTyped found package subPath o') : o = o' := by
  cases h with
  | absent h =>
    cases h' with
    | absent => rfl
    | present h' => cases hu.eq h h'
  | present h ho =>
    cases h' with
    | absent h' => cases hu.eq h h'
    | present h' ho' =>
      cases hu.eq h h'
      exact ho.unique ho'

theorem FoundEntry.unique {package subPath : String} {o o' : Option Wanted}
    (h : FoundEntry found package subPath o) (h' : FoundEntry found package subPath o') : o = o' := by
  cases h with
  | absent h =>
    cases h' with
    | absent => rfl
    | own h' => cases h.unique hu h'
    | typed h' => cases h.unique hu h'
  | own h he =>
    cases h' with
    | absent h' => cases h.unique hu h'
    | own h' he' =>
      cases h.unique hu h'
      exact he.unique he'
    | typed h' he' =>
      cases h.unique hu h'
      cases he.unique he'
  | typed h he ht =>
    cases h' with
    | absent h' => cases h.unique hu h'
    | own h' he' =>
      cases h.unique hu h'
      cases he.unique he'
    | typed _ _ ht' => exact ht.unique hu ht'

theorem Names.unique {r : Resource} {w w' : Wanted} (h : Names found r w) (h' : Names found r w') :
    w = w' := by
  cases h with
  | package h =>
    cases h' with
    | package h' => cases h.unique hu h'; rfl
  | inPackage =>
    cases h' with
    | inPackage => rfl

theorem Leads.unique {r : Resource} {f f' : File} (h : Leads found r f) (h' : Leads found r f') :
    f = f' := by
  obtain ⟨w, hn, hp, hw⟩ := h
  obtain ⟨w', hn', hp', hw'⟩ := h'
  cases hn.unique hu hn'
  have hf := hw.unique hu hw'
  obtain ⟨package, path, text⟩ := f
  obtain ⟨package', path', text'⟩ := f'
  simp_all

end Unique

end DeclarationFetch.Resolution
