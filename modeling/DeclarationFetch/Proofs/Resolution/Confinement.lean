import DeclarationFetch.Proofs.Package.Placement
import DeclarationFetch.Proofs.Resolution.Reach

/-! # Where lookups lead

Which paths of a package a pass asks for, and where it puts what it finds.

* `straight_filePath`: a path that does not leave its package is one of plain parts.
* `Stray`: the manifest for a path that leads out of its package; `Declared`: a file that the manifest of
  a directory names. Nothing keeps these two inside.
* `Route.not_inside_iff`, `Route.placed_or`: all other paths stay inside, and are put below their package.
* `pass_confined`: what a pass asks for and where it puts it.
-/

namespace DeclarationFetch.Resolution

open DeclarationFetch.Path DeclarationFetch.Package

variable {ε : Type} {found : Findings} {pursued : Resource → Prop} {package path : String}

/-! ## Files -/

theorem trimRight_append (c : Char) (cs : List Char) :
    Text.trimRight c (cs ++ [c]) = Text.trimRight c cs := by
  simp [Text.trimRight]

theorem trimRight_of_last_ne {c : Char} {cs : List Char} (h : cs.getLast? ≠ some c) :
    Text.trimRight c cs = cs := by
  unfold Text.trimRight
  cases hr : cs.reverse with
  | nil =>
    rw [List.reverse_eq_nil_iff.mp hr]
    rfl
  | cons last front =>
    have hlast : last ≠ c := fun he => h (by rw [List.getLast?_eq_head?_reverse, hr, he]; rfl)
    rw [List.dropWhile_cons_of_neg (by simpa using hlast), ← hr, List.reverse_reverse]

theorem trimRight_prefix (c : Char) (cs : List Char) : Text.trimRight c cs <+: cs := by
  have h := List.reverse_prefix.mpr (List.dropWhile_suffix (l := cs.reverse) (· = c))
  rwa [List.reverse_reverse] at h

theorem leavesPackage_eq_false :
    leavesPackage path = false ↔
      path.toList ≠ up ∧ ¬ up ++ ['/'] <+: path.toList ∧ path.toList.head? ≠ some '/' := by
  unfold leavesPackage
  rw [Bool.or_eq_false_iff, Bool.or_eq_false_iff, startsWith_slash_eq_false, startsWith_eq_false,
    decide_eq_false_iff_not, ← String.toList_inj, and_assoc]
  rfl

theorem straight_filePath {w : Wanted} (h : leavesPackage (filePath w) = false) :
    filePath w = "." ∨ Straight (filePath w) := by
  obtain ⟨hup, hlead, hrel⟩ := leavesPackage_eq_false.mp h
  let trimmed := Text.trimRight '/' (join [w.sourcePath, w.importPath]).toList
  have hpath : filePath w = if trimmed = [] then "." else String.ofList trimmed := rfl
  by_cases hn : trimmed = []
  · exact .inl (by rw [hpath, if_pos hn])
  · rw [if_neg hn] at hpath
    rw [hpath, String.toList_ofList] at hup hlead hrel
    let whole := joined [w.sourcePath, w.importPath]
    have htrimmed : trimmed = Text.trimRight '/' (normalizeChars whole) := by
      rcases join_eq_or [w.sourcePath, w.importPath] with hj | hj
      · exact congrArg (Text.trimRight '/') hj
      · exact (congrArg (Text.trimRight '/') hj).trans (trimRight_append '/' _)
    by_cases habs : whole.head? = some '/'
    · obtain ⟨rest, hrest⟩ := exists_normalizeChars_of_absolute habs
      obtain ⟨tail, htail⟩ := trimRight_prefix '/' (normalizeChars whole)
      obtain ⟨c, front, hc⟩ := List.exists_cons_of_ne_nil hn
      rw [← htrimmed, hc, hrest] at htail
      cases htail
      rw [hc] at hrel
      exact absurd rfl hrel
    · rw [trimRight_of_last_ne (last_normalizeChars_ne_slash habs)] at htrimmed
      have hclimbs : ¬ Climbs (parts whole) := by
        rw [climbs_iff_normalizeChars habs, ← htrimmed]
        exact fun hc => hc.elim hup hlead
      rw [hpath, htrimmed, normalizeChars_of_relative habs]
      split
      · exact .inl rfl
      · next hr =>
        exact .inr (.ofList_unparts hr fun p hp =>
          ⟨plain_of_mem_reduce hclimbs hp, slash_not_mem_of_mem_reduce hp⟩)

theorem inside_filePath {w : Wanted} (h : leavesPackage (filePath w) = false) :
    Inside (filePath w) := by
  rcases straight_filePath h with hw | hw
  · rw [hw]
    decide
  · exact hw.inside

/-- The endings that are tried add to the last part of a path, or add one more. -/
theorem straight_append_ending {ending : String} (he : ending ∈ extensions) (h : Straight path) :
    Straight (path ++ ending) := by
  have hends : ∀ e ∈ extensions, (∀ p ∈ (parts e.toList).take 1, p = [] ∨ Plain p) ∧
      ∀ p ∈ (parts e.toList).drop 1, Plain p := by decide
  obtain ⟨hfirst, hrest⟩ := hends ending he
  obtain ⟨first, rest, hparts⟩ := List.exists_cons_of_ne_nil (parts_ne_nil ending.toList)
  rw [hparts] at hfirst hrest
  obtain ⟨front, last, hpath⟩ :=
    (parts path.toList).eq_nil_or_concat.resolve_left (parts_ne_nil path.toList)
  rw [List.concat_eq_append] at hpath
  intro p hp
  rw [String.toList_append, parts_append hpath hparts] at hp
  rcases List.mem_append.mp hp with hp | hp
  · exact h p (hpath ▸ List.mem_append_left _ hp)
  · rcases List.mem_cons.mp hp with rfl | hp
    · rcases hfirst first (List.mem_cons_self ..) with rfl | hfirst
      · rw [List.append_nil]
        exact h last (hpath ▸ List.mem_append_right _ (List.mem_cons_self ..))
      · exact plain_append hfirst
    · exact hrest p hp

theorem lands_append_ending {ending : String} (he : ending ∈ extensions)
    (h : path = "." ∨ Straight path) : Lands (path ++ ending) := by
  have hdot : ∀ e ∈ extensions, Lands ("." ++ e) := by decide
  rcases h with rfl | h
  · exact hdot ending he
  · exact (straight_append_ending he h).lands

theorem straight_manifest : Straight "package.json" := by decide

/-! ## Routes -/

/-- The manifest for a path that leads out of its package. -/
def Stray (pursued : Resource → Prop) (package path : String) : Prop :=
  ∃ subPath, pursued (.package package subPath) ∧ ¬ Inside subPath ∧
    path = join [subPath, "package.json"]

inductive Declared (found : Findings) (pursued : Resource → Prop) : String → String → Prop
  | intro {r : Resource} {w : Wanted} {text types : String} {manifest : Manifest} (hr : pursued r)
      (hn : Names found r w) (hl : leavesPackage (filePath w) = false)
      (h : found w.package (join [filePath w, "package.json"]) (some (.text text)))
      (hm : Manifest.read w.package text = .ok manifest) (ht : manifest.types? = some types) :
      Declared found pursued w.package (join [filePath w, stripDotSlash types])

theorem Stray.not_inside (h : Stray pursued package path) : ¬ Inside path := by
  obtain ⟨subPath, _, hs, rfl⟩ := h
  exact fun hi => hs (inside_of_inside_join straight_manifest hi)

namespace Route

/-- All other paths that a pass comes to are inside. -/
theorem lands_or (h : Route found pursued package path) :
    Lands path ∨ Stray pursued package path ∨ Declared found pursued package path := by
  cases h with
  | @entry _ subPath hp =>
    by_cases hs : Inside subPath
    · exact .inl (hs.join straight_manifest).lands
    · exact .inr (.inl ⟨subPath, hp, hs, rfl⟩)
  | root => exact .inl straight_manifest.lands
  | typed => exact .inl straight_manifest.lands
  | @file r w _ hr hn hl ht =>
    cases ht with
    | itself he =>
      rcases straight_filePath hl with hw | hw
      · rw [hw] at he
        exact absurd he (by decide)
      · exact .inl hw.lands
    | ending _ he => exact .inl (lands_append_ending he (straight_filePath hl))
    | directory => exact .inl ((inside_filePath hl).join straight_manifest).lands
    | named h hm ht => exact .inr (.inr (.intro hr hn hl h hm ht))

theorem not_inside_iff (h : Route found pursued package path) :
    ¬ Inside path ↔
      Stray pursued package path ∨ Declared found pursued package path ∧ ¬ Inside path := by
  constructor
  · intro hi
    rcases h.lands_or with hs | hs | hs
    · exact absurd hs.inside hi
    · exact .inl hs
    · exact .inr ⟨hs, hi⟩
  · rintro (hs | ⟨_, hi⟩)
    · exact hs.not_inside
    · exact hi

end Route

/-! ## Names of packages -/

theorem Names.not_climbs {r : Resource} {w : Wanted} (h : Names found r w) (hr : r.Rooted) :
    ¬ Climbs (parts w.package.toList) := by
  cases h with
  | inPackage => exact hr
  | package h =>
    cases h with
    | own _ he =>
      cases he with
      | named => exact hr
    | typed _ _ ht =>
      cases ht with
      | present _ ho =>
        cases ho with
        | named => exact not_climbs_definitelyTyped hr

theorem Route.not_climbs (h : Route found pursued package path) (hr : ∀ r, pursued r → r.Rooted) :
    ¬ Climbs (parts package.toList) := by
  cases h with
  | entry hp => exact hr _ hp
  | root hp => exact hr _ hp
  | typed hp => exact not_climbs_definitelyTyped (hr _ hp)
  | file hp hn => exact hn.not_climbs (hr _ hp)

theorem Route.placed_or (h : Route found pursued package path) (hr : ∀ r, pursued r → r.Rooted) :
    Placed (hostPath package path) ∨
      Stray pursued package path ∨ Declared found pursued package path ∧ ¬ Lands path := by
  by_cases hs : Lands path
  · exact .inl (placed_hostPath (h.not_climbs hr) hs)
  · exact .inr ((h.lands_or.resolve_left hs).imp_right fun hd => ⟨hd, hs⟩)

/-- The names of packages on chains of dependencies do not climb, unless one that is preloaded does. -/
theorem Due.rooted {options : Options} {pins : Pins} {source directory : String} {preload : Bool}
    {fileSteps n k : Nat} {through : Nat → Nat → File → Prop} {r : Resource}
    (hpins : options.preloadPackages = true → ∀ name ∈ pins.keys, ¬ Climbs (parts name.toList))
    (h : Due found (First options pins source (.directory directory)) preload fileSteps through n k r) :
    r.Rooted := by
  have himports : ∀ {r f r'}, Resource.Rooted r → Leads found r f → f.Imports r' →
      Resource.Rooted r' := by
    rintro r f r' hr ⟨w, hn, hp, _⟩ ⟨rs, hrs, hm⟩
    refine Specifier.rooted_of_dependencies (fun p hparent => ?_) hrs hm
    cases hparent
    exact hp ▸ hn.not_climbs hr
  induction h with
  | first h =>
    cases h with
    | preloaded ho hn => exact hpins ho _ hn
    | imported h hr => exact Specifier.rooted_of_dependencies (fun _ hp => by cases hp) h hr
  | root _ _ ih => exact ih
  | cross _ hl _ hi _ ih => exact himports ih hl hi
  | stay _ hl _ hi _ _ ih => exact himports ih hl hi

/-! ## Passes -/

/-- Wherever a watched pass has come, it asks for paths inside packages only, and puts files below the
directory of all packages only. The ways out are the manifest for a path of a package dependency that
leads out of the package, a file that the manifest of a directory names, and a preloaded package whose
name leads out. -/
theorem pass_confined (c : Collaborators ε) (source directory : String) (s : Scene ε)
    (play : Play ε) (n : Nat) :
    let t := Reach.terms s source (.directory directory)
    let step := watchedPass c s source directory play n
    let pursued := t.pursued step.scene
    let log := step.scene.env.log
    (∀ request, step.request? = some request →
      (¬ Inside request.path ↔
        Stray pursued request.package request.path ∨
          Declared (Seen log) pursued request.package request.path ∧ ¬ Inside request.path)) ∧
    ∀ path ∈ givenPaths log,
      Placed path ∨
        (∃ package q, path = hostPath package q ∧
          (Stray pursued package q ∨ Declared (Seen log) pursued package q ∧ ¬ Lands q)) ∨
        s.options.preloadPackages = true ∧ ∃ name ∈ s.pins.keys, Climbs (parts name.toList) := by
  intro t step pursued log
  have hends := Reach.ends_after c source directory s play n
  have hsound : Reach.Sound t step.scene := hends.scene (fun _ _ h => h.1) fun _ _ h => h
  constructor
  · intro request hr
    exact (hends.asks hr).2.not_inside_iff
  · intro path hpath
    -- Pinned names alone can climb; what is imported is rooted.
    by_cases hclimbs :
        s.options.preloadPackages = true ∧ ∃ name ∈ s.pins.keys, Climbs (parts name.toList)
    · exact .inr (.inr hclimbs)
    · have hrooted : ∀ r, pursued r → r.Rooted := fun r ⟨_, _, hd⟩ =>
        hd.rooted fun ho name hn hc => hclimbs ⟨ho, name, hn, hc⟩
      have hroute : ∃ package q, path = hostPath package q ∧ t.route step.scene package q := by
        rcases mem_givenPaths hpath with ⟨text, hm⟩ | hm
        · obtain ⟨package, q, hp, hr, _⟩ := hsound.placed path text hm
          exact ⟨package, q, hp, hr⟩
        · exact hsound.readied path hm
      obtain ⟨package, q, rfl, hr⟩ := hroute
      exact (hr.placed_or hrooted).imp_right fun hs => .inl ⟨package, q, rfl, hs⟩

/-- A package with a file above it, for the type of which a path in the package is asked. -/
def above : Request → Option String := Play.files "p" [
  ("../../x/package.json", "\x7b\"types\":\"index.d.ts\"\x7d")]

theorem above_request :
    ∃ request, (watchedPass inMemory (atFirst {}) "require(\"p/../../x\")" "/" (.answering above)
      0).request? = some request ∧ ¬ Inside request.path := by
  have h : (watchedPass inMemory (atFirst {}) "require(\"p/../../x\")" "/" (.answering above)
      0).request?.map (·.path) = some "../../x/package.json" := by decide +kernel
  obtain ⟨request, hr, hp⟩ := Option.map_eq_some_iff.mp h
  exact ⟨request, hr, hp ▸ by decide⟩

theorem above_given :
    "x/package.json" ∈ givenPaths (watchedPass inMemory (atFirst {}) "require(\"p/../../x\")" "/"
      (.answering above) 1).scene.env.log := by decide +kernel

theorem not_placed_above : ¬ Placed "x/package.json" := by
  rintro ⟨rest, hparts, _⟩
  have hhead : (parts "x/package.json".toList).head? = some directory := congrArg List.head? hparts
  exact absurd hhead (by decide)

/-- Both ways out of a package, asking for a file and putting one down, come from the path of a
dependency or a manifest here. -/
theorem above_stray :
    (∃ request, (watchedPass inMemory (atFirst {}) "require(\"p/../../x\")" "/" (.answering above)
        0).request? = some request ∧
      (Stray ((Reach.terms (atFirst {}) "require(\"p/../../x\")" (.directory "/")).pursued
          (watchedPass inMemory (atFirst {}) "require(\"p/../../x\")" "/" (.answering above)
            0).scene) request.package request.path ∨
        ∃ found pursued, Declared found pursued request.package request.path)) ∧
    ∃ package q, "x/package.json" = hostPath package q ∧
      ((∃ pursued, Stray pursued package q) ∨
        ∃ found pursued, Declared found pursued package q) := by
  constructor
  · obtain ⟨request, hr, hi⟩ := above_request
    have h := (pass_confined inMemory "require(\"p/../../x\")" "/" (atFirst {}) (.answering above)
      0).1 request hr
    exact ⟨request, hr, (h.mp hi).imp_right fun hd => ⟨_, _, hd.1⟩⟩
  · have h := (pass_confined inMemory "require(\"p/../../x\")" "/" (atFirst {}) (.answering above)
      1).2 _ above_given
    rcases h with hp | ⟨package, q, hq, hs⟩ | ⟨ho, _⟩
    · exact absurd hp not_placed_above
    · exact ⟨package, q, hq, hs.imp (fun hs => ⟨_, hs⟩) fun hd => ⟨_, _, hd.1⟩⟩
    · cases ho

/-- A path that leads out of a package leads to a request, and to a file, outside. -/
theorem above_not_confined :
    (∃ request, (watchedPass inMemory (atFirst {}) "require(\"p/../../x\")" "/" (.answering above)
      0).request? = some request ∧ ¬ Inside request.path) ∧
    ∃ path ∈ givenPaths (watchedPass inMemory (atFirst {}) "require(\"p/../../x\")" "/"
      (.answering above) 1).scene.env.log, ¬ Placed path :=
  ⟨above_request, _, above_given, not_placed_above⟩

end DeclarationFetch.Resolution
