import DeclarationFetch.Proofs.Resolution.Abreast
import DeclarationFetch.Proofs.Resolution.Routing

/-! # Siblings of a failure

A pass in which a dependency of the source text fails, beside the same pass without that dependency.

* `branches`: the walks of a pass over its dependencies, with their handlers.
* `pass_isolated`: what the failing walk has finished, and what it has not touched, the pass has in its
  host as it would have without that walk.
* `Sharing`: two packages of which the first fails, after a third that both of them import.
* `Siblings`: where the failing walk has left something unfinished, or a pin behind, siblings lose files.
-/

namespace DeclarationFetch.Resolution

variable {ε : Type}

def branches (c : Collaborators ε) (budget : Budget) (home : Option String) (rs : List Resource) :
    Walk ε Unit :=
  Walk.each (fun r => (visitOn c budget home r).rescue (handle c)) rs

namespace Solo

variable (W : Solo ε) {s s₁ s₂ : Scene ε} {budget : Budget} {home : Option String}

theorem run_pass {text : String} {parent : Parent} {rs : List Resource}
    (h : dependenciesOf s text parent = .ok rs) :
    W.run (pass W.c text parent budget) s =
      W.run (branches W.c budget (homeOf parent) rs) { s with context := {} } := by
  have hpass := pass_eq_each W.c text parent budget s
  rw [h] at hpass
  exact congrArg (Step.outcome _) hpass

theorem run_branches_append {before rest : List Resource}
    (h : W.run (branches W.c budget home before) s = (.ok (), s₁)) :
    W.run (branches W.c budget home (before ++ rest)) s = W.run (branches W.c budget home rest) s₁ := by
  induction before generalizing s with
  | nil =>
    obtain ⟨-, rfl⟩ := Prod.mk.inj h
    rfl
  | cons r before ih =>
    let branch := (visitOn W.c budget home r).rescue (handle W.c)
    have hcons : ∀ l, branches W.c budget home (r :: l) =
        branch >>= fun _ => branches W.c budget home l := fun _ => rfl
    rw [hcons, run_bind] at h
    rw [List.cons_append, hcons, run_bind]
    cases hb : W.run branch s with
    | mk result s' =>
      rw [hb] at h
      cases result with
      | error fault => cases h
      | ok => exact ih h

theorem grows_visitOn (budget : Budget) (home : Option String) (r : Resource) :
    W.Grows (visitOn W.c budget home r) :=
  grows_of_follows fun start =>
    let S := W.growth start
    S.visit (S.across _ _) (S.along _ (S.across _ _) _) home r

theorem grows_branch (budget : Budget) (home : Option String) (r : Resource) :
    W.Grows ((visitOn W.c budget home r).rescue (handle W.c)) :=
  grows_of_follows fun start =>
    (W.grows_visitOn budget home r).follows.rescue fun fault _ _ => (W.growth start).handle fault

theorem grows_branches (budget : Budget) (home : Option String) (rs : List Resource) :
    W.Grows (branches W.c budget home rs) := .each (W.grows_branch budget home) rs

/-- The walk over a dependency of the source text has failed in `s₂`, and the pass without it goes on
with the others from `start`. -/
def fork (budget : Budget) (home : Option String) (others : List Resource) (start s₂ : Scene ε) :
    Fork ε where
  others := others
  left := ⟨budget.packageDepth.toNat, budget.fileDepth.toNat⟩
  home := home
  start := start
  failed := s₂
  history := (W.run (branches W.c budget home others) start).2.context.history

variable {W} {after : List Resource} {s₃ : Scene ε} {pins : Pins}

/-- Once the failure was handled, the host has all that it has where the pass without the failing
dependency goes on. -/
theorem level_fork (hclear : W.Clear (W.fork budget home after { s₁ with pins := pins } s₂))
    (hs : W.Fine s₁) (hg : W.Grown s₁ s₂) (hq : W.Quiet s₂ s₃) :
    W.Level (W.fork budget home after { s₁ with pins := pins } s₂) s₃ { s₁ with pins := pins } where
  grown := (Grown.refl hg.fine).quiet hq
  grown₀ := .refl ⟨hs.fit, hs.agrees⟩
  options := hq.options.trans hg.options
  pins package hc := hq.pins ▸ hclear.pins package hc
  pinned package _ _ := hq.pins ▸ rfl
  resolved key := by
    rw [hq.context]
    exact ⟨.inr, fun h => h.elim (hg.resolved key) id⟩
  loaded key := by
    rw [hq.context]
    exact ⟨.inr, fun h => h.elim (hg.loaded key) id⟩
  held path h := .inl ((hq.held path).mpr (hg.held path h))

theorem held_behind (hclear : W.Clear (W.fork budget home after { s₁ with pins := pins } s₂))
    (hs : W.Fine s₁) (hg : W.Grown s₁ s₂) (hq : W.Quiet s₂ s₃) {path : String}
    (h : W.Held (W.run (branches W.c budget home after) { s₁ with pins := pins }).2 path) :
    W.Held (W.run (branches W.c budget home after) s₃).2 path := by
  have habreast : W.Abreast (W.fork budget home after { s₁ with pins := pins } s₂)
      (branches W.c budget home after) s₃ (branches W.c budget home after)
      { s₁ with pins := pins } :=
    .each (W.grows_branch budget home) fun _ hr _ _ =>
      (Abreast.visitOn_both hclear hg.fine rfl hr).rescue
  obtain ⟨result, s', s₀', he, he₀, hl⟩ := habreast.ends (level_fork hclear hs hg hq) fun _ => id
  rw [he₀] at h
  rw [he]
  exact (hl.held path h).elim id False.elim

end Solo

/-- With an error handler, a failing dependency takes nothing away from those behind it. A file that is
in the host after the pass over the text without it is there after the pass over the whole text, too,
if the failing walk has left the pins of what comes up behind it alone, and has finished what it has
taken up of that. If it has changed their pins, so it is beside a pass that goes on with these. -/
theorem pass_isolated (W : Solo ε) (text text' : String) (parent : Parent) (budget : Budget)
    (s s₁ s₂ : Scene ε) (before after : List Resource) (r : Resource) (fault : Fault)
    (hs : W.Fine s) (herrors : s.options.handlers.errors = true)
    (htext : dependenciesOf s text parent = .ok (before ++ r :: after))
    (htext' : dependenciesOf s text' parent = .ok (before ++ after))
    (hbefore : W.run (branches W.c budget (homeOf parent) before) { s with context := {} } =
      (.ok (), s₁))
    (hfails : W.run (visitOn W.c budget (homeOf parent) r) s₁ = (.error fault, s₂))
    (hfault : fault.handled?.isSome) :
    let without := fun pins =>
      W.run (branches W.c budget (homeOf parent) after) { s₁ with pins := pins }
    W.run (pass W.c text' parent budget) s = without s₁.pins ∧
    ∀ pins, W.Clear (W.fork budget (homeOf parent) after { s₁ with pins := pins } s₂) →
      ∀ path, W.Held (without pins).2 path → W.Held (W.run (pass W.c text parent budget) s).2 path := by
  intro without
  have hs₀ : W.Fine ({ s with context := {} } : Scene ε) := ⟨hs.fit, hs.agrees⟩
  have hgrown₁ : W.Grown { s with context := {} } s₁ := by
    have h := W.grows_branches budget (homeOf parent) before _ hs₀
    rw [hbefore] at h
    exact h
  have hgrown₂ : W.Grown s₁ s₂ := by
    have h := W.grows_visitOn budget (homeOf parent) r s₁ hgrown₁.fine
    rw [hfails] at h
    exact h
  refine ⟨(W.run_pass htext').trans (W.run_branches_append hbefore), fun pins hclear path hheld => ?_⟩
  -- The fault is handled, so the pass goes on with the rest in what the handler leaves.
  obtain ⟨s₃, hhandled, hquiet⟩ := W.run_handle fault s₂
  have hfull : W.run (pass W.c text parent budget) s =
      W.run (branches W.c budget (homeOf parent) after) s₃ := by
    have hcons : ∀ l, branches W.c budget (homeOf parent) (r :: l) =
        (visitOn W.c budget (homeOf parent) r).rescue (handle W.c) >>= fun _ =>
          branches W.c budget (homeOf parent) l := fun _ => rfl
    have hoptions : s₂.options.handlers.errors = true := by
      rw [hgrown₂.options, hgrown₁.options]
      exact herrors
    rw [W.run_pass htext, W.run_branches_append hbefore, hcons, Solo.run_bind, Solo.run_rescue, hfails]
    dsimp only
    rw [hhandled, hfault, hoptions]
    rfl
  rw [hfull]
  exact Solo.held_behind hclear hgrown₁.fine hgrown₂ hquiet hheld

/-! ## Siblings that share what was finished -/

def shelved (files : List (String × String)) (failing : List String) : Repository := fun key =>
  if key ∈ failing then .error (.fetch (.unreachable key "connection reset"))
  else .ok (files.lookup key)

namespace Sharing

/-- Two packages that import a third. The first of them also imports one that cannot be had. -/
def files : List (String × String) := [
  ("p/package.json", "\x7b\"types\":\"i.d.ts\"\x7d"), ("p/i.d.ts", "require('s') require('b')"),
  ("q/package.json", "\x7b\"types\":\"i.d.ts\"\x7d"), ("q/i.d.ts", "require('s')"),
  ("s/package.json", "\x7b\"types\":\"i.d.ts\"\x7d"), ("s/i.d.ts", "export \x7b\x7d")]

def repository : Repository := shelved files ["b/package.json"]

theorem version?_eq_none {key text package : String} {manifest : Manifest}
    (h : repository key = .ok (some text)) (hm : Manifest.read package text = .ok manifest) :
    manifest.version? = none := by
  have hnone : ∀ file ∈ files,
      (Manifest.read "" file.2).toOption.bind Manifest.version? = none := by decide +kernel
  -- The package is in the faults of a reading only.
  have hread : Manifest.read "" text = .ok manifest := by
    unfold Manifest.read at hm ⊢
    split at hm <;> first | exact hm | cases hm
  unfold repository shelved at h
  split at h
  · cases h
  · obtain ⟨l, l', hl, -⟩ := List.lookup_eq_some_iff.mp (Except.ok.inj h)
    have hserved := hnone (key, text) (hl ▸ List.mem_append_right l List.mem_cons_self)
    rw [hread] at hserved
    exact hserved

def solo : Solo Workspace where
  c := inMemory
  files := (·.memoryHost 0)
  fit := Equipped 0 0
  repository := repository
  lasting := lasting_memory
  coherent _ _ _ _ _ _ h hm hn := nomatch (version?_eq_none h hm).symm.trans hn
  onVersions _ _ := rfl
  onError _ _ := rfl

def start : Scene Workspace := atFirst { handlers := { errors := true } }

def budget : Budget := ({} : Options).budget

/-- The end of the walk over the first package. It is irreducible, since to unfold it is to make the
whole walk. -/
@[irreducible] def failure : Except Fault Unit × Scene Workspace :=
  solo.run (visitOn solo.c budget none (.package "p" "")) start

theorem run_first : solo.run (visitOn solo.c budget none (.package "p" "")) start = failure := by
  unfold failure
  rfl

def behind : Fork Workspace := solo.fork budget none [.package "q" ""] start failure.2

/-- Where the walk over the first package has failed, and what a lookup of the third comes to there. -/
theorem failure_state :
    failure.2.pins.isEmpty = true ∧
    failure.2.context.resolved = ["p/", "p/i.d.ts", "s/", "s/i.d.ts", "b/"] ∧
    failure.2.context.loaded = ["s/i.d.ts", "p/i.d.ts"] ∧
    ((solo.files failure.2.env).get? "node_modules/s/i.d.ts").isSome = true ∧
    (match failure.1 with
      | .error fault => fault.handled?.isSome
      | .ok _ => false) = true ∧
    let looked := solo.run (lookUp solo.c (.package "s" "")) failure.2
    looked.1.toOption.map (Option.map fun found => (found.1, found.2.map Prod.snd)) =
      some (some (⟨"s", "", "i.d.ts"⟩, some "i.d.ts")) ∧
    (solo.files looked.2.env).rootUri = (solo.files failure.2.env).rootUri ∧
    (solo.files looked.2.env).files.entries = (solo.files failure.2.env).files.entries := by
  decide +kernel

theorem pins_failure : failure.2.pins = {} := Assoc.eq_empty_of_isEmpty failure_state.1

theorem version?_failure (package : String) : failure.2.pins.version? package = none := by
  rw [pins_failure]
  rfl

theorem behind_state :
    let ended := solo.run (branches solo.c budget none [.package "q" ""]) start
    ended.2.context.history = [.left, .left,
      .expanded "s" none "i.d.ts" "export \x7b\x7d" ⟨1, 10⟩, .entered ⟨"s", "", "i.d.ts"⟩,
      .expanded "q" none "i.d.ts" "require('s')" ⟨2, 10⟩, .entered ⟨"q", "", "i.d.ts"⟩] ∧
    ((solo.files ended.2.env).get? "node_modules/s/i.d.ts").isSome = true := by
  decide +kernel

theorem expanded_behind {package path text : String} {version : Option String} {left : Remaining}
    (h : .expanded package version path text left ∈ behind.history) :
    (package = "s" ∧ version = none ∧ path = "i.d.ts" ∧ text = "export \x7b\x7d") ∨
      (package = "q" ∧ version = none ∧ path = "i.d.ts" ∧ text = "require('s')") := by
  unfold behind Solo.fork at h
  rw [behind_state.1] at h
  simp only [List.mem_cons, reduceCtorEq, false_or, List.not_mem_nil, or_false,
    Milestone.expanded.injEq] at h
  rcases h with ⟨rfl, rfl, rfl, rfl, -⟩ | ⟨rfl, rfl, rfl, rfl, -⟩
  · exact .inl ⟨rfl, rfl, rfl, rfl⟩
  · exact .inr ⟨rfl, rfl, rfl, rfl⟩

theorem dependencies_second :
    (File.mk "q" "i.d.ts" "require('s')").dependencies = .ok [.package "s" ""] :=
  ok_of_toOption (by decide +kernel)

theorem dependencies_shared : (File.mk "s" "i.d.ts" "export \x7b\x7d").dependencies = .ok [] :=
  ok_of_toOption (by decide +kernel)

/-- The second package comes up, and what it imports. -/
theorem eq_of_ahead {r : Resource} (h : behind.Ahead r) :
    r = .package "q" "" ∨ r = .package "s" "" := by
  induction h with
  | first hr => exact .inl (List.mem_singleton.mp hr)
  | imported hm _ hi =>
    rw [File.imports_iff] at hi
    rcases expanded_behind hm with ⟨rfl, -, rfl, rfl⟩ | ⟨rfl, -, rfl, rfl⟩
    · rw [dependencies_shared] at hi
      cases hi
    · rw [dependencies_second] at hi
      exact .inr (List.mem_singleton.mp hi)
  | root ho => cases ho

theorem key_not_mem_resolved (version : Option String) :
    (Resource.package "q" "").key version ∉ failure.2.context.resolved := by
  have hhead : ((Resource.package "q" "").key version).toList.head? = some 'q' := by
    unfold Resource.key versioned
    dsimp only
    cases version with
    | none => decide
    | some v => by_cases hv : v = "" <;> simp [hv]
  have hother : ∀ key ∈ failure.2.context.resolved, key.toList.head? ≠ some 'q' := by
    rw [failure_state.2.1]
    decide
  exact fun h => hother _ h hhead

theorem finished_shared : solo.Finished behind (.package "s" "") where
  pinned _ _ _ _ _ _ h hm hn := nomatch (version?_eq_none h hm).symm.trans hn
  whole _ _ he hne := by
    cases he
    exact absurd rfl hne
  looked := by
    obtain ⟨-, hresolved, hloaded, -, -, hfound, hroot, hentries⟩ := failure_state
    cases hrun : solo.run (lookUp solo.c (.package "s" "")) failure.2 with
    | mk result s' =>
      rw [hrun] at hfound hroot hentries
      cases result with
      | error => cases hfound
      | ok o =>
        refine ⟨o, s', hrun, fun path h => ?_, ?_⟩
        · unfold Solo.Held MemoryHost.get? MemoryHost.uri Assoc.get? at h ⊢
          rwa [hroot, hentries] at h
        · rintro w file rfl
          obtain ⟨rfl, hpath⟩ := Prod.mk.inj (Option.some.inj (Option.some.inj hfound))
          refine ⟨fun package hp => ?_, ?_⟩
          · cases hp
            show Resource.key (failure.2.pins.version? "s") _ ∈ failure.2.context.resolved
            rw [version?_failure, hresolved]
            decide
          · rintro content path rfl
            cases hpath
            show Package.fileKey "s" (failure.2.pins.version? "s") _ ∈ failure.2.context.loaded
            rw [version?_failure, hloaded]
            decide

theorem clear : solo.Clear behind where
  pins package _ := by
    show failure.2.pins.get? package = start.pins.get? package
    rw [pins_failure]
    rfl
  taken r version hr hmarked _ := by
    rcases eq_of_ahead hr with rfl | rfl
    · exact absurd hmarked (key_not_mem_resolved version)
    · exact finished_shared
  expanded package version path text left hm hloaded _ := by
    obtain ⟨-, -, hkeys, hheld, -⟩ := failure_state
    rcases expanded_behind hm with ⟨rfl, rfl, rfl, rfl⟩ | ⟨rfl, rfl, rfl, rfl⟩
    · have hpath : Package.hostPath "s" "i.d.ts" = "node_modules/s/i.d.ts" := by decide +kernel
      exact ⟨hpath ▸ hheld, [], dependencies_shared, fun _ h => nomatch h⟩
    · have hnew : Package.fileKey "q" none "i.d.ts" ∉ failure.2.context.loaded := by
        rw [hkeys]
        decide
      exact absurd hloaded hnew

/-- The failing package does not take the third one away from the second. -/
theorem sibling_kept :
    solo.Held (solo.run (pass solo.c "require('q')" (.directory "/") budget) start).2
      "node_modules/s/i.d.ts" ∧
    ∀ path, solo.Held (solo.run (pass solo.c "require('q')" (.directory "/") budget) start).2 path →
      solo.Held (solo.run (pass solo.c "require('p') require('q')" (.directory "/") budget) start).2
        path := by
  have hfails : ∃ fault, failure.1 = .error fault ∧ fault.handled?.isSome := by
    obtain ⟨-, -, -, -, hfault, -⟩ := failure_state
    split at hfault
    · next fault he => exact ⟨fault, he, hfault⟩
    · cases hfault
  obtain ⟨fault, hfault, hhandled⟩ := hfails
  have hends : failure = (.error fault, failure.2) := Prod.ext hfault rfl
  have hisolated := pass_isolated solo "require('p') require('q')" "require('q')"
    (.directory "/") budget start start failure.2 [] [.package "q" ""] (.package "p" "") fault
    ⟨⟨by decide, by decide⟩, by rintro key text ⟨⟩⟩ rfl (ok_of_toOption (by decide +kernel))
    (ok_of_toOption (by decide +kernel)) rfl (run_first.trans hends) hhandled
  -- Both parts are stated for the walk behind the first package, so that no walk is made here.
  have hwithout : solo.run (pass solo.c "require('q')" (.directory "/") budget) start =
      solo.run (branches solo.c budget none [.package "q" ""]) start := hisolated.1
  have hkept : ∀ path,
      solo.Held (solo.run (branches solo.c budget none [.package "q" ""]) start).2 path →
      solo.Held (solo.run (pass solo.c "require('p') require('q')" (.directory "/") budget) start).2
        path := hisolated.2 start.pins clear
  rw [hwithout]
  exact ⟨behind_state.2, hkept⟩

end Sharing

/-! ## Siblings that are lost -/

namespace Siblings

def ending (repository : Repository) (options : Options) (text : String) :
    Except Fault Unit × Scene Workspace :=
  (pass inMemory text (.directory "/") options.budget (atFirst options)).outcome repository

def hosts (ended : Except Fault Unit × Scene Workspace) (path : String) : Bool :=
  ((ended.2.env.memoryHost 0).get? path).isSome

def fails (repository : Repository) (options : Options) (r : Resource) : Bool :=
  match ((visitOn inMemory options.budget none r (atFirst options)).outcome repository).1 with
  | .error fault => fault.handled?.isSome
  | .ok _ => false

/-- The first dependency of a text fails, and a path that has a file after the pass over the others has
none after the pass over the text. -/
def Loses (repository : Repository) (options : Options) (text others path : String) : Prop :=
  options.handlers.errors = true ∧
  (∃ r ∈ (dependenciesOf (atFirst options) text (.directory "/")).toOption.bind List.head?,
    fails repository options r = true) ∧
  (dependenciesOf (atFirst options) others (.directory "/")).toOption =
    (dependenciesOf (atFirst options) text (.directory "/")).toOption.map List.tail ∧
  hosts (ending repository options others) path = true ∧
  hosts (ending repository options text) path = false

instance (repository : Repository) (options : Options) (text others path : String) :
    Decidable (Loses repository options text others path) :=
  inferInstanceAs (Decidable (_ ∧ _ ∧ _ ∧ _ ∧ _))

def handlers : Handlers := { errors := true }

/-- Two files that import each other. The failure comes while the entry is at the first of its
imports. -/
def circular : Repository := shelved [
  ("p/package.json", "\x7b\"types\":\"f.d.ts\"\x7d"), ("p/f.d.ts", "require('./g') require('./h')"),
  ("p/g.d.ts", "require('./f') require('b')"), ("p/h.d.ts", "export \x7b\x7d")] ["b/package.json"]

/-- A package with a directory that it no longer has at the version which its manifest names. -/
def renamed : Repository := shelved [
  ("p/package.json", "\x7b\"types\":\"e.d.ts\",\"version\":\"1.0.0\"\x7d"),
  ("p@1.0.0/package.json", "\x7b\"types\":\"e.d.ts\",\"version\":\"1.0.0\"\x7d"),
  ("p/e.d.ts", "require('b')"), ("p@1.0.0/e.d.ts", "require('b')"),
  ("p/a/package.json", "\x7b\"types\":\"x.d.ts\"\x7d"), ("p/a/x.d.ts", "export \x7b\x7d")]
  ["b/package.json"]

/-- A package whose entry imports one more file, which imports another. -/
def chained : Repository := shelved [
  ("p/package.json", "\x7b\"types\":\"e.d.ts\"\x7d"), ("p/e.d.ts", "require('./m') require('b')"),
  ("p/m.d.ts", "require('./n')"), ("p/n.d.ts", "export \x7b\x7d")] ["b/package.json"]

/-- A failing dependency takes files away from the next: one that its walk has begun with, one that is
not there at the version which it has pinned, and one that is too deep for it. -/
theorem siblings_lost :
    Loses circular { handlers } "require('p') require('p/g')" "require('p/g')"
      "node_modules/p/h.d.ts" ∧
    Loses renamed { handlers } "require('p') require('p/a')" "require('p/a')"
      "node_modules/p/a/x.d.ts" ∧
    Loses chained { handlers, fileRecursionDepth := 1 } "require('p') require('p/m')" "require('p/m')"
      "node_modules/p/n.d.ts" := by
  refine ⟨?_, ?_, ?_⟩ <;> decide +kernel

end Siblings

end DeclarationFetch.Resolution
