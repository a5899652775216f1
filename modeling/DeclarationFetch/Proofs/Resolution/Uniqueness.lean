import DeclarationFetch.Proofs.Path.Normal
import DeclarationFetch.Proofs.Resolution.Confinement
import Mathlib.Data.List.Nodup

/-! # Files that are expanded once

* `Crooked path`: a path that is not in normal form, of the two kinds that lookups come to.
* `Tried.normal_or_crooked`: all other paths of files are in normal form.
* `expansions history`: the files that were expanded, with their versions and paths.
* `pass_expands_once`: no file is expanded twice in a pass, unless at a crooked path.
-/

namespace DeclarationFetch.Resolution

open DeclarationFetch.Path

variable {ε : Type} {found : Findings} {path : String}

/-! ## Paths of files -/

/-- The directory of the package itself with an ending, or a path with a slash at its end. -/
def Crooked (path : String) : Prop :=
  path ∈ ["./index.d.ts", "./index.ts", "./index.tsx"] ∨ path.toList.getLast? = some '/'

instance : DecidablePred Crooked := fun _ => inferInstanceAs (Decidable (_ ∨ _))

/-- A file is tried at a path in normal form, except where the directory of the package itself is wanted
or a manifest names a path with a slash at its end. -/
theorem Tried.normal_or_crooked {w : Wanted} (hl : leavesPackage (filePath w) = false)
    (h : Tried found w path) : Path.normalize path = path ∨ Crooked path := by
  have hpath := straight_filePath hl
  cases h with
  | itself he =>
    rcases hpath with hw | hw
    · rw [hw] at he
      exact absurd he (by decide)
    · exact .inl hw.normalize_eq
  | ending _ he =>
    have hdot : ∀ e ∈ extensions, Straight ("." ++ e) ∨
        "." ++ e ∈ ["./index.d.ts", "./index.ts", "./index.tsx"] := by decide
    rcases hpath with hw | hw
    · rw [hw]
      exact (hdot _ he).imp Straight.normalize_eq .inl
    · exact .inl (straight_append_ending he hw).normalize_eq
  | directory => exact .inl ((inside_filePath hl).join straight_manifest).normalize_eq
  -- Joining brings a path into normal form, but it keeps a slash at the end.
  | @named text types manifest h hm ht =>
    have hrel : (filePath w).toList.head? ≠ some '/' := (inside_iff.mp (inside_filePath hl)).1
    have hne : filePath w ≠ "" := by
      rcases hpath with hw | hw
      · rw [hw]
        decide
      · exact hw.ne_empty
    have hjoined : (joined [filePath w, stripDotSlash types]).head? ≠ some '/' := by
      rw [head_joined hne]
      exact hrel
    exact (normalize_join hjoined).imp_right .inr

/-! ## Expansions -/

def expansion? : Milestone → Option (String × Option String × String)
  | .expanded package version path _ _ => some (package, version, path)
  | _ => none

/-- The files that were expanded, each with its package, the version that its package was pinned to, and
its path, the latest first. -/
def expansions (history : List Milestone) : List (String × Option String × String) :=
  history.filterMap expansion?

theorem loaded_eq (c : Context) :
    c.loaded = (expansions c.history).map fun e => Package.fileKey e.1 e.2.1 e.2.2 := by
  unfold Context.loaded expansions
  rw [List.map_filterMap]
  congr
  funext m
  cases m <;> rfl

/-- Every file key was expanded once, and every path is of a known form. -/
structure Distinct (s : Scene ε) : Prop where
  keys : s.context.loaded.Nodup
  paths : ∀ e ∈ expansions s.context.history, Path.normalize e.2.2 = e.2.2 ∨ Crooked e.2.2

namespace Distinct

variable {s s' : Scene ε}

theorem of_history_eq (h : Distinct s) (hh : s'.context.history = s.context.history) : Distinct s' where
  keys := by
    unfold Context.loaded
    rw [hh]
    exact h.keys
  paths := hh ▸ h.paths

theorem of_expansions_eq (h : Distinct s)
    (hh : expansions s'.context.history = expansions s.context.history) : Distinct s' where
  keys := by
    rw [loaded_eq, hh, ← loaded_eq]
    exact h.keys
  paths := hh ▸ h.paths

theorem expanded (h : Distinct s) {package text : String} {version : Option String}
    {budget : Remaining} (hnew : Package.fileKey package version path ∉ s.context.loaded)
    (hpath : Path.normalize path = path ∨ Crooked path)
    (hh : s'.context.history = .expanded package version path text budget :: s.context.history) :
    Distinct s' where
  keys := by
    unfold Context.loaded
    rw [hh]
    exact List.nodup_cons.mpr ⟨hnew, h.keys⟩
  paths := by
    rw [hh]
    exact List.forall_mem_cons.mpr ⟨hpath, h.paths⟩

/-- Files at paths that are not crooked were expanded once, whatever form of their paths is compared. -/
theorem nodup_normalize (h : Distinct s) :
    (((expansions s.context.history).filter fun e => ¬ Crooked e.2.2).map fun e =>
      (e.1, e.2.1, Path.normalize e.2.2)).Nodup := by
  have hnodup : (expansions s.context.history).Nodup := by
    have hkeys := h.keys
    rw [loaded_eq] at hkeys
    exact hkeys.of_map
  have hsame : ∀ e ∈ (expansions s.context.history).filter fun e => ¬ Crooked e.2.2,
      (e.1, e.2.1, Path.normalize e.2.2) = id e := fun e he => by
    obtain ⟨hm, hc⟩ := List.mem_filter.mp he
    rw [(h.paths e hm).resolve_right (by simpa using hc)]
    rfl
  rw [List.map_congr_left hsame, List.map_id]
  exact hnodup.filter _

end Distinct

/-! ## The policy -/

namespace Uniqueness

def regime (ε : Type) : Regime ε where
  asks _ s := Distinct s
  answers _ s _ s' := s'.context.history = s.context.history
  valid := Distinct
  since s s' := Distinct s → Distinct s'
  refl _ := id
  trans h h' := h' ∘ h
  valid_of_since h hv := h hv

def account (c : Collaborators ε) : Account c where
  toRegime := regime ε
  found _ _ _ _ := True
  pursued _ _ := True
  found_of_since _ _ := trivial
  pursued_of_since _ _ := trivial
  reported _ _ h := h.of_history_eq rfl
  cached _ _ := ⟨fun h => h.of_history_eq rfl, fun _ _ => trivial⟩
  asked hv hs _ := hs hv
  answered _ _ h := ⟨fun hd => hd.of_history_eq h, fun _ _ => trivial⟩
  stored _ _ _ h := h.of_history_eq rfl
  sought _ _ h := h.of_history_eq rfl
  injected _ _ _ h hd := hd.of_history_eq h.history_eq
  pinned _ _ _ _ _ _ _ _ h := h.of_history_eq rfl
  looked _ _ h := h.of_history_eq rfl
  readied _ _ h := h.of_history_eq rfl
  failed _ _ h := h.of_history_eq rfl

/-- Every dependency may be taken up, since a file is expanded only if its key is new. -/
def policy (c : Collaborators ε) (fileSteps : Nat) : Policy c fileSteps where
  toAccount := account c
  takes _ _ _ _ := True
  opens _ _ _ _ := True
  parses _ _ _ _ := True
  takes_of_since _ _ := trivial
  opens_of_since _ _ := trivial
  parses_of_since _ _ := trivial
  pursued_of_takes _ := trivial
  pursued_of_opens _ := trivial
  marked _ _ h := h.of_history_eq (Context.history_mark ..)
  root _ _ _ := trivial
  entered hv _ hn := ⟨hv.of_expansions_eq rfl, trivial, hn⟩
  left hv _ hs _ := (hs (hv.of_expansions_eq rfl)).of_expansions_eq rfl
  expanded hv _ hl hnew hi := by
    obtain ⟨w, _, hp, hf⟩ := hl
    obtain ⟨hleaves, htried⟩ := hf.tried
    exact ⟨fun hd => hd.expanded hnew (htried.normal_or_crooked hleaves) hi.history_eq, trivial⟩
  crosses _ _ _ := trivial
  stays _ _ _ := trivial

end Uniqueness

/-! ## Passes -/

/-- However far a pass has come, no file key was expanded twice, and no file was expanded at two paths
with one normal form, unless at a crooked path. -/
theorem pass_expands_once (c : Collaborators ε) (source : String) (parent : Parent) (budget : Budget)
    (s : Scene ε) (play : Play ε) (n : Nat) :
    let now := ((pass c source parent budget s).after play n).scene
    now.context.loaded.Nodup ∧
    (∀ e ∈ expansions now.context.history, Path.normalize e.2.2 = e.2.2 ∨ Crooked e.2.2) ∧
    (((expansions now.context.history).filter fun e => ¬ Crooked e.2.2).map fun e =>
      (e.1, e.2.1, Path.normalize e.2.2)).Nodup := by
  intro now
  have hstart : Distinct ({ s with context := {} } : Scene ε) := ⟨List.nodup_nil, fun _ h => nomatch h⟩
  have hends : (pass c source parent budget s).Ends (Uniqueness.regime ε) fun _ s' =>
      Distinct ({ s with context := {} } : Scene ε) → Distinct s' :=
    (Uniqueness.policy c budget.initialFileDepth.toNat).pass_from source rfl
      (fun _ _ _ _ _ => trivial) (fun _ _ _ _ _ => trivial) hstart
  have hnow : Distinct now := (hends.after (fun _ _ _ _ => rfl) n).scene (fun _ _ h => h)
    fun _ _ h => h hstart
  exact ⟨hnow.keys, hnow.paths, hnow.nodup_normalize⟩

/-- A package whose entry imports the directory that it is in. -/
def ownDirectory : Request → Option String := Play.files "p" [
  ("package.json", "\x7b\"types\":\"index.d.ts\"\x7d"),
  ("index.d.ts", "require(\".\")"),
  ("./index.d.ts", "export \x7b\x7d")]

def ownDirectoryPass : Step Workspace Unit :=
  (pass inMemory "require(\"p\")" (.directory "/") ({} : Options).budget (atFirst {})).after
    (.answering ownDirectory) 4

/-- The entry is expanded at two paths with one normal form. -/
theorem ownDirectory_expanded_twice :
    ownDirectoryPass.value? = some () ∧
    expansions ownDirectoryPass.scene.context.history =
      [("p", none, "./index.d.ts"), ("p", none, "index.d.ts")] ∧
    ¬ ((expansions ownDirectoryPass.scene.context.history).map fun e =>
      (e.1, e.2.1, Path.normalize e.2.2)).Nodup := by decide +kernel

end DeclarationFetch.Resolution
