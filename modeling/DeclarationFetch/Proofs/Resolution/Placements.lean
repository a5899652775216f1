import DeclarationFetch.Proofs.Resolution.Parallel
import DeclarationFetch.Proofs.Resolution.Policy
import DeclarationFetch.Proofs.Resolution.Retention

/-! # What a pass places in a host in memory

The context of a pass is an account of what the pass does to its host, at every point where a fault can
end it.

* `Houses c host fit`: the host that the collaborators have is one in memory, and only a pass writes to it.
* `Overwrites first files host`: one file after another was placed, each where the host did not have it.
* `placements log`: the files that the host was given.
* `Balanced`: the context, the log and the host agree; each action of a pass keeps it.
* `pass_placements`: so they agree wherever a pass stops.
-/

namespace DeclarationFetch.Resolution

variable {ε α : Type} {c : Collaborators ε} {host : ε → MemoryHost} {fit : ε → Prop}

/-! ## Hosts in memory -/

def Action.hostAfter : Action α → MemoryHost → MemoryHost
  | .host path text, h => h.set path text
  | _, h => h

/-- The host is one in memory that nobody writes to but the pass, where the environment is fit for it. -/
structure Houses (c : Collaborators ε) (host : ε → MemoryHost) (fit : ε → Prop) : Prop where
  hosted : ∀ path e, (c.hosted path e).1 = .ok ((host e).get? path)
  accepts : ∀ path text e, (c.host path text e).1 = .ok ()
  perform : ∀ {α} (a : Action α) e, fit e →
    fit (c.perform a e).2 ∧ host (c.perform a e).2 = a.hostAfter (host e)
  onError : ∀ message e, fit e →
    fit (c.onError message e).2 ∧ host (c.onError message e).2 = host e

def Play.LeavesHost (play : Play ε) (host : ε → MemoryHost) (fit : ε → Prop) : Prop :=
  ∀ n request s, fit s.env → fit (play.env n request s) ∧ host (play.env n request s) = host s.env

/-! ## Files one after another -/

def overwritten (first : MemoryHost) (files : List (String × String)) : MemoryHost :=
  files.foldl (fun h file => h.set file.1 file.2) first

@[simp] theorem overwritten_concat (first : MemoryHost) (files : List (String × String))
    (path text : String) :
    overwritten first (files ++ [(path, text)]) = (overwritten first files).set path text := by
  simp [overwritten]

/-- The host was given files, of which the latest comes first, and each of them was new to it. -/
inductive Overwrites (first : MemoryHost) : List (String × String) → MemoryHost → Prop
  | none : Overwrites first [] first
  | placed {files : List (String × String)} {now : MemoryHost} {path text : String}
      (h : Overwrites first files now) (hn : now.get? path ≠ some text) :
      Overwrites first ((path, text) :: files) (now.set path text)

namespace Overwrites

variable {first now : MemoryHost} {files : List (String × String)}

theorem eq_overwritten (h : Overwrites first files now) : now = overwritten first files.reverse := by
  induction h with
  | none => rfl
  | placed h hn ih => rw [List.reverse_cons, overwritten_concat, ← ih]

theorem changed (h : Overwrites first files now) {before after : List (String × String)}
    {path text : String} (hf : files.reverse = before ++ (path, text) :: after) :
    (overwritten first before).get? path ≠ some text := by
  induction h generalizing after with
  | none =>
    have hlength := congrArg List.length hf
    simp at hlength
  | @placed files now path' text' h hn ih =>
    rw [List.reverse_cons] at hf
    obtain rfl | ⟨after, last, rfl⟩ := List.eq_nil_or_concat after
    · obtain ⟨hbefore, hlast⟩ := List.append_inj' hf rfl
      cases hlast
      rw [← hbefore, ← h.eq_overwritten]
      exact hn
    · have hsplit : files.reverse ++ [(path', text')] = (before ++ (path, text) :: after) ++ [last] := by
        rw [hf]
        simp
      exact ih (List.append_inj' hsplit rfl).1

end Overwrites

/-- The files that the host was given, the latest first. -/
def placements (log : List Observation) : List (String × String) :=
  log.filterMap fun
    | .placed path text => some (path, text)
    | _ => none

/-! ## The account of a pass -/

/-- The context names what the host was given, and the host is what that has made of it. -/
structure Balanced (host : ε → MemoryHost) (fit : ε → Prop) (first : MemoryHost)
    (s : Scene (Watched ε)) : Prop where
  fit : fit s.env.env
  overwrites : Overwrites first (placements s.env.log) (host s.env.env)
  injected : s.context.injected = (placements s.env.log).reverse.map Prod.fst
  newImports : s.context.newImports = true ↔ s.context.injected ≠ []

namespace Balanced

variable {first : MemoryHost} {s s' : Scene (Watched ε)}

theorem start {s : Scene ε} (h : fit s.env) :
    Balanced host fit (host s.env) { s.watched with context := {} } :=
  ⟨h, .none, rfl, by simp⟩

theorem quiet (h : Balanced host fit first s) (hi : s'.context.injected = s.context.injected)
    (hn : s'.context.newImports = s.context.newImports)
    (hl : placements s'.env.log = placements s.env.log)
    (he : fit s'.env.env ∧ host s'.env.env = host s.env.env) : Balanced host fit first s' := by
  refine ⟨he.1, ?_, ?_, ?_⟩
  · rw [hl, he.2]
    exact h.overwrites
  · rw [hi, hl]
    exact h.injected
  · rw [hn, hi]
    exact h.newImports

theorem context (h : Balanced host fit first s) {context : Context}
    (hi : context.injected = s.context.injected) (hn : context.newImports = s.context.newImports) :
    Balanced host fit first { s with context := context } :=
  h.quiet hi hn rfl ⟨h.fit, rfl⟩

variable (hc : Houses c host fit)
include hc

theorem act (h : Balanced host fit first s) (a : Action α) (ha : a.places = false) :
    Balanced host fit first { s with env := (c.watched.perform a s.env).2 } := by
  have hperform := hc.perform a s.env.env h.fit
  cases a with
  | host path text => cases ha
  | _ => exact h.quiet rfl rfl rfl hperform

theorem injected_placed (h : Balanced host fit first s) {path text : String}
    (hn : (host s.env.env).get? path ≠ some text) {e : Watched ε}
    (he : e.env = (c.host path text (c.hosted path s.env.env).2).2)
    (hl : placements e.log = (path, text) :: placements s.env.log) :
    Balanced host fit first { s with env := e, context := s.context.inject path } := by
  obtain ⟨hfit₁, hhost₁⟩ := hc.perform (.hosted path) s.env.env h.fit
  obtain ⟨hfit₂, hhost₂⟩ := hc.perform (.host path text) (c.hosted path s.env.env).2 hfit₁
  have hhost : host e.env = (host s.env.env).set path text := by
    rw [he]
    exact hhost₂.trans (congrArg (MemoryHost.set · path text) hhost₁)
  refine ⟨?_, ?_, ?_, ?_⟩
  · show fit e.env
    rw [he]
    exact hfit₂
  · show Overwrites first (placements e.log) (host e.env)
    rw [hl, hhost]
    exact h.overwrites.placed hn
  · show s.context.injected ++ [path] = (placements e.log).reverse.map Prod.fst
    rw [hl, h.injected]
    simp
  · show true = true ↔ s.context.injected ++ [path] ≠ []
    simp

theorem injected_of (h : Balanced host fit first s) {path text : String} {result : Except Fault Unit}
    (hi : Injected c.watched path text s result s') : Balanced host fit first s' := by
  have hheld : ∀ {held}, (c.watched.hosted path s.env).1 = .ok held → held = (host s.env.env).get? path :=
    fun h => Except.ok.inj (h.symm.trans (hc.hosted path s.env.env))
  cases hi with
  | unreadable | present => exact h.act hc (.hosted path) rfl
  | refused _ hf _ =>
    have haccepts := hc.accepts path text (c.hosted path s.env.env).2
    cases haccepts.symm.trans hf
  | placed hheld' _ hn => exact h.injected_placed hc (hheld hheld' ▸ hn) rfl rfl

end Balanced

namespace Placements

variable {first : MemoryHost}

def regime (host : ε → MemoryHost) (fit : ε → Prop) (first : MemoryHost) : Regime (Watched ε) where
  asks _ := Balanced host fit first
  answers request s answer s' := s'.context = s.context ∧
    s'.env.log = .answered request answer :: s.env.log ∧
      (fit s.env.env → fit s'.env.env ∧ host s'.env.env = host s.env.env)
  valid := Balanced host fit first
  since s s' := Balanced host fit first s → Balanced host fit first s'
  refl _ := id
  trans h h' := h' ∘ h
  valid_of_since h := h

theorem follows {play : Play ε} (hp : play.LeavesHost host fit) :
    play.watched.Follows (regime host fit first) := fun n request s _ =>
  ⟨rfl, rfl, hp n request s.unwatched⟩

def account (hc : Houses c host fit) (first : MemoryHost) : Account c.watched where
  toRegime := regime host fit first
  found _ _ _ _ := True
  pursued _ _ := True
  found_of_since _ _ := trivial
  pursued_of_since _ _ := trivial
  reported u _ h := h.act hc (.onUpdate u) rfl
  cached {s package path} _ _ := by
    let key := Package.fileKey package (s.pins.version? package) path
    exact ⟨fun h => h.act hc (.cached key) rfl, fun _ _ => trivial⟩
  asked hv hs _ := hs hv
  answered {_ s s' _ _ _} _ _ h := by
    obtain ⟨hcontext, hlog, henv⟩ := h
    refine ⟨fun hb => ?_, fun _ _ => trivial⟩
    exact hb.quiet (hcontext ▸ rfl) (hcontext ▸ rfl) (hlog ▸ rfl) (henv hb.fit)
  stored {s₀ _ package path text} _ _ _ h :=
    h.act hc (.store (Package.fileKey package (s₀.pins.version? package) path) text) rfl
  sought key _ h := h.act hc (.isCached key) rfl
  injected _ _ _ hi h := h.injected_of hc hi
  pinned {s package _ _ _ _ version} _ _ _ _ _ _ _ _ := by
    let pins := s.pins.insert package (.text version)
    refine Regime.since_repinned _ (fun h => ?_) fun h => h.act hc (.onVersions pins) rfl
    exact h.quiet rfl rfl rfl ⟨h.fit, rfl⟩
  looked {_ package path} _ _ h := h.act hc (.hosted (Package.hostPath package path)) rfl
  readied {_ package path} _ _ h := h.act hc (.makeRoom (Package.hostPath package path)) rfl
  failed message _ h := h.quiet rfl rfl rfl (hc.onError message _ h.fit)

theorem impartial (hc : Houses c host fit) (first : MemoryHost) : (account hc first).Impartial where
  pursued _ _ := trivial
  marked _ _ h := h.context (Context.injected_mark ..) (Context.newImports_mark ..)
  recorded _ _ h := h.context rfl rfl

end Placements

/-! ## Passes -/

namespace Broken

def packages : Request → Option String := fun r =>
  if r.package = "q" then some "\x7b" else Play.files "p" [
    ("package.json", "\x7b\"types\":\"index.d.ts\"\x7d"), ("index.d.ts", "require(\"q\")")] r

def first : MemoryHost :=
  (({} : MemoryHost).set "node_modules/p/index.d.ts" "").set "main.ts" "require('p')"

def start : Scene Workspace := { atFirst {} with env := (atFirst {}).env.setMemoryHost 0 first }

def ended : Step (Watched Workspace) Unit :=
  (pass inMemory.watched "require('p')" (.directory "/") ({} : Options).budget start.watched).after
    (Play.answering packages).watched 3

end Broken

end DeclarationFetch.Resolution
