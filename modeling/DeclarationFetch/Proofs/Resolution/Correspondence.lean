import DeclarationFetch.Proofs.Resolution.Regime

/-! # Walks in correspondence

A walk among others beside one that is alone with a repository, which has one answer for each file.

* `Repository`: the answers by file key. `Step.outcome`: the end of a step that gets them at once.
* `Correspondence`: which scenes of the two walks belong together, and the terms on which the first deals
  with the others.
* `Walk.Follows`: wherever the first walk ends, the other ends with the same result in a scene that
  belongs to it. There is one rule for each way to build a walk.
-/

namespace DeclarationFetch.Resolution

variable {ε ε₀ α β : Type}

/-! ## Repositories -/

/-- What is answered for each file key. -/
abbrev Repository := String → Answer

def Request.key (r : Request) : String :=
  Package.fileKey r.package (if r.version.isSet then some r.version.display else none) r.path

theorem Request.key_of_pins (package path : String) (pins : Pins) :
    Request.key ⟨package, path, pins.pin package⟩ =
      Package.fileKey package (pins.version? package) path := rfl

/-- Others who answer as the repository does, and do nothing else. -/
def Play.serving (repository : Repository) : Play ε where
  answer _ request _ := repository request.key
  pins _ _ s := s.pins
  env _ _ s := s.env

namespace Step

/-- The result and the last scene of a step that gets every answer from a repository at once. -/
def outcome (repository : Repository) (step : Step ε α) : Except Fault α × Scene ε :=
  let ended := step.run (fun request memory => (repository request.key, memory)) ()
  (ended.1, ended.2.1)

variable {repository : Repository}

@[simp] theorem outcome_done (result : Except Fault α) (s : Scene ε) :
    (done result s).outcome repository = (result, s) := rfl

@[simp] theorem outcome_fetch (request : Request) (s : Scene ε)
    (resume : Answer → Scene ε → Step ε α) :
    (fetch request s resume).outcome repository =
      (resume (repository request.key) s).outcome repository := rfl

theorem outcome_andThen (step : Step ε α) (next : Except Fault α → Scene ε → Step ε β) :
    (step.andThen next).outcome repository =
      (next (step.outcome repository).1 (step.outcome repository).2).outcome repository := by
  induction step with
  | done result s => rfl
  | fetch request s resume ih => exact ih (repository request.key) s

end Step

/-! ## Correspondences -/

/-- Which scenes of a walk among others and of a walk alone with a repository belong together. -/
structure Correspondence (ε ε₀ : Type) where
  repository : Repository
  regime : Regime ε
  rel : Scene ε → Scene ε₀ → Prop

variable {K : Correspondence ε ε₀}

/-- Wherever the walk ends, the other ends with the same result, in a scene that belongs to it. -/
structure Walk.Follows (K : Correspondence ε ε₀) (w : Walk ε α) (s : Scene ε) (w₀ : Walk ε₀ α)
    (s₀ : Scene ε₀) (Q : α → Prop) : Prop where
  ends : K.rel s s₀ → (w s).Ends K.regime fun result s' =>
    ∃ s₀', (w₀ s₀).outcome K.repository = (result, s₀') ∧ K.rel s' s₀' ∧ ∀ a, result = .ok a → Q a

namespace Walk.Follows

variable {s : Scene ε} {s₀ : Scene ε₀} {w : Walk ε α} {w₀ : Walk ε₀ α} {Q Q' : α → Prop}

theorem mono (h : w.Follows K s w₀ s₀ Q) (hq : ∀ a, Q a → Q' a) : w.Follows K s w₀ s₀ Q' where
  ends hr := (h.ends hr).mono fun _ _ ⟨s₀', ho, hr', hq'⟩ =>
    ⟨s₀', ho, hr', fun a ha => hq a (hq' a ha)⟩

theorem of_rel (h : K.rel s s₀ → w.Follows K s w₀ s₀ Q) : w.Follows K s w₀ s₀ Q :=
  ⟨fun hr => (h hr).ends hr⟩

theorem of_done {result : Except Fault α} {s' : Scene ε} {s₀' : Scene ε₀}
    (hw : w s = .done result s') (hw₀ : w₀ s₀ = .done result s₀') (hr : K.rel s s₀ → K.rel s' s₀')
    (hq : ∀ a, result = .ok a → Q a) : w.Follows K s w₀ s₀ Q where
  ends h := by
    rw [hw, hw₀]
    exact ⟨s₀', rfl, hr h, hq⟩

theorem pure {a : α} (h : Q a) : (Walk.pure a).Follows K s (Walk.pure a) s₀ Q :=
  of_done rfl rfl id fun _ ha => by cases ha; exact h

theorem raise (fault : Fault) : (Walk.raise fault).Follows K s (Walk.raise fault) s₀ Q :=
  of_done rfl rfl id fun _ ha => nomatch ha

theorem ofExcept {result : Except Fault α} (h : ∀ a, result = .ok a → Q a) :
    (Walk.ofExcept result).Follows K s (Walk.ofExcept result) s₀ Q :=
  of_done rfl rfl id h

theorem read {f : Scene ε → Walk ε α} {f₀ : Scene ε₀ → Walk ε₀ α}
    (h : K.rel s s₀ → (f s).Follows K s (f₀ s₀) s₀ Q) :
    (Walk.scene >>= f).Follows K s (Walk.scene >>= f₀) s₀ Q :=
  ⟨fun hr => (h hr).ends hr⟩

theorem change {f : Context → Context} {Q : Unit → Prop}
    (h : K.rel s s₀ →
      K.rel { s with context := f s.context } { s₀ with context := f s₀.context })
    (hq : Q ()) : (Walk.change f).Follows K s (Walk.change f) s₀ Q :=
  of_done rfl rfl h fun _ _ => hq

theorem setPins {pins : Pins} {Q : Unit → Prop}
    (h : K.rel s s₀ → K.rel { s with pins := pins } { s₀ with pins := pins }) (hq : Q ()) :
    (Walk.setPins pins).Follows K s (Walk.setPins pins) s₀ Q :=
  of_done rfl rfl h fun _ _ => hq

theorem act {f : ε → Except Fault α × ε} {f₀ : ε₀ → Except Fault α × ε₀}
    (he : K.rel s s₀ → (f s.env).1 = (f₀ s₀.env).1)
    (h : K.rel s s₀ → K.rel { s with env := (f s.env).2 } { s₀ with env := (f₀ s₀.env).2 })
    (hq : K.rel s s₀ → ∀ a, (f s.env).1 = .ok a → Q a) :
    (Walk.act f).Follows K s (Walk.act f₀) s₀ Q := by
  refine of_rel fun hr => of_done rfl ?_ h (hq hr)
  rw [he hr]
  rfl

theorem ite {p : Prop} [Decidable p] {w' : Walk ε α} {w₀' : Walk ε₀ α}
    (h : p → w.Follows K s w₀ s₀ Q) (h' : ¬ p → w'.Follows K s w₀' s₀ Q) :
    (if p then w else w').Follows K s (if p then w₀ else w₀') s₀ Q := by
  split
  · next hp => exact h hp
  · next hp => exact h' hp

theorem bind {f : α → Walk ε β} {f₀ : α → Walk ε₀ β} {Q' : β → Prop} (h : w.Follows K s w₀ s₀ Q)
    (hf : ∀ a s' s₀', K.rel s' s₀' → Q a → (f a).Follows K s' (f₀ a) s₀' Q') :
    (w >>= f).Follows K s (w₀ >>= f₀) s₀ Q' where
  ends hr := by
    refine (h.ends hr).andThen fun result s' ⟨s₀', ho, hr', hq⟩ => ?_
    show Step.Ends K.regime (fun result s' => ∃ s₀', ((w₀ s₀).andThen _).outcome _ = _ ∧ _) _
    rw [Step.outcome_andThen, ho]
    cases result with
    | error fault => exact ⟨s₀', rfl, hr', fun _ he => nomatch he⟩
    | ok a => exact (hf a s' s₀' hr' (hq a rfl)).ends hr'

theorem rescue {f : Fault → Walk ε α} {f₀ : Fault → Walk ε₀ α} (h : w.Follows K s w₀ s₀ Q)
    (hf : ∀ fault s' s₀', (f fault).Follows K s' (f₀ fault) s₀' Q) :
    (w.rescue f).Follows K s (w₀.rescue f₀) s₀ Q where
  ends hr := by
    refine (h.ends hr).andThen fun result s' ⟨s₀', ho, hr', hq⟩ => ?_
    show Step.Ends K.regime (fun result s' => ∃ s₀', ((w₀ s₀).andThen _).outcome _ = _ ∧ _) _
    rw [Step.outcome_andThen, ho]
    cases result with
    | error fault => exact (hf fault s' s₀').ends hr'
    | ok a => exact ⟨s₀', rfl, hr', hq⟩

theorem closing {change : Context → Context} (h : w.Follows K s w₀ s₀ Q)
    (hc : ∀ s' s₀', K.rel s' s₀' →
      K.rel { s' with context := change s'.context } { s₀' with context := change s₀'.context }) :
    (w.closing change).Follows K s (w₀.closing change) s₀ Q where
  ends hr := by
    refine (h.ends hr).andThen fun result s' ⟨s₀', ho, hr', hq⟩ => ?_
    refine ⟨_, ?_, hc s' s₀' hr', hq⟩
    show ((w₀ s₀).andThen _).outcome _ = _
    rw [Step.outcome_andThen, ho]
    rfl

theorem each {f : α → Walk ε Unit} {f₀ : α → Walk ε₀ Unit} {l : List α}
    (hf : ∀ a s' s₀', K.rel s' s₀' → (f a).Follows K s' (f₀ a) s₀' fun _ => True) :
    (Walk.each f l).Follows K s (Walk.each f₀ l) s₀ fun _ => True := by
  induction l generalizing s s₀ with
  | nil => exact pure trivial
  | cons a rest ih => exact bind (.of_rel fun hr => hf a s s₀ hr) fun _ _ _ _ _ => ih

end Walk.Follows

end DeclarationFetch.Resolution
