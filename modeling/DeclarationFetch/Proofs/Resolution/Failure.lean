import DeclarationFetch.Proofs.Resolution.Regime

/-! # Walks that may fail

What holds where a walk fails, beside what holds where it comes through.

* `FaultRegime ε`: a regime with the faults that a walk may raise, and where. `FaultRegime.beyond`
  leaves out those that are caught.
* `Walk.Settles R w s Q`: from the valid scene `s` the walk `w` leads to a later scene with `Q`, or it
  fails as the regime allows. There is one rule for each way to build a walk.
-/

namespace DeclarationFetch.Resolution

variable {ε α β : Type}

namespace Step

def fault? : Step ε α → Option Fault
  | done (.error fault) _ => some fault
  | _ => none

end Step

/-- A regime with the faults that walks may raise. -/
structure FaultRegime (ε : Type) extends Regime ε where
  /-- A walk from the first scene may raise the fault in the second. -/
  raised : Fault → Scene ε → Scene ε → Prop
  raised_of_since : ∀ {fault s s' s''}, since s s' → raised fault s' s'' → raised fault s s''

namespace FaultRegime

variable {R : FaultRegime ε} {s s' s'' : Scene ε}

/-- A walk from `s` has come through to a later scene with `Q`, or it has failed. -/
def Settled (R : FaultRegime ε) (s : Scene ε) (Q : α → Scene ε → Prop) :
    Except Fault α → Scene ε → Prop
  | .ok a, s' => R.since s s' ∧ Q a s'
  | .error fault, s' => R.raised fault s s'

theorem Settled.of_since {Q : α → Scene ε → Prop} {result : Except Fault α} (hs : R.since s s')
    (h : R.Settled s' Q result s'') : R.Settled s Q result s'' := by
  cases result with
  | ok a => exact ⟨R.trans hs h.1, h.2⟩
  | error fault => exact R.raised_of_since hs h

/-- The faults that are left when some are caught. -/
def beyond (R : FaultRegime ε) (caught : Fault → Prop) : FaultRegime ε where
  toRegime := R.toRegime
  raised fault s s' := R.raised fault s s' ∧ ¬ caught fault
  raised_of_since hs h := ⟨R.raised_of_since hs h.1, h.2⟩

end FaultRegime

namespace Walk

/-- From a valid scene the walk leads to a later scene with `Q`, or it fails as the regime allows. -/
structure Settles (R : FaultRegime ε) (w : Walk ε α) (s : Scene ε) (Q : α → Scene ε → Prop) :
    Prop where
  ends : R.valid s → (w s).Ends R.toRegime (R.Settled s Q)

namespace Settles

variable {R : FaultRegime ε} {s : Scene ε} {w : Walk ε α} {Q Q' : α → Scene ε → Prop}

theorem of_eq_done {result : Except Fault α} {s' : Scene ε} (hw : w s = .done result s')
    (h : R.Settled s Q result s') : w.Settles R s Q where
  ends _ := by
    rw [hw]
    exact h

theorem pure {a : α} (h : Q a s) : (Walk.pure a).Settles R s Q := of_eq_done rfl ⟨R.refl s, h⟩

theorem read {f : Scene ε → Walk ε α} (h : (f s).Settles R s Q) :
    (Walk.scene >>= f).Settles R s Q := ⟨h.ends⟩

theorem ofExcept {result : Except Fault α} (h : ∀ a, result = .ok a → Q a s)
    (hf : ∀ fault, result = .error fault → R.raised fault s s) :
    (Walk.ofExcept result).Settles R s Q := by
  refine of_eq_done rfl ?_
  cases result with
  | ok a => exact ⟨R.refl s, h a rfl⟩
  | error fault => exact hf fault rfl

theorem act {f : ε → Except Fault α × ε} {a : α} (hf : (f s.env).1 = .ok a)
    (hs : R.since s { s with env := (f s.env).2 }) (hq : Q a { s with env := (f s.env).2 }) :
    (Walk.act f).Settles R s Q := by
  refine of_eq_done rfl ?_
  rw [hf]
  exact ⟨hs, hq⟩

theorem change {f : Context → Context} {Q : Unit → Scene ε → Prop}
    (hs : R.since s { s with context := f s.context }) (hq : Q () { s with context := f s.context }) :
    (Walk.change f).Settles R s Q := of_eq_done rfl ⟨hs, hq⟩

theorem setPins {pins : Pins} {Q : Unit → Scene ε → Prop} (hs : R.since s { s with pins := pins })
    (hq : Q () { s with pins := pins }) : (Walk.setPins pins).Settles R s Q :=
  of_eq_done rfl ⟨hs, hq⟩

theorem request {r : Request} {Q : Option String → Scene ε → Prop} (hask : R.asks r s)
    (h : ∀ answer s', R.answers r s answer s' → R.Settled s Q answer s') :
    (Walk.request r).Settles R s Q := ⟨fun _ => ⟨hask, h⟩⟩

theorem bind {f : α → Walk ε β} {Q' : β → Scene ε → Prop} (h : w.Settles R s Q)
    (hf : ∀ a s', R.since s s' → Q a s' → (f a).Settles R s' Q') : (w >>= f).Settles R s Q' where
  ends hv := by
    refine (h.ends hv).andThen fun result s' hr => ?_
    cases result with
    | error fault => exact hr
    | ok a =>
      have hnext := (hf a s' hr.1 hr.2).ends (R.valid_of_since hr.1 hv)
      exact hnext.mono fun _ _ => .of_since hr.1

/-- Goes on after a fault: some faults are caught, and the others are passed on. -/
theorem rescue {caught : Fault → Prop} {f : Fault → Walk ε α} (h : w.Settles R s Q)
    (hf : ∀ fault s', R.valid s → R.raised fault s s' →
      (f fault s').Ends R.toRegime ((R.beyond caught).Settled s Q)) :
    (w.rescue f).Settles (R.beyond caught) s Q where
  ends hv := by
    refine (h.ends hv).andThen fun result s' hr => ?_
    cases result with
    | ok a => exact hr
    | error fault => exact hf fault s' hv hr

theorem closing {change : Context → Context} (h : w.Settles R s Q)
    (hc : ∀ result s', R.Settled s Q result s' →
      R.Settled s Q' result { s' with context := change s'.context }) :
    (w.closing change).Settles R s Q' where
  ends hv := (h.ends hv).andThen fun result s' hr => hc result s' hr

theorem each {f : α → Walk ε Unit} {l : List α}
    (hf : ∀ a ∈ l, ∀ s, (f a).Settles R s fun _ _ => True) :
    (Walk.each f l).Settles R s fun _ _ => True := by
  induction l generalizing s with
  | nil => exact pure trivial
  | cons a rest ih =>
    refine bind (hf a (List.mem_cons_self ..) s) fun _ s' _ _ => ?_
    exact ih fun b hb => hf b (List.mem_cons_of_mem a hb)

end Settles
end Walk

end DeclarationFetch.Resolution
