import DeclarationFetch.Proofs.Resolution.Policy

/-! # Nesting of expansions

How many expansions of files lie inside one another in a pass, whatever the collaborators do and
whatever the source answers.

* `openings`: the expansions that have begun and go on, by the history of a pass.
* `peak`: the most that went on at any moment of the history.
* `pass_peak_le`: a pass comes to its end, and the peak stays within the product of the crossings that it
  is given and the files on a way through one package.
-/

namespace DeclarationFetch.Resolution

variable {ε : Type} {c : Collaborators ε}

/-! ## Openings -/

/-- The expansions that have begun and go on. -/
def openings : List Milestone → Nat
  | [] => 0
  | .entered _ :: history => openings history + 1
  | .left :: history => openings history - 1
  | .expanded .. :: history => openings history

/-- The most expansions that went on at a time. -/
def peak : List Milestone → Nat
  | [] => 0
  | m :: history => max (openings (m :: history)) (peak history)

theorem peak_cons_le {m : Milestone} {history : List Milestone} {bound : Nat}
    (h : peak history ≤ bound) (hm : openings (m :: history) ≤ bound) :
    peak (m :: history) ≤ bound :=
  Nat.max_le.mpr ⟨hm, h⟩

theorem openings_le_peak (history : List Milestone) : openings history ≤ peak history := by
  cases history with
  | nil => exact Nat.le_refl 0
  | cons m history => exact Nat.le_max_left ..

namespace Nesting

/-! ## The policy -/

/-- From one scene to a later one, as many expansions go on, and never more than the bound did. -/
def Since (bound : Nat) (s s' : Scene ε) : Prop :=
  openings s'.context.history = openings s.context.history ∧
    (peak s.context.history ≤ bound → peak s'.context.history ≤ bound)

theorem Since.of_history_eq {bound : Nat} {s s' : Scene ε}
    (h : s'.context.history = s.context.history) : Since bound s s' := by
  unfold Since
  rw [h]
  exact ⟨rfl, id⟩

theorem Since.trans {bound : Nat} {s s' s'' : Scene ε} (h : Since bound s s')
    (h' : Since bound s' s'') : Since bound s s'' :=
  ⟨h'.1.trans h.1, fun hp => h'.2 (h.2 hp)⟩

def regime (ε : Type) (bound : Nat) : Regime ε where
  asks _ s := peak s.context.history ≤ bound
  answers _ s _ s' := s'.context.history = s.context.history
  valid s := peak s.context.history ≤ bound
  since := Since bound
  refl _ := .of_history_eq rfl
  trans := Since.trans
  valid_of_since h hv := h.2 hv

theorem Since.injected {bound : Nat} {path text : String} {s s' : Scene ε} {result : Except Fault Unit}
    (h : Injected c path text s result s') : Since bound s s' :=
  .of_history_eq h.history_eq

def account (c : Collaborators ε) (bound : Nat) : Account c where
  toRegime := regime ε bound
  found _ _ _ _ := True
  pursued _ _ := True
  found_of_since _ _ := trivial
  pursued_of_since _ _ := trivial
  reported _ _ := .of_history_eq rfl
  cached _ _ := ⟨.of_history_eq rfl, fun _ _ => trivial⟩
  asked hv hs _ := hs.2 hv
  answered _ _ h := ⟨.of_history_eq h, fun _ _ => trivial⟩
  stored _ _ _ := .of_history_eq rfl
  sought _ _ := .of_history_eq rfl
  injected _ _ _ h := .injected h
  pinned _ _ _ _ _ _ _ _ := .of_history_eq rfl
  looked _ _ := .of_history_eq rfl
  readied _ _ := .of_history_eq rfl
  failed _ _ := .of_history_eq rfl

/-- So many expansions still fit in: those along the package at hand, and for each crossing all the
steps with the file that it leads to. -/
def Room (bound fileSteps crossings files : Nat) (s : Scene ε) : Prop :=
  openings s.context.history + files + crossings * (fileSteps + 1) ≤ bound

theorem Room.of_since {bound fileSteps crossings files : Nat} {s s' : Scene ε}
    (h : Since bound s s') (hr : Room bound fileSteps crossings files s) :
    Room bound fileSteps crossings files s' := by
  unfold Room at hr ⊢
  rwa [h.1]

/-- Room for one more expansion is what it takes to begin one, and the room within is what is left. -/
def policy (c : Collaborators ε) (bound fileSteps : Nat) : Policy c fileSteps where
  toAccount := account c bound
  takes a b _ s := Room bound fileSteps a (b + 1) s
  opens a b _ s := Room bound fileSteps a b s
  parses a b _ s := Room bound fileSteps a b s
  takes_of_since hs h := h.of_since hs
  opens_of_since hs h := h.of_since hs
  parses_of_since hs h := h.of_since hs
  pursued_of_takes _ := trivial
  pursued_of_opens _ := trivial
  marked key _ := .of_history_eq (Context.history_mark ..)
  root _ h _ := h
  entered {a b r w s} hv h hn := by
    have hle : openings s.context.history + (b + 1) + a * (fileSteps + 1) ≤ bound := h
    refine ⟨peak_cons_le hv ?_, ?_, hn⟩
    · show openings s.context.history + 1 ≤ bound
      omega
    · show openings s.context.history + 1 + b + a * (fileSteps + 1) ≤ bound
      omega
  left {s s' w} hv hv' hs := by
    have hopen : openings s'.context.history = openings s.context.history + 1 := hs.1
    have hlast : openings (.left :: s'.context.history) = openings s.context.history := by
      rw [openings, hopen, Nat.add_sub_cancel]
    refine ⟨hlast, fun hb => peak_cons_le hv' ?_⟩
    rw [hlast]
    exact Nat.le_trans (openings_le_peak _) hb
  expanded {a b r f s s' version result} _ ho _ _ hi := by
    have hh := hi.history_eq
    have hopen : openings s'.context.history = openings s.context.history := by
      rw [hh]
      rfl
    have hs : Since bound s s' := by
      refine ⟨hopen, fun hb => ?_⟩
      rw [hh]
      exact peak_cons_le hb (Nat.le_trans (openings_le_peak s.context.history) hb)
    exact ⟨hs, ho.of_since hs⟩
  crosses {a b f r s} h _ _ := by
    have hle : openings s.context.history + b + (a + 1) * (fileSteps + 1) ≤ bound := h
    show openings s.context.history + (fileSteps + 1) + a * (fileSteps + 1) ≤ bound
    rw [Nat.succ_mul] at hle
    omega
  stays h _ _ := h

end Nesting

/-! ## The peak of a pass -/

/-- A pass over a source text in a directory ends after finitely many fetches, whatever the answers and
the collaborators, and at no moment do more expansions of files go on than there are crossings times the
files on a way through one package. -/
theorem pass_peak_le (c : Collaborators ε) (source directory : String) (budget : Budget)
    (s : Scene ε) (play : Play ε) :
    (∃ n result s',
      (pass c source (.directory directory) budget s).after play n = .done result s') ∧
    ∀ n, peak ((pass c source (.directory directory) budget s).after play n).scene.context.history ≤
      budget.packageDepth.toNat * (1 + budget.initialFileDepth.toNat) := by
  refine ⟨Step.exists_after_eq_done _ play, fun n => ?_⟩
  let bound := budget.packageDepth.toNat * (1 + budget.initialFileDepth.toNat)
  have hv : (Nesting.regime ε bound).valid { s with context := {} } := Nat.zero_le _
  have hends : (pass c source (.directory directory) budget s).Ends (Nesting.regime ε bound)
      fun _ s' => Nesting.Since bound { s with context := {} } s' := by
    refine (Nesting.policy c bound budget.initialFileDepth.toNat).pass source rfl rfl
      (fun r m _ _ hm => ?_) hv
    -- the first crossing brings a file and its chain of steps, and so does each of those left
    show 0 + (budget.initialFileDepth.toNat + 1) + m * (budget.initialFileDepth.toNat + 1) ≤
      budget.packageDepth.toNat * (1 + budget.initialFileDepth.toNat)
    rw [hm, Nat.succ_mul, Nat.add_comm 1]
    omega
  exact (hends.after (fun _ _ _ _ => rfl) n).scene (fun _ _ h => h) fun _ _ h => h.2 hv

end DeclarationFetch.Resolution
