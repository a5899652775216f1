import DeclarationFetch.Clock
import Mathlib.Algebra.Group.Nat.Defs

/-! # Timers that are due

A timer goes off a tick before its instant at the earliest. Whether it has gone off once its instant is past
depends on rounding: a tick has to be more than half the distance of two doubles, as it is in the first
`2 ^ 24` seconds of a clock.

* `le_roundDiv`: rounding takes away no more than half of what it rounds to.
* `lt_rounded`: so what is added counts if it is more than that.
* `reached_of_le`: an instant that is past has been reached.
-/

namespace DeclarationFetch

namespace Double

/-! ## Rounding -/

theorem le_roundDiv (numerator : Nat) {denominator : Nat} (h : 0 < denominator) :
    2 * numerator ≤ 2 * (roundDiv numerator denominator * denominator) + denominator := by
  have hdiv := Nat.div_add_mod' numerator denominator
  have hmod := Nat.mod_lt numerator h
  unfold roundDiv
  dsimp only
  split
  · omega
  · rw [Nat.add_mul, Nat.one_mul]
    omega

theorem div_le_roundDiv (numerator denominator : Nat) :
    numerator / denominator ≤ roundDiv numerator denominator := by
  unfold roundDiv
  dsimp only
  split <;> omega

/-- Rounding to a number of binary places crosses nothing that has no more places itself. -/
theorem le_rounded {bound units denominator : Nat} (hpos : 0 < denominator) (hdvd : denominator ∣ bound)
    (h : bound ≤ units) : bound ≤ roundDiv units denominator * denominator := by
  obtain ⟨k, rfl⟩ := hdvd
  rw [Nat.mul_comm]
  refine Nat.mul_le_mul_right _ (Nat.le_trans ?_ (div_le_roundDiv _ _))
  exact (Nat.le_div_iff_mul_le hpos).mpr (Nat.mul_comm denominator k ▸ h)

theorem spare_le {units bits : Nat} (h : units < 2 ^ (bits + 1)) : spare units ≤ bits - 52 := by
  unfold spare
  split
  · exact Nat.zero_le _
  · next hlarge =>
    have hpos : units ≠ 0 := fun hz => hlarge (hz ▸ Nat.pow_pos (by decide))
    have hlog := (Nat.log2_lt hpos).mpr h
    omega

/-- A sum is more than its first part after rounding, if the second part is more than half the distance
of two doubles there. -/
theorem lt_rounded {units more bits : Nat} (hunits : units < 2 ^ (bits + 1))
    (hmore : more < 2 ^ (bits + 1)) (hhalf : 2 ^ (bits - 52) < 2 * more) :
    units < roundDiv (units + more) (2 ^ spare (units + more)) * 2 ^ spare (units + more) := by
  have hpos : 0 < 2 ^ spare (units + more) := Nat.pow_pos (by decide)
  by_cases hbelow : units + more < 2 ^ (bits + 1)
  · have hround := le_roundDiv (units + more) hpos
    have hspare : 2 ^ spare (units + more) ≤ 2 ^ (bits - 52) :=
      Nat.pow_le_pow_right (by decide) (spare_le hbelow)
    omega
  · have hspare : spare (units + more) ≤ bits + 1 - 52 :=
      spare_le (by rw [Nat.pow_succ]; omega)
    have hdvd : 2 ^ spare (units + more) ∣ 2 ^ (bits + 1) := Nat.pow_dvd_pow 2 (by omega)
    exact Nat.lt_of_lt_of_le hunits (le_rounded hpos hdvd (Nat.le_of_not_lt hbelow))

end Double

namespace Instant

open Double

/-! ## Ticks -/

def tickUnits : Nat := 0x112e0be826d695 * Nat.pow 2 992

theorem tick_eq : tick = .finite false tickUnits := by decide +kernel

theorem tickUnits_pos : 0 < tickUnits := by decide +kernel

theorem tickUnits_lt : tickUnits < 2 ^ (1097 + 1) := by decide +kernel

theorem half_lt_tickUnits : 2 ^ (1097 - 52) < 2 * tickUnits := by decide +kernel

theorem zero_eq : (0.0 : Double) = .finite false 0 := by decide +kernel

theorem last_eq : (16777216.0 : Double) = .finite false (2 ^ (1097 + 1)) := by decide +kernel

theorem early_eq {now : Instant} (hstart : Double.le 0.0 now = true) (hlast : now.lt 16777216.0 = true) :
    ∃ negative units, now = .finite negative units ∧ signed negative units = units ∧
      units < 2 ^ (1097 + 1) := by
  rw [last_eq] at hlast
  rw [zero_eq] at hstart
  cases now with
  | nan negative => cases hstart
  | infinite negative => cases negative <;> simp [Double.le, Double.lt] at hstart hlast
  | finite negative units =>
    have hsigned : signed negative units = units := by
      simp only [Double.le, decide_eq_true_eq] at hstart
      unfold signed at hstart ⊢
      split
      · next hnegative =>
        rw [hnegative] at hstart
        simp at hstart
        omega
      · rfl
    refine ⟨negative, units, rfl, hsigned, ?_⟩
    simp only [Double.lt, Double.le, hsigned, Bool.and_eq_true, Bool.not_eq_true',
      decide_eq_false_iff_not] at hlast
    have hlt := hlast.2
    unfold signed at hlt
    simp only [Bool.false_eq_true, if_false] at hlt
    omega

theorem add_tick {negative : Bool} {units : Nat} (h : signed negative units = units) :
    (Double.finite negative units + tick : Double) = ofUnits false (units + tickUnits) 1 := by
  rw [tick_eq]
  show Double.add (.finite negative units) (.finite false tickUnits) = _
  have hsum : signed negative units + signed false tickUnits = ((units + tickUnits : Nat) : Int) := by
    rw [h]
    rfl
  have hpos := tickUnits_pos
  unfold Double.add
  dsimp only
  rw [hsum, if_neg (by omega), decide_eq_false (by omega), Int.natAbs_natCast]

theorem not_le_of_le {due : Instant} {negative : Bool} {units later : Nat}
    (h : due.le (.finite negative units) = true) (hsigned : signed negative units = units)
    (hlater : units < later) :
    (Double.finite false later).le due = false ∧ (Double.infinite false).le due = false := by
  cases due with
  | nan below => cases h
  | infinite below =>
    cases below with
    | false => cases h
    | true => exact ⟨rfl, rfl⟩
  | finite below dueUnits =>
    simp only [Double.le, decide_eq_true_eq, hsigned] at h
    refine ⟨decide_eq_false fun hle => ?_, rfl⟩
    have hle : (later : Int) ≤ signed below dueUnits := hle
    omega

theorem reached_of_le {due now : Instant} (hstart : Double.le 0.0 now = true)
    (hlast : now.lt 16777216.0 = true) (h : due.le now = true) : reached due now = true := by
  obtain ⟨negative, units, rfl, hsigned, hunits⟩ := early_eq hstart hlast
  have hround := lt_rounded hunits tickUnits_lt half_lt_tickUnits
  obtain ⟨hfinite, hinfinite⟩ := not_le_of_le h hsigned hround
  rw [reached, Bool.not_eq_true', add_tick hsigned, ofUnits, Nat.div_one, Nat.one_mul]
  split
  · exact hfinite
  · exact hinfinite

end Instant

end DeclarationFetch
