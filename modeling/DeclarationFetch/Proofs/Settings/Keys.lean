import DeclarationFetch.Value

/-! # What is held under a key

Two keys are the same if they stand for one thing, which is what `key?` tells. So sameness is symmetric and
transitive, and a mapping answers alike to keys that are the same.

* `sameKey_iff`: keys are the same if they stand for one thing.
* `lookup_put`: what a mapping holds under each key once a value is put under one.
* `Keyed`: what is true of the keys of a mapping and of the keys of the mappings that it holds.
-/

namespace DeclarationFetch

/-! ## Whole doubles -/

namespace Double

theorem one_pos : 0 < one := by decide +kernel

theorem signed_mul (negative : Bool) (m n : Nat) : signed negative (m * n) = signed negative m * n := by
  cases negative
  · exact Int.natCast_mul m n
  · simp only [signed, if_true, Int.natCast_mul, Int.neg_mul]

theorem whole?_finite_eq_some_iff {negative : Bool} {units : Nat} {n : Int} :
    (finite negative units).whole? = some n ↔ signed negative units = n * one := by
  have hpos := one_pos
  unfold whole?
  dsimp only
  generalize one = one at hpos ⊢
  by_cases hwhole : one ∣ units
  · obtain ⟨k, rfl⟩ := hwhole
    rw [if_pos (Nat.mul_mod_right one k), Nat.mul_div_cancel_left k hpos, Nat.mul_comm, signed_mul,
      Option.some_inj]
    exact ⟨congrArg (· * (one : Int)), Int.eq_of_mul_eq_mul_right (by omega)⟩
  · rw [if_neg fun h => hwhole (Nat.dvd_of_mod_eq_zero h)]
    refine ⟨nofun, fun h => absurd ?_ hwhole⟩
    have hdvd : (one : Int) ∣ signed negative units := ⟨n, h.trans (Int.mul_comm _ _)⟩
    cases negative
    · exact Int.natCast_dvd_natCast.mp hdvd
    · exact Int.natCast_dvd_natCast.mp (Int.dvd_neg.mp hdvd)

theorem eq_finite_iff {s t : Bool} {m n : Nat} :
    (finite s m).eq (finite t n) = true ↔ signed s m = signed t n := by
  simp only [eq, le, Bool.and_eq_true, decide_eq_true_eq]
  omega

end Double

namespace Value

/-! ## What keys stand for -/

/-- What a key stands for. -/
inductive Key where
  | null
  | text (s : String)
  | bytes (b : List UInt8)
  | date (d : Day)
  /-- A moment in microseconds, by a clock that says how far it is ahead or by one that does not. -/
  | moment (told : Bool) (micros : Int)
  /-- A number in units of the least positive double. -/
  | number (units : Int)
  | infinite (negative : Bool)
  | nan

/-- What a key stands for; nothing for a key under which nothing can be found. -/
def key? : Value → Option Key
  | null => some .null
  | bool b => some (.number ((if b then 1 else 0) * Double.one))
  | int n => some (.number (n * Double.one))
  | float (.finite negative units) => some (.number (Double.signed negative units))
  | float (.infinite negative) => some (.infinite negative)
  | float (.nan negative) => if negative then some .nan else none
  | text s => some (.text s)
  | bytes b => some (.bytes b)
  | date d => some (.date d)
  | moment m => some (.moment m.ahead.isSome (m.shown - m.ahead.getD 0 * 60000000))
  | list _ => none
  | set _ => none
  | map _ => none

variable {a b c key other : Value} {entries : List (Value × Value)} {value held : Value}

theorem same_iff {m n : Moment} :
    m.same n = true ↔ m.ahead.isSome = n.ahead.isSome ∧
      m.shown - m.ahead.getD 0 * 60000000 = n.shown - n.ahead.getD 0 * 60000000 := by
  unfold Moment.same
  cases m.ahead <;> cases n.ahead <;> simp

/-- Two floats are the same key if they are equal, or are both the one that is written `.nan`. -/
theorem sameKey_float_iff {x y : Double} :
    (float x).sameKey (float y) = true ↔
      ∃ k, (float x).key? = some k ∧ (float y).key? = some k := by
  cases x with
  | nan s => cases y <;> cases s <;> simp [sameKey, key?, Double.eq, Double.le]
  | infinite s => cases y <;> cases s <;> simp [sameKey, key?, Double.eq, Double.le]
  | finite s m =>
    cases y with
    | nan t => cases t <;> simp [sameKey, key?, Double.eq, Double.le]
    | infinite t => cases t <;> simp [sameKey, key?, Double.eq, Double.le]
    | finite t n =>
      have hnan : (Double.finite s m == .nan true) = false := rfl
      simp only [sameKey, key?, hnan, Bool.false_and, Bool.or_false, Double.eq_finite_iff, Option.some_inj,
        exists_eq_left', Key.number.injEq]
      exact eq_comm

theorem key?_eq_number_iff {n : Int} :
    a.key? = some (.number (n * Double.one)) ↔ a.keyNumber? = some n := by
  have hinj {m : Int} : m * Double.one = n * Double.one ↔ m = n :=
    Int.mul_eq_mul_right_iff (Int.natCast_ne_zero.mpr (Nat.ne_of_gt Double.one_pos))
  cases a with
  | bool b => simp only [key?, keyNumber?, Option.some_inj, Key.number.injEq, hinj]
  | int m => simp only [key?, keyNumber?, Option.some_inj, Key.number.injEq, hinj]
  | float x =>
    cases x with
    | nan s => cases s <;> exact ⟨nofun, nofun⟩
    | infinite => exact ⟨nofun, nofun⟩
    | finite s m =>
      simp only [key?, keyNumber?, Option.some_inj, Key.number.injEq, Double.whole?_finite_eq_some_iff]
  | _ => exact ⟨nofun, nofun⟩

/-- A number that is no float is the same key as what stands for that number. -/
theorem sameKey_number_iff {n : Int} (ha : a.keyNumber? = some n) (hne : ∀ x, a ≠ float x) :
    (a.sameKey b = true ↔ ∃ k, a.key? = some k ∧ b.key? = some k) ∧
      (b.sameKey a = true ↔ ∃ k, b.key? = some k ∧ a.key? = some k) := by
  simp only [@and_comm (b.key? = _), key?_eq_number_iff.mpr ha, Option.some_inj, exists_eq_left',
    key?_eq_number_iff]
  cases a with
  | bool | int =>
    cases ha
    cases b with
    | float x =>
      simp only [sameKey, keyNumber?]
      cases x.whole? <;> simp [eq_comm]
    | _ => simp [sameKey, keyNumber?, eq_comm]
  | float x => exact absurd rfl (hne x)
  | _ => cases ha

theorem sameKey_iff : a.sameKey b = true ↔ ∃ k, a.key? = some k ∧ b.key? = some k := by
  cases a with
  | bool c => exact (sameKey_number_iff rfl (by simp)).1
  | int n => exact (sameKey_number_iff rfl (by simp)).1
  | float x =>
    cases b with
    | bool | int => exact (sameKey_number_iff rfl (by simp)).2
    | float y => exact sameKey_float_iff
    | _ => cases x with
      | nan s => cases s <;> simp [sameKey, key?, keyNumber?]
      | infinite | finite => simp [sameKey, key?, keyNumber?]
  | moment m =>
    cases b with
    | bool | int => exact (sameKey_number_iff rfl (by simp)).2
    | moment n =>
      simp only [sameKey, key?, same_iff, Option.some_inj, exists_eq_left', Key.moment.injEq]
      exact and_congr eq_comm eq_comm
    | float y => cases y <;> simp [sameKey, key?, keyNumber?]
    | _ => simp [sameKey, key?, keyNumber?]
  | _ =>
    cases b with
    | bool | int => exact (sameKey_number_iff rfl (by simp)).2
    | float y => cases y <;> simp [sameKey, key?, keyNumber?]
    | text t | bytes t | date t => simp [sameKey, key?, keyNumber?, @eq_comm _ t]
    | _ => simp [sameKey, key?, keyNumber?]

theorem sameKey_congr (h : a.sameKey b = true) (c : Value) : c.sameKey a = c.sameKey b := by
  obtain ⟨k, ha, hb⟩ := sameKey_iff.mp h
  rw [Bool.eq_iff_iff, sameKey_iff, sameKey_iff, ha, hb]

theorem sameKey_congr_left (h : a.sameKey b = true) (c : Value) : a.sameKey c = b.sameKey c := by
  obtain ⟨k, ha, hb⟩ := sameKey_iff.mp h
  rw [Bool.eq_iff_iff, sameKey_iff, sameKey_iff, ha, hb]

/-! ## Looking up and putting -/

theorem lookup_congr (h : a.sameKey b = true) : lookup entries a = lookup entries b := by
  induction entries with
  | nil => rfl
  | cons entry rest ih => rw [lookup, lookup, sameKey_congr h, ih]

theorem exists_mem_of_lookup (h : lookup entries key = some value) :
    ∃ name, (name, value) ∈ entries ∧ name.sameKey key = true := by
  induction entries with
  | nil => cases h
  | cons entry rest ih =>
    rw [lookup] at h
    split at h
    · next hsame => exact ⟨entry.1, Option.some.inj h ▸ List.mem_cons_self, hsame⟩
    · obtain ⟨name, hmem, hsame⟩ := ih h
      exact ⟨name, List.mem_cons_of_mem _ hmem, hsame⟩

theorem lookup_eq_none_iff :
    lookup entries key = none ↔ ∀ name ∈ entries.map Prod.fst, name.sameKey key = false := by
  induction entries with
  | nil => simp [lookup]
  | cons entry rest ih =>
    rw [lookup, List.map_cons, List.forall_mem_cons, ← ih]
    cases entry.1.sameKey key <;> simp

/-- What is put under a key is held under all that are the same, and nothing else changes. -/
theorem lookup_put : lookup (put entries key value) other =
    if key.sameKey other = true then some value else lookup entries other := by
  induction entries with
  | nil => rfl
  | cons entry rest ih =>
    by_cases hname : entry.1.sameKey key = true
    · rw [put, if_pos hname, lookup, lookup, sameKey_congr_left hname]
      split <;> rfl
    · rw [put, if_neg hname, lookup, ih, lookup]
      split
      · next hother =>
        rw [if_neg fun hkey => hname ((sameKey_congr hkey entry.1).trans hother)]
      · rfl

theorem put_eq_self (h : lookup entries key = some value) : put entries key value = entries := by
  induction entries with
  | nil => cases h
  | cons entry rest ih =>
    rw [lookup] at h
    rw [put]
    split at h
    · next hname => rw [if_pos hname, ← Option.some.inj h]
    · next hname => rw [if_neg hname, ih h]

theorem mem_put {entry : Value × Value} (h : entry ∈ put entries key value) :
    entry ∈ entries ∨ entry.2 = value := by
  induction entries with
  | nil => exact .inr (List.mem_singleton.mp h ▸ rfl)
  | cons first rest ih =>
    rw [put] at h
    split at h
    · rcases List.mem_cons.mp h with rfl | hrest
      · exact .inr rfl
      · exact .inl (List.mem_cons_of_mem _ hrest)
    · rcases List.mem_cons.mp h with rfl | hrest
      · exact .inl List.mem_cons_self
      · exact (ih hrest).imp_left (List.mem_cons_of_mem _)

theorem keys_put (hnone : lookup entries key = none) :
    (put entries key value).map Prod.fst = entries.map Prod.fst ++ [key] := by
  induction entries with
  | nil => rfl
  | cons entry rest ih =>
    rw [lookup] at hnone
    split at hnone
    · cases hnone
    · next hname => rw [put, if_neg hname, List.map_cons, ih hnone, List.map_cons, List.cons_append]

theorem keys_put_of_lookup (hsome : lookup entries key = some held) :
    (put entries key value).map Prod.fst = entries.map Prod.fst := by
  induction entries with
  | nil => cases hsome
  | cons entry rest ih =>
    rw [lookup] at hsome
    rw [put]
    split at hsome
    · next hname => rw [if_pos hname, List.map_cons, List.map_cons]
    · next hname => rw [if_neg hname, List.map_cons, List.map_cons, ih hsome]

/-! ## Keys at every depth -/

def Distinct (keys : List Value) : Prop := keys.Pairwise fun a b => a.sameKey b = false

/-- Keys that are found again. What is not a number is equal to nothing, except where it is written as
such. -/
def Findable (keys : List Value) : Prop := ∀ key ∈ keys, key.sameKey key = true

theorem distinct_put (h : Distinct (entries.map Prod.fst)) :
    Distinct ((put entries key value).map Prod.fst) := by
  cases hheld : lookup entries key with
  | some held => exact keys_put_of_lookup hheld ▸ h
  | none =>
    rw [keys_put hheld, Distinct, List.pairwise_append]
    refine ⟨h, List.pairwise_singleton _ _, fun name hname other hother => ?_⟩
    exact List.mem_singleton.mp hother ▸ lookup_eq_none_iff.mp hheld name hname

theorem lookup_of_mem (hdistinct : Distinct (entries.map Prod.fst)) (hmem : (key, value) ∈ entries)
    (hself : key.sameKey key = true) : lookup entries key = some value := by
  induction entries with
  | nil => cases hmem
  | cons entry rest ih =>
    obtain ⟨hfirst, hrest⟩ := List.pairwise_cons.mp hdistinct
    rw [lookup]
    rcases List.mem_cons.mp hmem with rfl | hmem
    · rw [if_pos hself]
    · rw [if_neg (Bool.not_eq_true _ ▸ hfirst key (List.mem_map_of_mem hmem)), ih hrest hmem]

def isMapping : Value → Bool
  | map _ => true
  | _ => false

/-- Where the keys of a mapping are good, and of the mappings that it holds at any depth. -/
inductive Keyed (good : List Value → Prop) : Value → Prop
  | leaf {value : Value} (h : value.isMapping = false) : Keyed good value
  | map {entries : List (Value × Value)} (keys : good (entries.map Prod.fst))
      (nested : ∀ entry ∈ entries, Keyed good entry.2) : Keyed good (.map entries)

theorem Keyed.of_map {good : List Value → Prop} (h : Keyed good (.map entries)) :
    good (entries.map Prod.fst) ∧ ∀ entry ∈ entries, Keyed good entry.2 := by
  cases h with
  | leaf h => cases h
  | map hkeys hnested => exact ⟨hkeys, hnested⟩

theorem Keyed.put (h : Keyed Distinct (.map entries)) (hvalue : Keyed Distinct value) :
    Keyed Distinct (.map (Value.put entries key value)) := by
  obtain ⟨hkeys, hnested⟩ := h.of_map
  refine .map (distinct_put hkeys) fun entry hmem => ?_
  rcases mem_put hmem with hold | hnew
  · exact hnested entry hold
  · exact hnew ▸ hvalue

/-- Of keys that are the same only one stays in a mapping. -/
theorem Keyed.ofEntries (h : ∀ entry ∈ entries, Keyed Distinct entry.2) :
    Keyed Distinct (Value.ofEntries entries) :=
  List.foldlRecOn (motive := fun held => Keyed Distinct (.map held)) entries _ (.map .nil nofun)
    fun _ hheld entry hmem => hheld.put (h entry hmem)

end Value

end DeclarationFetch
