import DeclarationFetch.Proofs.Path.Joining
import Mathlib.Logic.ExistsUnique
import Mathlib.Logic.Relation

/-! # Joined paths by cancelling

What a joined path is, told by what may be taken out of the text of its segments.

* `Cancels absolute l l'`: one part, or a part and the up behind it, is taken out of the parts of a path.
* `Cancelled absolute l`: nothing more can be taken out. `cancels_reduce` and `eq_reduce`: there is one way to
  come to such parts, and the normal form has them.
* `spell`: parts written out, with what stands before them and with a slash at the end.
* `PosixPath segments path`: the path that POSIX joining gives. `join_posix`: so does `join`, except that it
  keeps both slashes where the text starts with exactly two.
-/

namespace DeclarationFetch.Path

open Relation (ReflTransGen)

variable {absolute trailing : Bool} {l l' stack names : List (List Char)} {lead path : List Char}
  {segments : List String}

/-! ## Taking parts out -/

inductive Cancels (absolute : Bool) : List (List Char) → List (List Char) → Prop
  /-- An empty part and `.` stand for nothing. -/
  | dropped (before : List (List Char)) {part : List Char} (after : List (List Char))
      (h : part = [] ∨ part = here) : Cancels absolute (before ++ part :: after) (before ++ after)
  /-- An up takes the part right before it away. -/
  | paired (before : List (List Char)) {name : List Char} (after : List (List Char)) (h : Plain name) :
      Cancels absolute (before ++ name :: up :: after) (before ++ after)
  /-- Nothing is above the root. -/
  | atRoot (after : List (List Char)) (h : absolute = true) : Cancels absolute (up :: after) after

/-- Ups, of which the root has none, and then plain parts. -/
structure Cancelled (absolute : Bool) (l : List (List Char)) : Prop where
  shape : ∃ n names, l = List.replicate n up ++ names ∧ ∀ p ∈ names, Plain p
  rooted : absolute = true → ∀ p ∈ l, Plain p

theorem reduce_of_cancels (h : Cancels absolute l l') : reduce absolute l = reduce absolute l' := by
  cases h with
  | dropped before after h => simp only [reduce, List.foldl_append, List.foldl_cons, push_dropped h]
  | paired before after h =>
    simp only [reduce, List.foldl_append, List.foldl_cons, push_plain h, push_up_cons h.2.2]
  | atRoot after h =>
    subst h
    rfl

theorem reduce_of_cancelled (h : Cancelled absolute l) : reduce absolute l = l := by
  cases absolute with
  | true => exact reduce_of_plain (h.rooted rfl)
  | false =>
    obtain ⟨n, names, rfl, hn⟩ := h.shape
    have hups : (List.replicate n up).foldl (push false) [] = List.replicate n up := by
      simpa using foldl_push_ups n 0
    rw [reduce, List.foldl_append, hups, foldl_push_plain hn, List.reverse_append, List.reverse_reverse,
      List.reverse_replicate]

/-- However parts are taken out, what is left in the end is the normal form. -/
theorem eq_reduce (h : ReflTransGen (Cancels absolute) l l') (hc : Cancelled absolute l') :
    l' = reduce absolute l := by
  induction h using ReflTransGen.head_induction_on with
  | refl => exact (reduce_of_cancelled hc).symm
  | head hstep _ ih => rw [reduce_of_cancels hstep, ← ih]

/-! ## The normal form is one -/

theorem cancels_push (hs : ∀ p ∈ stack, p = up ∨ Plain p) (part : List Char) (rest : List (List Char)) :
    ReflTransGen (Cancels absolute) (stack.reverse ++ part :: rest)
      ((push absolute stack part).reverse ++ rest) := by
  have hstays : stack.reverse ++ part :: rest = (part :: stack).reverse ++ rest := by simp
  rcases dropped_or_up_or_plain part with hd | rfl | hp
  · rw [push_dropped hd]
    exact .single (.dropped _ _ hd)
  · cases stack with
    | nil =>
      cases absolute with
      | true => exact .single (.atRoot rest rfl)
      | false => exact .refl
    | cons top below =>
      rcases hs top (List.mem_cons_self ..) with rfl | htop
      · rw [push_up_up, hstays]
      · rw [push_up_cons htop.2.2, List.reverse_cons, List.append_assoc]
        exact .single (.paired _ _ htop)
  · rw [push_plain hp, hstays]

theorem cancels_foldl (stack : List (List Char)) (hs : ∀ p ∈ stack, p = up ∨ Plain p)
    (l : List (List Char)) :
    ReflTransGen (Cancels absolute) (stack.reverse ++ l) (l.foldl (push absolute) stack).reverse := by
  induction l generalizing stack with
  | nil => rw [List.append_nil, List.foldl_nil]
  | cons part rest ih =>
    have hpush : ∀ p ∈ push absolute stack part, p = up ∨ Plain p := fun p hp =>
      (mem_push hp).elim (hs p) And.right
    exact (cancels_push hs part rest).trans (ih _ hpush)

theorem cancels_reduce (absolute : Bool) (l : List (List Char)) :
    ReflTransGen (Cancels absolute) l (reduce absolute l) := cancels_foldl [] nofun l

theorem plain_push (hs : ∀ p ∈ stack, Plain p) (part : List Char) :
    ∀ p ∈ push true stack part, Plain p := by
  intro p hp
  rcases dropped_or_up_or_plain part with hd | rfl | hplain
  · rw [push_dropped hd] at hp
    exact hs p hp
  · cases stack with
    | nil => cases hp
    | cons top below =>
      rw [push_up_cons (hs top (List.mem_cons_self ..)).2.2] at hp
      exact hs p (List.mem_cons_of_mem _ hp)
  · rw [push_plain hplain] at hp
    exact (List.mem_cons.mp hp).elim (fun he => he ▸ hplain) (hs p)

theorem plain_foldl (stack : List (List Char)) (hs : ∀ p ∈ stack, Plain p) (l : List (List Char)) :
    ∀ p ∈ l.foldl (push true) stack, Plain p := by
  induction l generalizing stack with
  | nil => exact hs
  | cons part rest ih => exact ih _ (plain_push hs part)

theorem cancelled_reduce (absolute : Bool) (l : List (List Char)) :
    Cancelled absolute (reduce absolute l) := by
  cases absolute with
  | true =>
    have hplain : ∀ p ∈ reduce true l, Plain p := fun p hp =>
      plain_foldl [] nofun l p (List.mem_reverse.mp hp)
    exact ⟨⟨0, _, rfl, hplain⟩, fun _ => hplain⟩
  | false =>
    obtain ⟨names, n, hs, hn⟩ := settled_nil.foldl l
    refine ⟨⟨n, names.reverse, ?_, fun p hp => hn p (List.mem_reverse.mp hp)⟩, nofun⟩
    rw [reduce, hs, List.reverse_append, List.reverse_replicate]

/-! ## Parts written out -/

/-- What stands before the parts, the parts, and a slash if there is to be one at the end. Where there are no
parts, a relative path is a dot, and a slash before them is the one at the end as well. -/
def spell (lead : List Char) (names : List (List Char)) (trailing : Bool) : List Char :=
  match lead, names with
  | [], [] => here ++ if trailing then ['/'] else []
  | _ :: _, [] => lead
  | _, _ :: _ => lead ++ unparts names ++ if trailing then ['/'] else []

/-- What may stand before the parts of a normal form, and the parts. -/
structure Spellable (lead : List Char) (names : List (List Char)) : Prop where
  start : lead = [] ∨ lead = ['/'] ∨ lead = ['/', '/']
  slashless : ∀ p ∈ names, '/' ∉ p
  cancelled : Cancelled (!lead.isEmpty) names

theorem Cancelled.up_or_plain (h : Cancelled absolute l) {p : List Char} (hp : p ∈ l) :
    p = up ∨ Plain p := by
  obtain ⟨n, names, rfl, hn⟩ := h.shape
  rcases List.mem_append.mp hp with hp | hp
  · exact .inl (List.mem_replicate.mp hp).2
  · exact .inr (hn p hp)

theorem Cancelled.ne_nil (h : Cancelled absolute l) {p : List Char} (hp : p ∈ l) : p ≠ [] := by
  rcases h.up_or_plain hp with rfl | hplain
  · decide
  · exact hplain.1

theorem Spellable.first (h : Spellable lead names) (hn : names ≠ []) :
    ∃ c rest, unparts names = c :: rest ∧ c ≠ '/' := by
  obtain ⟨part, others, rfl⟩ := List.exists_cons_of_ne_nil hn
  obtain ⟨c, rest, rfl⟩ := List.exists_cons_of_ne_nil (h.cancelled.ne_nil (List.mem_cons_self ..))
  have hc : c ≠ '/' := fun he => h.slashless _ (List.mem_cons_self ..) (he ▸ List.mem_cons_self ..)
  cases others with
  | nil => exact ⟨c, rest, unparts_singleton _, hc⟩
  | cons next others => exact ⟨c, _, unparts_cons_cons _ next others, hc⟩

theorem Spellable.last (h : Spellable lead names) (hn : names ≠ []) :
    endsInSlash (lead ++ unparts names) = false := by
  refine decide_eq_false fun hl => ?_
  obtain ⟨c, rest, hfirst, -⟩ := h.first hn
  have hl : (unparts names).getLast? = some '/' := by
    rwa [List.getLast?_append, hfirst, List.getLast?_cons, Option.some_or, ← List.getLast?_cons,
      ← hfirst] at hl
  obtain ⟨front, hfront⟩ := List.getLast?_eq_some_iff.mp hl
  have hparts : parts (unparts names) = parts front ++ parts [] := by
    rw [hfront]
    exact parts_append_slash front []
  rw [parts_unparts hn h.slashless] at hparts
  have hnil : [] ∈ names := hparts ▸ List.mem_append_right _ (List.mem_singleton_self _)
  exact h.cancelled.ne_nil hnil rfl

theorem spell_cons (lead : List Char) {names : List (List Char)} (hn : names ≠ []) (trailing : Bool) :
    spell lead names trailing = lead ++ unparts names ++ if trailing then ['/'] else [] := by
  obtain ⟨part, others, rfl⟩ := List.exists_cons_of_ne_nil hn
  cases lead <;> rfl

theorem Spellable.spell_eq (h : Spellable lead names) (trailing : Bool) :
    spell lead names trailing =
      if trailing && !endsInSlash (spell lead names false) then spell lead names false ++ ['/']
      else spell lead names false := by
  by_cases hn : names = []
  · subst hn
    rcases h.start with rfl | rfl | rfl <;> cases trailing <;> rfl
  · have hbare : spell lead names false = lead ++ unparts names :=
      (spell_cons lead hn false).trans (List.append_nil _)
    rw [hbare, h.last hn, spell_cons lead hn]
    cases trailing with
    | true => rfl
    | false => exact List.append_nil _

/-! ## Reading what is written -/

theorem foldl_push_slash (path : List Char) (stack : List (List Char)) :
    (parts ('/' :: path)).foldl (push absolute) stack = (parts path).foldl (push absolute) stack := by
  rw [← List.nil_append ('/' :: path), parts_append_slash, List.foldl_append]
  rfl

theorem foldl_push_append_slash (path : List Char) (stack : List (List Char)) :
    (parts (path ++ ['/'])).foldl (push absolute) stack = (parts path).foldl (push absolute) stack := by
  rw [parts_append_slash, List.foldl_append]
  rfl

namespace Spellable

theorem foldl_push_lead (h : Spellable lead names) (path : List Char) :
    (parts (lead ++ path)).foldl (push absolute) [] = (parts path).foldl (push absolute) [] := by
  rcases h.start with rfl | rfl | rfl
  · rfl
  · exact foldl_push_slash path []
  · exact (foldl_push_slash ('/' :: path) []).trans (foldl_push_slash path [])

theorem foldl_push_spell (h : Spellable lead names) (trailing : Bool) :
    (parts (spell lead names trailing)).foldl (push absolute) [] = names.foldl (push absolute) [] := by
  by_cases hn : names = []
  · subst hn
    rcases h.start with rfl | rfl | rfl <;> cases trailing <;> rfl
  · rw [spell_cons lead hn]
    cases trailing with
    | true => rw [if_pos rfl, foldl_push_append_slash, h.foldl_push_lead, parts_unparts hn h.slashless]
    | false =>
      rw [if_neg Bool.false_ne_true, List.append_nil, h.foldl_push_lead, parts_unparts hn h.slashless]

theorem reduce_spell (h : Spellable lead names) (trailing : Bool) :
    reduce (!lead.isEmpty) (parts (spell lead names trailing)) = names := by
  rw [reduce, h.foldl_push_spell]
  exact reduce_of_cancelled h.cancelled

theorem root_spell (h : Spellable lead names) (trailing : Bool) : root (spell lead names trailing) = lead := by
  by_cases hn : names = []
  · subst hn
    rcases h.start with rfl | rfl | rfl <;> cases trailing <;> rfl
  · obtain ⟨c, rest, hfirst, hc⟩ := h.first hn
    rw [spell_cons lead hn, hfirst]
    rcases h.start with rfl | rfl | rfl <;> simp [root, hc]

theorem spell_endsInSlash (h : Spellable lead names) (trailing : Bool) :
    spell lead names (endsInSlash (spell lead names trailing)) = spell lead names trailing := by
  by_cases hn : names = []
  · subst hn
    rcases h.start with rfl | rfl | rfl <;> cases trailing <;> rfl
  · rw [spell_cons lead hn trailing]
    cases trailing with
    | true =>
      have hend : endsInSlash (lead ++ unparts names ++ ['/']) = true := decide_eq_true List.getLast?_concat
      rw [if_pos rfl, hend, spell_cons lead hn]
      rfl
    | false =>
      rw [if_neg Bool.false_ne_true, List.append_nil, h.last hn, spell_cons lead hn]
      exact List.append_nil _

end Spellable

/-! ## Joined paths -/

def TwoSlashes : List Char → Prop
  | '/' :: '/' :: rest => rest.head? ≠ some '/'
  | _ => False

def rooted (path : List Char) : Bool := path.head? = some '/'

theorem root_cases (path : List Char) :
    rooted path = false ∧ root path = [] ∧ ¬ TwoSlashes path ∨
      rooted path = true ∧ root path = ['/'] ∧ ¬ TwoSlashes path ∨
      rooted path = true ∧ root path = ['/', '/'] ∧ TwoSlashes path := by
  unfold root TwoSlashes rooted
  split <;> simp_all [List.head?_eq_some_iff]

theorem spellable (path : List Char) :
    Spellable (root path) (reduce (!(root path).isEmpty) (parts path)) where
  start := by
    rcases root_cases path with ⟨-, h, -⟩ | ⟨-, h, -⟩ | ⟨-, h, -⟩
    · exact .inl h
    · exact .inr (.inl h)
    · exact .inr (.inr h)
  slashless p hp := slash_not_mem_of_mem_reduce hp
  cancelled := cancelled_reduce _ _

theorem normalizeChars_eq_spell (path : List Char) :
    normalizeChars path = spell (root path) (reduce (!(root path).isEmpty) (parts path)) false := by
  unfold normalizeChars
  dsimp only
  by_cases hn : reduce (!(root path).isEmpty) (parts path) = []
  · rw [hn]
    rcases root_cases path with ⟨-, h, -⟩ | ⟨-, h, -⟩ | ⟨-, h, -⟩ <;> rw [h] <;> rfl
  · have hparts := mt unparts_reduce_eq_nil.mp hn
    rw [if_neg fun h => hparts (List.append_eq_nil_iff.mp h).2, spell_cons _ hn]
    exact (List.append_nil _).symm

theorem toList_join_eq_spell (segments : List String) :
    (join segments).toList = spell (root (joined segments))
      (reduce (!(root (joined segments)).isEmpty) (parts (joined segments)))
      (endsInSlash (joined segments)) := by
  rw [(spellable _).spell_eq, ← normalizeChars_eq_spell]
  unfold join joinChars
  rw [String.toList_ofList, ← joined]
  dsimp only
  split
  · next hn =>
    rw [hn]
    rfl
  · rfl

theorem join_join_self (segments : List String) : join [join segments] = join segments := by
  rw [← String.toList_inj, toList_join_eq_spell, joined_join, toList_join_eq_spell segments]
  have h := spellable (joined segments)
  rw [h.root_spell, h.reduce_spell, h.spell_endsInSlash]

/-- What POSIX joining makes of segments: the text that they make is cut at its slashes, empty parts and dots are
dropped, and each up takes the plain part before it away, or nothing at the root. One slash stands before what
is left where the text starts with one, and one at the end where it ends in one. -/
def PosixPath (segments : List String) (path : List Char) : Prop :=
  ∃ names, ReflTransGen (Cancels (rooted (joined segments))) (parts (joined segments)) names ∧
    Cancelled (rooted (joined segments)) names ∧
    path = spell (if rooted (joined segments) then ['/'] else []) names (endsInSlash (joined segments))

theorem posixPath_iff :
    PosixPath segments path ↔ path = spell (if rooted (joined segments) then ['/'] else [])
      (reduce (rooted (joined segments)) (parts (joined segments))) (endsInSlash (joined segments)) := by
  constructor
  · rintro ⟨names, hcancels, hcancelled, hpath⟩
    rwa [← eq_reduce hcancels hcancelled]
  · intro hpath
    exact ⟨_, cancels_reduce _ _, cancelled_reduce _ _, hpath⟩

theorem spell_two_slashes (names : List (List Char)) (trailing : Bool) :
    spell ['/', '/'] names trailing = '/' :: spell ['/'] names trailing := by
  cases names <;> rfl

/-- Joined segments are the path that POSIX joining gives, unless the text that they make starts with exactly two
slashes: then both are kept. And a joined path is what it is joined to again. -/
theorem join_posix (segments : List String) :
    (∃! path, PosixPath segments path) ∧
    (∀ path, PosixPath segments path →
      (¬ TwoSlashes (joined segments) → (join segments).toList = path) ∧
      (TwoSlashes (joined segments) → (join segments).toList = '/' :: path)) ∧
    join [join segments] = join segments := by
  refine ⟨⟨_, posixPath_iff.mpr rfl, fun _ => posixPath_iff.mp⟩, fun path hpath => ?_,
    join_join_self segments⟩
  rw [posixPath_iff.mp hpath, toList_join_eq_spell]
  -- by the slashes in front, of which exactly two stay as they are
  rcases root_cases (joined segments) with ⟨hr, h, ht⟩ | ⟨hr, h, ht⟩ | ⟨hr, h, ht⟩
  · rw [h, hr]
    exact ⟨fun _ => rfl, fun htwo => absurd htwo ht⟩
  · rw [h, hr]
    exact ⟨fun _ => rfl, fun htwo => absurd htwo ht⟩
  · rw [h, hr]
    exact ⟨fun hno => absurd ht hno, fun _ => spell_two_slashes _ _⟩

/-- The root and a name make `//a`, where POSIX joining gives `/a`. -/
theorem root_joined_twice :
    join ["/", "a"] = "//a" ∧ PosixPath ["/", "a"] "/a".toList ∧
      ¬ PosixPath ["/", "a"] (join ["/", "a"]).toList := by
  simp only [posixPath_iff]
  decide +kernel

end DeclarationFetch.Path
