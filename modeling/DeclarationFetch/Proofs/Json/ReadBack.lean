import Mathlib.Algebra.Group.Nat.Defs
import DeclarationFetch.Json.Reader
import DeclarationFetch.Json.Writer

/-! # Texts read back

A text that was written comes back when it is read, whatever characters it has.

* `hexNumber?_hex`: the digits of a number are read as the number.
* `stringTail_escapeChar`: what one character is written as is read as this character.
* `string_writeText`: a written text is read as the text.
* `read_write_texts`: the fields of a written object of texts are read as these fields.
* `inLine_write_texts`: such an object is written in one line of printable ASCII.
-/

namespace DeclarationFetch

/-! ## Hexadecimal digits -/

namespace Text

theorem hexValue?_hexDigit : ∀ d < 16, hexValue? (hexDigit d) = some d := by decide

@[simp] theorem length_hex (width n : Nat) : (hex width n).length = width := by
  induction width generalizing n with
  | zero => rfl
  | succ width ih => simp [hex, ih]

theorem hexNumber?_hex {width n : Nat} (h : n < 16 ^ width) :
    hexNumber? (hex width n) = some n := by
  induction width generalizing n with
  | zero =>
    have hn : n = 0 := by simpa using h
    subst hn
    rfl
  | succ width ih =>
    have hrest : hexNumber? (hex width (n / 16)) = some (n / 16) :=
      ih (by rw [Nat.pow_succ] at h; omega)
    unfold hexNumber? at hrest ⊢
    rw [hex, List.foldl_append, hrest]
    simp only [List.foldl_cons, List.foldl_nil, Option.bind_some,
      hexValue?_hexDigit (n % 16) (Nat.mod_lt n (by decide)), Option.map_some, Option.some.injEq]
    omega

end Text

namespace Json

open DeclarationFetch.Text

/-! ## Escapes -/

theorem toNat_not_surrogate (c : Char) :
    c.toNat < 0xD800 ∨ 0xE000 ≤ c.toNat ∧ c.toNat < 0x110000 := by
  have h : c.toNat < 0xD800 ∨ 0xDFFF < c.toNat ∧ c.toNat < 0x110000 := c.valid
  omega

theorem codeUnit?_hex {n : Nat} (h : n < 0x10000) {rest : List Char} (hr : rest ≠ []) :
    codeUnit? (hex 4 n ++ rest) = some n := by
  have hdrop : (hex 4 n ++ rest).drop 4 = rest := List.drop_left' (length_hex 4 n)
  have htake : (hex 4 n ++ rest).take 4 = hex 4 n := List.take_left' (length_hex 4 n)
  unfold codeUnit?
  rw [hdrop, htake, if_neg (by simpa using hr)]
  exact hexNumber?_hex h

theorem unicodeEscape_unit {c : Char} (h : c.toNat < 0x10000) {rest : List Char} (hr : rest ≠ []) :
    unicodeEscape (hex 4 c.toNat ++ rest) = .ok (c, 5) := by
  have hsur := toNat_not_surrogate c
  have hhigh : isHighSurrogate c.toNat = false := by
    simp only [isHighSurrogate, Bool.and_eq_false_iff, decide_eq_false_iff_not]
    omega
  have hunit : unitChar c.toNat = c := by
    unfold unitChar
    rw [if_neg (by omega), Char.ofNat_toNat]
  unfold unicodeEscape
  simp only [codeUnit?_hex h hr, hhigh, hunit]

theorem unicodeEscape_pair {c : Char} {high low : Nat} (hhigh : isHighSurrogate high = true)
    (hlow : isLowSurrogate low = true) (hc : pairChar high low = c) {rest : List Char}
    (hr : rest ≠ []) : unicodeEscape (hex 4 high ++ (unitEscape low ++ rest)) = .ok (c, 11) := by
  have hh : high < 0x10000 := by
    simp only [isHighSurrogate, Bool.and_eq_true, decide_eq_true_eq] at hhigh
    omega
  have hl : low < 0x10000 := by
    simp only [isLowSurrogate, Bool.and_eq_true, decide_eq_true_eq] at hlow
    omega
  have hdrop : (hex 4 high ++ (unitEscape low ++ rest)).drop 4 = '\\' :: 'u' :: (hex 4 low ++ rest) :=
    List.drop_left' (length_hex 4 high)
  have hmore : ((hex 4 low ++ rest).drop 4).isEmpty = false := by
    rw [List.drop_left' (length_hex 4 low)]
    simpa using hr
  unfold unicodeEscape
  rw [codeUnit?_hex hh (by simp [unitEscape]), hdrop]
  simp only [hhigh, hmore, Bool.false_eq_true, if_false, codeUnit?_hex hl hr, hlow, if_true, hc]

theorem surrogates {c : Char} (h : 0x10000 ≤ c.toNat) :
    isHighSurrogate (0xD800 + (c.toNat - 0x10000) / 0x400) = true ∧
      isLowSurrogate (0xDC00 + (c.toNat - 0x10000) % 0x400) = true ∧
      pairChar (0xD800 + (c.toNat - 0x10000) / 0x400) (0xDC00 + (c.toNat - 0x10000) % 0x400) = c := by
  have hn := toNat_not_surrogate c
  refine ⟨?_, ?_, ?_⟩
  · simp only [isHighSurrogate, Bool.and_eq_true, decide_eq_true_eq]
    omega
  · simp only [isLowSurrogate, Bool.and_eq_true, decide_eq_true_eq]
    omega
  · unfold pairChar
    rw [Nat.add_sub_cancel_left, Nat.add_sub_cancel_left, Nat.add_assoc, Nat.div_add_mod',
      Nat.add_sub_cancel' h, Char.ofNat_toNat]

/-! ## Texts -/

theorem stringTail_skip (start done used rest : List Char) :
    stringTail start used.length done (used ++ rest) = stringTail start 0 done rest := by
  induction used with
  | nil => rfl
  | cons c used ih => exact ih

theorem stringTail_plain (start done : List Char) {c : Char} (hquote : c ≠ '"') (hslash : c ≠ '\\')
    (hc : 0x20 ≤ c.toNat) (rest : List Char) :
    stringTail start 0 done (c :: rest) = stringTail start 0 (c :: done) rest := by
  rw [stringTail.eq_def]
  simp only [if_neg hquote, if_neg hslash, if_neg (Nat.not_lt.mpr hc)]

theorem stringTail_unicode (start done : List Char) {digits : List Char} {c : Char} {used : Nat}
    (h : unicodeEscape digits = .ok (c, used)) :
    stringTail start 0 done ('\\' :: 'u' :: digits) =
      stringTail start used (c :: done) ('u' :: digits) := by
  rw [stringTail.eq_def]
  simp only [Char.reduceEq, if_false, if_true, h]

theorem stringTail_escapeChar (start done : List Char) (c : Char) {rest : List Char} (hr : rest ≠ []) :
    stringTail start 0 done (escapeChar c ++ rest) = stringTail start 0 (c :: done) rest := by
  unfold escapeChar
  split
  iterate 7 rfl
  next hquote hslash _ _ _ _ _ =>
  dsimp only
  split
  · next hplain => exact stringTail_plain start done hquote hslash hplain.1 rest
  · split
    · next hunit =>
      rw [unitEscape, List.cons_append, List.cons_append,
        stringTail_unicode start done (unicodeEscape_unit hunit hr)]
      have hskip := stringTail_skip start (c :: done) ('u' :: hex 4 c.toNat) rest
      rwa [List.length_cons, length_hex] at hskip
    · next hunit =>
      obtain ⟨hhigh, hlow, hpair⟩ := surrogates (Nat.le_of_not_lt hunit)
      generalize 0xD800 + (c.toNat - 0x10000) / 0x400 = high at *
      generalize 0xDC00 + (c.toNat - 0x10000) % 0x400 = low at *
      rw [List.append_assoc, unitEscape, List.cons_append, List.cons_append,
        stringTail_unicode start done (unicodeEscape_pair hhigh hlow hpair hr)]
      have hskip := stringTail_skip start (c :: done) ('u' :: hex 4 high ++ unitEscape low) rest
      have hlen : ('u' :: hex 4 high ++ unitEscape low).length = 11 := by simp [unitEscape]
      rwa [hlen, List.append_assoc] at hskip

theorem stringTail_flatMap (start done cs rest : List Char) :
    stringTail start 0 done (cs.flatMap escapeChar ++ '"' :: rest) =
      .ok (String.ofList (done.reverse ++ cs), rest) := by
  induction cs generalizing done with
  | nil =>
    rw [List.append_nil]
    cases rest with
    | nil => rfl
    | cons c rest =>
      rw [List.flatMap_nil, List.nil_append, stringTail.eq_def]
      simp only [if_true]
  | cons c cs ih =>
    rw [List.flatMap_cons, List.append_assoc, stringTail_escapeChar _ _ _ (by simp), ih]
    simp

theorem string_writeText (s : String) (rest : List Char) :
    string ((writeText s).toList ++ rest) = .ok (s, rest) := by
  have hs : (writeText s).toList ++ rest = '"' :: (s.toList.flatMap escapeChar ++ '"' :: rest) := by
    simp [writeText]
  rw [hs]
  exact (stringTail_flatMap _ [] s.toList rest).trans (by simp)

/-! ## Objects of texts -/

theorem skipBlanks_cons {c : Char} (h : isBlank c = false) (rest : List Char) :
    skipBlanks (c :: rest) = c :: rest := by
  simp [skipBlanks, h]

theorem skipBlanks_space (rest : List Char) : skipBlanks (' ' :: rest) = skipBlanks rest := rfl

theorem writeText_append (s : String) (rest : List Char) :
    (writeText s).toList ++ rest = '"' :: (s.toList.flatMap escapeChar ++ '"' :: rest) := by
  simp [writeText]

theorem skipBlanks_writeText (s : String) (rest : List Char) :
    skipBlanks ((writeText s).toList ++ rest) = (writeText s).toList ++ rest := by
  rw [writeText_append, skipBlanks_cons (by decide)]

theorem value_writeText (fuel : Nat) (s : String) (rest : List Char) :
    value (fuel + 1) ((writeText s).toList ++ rest) = .ok (.text s, rest) := by
  have hstring := string_writeText s rest
  rw [writeText_append] at hstring ⊢
  rw [value.eq_2]
  simp only [hstring]
  rfl

def memberTexts : List (String × String) → List Char
  | [] => []
  | [field] => (writeText field.1).toList ++ ':' :: ' ' :: (writeText field.2).toList
  | field :: fields =>
      (writeText field.1).toList ++
        ':' :: ' ' :: ((writeText field.2).toList ++ ',' :: ' ' :: memberTexts fields)

theorem toList_writeMembers (fields : List (String × String)) :
    (", ".intercalate (writeMembers (fields.map fun field => (.text field.1, .text field.2)))).toList =
      memberTexts fields := by
  induction fields with
  | nil => rfl
  | cons field fields ih =>
    cases fields with
    | nil => simp [writeMembers, write, Value.display, memberTexts]
    | cons next fields =>
      rw [List.map_cons, List.map_cons, writeMembers, writeMembers, String.intercalate_cons_cons,
        ← writeMembers]
      rw [List.map_cons] at ih
      simp [ih, write, Value.display, memberTexts]

theorem exists_memberTexts {fields : List (String × String)} (hne : fields ≠ []) :
    ∃ cs, memberTexts fields = '"' :: cs := by
  cases fields with
  | nil => exact absurd rfl hne
  | cons field fields =>
    cases fields <;> simp only [memberTexts, writeText_append] <;> exact ⟨_, rfl⟩

theorem skipBlanks_memberTexts {fields : List (String × String)} (hne : fields ≠ [])
    (rest : List Char) : skipBlanks (memberTexts fields ++ rest) = memberTexts fields ++ rest := by
  obtain ⟨cs, hcs⟩ := exists_memberTexts hne
  rw [hcs]
  exact skipBlanks_cons (by decide) _

theorem members_writeText (fuel : Nat) (field : String × String) (rest : List Char) :
    members (fuel + 2) ((writeText field.1).toList ++ ':' :: ' ' :: ((writeText field.2).toList ++ rest)) =
      match skipBlanks rest with
      | '\x7d' :: after => .ok ([(.text field.1, .text field.2)], after)
      | ',' :: more => do
          let (others, after) ← members (fuel + 1) (skipBlanks more)
          .ok ((.text field.1, .text field.2) :: others, after)
      | other => fail .comma other := by
  have hname := string_writeText field.1 (':' :: ' ' :: ((writeText field.2).toList ++ rest))
  have hcolon := skipBlanks_cons (c := ':') (by decide) (' ' :: ((writeText field.2).toList ++ rest))
  rw [writeText_append] at hname ⊢
  rw [members.eq_2]
  simp only [hname, bind, Except.bind, hcolon, skipBlanks_space,
    skipBlanks_writeText, value_writeText] <;> rfl

theorem members_memberTexts {fields : List (String × String)} (hne : fields ≠ []) {fuel : Nat}
    (hfuel : fields.length < fuel) (rest : List Char) :
    members fuel (memberTexts fields ++ '\x7d' :: rest) =
      .ok (fields.map fun field => (.text field.1, .text field.2), rest) := by
  induction fields generalizing fuel with
  | nil => exact absurd rfl hne
  | cons field fields ih =>
    obtain ⟨fuel, rfl⟩ : ∃ n, fuel = n + 2 := ⟨fuel - 2, by rw [List.length_cons] at hfuel; omega⟩
    cases fields with
    | nil =>
      have hend := skipBlanks_cons (c := '\x7d') (by decide) rest
      have hfirst := members_writeText fuel field ('\x7d' :: rest)
      rw [hend] at hfirst
      simpa only [memberTexts, List.append_assoc, List.cons_append, List.map_cons,
        List.map_nil] using hfirst
    | cons next fields =>
      have hothers := @ih (by simp) (fuel + 1) (by rw [List.length_cons] at hfuel; omega)
      have hcomma := skipBlanks_cons (c := ',') (by decide)
        (' ' :: (memberTexts (next :: fields) ++ '\x7d' :: rest))
      have hnext := skipBlanks_memberTexts (List.cons_ne_nil next fields) ('\x7d' :: rest)
      have hfirst := members_writeText fuel field
        (',' :: ' ' :: (memberTexts (next :: fields) ++ '\x7d' :: rest))
      rw [hcomma] at hfirst
      simp only [skipBlanks_space, hnext, hothers, bind, Except.bind] at hfirst
      simpa only [memberTexts, List.append_assoc, List.cons_append, List.map_cons,
        List.map_nil] using hfirst

theorem value_members (fuel : Nat) (cs : List Char) :
    value (fuel + 1) ('\x7b' :: '"' :: cs) =
      (members fuel ('"' :: cs)).map fun found => (Value.ofEntries found.1, found.2) := by
  rw [value.eq_3, skipBlanks_cons (by decide)]
  change (members fuel ('"' :: cs) >>= fun found => .ok (Value.ofEntries found.1, found.2)) = _
  cases members fuel ('"' :: cs) <;> rfl

theorem length_le_memberTexts (fields : List (String × String)) :
    fields.length ≤ (memberTexts fields).length := by
  induction fields with
  | nil => exact Nat.zero_le _
  | cons field fields ih =>
    cases fields with
    | nil =>
      simp only [memberTexts, List.length_append, List.length_cons, List.length_nil]
      omega
    | cons next fields =>
      simp only [memberTexts, List.length_append, List.length_cons] at ih ⊢
      omega

theorem toList_write_texts (fields : List (String × String)) :
    (write (.object (fields.map fun field => (field.1, .text field.2)))).toList =
      '\x7b' :: (memberTexts fields ++ ['\x7d']) := by
  rw [← toList_writeMembers]
  simp [Value.object, write, Function.comp_def]

/-- The fields of a written object of texts are read as these fields. -/
theorem read_write_texts {fields : List (String × String)} (hne : fields ≠ []) :
    read (write (.object (fields.map fun field => (field.1, .text field.2)))) =
      .ok (Value.ofEntries (fields.map fun field => (.text field.1, .text field.2))) := by
  have hroom := length_le_memberTexts fields
  obtain ⟨cs, hcs⟩ := exists_memberTexts hne
  have hvalue : ∀ size, fields.length < size →
      value (size + 1) ('\x7b' :: (memberTexts fields ++ ['\x7d'])) =
        .ok (Value.ofEntries (fields.map fun field => (.text field.1, .text field.2)), []) := by
    intro size hsize
    have hmembers := members_memberTexts hne hsize []
    rw [hcs] at hmembers ⊢
    exact (value_members size _).trans (congrArg (Except.map _) hmembers)
  unfold read document
  rw [toList_write_texts, skipBlanks_cons (by decide), hvalue _ (by simp; omega)]
  rfl

/-! ## The characters of what is written -/

/-- Space and the printable characters of ASCII. -/
def InLine (cs : List Char) : Prop := ∀ c ∈ cs, 0x20 ≤ c.toNat ∧ c.toNat < 0x7f

theorem inLine_hex (width n : Nat) : InLine (hex width n) := by
  have hdigit : ∀ d < 16, 0x20 ≤ (hexDigit d).toNat ∧ (hexDigit d).toNat < 0x7f := by decide
  induction width generalizing n with
  | zero => exact fun _ h => nomatch h
  | succ width ih =>
    intro c hc
    rcases List.mem_append.mp hc with hc | hc
    · exact ih (n / 16) c hc
    · obtain rfl := List.mem_singleton.mp hc
      exact hdigit (n % 16) (Nat.mod_lt n (by decide))

theorem inLine_escapeChar (c : Char) : InLine (escapeChar c) := by
  have hunit : ∀ unit, InLine (unitEscape unit) := by
    intro unit x hx
    simp only [unitEscape, List.mem_cons] at hx
    rcases hx with rfl | rfl | hx
    · decide
    · decide
    · exact inLine_hex 4 unit x hx
  unfold escapeChar
  split
  iterate 7 simp [InLine]
  dsimp only
  split
  · next h => simpa [InLine] using h
  · split
    · exact hunit _
    · intro x hx
      rcases List.mem_append.mp hx with hx | hx <;> exact hunit _ x hx

theorem inLine_writeText (s : String) : InLine (writeText s).toList := by
  intro x hx
  simp only [writeText, String.toList_ofList, List.mem_append, List.mem_cons, List.mem_flatMap,
    List.not_mem_nil, or_false] at hx
  rcases hx with (rfl | ⟨c, -, hx⟩) | rfl
  · decide
  · exact inLine_escapeChar c x hx
  · decide

theorem inLine_memberTexts (fields : List (String × String)) : InLine (memberTexts fields) := by
  induction fields with
  | nil => exact fun _ h => nomatch h
  | cons field fields ih =>
    have hname := inLine_writeText field.1
    have hcontent := inLine_writeText field.2
    intro x hx
    cases fields <;> simp only [memberTexts, List.mem_append, List.mem_cons] at hx
    · rcases hx with hx | rfl | rfl | hx
      · exact hname x hx
      · decide
      · decide
      · exact hcontent x hx
    · rcases hx with hx | rfl | rfl | hx | rfl | rfl | hx
      · exact hname x hx
      · decide
      · decide
      · exact hcontent x hx
      · decide
      · decide
      · exact ih x hx

/-- An object of texts is written in one line of printable ASCII. -/
theorem inLine_write_texts (fields : List (String × String)) :
    InLine (write (.object (fields.map fun field => (field.1, .text field.2)))).toList := by
  rw [toList_write_texts]
  intro x hx
  simp only [List.mem_append, List.mem_cons, List.not_mem_nil, or_false] at hx
  rcases hx with rfl | hx | rfl
  · decide
  · exact inLine_memberTexts fields x hx
  · decide

end Json

end DeclarationFetch
