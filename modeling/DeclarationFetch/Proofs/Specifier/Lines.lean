import DeclarationFetch.Proofs.Specifier.Scanning

/-! # Specifiers line by line

No occurrence goes on after the end of a line. So the lines of a text can be searched one by one, and
where every line has at most one specifier in quotes, these are the specifiers of the text.

* `LineBound`: a shape takes no notice of what comes after its line.
* `occurrences_lines`: the lines of a text are searched one after another.
* `Quotation.only`: two quotes enclose one specifier and nothing else.
* `Line`: lines without quotes, and lines with one import in one of the three shapes.
* `extract_lines`: the specifiers of a text that consists of such lines.
-/

namespace DeclarationFetch.Specifier

/-! ## Shapes on one line -/

/-- What comes after a line makes no difference on the line. -/
def LineBound (shape : Shape) : Prop :=
  ∀ line more, '\n' ∉ line → shape (line ++ '\n' :: more) = shape line

section Shapes

variable {shape : Shape}

theorem following_append (shape : Shape) (lead here : List Char) :
    following lead shape (lead ++ here) = (shape here).map (Found.grow lead.length) := by
  unfold following
  rw [after?_eq_some_iff.mpr rfl, Option.bind_some]

theorem following_eq_none {lead cs : List Char} (h : ¬ lead <+: cs) : following lead shape cs = none := by
  have hlead : ¬ lead.isPrefixOf cs = true := fun hlead => h (List.isPrefixOf_iff_prefix.mp hlead)
  simp [following, after?, hlead]

theorem prefix_of_prefix_line {lead line more : List Char} (hlead : '\n' ∉ lead)
    (h : lead <+: line ++ '\n' :: more) : lead <+: line := by
  induction lead generalizing line with
  | nil => exact List.nil_prefix
  | cons c lead ih =>
    have hlines : '\n' ≠ c ∧ '\n' ∉ lead := by simpa using hlead
    cases line with
    | nil => exact absurd (List.cons_prefix_cons.mp h).1.symm hlines.1
    | cons d line =>
      obtain ⟨rfl, hrest⟩ := List.cons_prefix_cons.mp h
      exact List.cons_prefix_cons.mpr ⟨rfl, ih hlines.2 hrest⟩

theorem LineBound.following (h : LineBound shape) {lead : List Char} (hlead : '\n' ∉ lead) :
    LineBound (following lead shape) := by
  intro line more hline
  by_cases hprefix : lead <+: line
  · obtain ⟨here, rfl⟩ := hprefix
    have hhere : '\n' ∉ here := fun hmem => hline (List.mem_append_right lead hmem)
    rw [List.append_assoc, following_append, following_append, h here more hhere]
  · rw [following_eq_none hprefix, following_eq_none]
    exact fun hlong => hprefix (prefix_of_prefix_line hlead hlong)

theorem LineBound.spaced (h : LineBound shape) : LineBound (spaced shape) := by
  intro line more hline
  by_cases hblank : ∃ here, line = ' ' :: here
  · obtain ⟨here, rfl⟩ := hblank
    have hblank : '\n' ∉ [' '] := by decide
    have hbound := h.following hblank (' ' :: here) more hline
    rw [List.cons_append] at hbound ⊢
    rw [spaced_of_blank, spaced_of_blank, hbound]
  · have hno : ∀ here, line ≠ ' ' :: here := fun here heq => hblank ⟨here, heq⟩
    have hnoMore : ∀ here, line ++ '\n' :: more ≠ ' ' :: here := by
      intro here heq
      cases line with
      | nil => cases heq
      | cons c line => exact hno line (by rw [(List.cons.inj heq).1])
    rw [spaced_of_no_blank hno, spaced_of_no_blank hnoMore, h line more hline]

variable {closes : List Char → Bool} {tail : List Char}

theorem Closing.line (hcloses : Closing closes tail) (htail : '\n' ∉ tail) (line more : List Char) :
    closes (line ++ '\n' :: more) = closes line := by
  rw [Bool.eq_iff_iff, hcloses, hcloses]
  constructor
  · rintro ⟨closing, rest, hquote, hline⟩
    have hmark : '\n' ∉ closing :: tail := by
      intro hmem
      rcases List.mem_cons.mp hmem with rfl | hmem
      · cases hquote
      · exact htail hmem
    obtain ⟨here, rfl⟩ := prefix_of_prefix_line hmark ⟨rest, hline.symm⟩
    exact ⟨closing, here, hquote, rfl⟩
  · rintro ⟨closing, rest, hquote, rfl⟩
    exact ⟨closing, rest ++ '\n' :: more, hquote, by simp⟩

theorem lineBound_upTo (hcloses : Closing closes tail) (htail : '\n' ∉ tail) (width : Nat) :
    LineBound (upTo? closes width) := by
  intro line more hline
  induction line with
  | nil =>
    have hend : closes ('\n' :: more) = false := (hcloses.line htail [] more).trans hcloses.nil
    simp [upTo?, hend]
  | cons c line ih =>
    have hrest : '\n' ∉ line := fun hmem => hline (List.mem_cons_of_mem c hmem)
    have hhere := hcloses.line htail (c :: line) more
    rw [List.cons_append] at hhere ⊢
    rw [upTo?, upTo?, hhere, ih hrest]

theorem lineBound_quoted (hcloses : Closing closes tail) (htail : '\n' ∉ tail) (width : Nat) :
    LineBound (quotedUpTo? closes width) := by
  intro line more hline
  match line with
  | [] =>
    cases more with
    | nil => rfl
    | cons c more => rfl
  | [q] => simp [quotedUpTo?]
  | q :: c :: line =>
    have hrest : '\n' ∉ line := fun hmem => hline (List.mem_cons_of_mem q (List.mem_cons_of_mem c hmem))
    simp only [List.cons_append, quotedUpTo?, lineBound_upTo hcloses htail width line more hrest]

theorem LineBound.lastOnLine (h : LineBound shape) : LineBound (lastOnLine shape) := by
  intro line more hline
  induction line with
  | nil => rfl
  | cons c line ih =>
    have hrest : '\n' ∉ line := fun hmem => hline (List.mem_cons_of_mem c hmem)
    rw [List.cons_append, Specifier.lastOnLine, Specifier.lastOnLine, ih hrest, h line more hrest]

theorem lineBound_call {keyword : List Char} (hkeyword : '\n' ∉ keyword) :
    LineBound (following keyword callArgument) :=
  LineBound.following (LineBound.spaced
    ((lineBound_quoted closing_call (by decide) 2).following (by decide))) hkeyword

theorem lineBound_import : LineBound static := by
  have hfrom : LineBound fromClause :=
    (lineBound_quoted closing_quote (by decide) 1).spaced.following (by decide)
  exact hfrom.lastOnLine.following (by decide)

theorem lineBound_shapes : ∀ shape ∈ shapes, LineBound shape :=
  forall_shapes lineBound_import (lineBound_call (by decide)) (lineBound_call (by decide))

/-! ## Texts of several lines -/

/-- An occurrence ends on its line. -/
def Fitting (shape : Shape) : Prop := ∀ cs f, shape cs = some f → f.length ≤ cs.length

theorem Means.fitting {p : Pattern} (h : Means shape p) : Fitting shape := by
  intro cs f hf
  obtain ⟨taken, rest, rfl, hlength, -⟩ := h.sound hf
  rw [← hlength, List.length_append]
  exact Nat.le_add_right _ _

theorem fitting_shapes : ∀ shape ∈ shapes, Fitting shape :=
  forall_shapes means_import.fitting (means_call _).fitting (means_call _).fitting

theorem occurrences_line (hbound : LineBound shape) (hfitting : Fitting shape) (hnil : shape [] = none)
    {skip : Nat} {line : List Char} (more : List Char) (hline : '\n' ∉ line) (hskip : skip ≤ line.length) :
    occurrences shape skip (line ++ '\n' :: more) =
      occurrences shape skip line ++ occurrences shape 0 more := by
  induction line generalizing skip with
  | nil =>
    obtain rfl := Nat.le_zero.mp hskip
    have hend : shape ('\n' :: more) = none := (hbound [] more hline).trans hnil
    rw [List.nil_append, show occurrences shape 0 [] = [] from rfl, List.nil_append, occurrences, hend]
  | cons c line ih =>
    have hrest : '\n' ∉ line := fun hmem => hline (List.mem_cons_of_mem c hmem)
    have hhere : shape (c :: (line ++ '\n' :: more)) = shape (c :: line) := hbound (c :: line) more hline
    rw [List.cons_append]
    cases skip with
    | succ skip => exact ih hrest (Nat.le_of_succ_le_succ hskip)
    | zero =>
      rw [occurrences, occurrences, hhere]
      cases hf : shape (c :: line) with
      | none => exact ih hrest (Nat.zero_le _)
      | some f =>
        -- the occurrence ends on the line, and so does what is left to skip
        have hlength := hfitting _ f hf
        rw [List.length_cons] at hlength
        exact congrArg (f.specifier :: ·) (ih hrest (by omega))

theorem shapes_nil : ∀ shape ∈ shapes, shape [] = none := by decide

theorem occurrences_lines (hshape : shape ∈ shapes) {lines : List (List Char)}
    (hlines : ∀ line ∈ lines, '\n' ∉ line) :
    occurrences shape 0 (['\n'].intercalate lines) = lines.flatMap (occurrences shape 0) := by
  induction lines with
  | nil => rfl
  | cons line lines ih =>
    cases lines with
    | nil => simp
    | cons next lines =>
      have hrest := ih fun other ho => hlines other (List.mem_cons_of_mem line ho)
      have hsplit : ['\n'].intercalate (line :: next :: lines) =
          line ++ '\n' :: ['\n'].intercalate (next :: lines) := by
        simp [List.intercalate]
      rw [hsplit, occurrences_line (lineBound_shapes shape hshape) (fitting_shapes shape hshape)
        (shapes_nil shape hshape) _ (hlines line List.mem_cons_self) (Nat.zero_le _), hrest]
      rfl

end Shapes

/-! ## Specifiers in quotes -/

def Quoteless (cs : List Char) : Prop := ∀ c ∈ cs, isQuote c = false

instance (cs : List Char) : Decidable (Quoteless cs) :=
  decidable_of_iff (cs.all fun c => !isQuote c) (by simp [Quoteless])

@[simp] theorem quoteless_append {a b : List Char} : Quoteless (a ++ b) ↔ Quoteless a ∧ Quoteless b :=
  List.forall_mem_append

theorem quoteless_iff {cs : List Char} : Quoteless cs ↔ cs.countP isQuote = 0 := by
  simp [Quoteless, List.countP_eq_zero]

/-- A text on one line without quotes. -/
structure Bare where
  chars : List Char
  quoteless : Quoteless chars
  inLine : '\n' ∉ chars

structure Quote where
  char : Char
  isQuote : isQuote char = true

structure Quotation where
  opening : Quote
  specifier : Bare
  nonempty : specifier.chars ≠ []
  closing : Quote

namespace Quotation

def followedBy (q : Quotation) (tail : List Char) : List Char :=
  q.opening.char :: (q.specifier.chars ++ q.closing.char :: tail)

theorem eq_of_first_quote {lead lead' rest rest' : List Char} {q q' : Char} (hlead : Quoteless lead)
    (hlead' : Quoteless lead') (hq : isQuote q = true) (hq' : isQuote q' = true)
    (h : lead ++ q :: rest = lead' ++ q' :: rest') : lead = lead' ∧ rest = rest' := by
  induction lead generalizing lead' with
  | nil =>
    cases lead' with
    | nil => exact ⟨rfl, (List.cons.inj h).2⟩
    | cons d lead' =>
      have hd := hlead' d List.mem_cons_self
      rw [← (List.cons.inj h).1, hq] at hd
      cases hd
  | cons c lead ih =>
    cases lead' with
    | nil =>
      have hc := hlead c List.mem_cons_self
      rw [(List.cons.inj h).1, hq'] at hc
      cases hc
    | cons d lead' =>
      obtain ⟨rfl, htail⟩ := List.cons.inj h
      obtain ⟨rfl, hrest⟩ := ih (fun c hc => hlead c (List.mem_cons_of_mem _ hc))
        (fun c hc => hlead' c (List.mem_cons_of_mem _ hc)) htail
      exact ⟨rfl, hrest⟩

/-- Where a text has two quotes, nothing is enclosed but what is between them. -/
theorem only (q : Quotation) {lead ending : List Char} (hlead : Quoteless lead) (hending : Quoteless ending)
    {before here s rest tail : List Char} (hp : Enclosed tail here s rest)
    (h : lead ++ q.followedBy ending = before ++ here) :
    lead = before ∧ s = q.specifier.chars ∧ ending = tail ++ rest := by
  obtain ⟨opening, closing, ho, hc, -, -, rfl⟩ := hp
  -- there are two quotes on the left, so those on the right are the only ones there
  have hcount := congrArg (List.countP isQuote) h
  have hspec := quoteless_iff.mp q.specifier.quoteless
  simp only [followedBy, List.countP_append, List.countP_cons, q.opening.isQuote, q.closing.isQuote,
    ho, hc, quoteless_iff.mp hlead, quoteless_iff.mp hending, hspec, if_true] at hcount
  have hbefore : before.countP isQuote = 0 := by omega
  have hs : s.countP isQuote = 0 := by omega
  obtain ⟨rfl, hrest⟩ :=
    eq_of_first_quote hlead (quoteless_iff.mpr hbefore) q.opening.isQuote ho h
  obtain ⟨rfl, rfl⟩ :=
    eq_of_first_quote q.specifier.quoteless (quoteless_iff.mpr hs) q.closing.isQuote hc hrest
  exact ⟨rfl, rfl, rfl⟩

theorem shortest (q : Quotation) (tail : List Char) {rest : List Char} (h : Quoteless (tail ++ rest)) :
    Shortest (Enclosed tail) (q.followedBy (tail ++ rest)) q.specifier.chars rest := by
  refine ⟨⟨_, _, q.opening.isQuote, q.closing.isQuote, q.nonempty, q.specifier.inLine, rfl⟩, ?_⟩
  intro s' rest' hp
  have hnil : Quoteless [] := nofun
  have hwhole : [] ++ q.followedBy (tail ++ rest) = [] ++ q.followedBy (tail ++ rest) := rfl
  obtain ⟨-, rfl, -⟩ := q.only hnil h hp hwhole
  exact Nat.le_refl _

end Quotation

/-! ## Searching lines with two quotes -/

theorem spaced_iff {p : Pattern} {cs s rest : List Char} : Spaced p cs s rest ↔
    ∃ gap here, (gap = [] ∨ gap = [' ']) ∧ cs = gap ++ here ∧ p here s rest := by
  constructor
  · rintro (hp | ⟨here, rfl, hp⟩)
    · exact ⟨[], cs, .inl rfl, rfl, hp⟩
    · exact ⟨[' '], here, .inr rfl, rfl, hp⟩
  · rintro ⟨gap, here, rfl | rfl, rfl, hp⟩
    · exact .inl hp
    · exact .inr ⟨here, rfl, hp⟩

section TwoQuotes

variable {q : Quotation} {lead ending before here s rest : List Char}

theorem lead_of_call (hlead : Quoteless lead) (hending : Quoteless ending) {keyword : List Char}
    (hp : Call keyword here s rest) (h : lead ++ q.followedBy ending = before ++ here) :
    ∃ gap, (gap = [] ∨ gap = [' ']) ∧ lead = before ++ keyword ++ gap ++ ['('] := by
  obtain ⟨after, rfl, hspaced⟩ := hp
  obtain ⟨gap, _, hgap, rfl, inside, rfl, henclosed, -⟩ := spaced_iff.mp hspaced
  have hwhole : lead ++ q.followedBy ending = before ++ keyword ++ gap ++ ['('] ++ inside := by
    rw [h]
    simp only [List.append_assoc]
  obtain ⟨rfl, -⟩ := q.only hlead hending henclosed hwhole
  exact ⟨gap, hgap, rfl⟩

theorem lead_of_from (hlead : Quoteless lead) (hending : Quoteless ending)
    (hp : (After " from".toList (Spaced (Shortest (Enclosed [])))) here s rest)
    (h : lead ++ q.followedBy ending = before ++ here) :
    ∃ gap, (gap = [] ∨ gap = [' ']) ∧ lead = before ++ " from".toList ++ gap := by
  obtain ⟨after, rfl, hspaced⟩ := hp
  obtain ⟨gap, inside, hgap, rfl, henclosed, -⟩ := spaced_iff.mp hspaced
  have hwhole : lead ++ q.followedBy ending = before ++ " from".toList ++ gap ++ inside := by
    rw [h]
    simp only [List.append_assoc]
  obtain ⟨rfl, -⟩ := q.only hlead hending henclosed hwhole
  exact ⟨gap, hgap, rfl⟩

theorem lead_of_import (hlead : Quoteless lead) (hending : Quoteless ending)
    (hp : ImportFrom here s rest) (h : lead ++ q.followedBy ending = before ++ here) :
    ∃ front gap, (gap = [] ∨ gap = [' ']) ∧ lead = front ++ " from".toList ++ gap := by
  obtain ⟨after, rfl, clause, inside, ⟨rfl, -⟩, hfrom, -⟩ := hp
  have hwhole : lead ++ q.followedBy ending = before ++ "import ".toList ++ clause ++ inside := by
    rw [h]
    simp only [List.append_assoc]
  obtain ⟨gap, hgap, rfl⟩ := lead_of_from hlead hending hfrom hwhole
  exact ⟨_, gap, hgap, rfl⟩

theorem quote_mem_of_call {keyword : List Char} (hp : Call keyword here s rest) :
    ∃ c ∈ here, isQuote c = true := by
  obtain ⟨after, rfl, hspaced⟩ := hp
  obtain ⟨gap, _, -, rfl, _, rfl, ⟨opening, _, ho, -, -, -, rfl⟩, -⟩ := spaced_iff.mp hspaced
  exact ⟨opening, by simp, ho⟩

theorem quote_mem_of_import (hp : ImportFrom here s rest) : ∃ c ∈ here, isQuote c = true := by
  obtain ⟨after, rfl, clause, _, ⟨rfl, -⟩, ⟨_, rfl, hspaced⟩, -⟩ := hp
  obtain ⟨gap, _, -, rfl, ⟨opening, _, ho, -, -, -, rfl⟩, -⟩ := spaced_iff.mp hspaced
  exact ⟨opening, by simp, ho⟩

/-- Nothing is found without a quote where every occurrence has one. -/
theorem scanned_quoteless {p : Pattern} (hquote : ∀ {cs s rest}, p cs s rest → ∃ c ∈ cs, isQuote c = true)
    {cs : List Char} (hcs : Quoteless cs) : Scanned p cs [] := by
  refine .none fun before here hsplit => ?_
  rintro ⟨s, rest, hp⟩
  obtain ⟨c, hc, hquoted⟩ := hquote hp
  have hnot := hcs c (hsplit ▸ List.mem_append_right before hc)
  rw [hquoted] at hnot
  cases hnot

/-- Two keywords before one parenthesis end alike, unless the first of them ends in a blank. -/
theorem eq_of_parenthesis {early keyword keyword' gap : List Char} {last : Char}
    (hlast : keyword.getLast? = some last) (hblank : last ≠ ' ') (hgap : gap = [] ∨ gap = [' '])
    (h : before ++ keyword ++ ['('] = early ++ keyword' ++ gap ++ ['(']) :
    before ++ keyword = early ++ keyword' := by
  have hkeywords := List.append_cancel_right h
  rcases hgap with rfl | rfl
  · rwa [List.append_nil] at hkeywords
  · have hend := congrArg List.getLast? hkeywords
    simp only [List.getLast?_append, hlast, List.getLast?_singleton, Option.some_or] at hend
    exact absurd (Option.some.inj hend) hblank

theorem call_scanned {keyword : List Char} (hkeyword : Quoteless keyword) {last : Char}
    (hlast : keyword.getLast? = some last) (hblank : last ≠ ' ') (hbefore : Quoteless before)
    (hrest : Quoteless rest) :
    Scanned (Call keyword) (before ++ keyword ++ ['('] ++ q.followedBy (')' :: rest)) [q.specifier.chars] := by
  have hending : Quoteless ([')'] ++ rest) := quoteless_append.mpr ⟨by decide, hrest⟩
  have hlead : Quoteless (before ++ keyword ++ ['(']) := by
    simp only [quoteless_append]
    exact ⟨⟨hbefore, hkeyword⟩, by decide⟩
  have hoccurs : Call keyword (keyword ++ (['('] ++ q.followedBy (')' :: rest))) q.specifier.chars rest :=
    ⟨_, rfl, .inl ⟨_, rfl, q.shortest [')'] hending⟩⟩
  rw [List.append_assoc, List.append_assoc]
  refine .next before (fun early late hsplit hlength => ?_) hoccurs (scanned_quoteless quote_mem_of_call hrest)
  rintro ⟨s, rest', hp⟩
  rw [← List.append_assoc, ← List.append_assoc] at hsplit
  obtain ⟨gap, hgap, hsame⟩ := lead_of_call (q := q) hlead hending hp hsplit
  have hearly := List.append_cancel_right (eq_of_parenthesis hlast hblank hgap hsame)
  rw [hearly] at hlength
  exact Nat.lt_irrefl _ hlength

theorem call_absent {keyword : List Char} (hlead : Quoteless lead) (hending : Quoteless ending)
    (h : ∀ early gap, gap = [] ∨ gap = [' '] → lead ≠ early ++ keyword ++ gap ++ ['(']) :
    Scanned (Call keyword) (lead ++ q.followedBy ending) [] := by
  refine .none fun early late hsplit => ?_
  rintro ⟨s, rest, hp⟩
  obtain ⟨gap, hgap, hlead'⟩ := lead_of_call hlead hending hp hsplit
  exact h early gap hgap hlead'

theorem import_absent (hlead : Quoteless lead) (hending : Quoteless ending)
    (h : ∀ front gap, gap = [] ∨ gap = [' '] → lead ≠ front ++ " from".toList ++ gap) :
    Scanned ImportFrom (lead ++ q.followedBy ending) [] := by
  refine .none fun early late hsplit => ?_
  rintro ⟨s, rest, hp⟩
  obtain ⟨front, gap, hgap, hlead'⟩ := lead_of_import hlead hending hp hsplit
  exact h front gap hgap hlead'

theorem quoteless_clause (clause : Bare) :
    Quoteless ("import ".toList ++ clause.chars ++ " from ".toList) := by
  simp only [quoteless_append]
  exact ⟨⟨by decide, clause.quoteless⟩, by decide⟩

theorem import_scanned {clause : Bare} (hclause : clause.chars ≠ []) (hrest : Quoteless rest) :
    Scanned ImportFrom ("import ".toList ++ clause.chars ++ " from ".toList ++ q.followedBy rest)
      [q.specifier.chars] := by
  have hfrom : (After " from".toList (Spaced (Shortest (Enclosed []))))
      (" from ".toList ++ q.followedBy rest) q.specifier.chars rest :=
    ⟨_, rfl, .inr ⟨_, rfl, q.shortest [] hrest⟩⟩
  have hoccurs : ImportFrom ("import ".toList ++ clause.chars ++ " from ".toList ++ q.followedBy rest)
      q.specifier.chars rest := by
    refine ⟨clause.chars ++ (" from ".toList ++ q.followedBy rest), by simp only [List.append_assoc],
      clause.chars, _, ⟨rfl, hclause, clause.inLine, _, _, hfrom⟩, hfrom, ?_⟩
    rintro clause' here' ⟨hsplit, -, -, s', rest', hfrom'⟩
    have hwhole : "import ".toList ++ clause.chars ++ " from ".toList ++ q.followedBy rest =
        "import ".toList ++ clause' ++ here' := by
      rw [List.append_assoc "import ".toList clause', ← hsplit]
      simp only [List.append_assoc]
    obtain ⟨gap, hgap, hfront⟩ := lead_of_from (quoteless_clause clause) hrest hfrom' hwhole
    rcases hgap with rfl | rfl
    -- the lead ends in a blank, so there is one after `from`
    · have hend := congrArg List.getLast? hfront
      simp only [List.append_nil, List.getLast?_append, show " from ".toList.getLast? = some ' ' by decide,
        show " from".toList.getLast? = some 'm' by decide, Option.some_or] at hend
      exact absurd (Option.some.inj hend) (by decide)
    · have hlength := congrArg List.length hfront
      simp only [List.length_append, show " from ".toList.length = 6 by decide,
        show " from".toList.length = 5 by decide, List.length_singleton] at hlength
      omega
  exact .next [] (fun _ _ _ hlt => absurd hlt (Nat.not_lt_zero _)) hoccurs
    (scanned_quoteless quote_mem_of_import hrest)

end TwoQuotes

/-! ## Texts of such lines -/

/-- A line without quotes, or with one import. -/
inductive Line where
  | bare (text : Bare)
  | static (clause : Bare) (nonempty : clause.chars ≠ []) (quoted : Quotation) (rest : Bare)
  | dynamic (before : Bare) (quoted : Quotation) (rest : Bare)
  | require (before : Bare) (quoted : Quotation) (rest : Bare)

namespace Line

def chars : Line → List Char
  | bare text => text.chars
  | static clause _ quoted rest =>
      "import ".toList ++ clause.chars ++ " from ".toList ++ quoted.followedBy rest.chars
  | dynamic before quoted rest =>
      before.chars ++ "await import".toList ++ ['('] ++ quoted.followedBy (')' :: rest.chars)
  | require before quoted rest =>
      before.chars ++ "require".toList ++ ['('] ++ quoted.followedBy (')' :: rest.chars)

def statics : Line → List (List Char)
  | static _ _ quoted _ => [quoted.specifier.chars]
  | _ => []

def dynamics : Line → List (List Char)
  | dynamic _ quoted _ => [quoted.specifier.chars]
  | _ => []

def requires : Line → List (List Char)
  | require _ quoted _ => [quoted.specifier.chars]
  | _ => []

theorem quoteless_bracket {rest : Bare} : Quoteless (')' :: rest.chars) :=
  quoteless_append.mpr ⟨(by decide : Quoteless [')']), rest.quoteless⟩

theorem quoteless_lead {before : Bare} {keyword : List Char} (hkeyword : Quoteless keyword) :
    Quoteless (before.chars ++ keyword ++ ['(']) := by
  simp only [quoteless_append]
  exact ⟨⟨before.quoteless, hkeyword⟩, by decide⟩

theorem static_scanned (line : Line) : Scanned ImportFrom line.chars line.statics := by
  -- a parenthesis before the quotes is no part of an import
  have hcall : ∀ {lead front gap : List Char}, gap = [] ∨ gap = [' '] →
      lead ++ ['('] ≠ front ++ " from".toList ++ gap := by
    intro lead front gap hgap heq
    have hend := congrArg List.getLast? heq
    rcases hgap with rfl | rfl <;> simp [List.getLast?_append] at hend
  cases line with
  | bare text => exact scanned_quoteless quote_mem_of_import text.quoteless
  | static clause hclause quoted rest => exact import_scanned hclause rest.quoteless
  | dynamic before quoted rest =>
    exact import_absent (quoteless_lead (by decide)) quoteless_bracket fun _ _ => hcall
  | require before quoted rest =>
    exact import_absent (quoteless_lead (by decide)) quoteless_bracket fun _ _ => hcall

theorem call_absent_static {keyword : List Char} {clause rest : Bare} {quoted : Quotation} :
    Scanned (Call keyword)
      ("import ".toList ++ clause.chars ++ " from ".toList ++ quoted.followedBy rest.chars) [] := by
  refine call_absent (quoteless_clause clause) rest.quoteless fun early gap _ heq => ?_
  have hend := congrArg List.getLast? heq
  simp only [List.getLast?_append, show " from ".toList.getLast? = some ' ' by decide,
    List.getLast?_singleton, Option.some_or] at hend
  exact absurd (Option.some.inj hend) (by decide)

theorem call_absent_other {keyword other : List Char} {last last' : Char} {before rest : Bare}
    {quoted : Quotation} (hkeyword : Quoteless keyword) (hlast : keyword.getLast? = some last)
    (hlast' : other.getLast? = some last') (hblank : last ≠ ' ') (hne : last ≠ last') :
    Scanned (Call other) (before.chars ++ keyword ++ ['('] ++ quoted.followedBy (')' :: rest.chars)) [] := by
  refine call_absent (quoteless_lead hkeyword) quoteless_bracket fun early gap hgap heq => ?_
  have hend := congrArg List.getLast? (eq_of_parenthesis hlast hblank hgap heq)
  simp only [List.getLast?_append, hlast, hlast', Option.some_or] at hend
  exact hne (Option.some.inj hend)

theorem quoteless_await : Quoteless "await import".toList := by decide

theorem quoteless_require : Quoteless "require".toList := by decide

theorem last_await : "await import".toList.getLast? = some 't' := by decide

theorem last_require : "require".toList.getLast? = some 'e' := by decide

theorem dynamic_scanned (line : Line) : Scanned (Call "await import".toList) line.chars line.dynamics := by
  cases line with
  | bare text => exact scanned_quoteless quote_mem_of_call text.quoteless
  | static clause hclause quoted rest => exact call_absent_static
  | dynamic before quoted rest =>
    exact call_scanned quoteless_await last_await (by decide) before.quoteless rest.quoteless
  | require before quoted rest =>
    exact call_absent_other quoteless_require last_require last_await (by decide) (by decide)

theorem require_scanned (line : Line) : Scanned (Call "require".toList) line.chars line.requires := by
  cases line with
  | bare text => exact scanned_quoteless quote_mem_of_call text.quoteless
  | static clause hclause quoted rest => exact call_absent_static
  | dynamic before quoted rest =>
    exact call_absent_other quoteless_await last_await last_require (by decide) (by decide)
  | require before quoted rest =>
    exact call_scanned quoteless_require last_require (by decide) before.quoteless rest.quoteless

theorem lineFeed_not_mem_followedBy (quoted : Quotation) {tail : List Char} (htail : '\n' ∉ tail) :
    '\n' ∉ quoted.followedBy tail := by
  have hquote : ∀ quote : Quote, '\n' ≠ quote.char := by
    intro quote heq
    have hchar := quote.isQuote
    rw [← heq] at hchar
    cases hchar
  intro hmem
  simp only [Quotation.followedBy, List.mem_cons, List.mem_append, hquote, false_or] at hmem
  exact hmem.elim quoted.specifier.inLine htail

theorem inLine (line : Line) : '\n' ∉ line.chars := by
  have hcall : ∀ (keyword : List Char) (before : Bare) (quoted : Quotation) (rest : Bare), '\n' ∉ keyword →
      '\n' ∉ before.chars ++ keyword ++ ['('] ++ quoted.followedBy (')' :: rest.chars) := by
    intro keyword before quoted rest hkeyword
    have hrest : '\n' ∉ ')' :: rest.chars := by simp [rest.inLine]
    simp [before.inLine, hkeyword, lineFeed_not_mem_followedBy quoted hrest]
  cases line with
  | bare text => exact text.inLine
  | static clause hclause quoted rest =>
    have himport : '\n' ∉ "import ".toList := by decide
    have hfrom : '\n' ∉ " from ".toList := by decide
    have hquoted := lineFeed_not_mem_followedBy quoted rest.inLine
    show '\n' ∉ "import ".toList ++ clause.chars ++ " from ".toList ++ quoted.followedBy rest.chars
    simp only [List.mem_append, not_or]
    exact ⟨⟨⟨himport, clause.inLine⟩, hfrom⟩, hquoted⟩
  | dynamic before quoted rest => exact hcall "await import".toList before quoted rest (by decide)
  | require before quoted rest => exact hcall "require".toList before quoted rest (by decide)

end Line

/-- The lines of a text are searched one after another. Where each of them has no quotes or one import,
the specifiers are those of the imports, shape after shape and in the order of the lines. -/
theorem extract_lines :
    (∀ shape ∈ shapes, ∀ lines : List (List Char), (∀ line ∈ lines, '\n' ∉ line) →
      occurrences shape 0 (['\n'].intercalate lines) = lines.flatMap (occurrences shape 0)) ∧
    ∀ lines : List Line, extract (String.ofList (['\n'].intercalate (lines.map Line.chars))) =
      (lines.flatMap Line.statics ++ lines.flatMap Line.dynamics ++ lines.flatMap Line.requires).map
        String.ofList := by
  refine ⟨fun shape hshape lines => occurrences_lines hshape, fun lines => ?_⟩
  have hlines : ∀ line ∈ lines.map Line.chars, '\n' ∉ line := by
    intro line hline
    obtain ⟨line, -, rfl⟩ := List.mem_map.mp hline
    exact line.inLine
  have hstatic : ∀ line : Line, occurrences static 0 line.chars = line.statics :=
    fun line => static_scanned_iff.mp line.static_scanned
  have hdynamic : ∀ line : Line, occurrences dynamic 0 line.chars = line.dynamics :=
    fun line => dynamic_scanned_iff.mp line.dynamic_scanned
  have hrequire : ∀ line : Line, occurrences require 0 line.chars = line.requires :=
    fun line => require_scanned_iff.mp line.require_scanned
  rw [extract_eq, String.toList_ofList, occurrences_lines (by simp [shapes]) hlines,
    occurrences_lines (by simp [shapes]) hlines, occurrences_lines (by simp [shapes]) hlines]
  simp only [List.flatMap_map, hstatic, hdynamic, hrequire]

namespace Mixed

def semicolon : Bare := ⟨";".toList, by decide, by decide⟩

def quoted (specifier : Bare) (h : specifier.chars ≠ []) : Quotation :=
  ⟨⟨'\'', rfl⟩, specifier, h, ⟨'\'', rfl⟩⟩

def lines : List Line := [
  .require ⟨"const a = ".toList, by decide, by decide⟩
    (quoted ⟨"req-pkg".toList, by decide, by decide⟩ (by decide)) semicolon,
  .bare ⟨"await import(from); // ".toList, by decide, by decide⟩,
  .dynamic ⟨"const b = ".toList, by decide, by decide⟩
    (quoted ⟨"dyn-pkg".toList, by decide, by decide⟩ (by decide)) semicolon,
  .static ⟨"c".toList, by decide, by decide⟩ (by decide)
    (quoted ⟨"static-pkg".toList, by decide, by decide⟩ (by decide)) semicolon]

def source : String :=
  "const a = require('req-pkg');\nawait import(from); // \n" ++
    "const b = await import('dyn-pkg');\nimport c from 'static-pkg';"

/-- The specifiers are grouped by shape. -/
theorem mixed_extracted : extract source = ["static-pkg", "dyn-pkg", "req-pkg"] ∧
    occurrences require 0 (['\n'].intercalate (lines.map Line.chars)) = ["req-pkg".toList] := by
  have hsource : String.ofList (['\n'].intercalate (lines.map Line.chars)) = source := by decide
  have hextract := extract_lines.2 lines
  have hrequire := extract_lines.1 require (by simp [shapes]) (lines.map Line.chars) (by decide)
  refine ⟨?_, ?_⟩
  · rw [← hsource, hextract]
    decide
  · rw [hrequire]
    decide

end Mixed

end DeclarationFetch.Specifier
