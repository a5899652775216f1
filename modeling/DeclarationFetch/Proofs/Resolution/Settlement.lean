import DeclarationFetch.Proofs.Resolution.Coverage

/-! # Settled dependencies

What is left to do when a dependency is taken up, and that it is done when the expansion of its file ends.

* `Settled`: what was taken up and leads to a file has had it expanded.
* `Closed`: the file went into the host, and its dependencies that its budget allows were taken up.
* `visit_covers`, `expand_covers`: what is taken up gets settled, and what is expanded gets closed.
-/

namespace DeclarationFetch.Resolution

variable {ε : Type} {c : Collaborators ε}

namespace Coverage

variable {t : Terms} {s s' s'' : Scene (Watched ε)} {a b : Nat}

/-! ## What a pass has covered -/

def Expanded (t : Terms) (s : Scene (Watched ε)) (f : File) : Prop :=
  ∃ budget, .expanded f.package (t.pins.version? f.package) f.path f.text budget ∈ s.context.history

/-- Every dependency that was taken up has had its file expanded, but for files with `p`. -/
def SettledBut (t : Terms) (p : File → Prop) (s : Scene (Watched ε)) : Prop :=
  ∀ r f, t.noted r → keyIn t.pins r ∈ s.context.resolved → Leads t.held r f → Expanded t s f ∨ p f

def Settled (t : Terms) (s : Scene (Watched ε)) : Prop := SettledBut t (fun _ => False) s

/-- A file went into the host, and its dependencies were taken up where its budget allows them. -/
structure Closed (t : Terms) (s : Scene (Watched ε)) (f : File) (budget : Remaining) : Prop where
  hosted : Hosted s.env.log (Package.hostPath f.package f.path) f.text
  crossed : budget.crossings ≠ 0 → ∀ r, f.Imports r → Crosses (some f.package) r →
    keyIn t.pins r ∈ s.context.resolved
  stayed : budget.steps ≠ 0 → ∀ r, f.Imports r → Stays (some f.package) r →
    keyIn t.pins r ∈ s.context.resolved

def ClosedSince (t : Terms) (s s' : Scene (Watched ε)) : Prop :=
  ∀ package version path text budget,
    .expanded package version path text budget ∈ s'.context.history →
      .expanded package version path text budget ∈ s.context.history ∨
        Closed t s' ⟨package, path, text⟩ budget

structure Later (s s' : Scene (Watched ε)) : Prop where
  options : s'.options = s.options
  resolved : ∀ key ∈ s.context.resolved, key ∈ s'.context.resolved
  history : ∀ m ∈ s.context.history, m ∈ s'.context.history
  log : ∀ o ∈ s.env.log, o ∈ s'.env.log

theorem Later.refl (s : Scene (Watched ε)) : Later s s :=
  ⟨rfl, fun _ => id, fun _ => id, fun _ => id⟩

theorem Later.trans (h : Later s s') (h' : Later s' s'') : Later s s'' where
  options := h'.options.trans h.options
  resolved key hk := h'.resolved key (h.resolved key hk)
  history m hm := h'.history m (h.history m hm)
  log o ho := h'.log o (h.log o ho)

theorem Later.of_frame (h : Frame s s') : Later s s' :=
  ⟨h.options, fun _ hk => h.resolved ▸ hk, fun _ hm => h.history ▸ hm, h.log⟩

theorem Expanded.of_later (h : Later s s') {f : File} (he : Expanded t s f) : Expanded t s' f := by
  obtain ⟨budget, hm⟩ := he
  exact ⟨budget, h.history _ hm⟩

theorem Closed.of_later (h : Later s s') {f : File} {budget : Remaining}
    (hc : Closed t s f budget) : Closed t s' f budget where
  hosted := hc.hosted.mono h.log
  crossed hn r hi hr := h.resolved _ (hc.crossed hn r hi hr)
  stayed hn r hi hr := h.resolved _ (hc.stayed hn r hi hr)

theorem SettledBut.of_frame {p : File → Prop} (h : Frame s s') (hp : SettledBut t p s) :
    SettledBut t p s' := fun r f hr hk hl =>
  (hp r f hr (h.resolved ▸ hk) hl).imp_left (·.of_later (.of_frame h))

theorem SettledBut.settle {p : File → Prop} (h : SettledBut t p s)
    (hp : ∀ f, p f → Expanded t s f) : Settled t s := fun r f hr hk hl =>
  .inl ((h r f hr hk hl).elim id (hp f))

theorem Settled.but {p : File → Prop} (h : Settled t s) : SettledBut t p s := fun r f hr hk hl =>
  (h r f hr hk hl).imp_right False.elim

/-- The keys of dependencies that lead to the files with `p` may be put down. -/
theorem SettledBut.mark (ht : Orderly t) {p : File → Prop} {r : Resource} (h : SettledBut t p s)
    (hr : t.noted r) (hp : ∀ f, Leads t.held r f → p f) :
    SettledBut t p { s with context := s.context.mark (keyIn t.pins r) } := by
  intro r' f hr' hk hl
  rcases Context.mem_resolved_mark.mp hk with hk | hk
  · refine (h r' f hr' hk hl).imp_left fun ⟨budget, hm⟩ => ⟨budget, ?_⟩
    simpa using hm
  · exact .inr (hp f (ht.keys r' r f hr' hr hk hl))

theorem ClosedSince.of_history_eq (h : s'.context.history = s.context.history) :
    ClosedSince t s s' := fun _ _ _ _ _ hm => .inl (h ▸ hm)

theorem ClosedSince.trans (h : ClosedSince t s s') (h' : ClosedSince t s' s'')
    (hl : Later s' s'') : ClosedSince t s s'' := fun package version path text budget hm =>
  (h' package version path text budget hm).elim
    (fun hm' => (h package version path text budget hm').imp_right (·.of_later hl)) .inr

/-- What was taken up is settled, and what was expanded since is closed. -/
structure Covers (t : Terms) (s s' : Scene (Watched ε)) : Prop where
  settled : Settled t s'
  closed : ClosedSince t s s'

theorem Covers.of_frame (h : Settled t s) (hf : Frame s s') : Covers t s s' :=
  ⟨SettledBut.of_frame hf h, .of_history_eq hf.history⟩

theorem Covers.trans (h : Covers t s s') (h' : Covers t s' s'') (hl : Later s' s'') :
    Covers t s s'' :=
  ⟨h'.settled, h.closed.trans h'.closed hl⟩

/-! ## The regime of expansions -/

def Grown (t : Terms) (s s' : Scene (Watched ε)) : Prop := Later s s' ∧ (Valid t s → Valid t s')

theorem Grown.of_kept (h : Kept t s s') : Grown t s s' := ⟨.of_frame h.1, h.2⟩

/-- The terms of lookups, but files may be expanded and dependencies taken up. -/
def walking (ε : Type) (t : Terms) : Regime (Watched ε) where
  asks _ _ := True
  answers := (regime ε t).answers
  valid := Valid t
  since := Grown t
  refl s := ⟨.refl s, id⟩
  trans h h' := ⟨h.1.trans h'.1, fun hv => h'.2 (h.2 hv)⟩
  valid_of_since h hv := h.2 hv

theorem lookup {α : Type} {w : Walk (Watched ε) α} {Q : α → Scene (Watched ε) → Prop}
    (h : w.Ensures (regime ε t) s Q) :
    w.Ensures (walking ε t) s fun a s' => Kept t s s' ∧ Q a s' :=
  h.weaken (fun _ _ => id) (fun _ _ _ _ => id) id fun _ => .of_kept

theorem mark_ensures {key : String} :
    (mark key : Walk (Watched ε) Unit).Ensures (walking ε t) s
      fun _ s' => s' = { s with context := s.context.mark key } := by
  refine .change (fun _ => ⟨⟨rfl, fun k hk => ?_, fun m hm => ?_, fun _ => id⟩, fun hv => ?_⟩)
    fun _ => rfl
  · exact Context.mem_resolved_mark.mpr (.inl hk)
  · rwa [Context.history_mark]
  · refine ⟨hv.options, hv.pins, fun hf package version path text budget hm => ?_⟩
    rw [Context.history_mark] at hm
    exact hv.expanded hf package version path text budget hm

/-! ## Taking up dependencies -/

/-- A dependency that comes up on a chain that leaves so many crossings and steps. -/
def Fits (t : Terms) (a b : Nat) (r : Resource) : Prop :=
  ∃ n k, n + a = t.crossings ∧ k + b = t.fileSteps ∧
    Due t.held t.first false t.fileSteps Anywhere n k r

theorem Fits.involved {r : Resource} (h : Fits t a b r) : t.involved r := by
  obtain ⟨n, k, hn, _, hd⟩ := h
  exact ⟨n, k, by omega, hd⟩

theorem Fits.cross {r r' : Resource} {f : File} (h : Fits t (a + 1) b r) (hl : Leads t.held r f)
    (hi : f.Imports r') (hc : Crosses (some f.package) r') : Fits t a t.fileSteps r' := by
  obtain ⟨n, k, hn, hk, hd⟩ := h
  exact ⟨n + 1, 0, by omega, by omega, .cross hd hl trivial hi hc⟩

theorem Fits.stay {r r' : Resource} {f : File} (h : Fits t a (b + 1) r) (hl : Leads t.held r f)
    (hi : f.Imports r') (hs : Stays (some f.package) r') : Fits t a b r' := by
  obtain ⟨n, k, hn, hk, hd⟩ := h
  exact ⟨n, k + 1, hn, by omega, .stay hd hl trivial hi hs (by omega)⟩

/-- An expansion that is in order for a dependency that fits, where all that was taken up is settled but
this. -/
def Meets (t : Terms) (a b : Nat) (enter : Enter (Watched ε)) : Prop :=
  ∀ r w s, Names (found t s) r w →
    (t.Fair s.env.log → Fits t a b r ∧ SettledBut t (Leads t.held r) s) →
    (enter w).Ensures (walking ε t) s fun _ s' => t.Fair s'.env.log → Covers t s s'

structure TakenUp (t : Terms) (r : Resource) (s s' : Scene (Watched ε)) : Prop extends
    Covers t s s' where
  resolved : keyIn t.pins r ∈ s'.context.resolved

/-- A dependency is being taken up: its key is put down, and its file is still to be expanded. -/
structure Taking (t : Terms) (r : Resource) (s s' : Scene (Watched ε)) : Prop where
  settled : SettledBut t (Leads t.held r) s'
  resolved : keyIn t.pins r ∈ s'.context.resolved
  history : s'.context.history = s.context.history

namespace Taking

variable {r : Resource}

theorem of_frame (h : Taking t r s s') (hf : Frame s' s'') : Taking t r s s'' :=
  ⟨h.settled.of_frame hf, hf.resolved ▸ h.resolved, hf.history.trans h.history⟩

/-- The file is expanded in the end, if there is one. -/
theorem covered (h : Taking t r s s') (hl : Later s' s'') (hc : Covers t s' s'') :
    TakenUp t r s s'' :=
  ⟨⟨hc.settled, (ClosedSince.of_history_eq h.history).trans hc.closed hl⟩, hl.resolved _ h.resolved⟩

theorem nowhere (h : Taking t r s s') (hn : ∀ f, ¬ Leads t.held r f) : TakenUp t r s s' :=
  h.covered (.refl s') ⟨h.settled.settle fun f hf => absurd hf (hn f), .of_history_eq rfl⟩

end Taking

variable (ht : Orderly t) {enter : Enter (Watched ε)}
include ht

theorem Taking.begin {r : Resource} (h : Settled t s) (hr : t.involved r)
    (hs : s' = { s with context := s.context.mark (keyIn t.pins r) }) : Taking t r s s' := by
  subst hs
  exact ⟨h.but.mark ht (.involved hr) fun _ => id, Context.mem_resolved_mark.mpr (.inr rfl),
    Context.history_mark ..⟩

theorem Taking.mark {r r' : Resource} (h : Taking t r s s') (hr : t.noted r')
    (hl : ∀ f, Leads t.held r' f → Leads t.held r f)
    (hs : s'' = { s' with context := s'.context.mark (keyIn t.pins r') }) : Taking t r s s'' := by
  subst hs
  exact ⟨h.settled.mark ht hr hl, Context.mem_resolved_mark.mpr (.inl h.resolved),
    (Context.history_mark ..).trans h.history⟩

theorem visitFile_takesUp {w : Wanted} (he : Meets t a b enter)
    (hpre : t.Fair s.env.log → Fits t a b w.resource ∧ Settled t s) :
    (visitFile enter w).Ensures (walking ε t) s
      fun _ s' => t.Fair s'.env.log → TakenUp t w.resource s s' := by
  refine .of_valid fun hv => .read (.read ?_)
  have hkey : t.Fair s.env.log →
      w.resource.key (s.pins.version? w.package) = keyIn t.pins w.resource := fun hf => by
    rw [hv.pins hf]
    rfl
  split
  · next h =>
    refine .pure fun hf => ⟨.of_frame (hpre hf).2 (.refl s), ?_⟩
    rw [← hkey hf]
    exact List.contains_iff_mem.mp h
  · refine .bind mark_ensures fun _ s₁ _ hs₁ h₁ => ?_
    have htaking : t.Fair s₁.env.log → Taking t w.resource s s₁ := fun hf => by
      have hf := hf.of_subset hs₁.1.log
      exact .begin ht (hpre hf).2 (hpre hf).1.involved (hkey hf ▸ h₁)
    refine (he w.resource w s₁ (.inPackage ..) fun hf => ?_).mono fun _ s' _ hs hc hf => ?_
    · exact ⟨(hpre (hf.of_subset hs₁.1.log)).1, (htaking hf).settled⟩
    · exact (htaking (hf.of_subset hs.1.log)).covered hs.1 (hc hf)

/-- The entry of a package that is being taken up is put down as well, and entered. -/
theorem entry_takesUp {s₀ : Scene (Watched ε)} {package subPath : String} {w : Wanted}
    (he : Meets t a b enter) (hn : Names (found t s) (.package package subPath) w)
    (hpre : t.Fair s.env.log →
      Fits t a b (.package package subPath) ∧ Taking t (.package package subPath) s₀ s) :
    (do
      mark (w.resource.key (← versionOf w.package))
      enter w : Walk (Watched ε) Unit).Ensures (walking ε t) s
      fun _ s' => t.Fair s'.env.log → TakenUp t (.package package subPath) s₀ s' := by
  refine .of_valid fun hv => .read (.bind mark_ensures fun _ s₁ _ hs₁ h₁ => ?_)
  have hn₁ : Names (found t s₁) (.package package subPath) w :=
    hn.mono fun _ _ _ => found_of_log hs₁.1.log
  have hpre₁ : t.Fair s₁.env.log →
      Fits t a b (.package package subPath) ∧ Taking t (.package package subPath) s₀ s₁ := fun hf => by
    have hf₀ := hf.of_subset hs₁.1.log
    obtain ⟨hfits, htaking⟩ := hpre hf₀
    have hheld := names_of_found hn₁ hf
    refine ⟨hfits, htaking.mark ht (.entry hfits.involved hheld) ?_ ?_⟩
    · rintro f ⟨w', hn', hw'⟩
      cases hn'
      exact ⟨w, hheld, hw'⟩
    · rw [h₁, hv.pins hf₀]
      rfl
  refine (he (.package package subPath) w s₁ hn₁ fun hf => ?_).mono fun _ s' _ hs hc hf => ?_
  · exact ⟨(hpre₁ hf).1, (hpre₁ hf).2.settled⟩
  · exact (hpre₁ (hf.of_subset hs.1.log)).2.covered hs.1 (hc hf)

theorem openPackage_takesUp {package subPath key : String} (he : Meets t a b enter)
    (hpre : t.Fair s.env.log → key = keyIn t.pins (.package package subPath) ∧
      Fits t a b (.package package subPath) ∧ Settled t s) :
    (openPackage c.watched enter package subPath key).Ensures (walking ε t) s
      fun _ s' => t.Fair s'.env.log → TakenUp t (.package package subPath) s s' := by
  refine .bind mark_ensures fun _ s₁ hv₁ hs₁ h₁ => ?_
  have hpre₁ : t.Fair s₁.env.log →
      Fits t a b (.package package subPath) ∧ Taking t (.package package subPath) s s₁ := fun hf => by
    obtain ⟨hkey, hfits, hset⟩ := hpre (hf.of_subset hs₁.1.log)
    exact ⟨hfits, .begin ht hset hfits.involved (hkey ▸ h₁)⟩
  have hp : (account c t ht).pursued s₁ (.package package subPath) := fun hf => (hpre₁ hf).1.involved
  refine .bind (lookup ((account c t ht).packageEntry hp)) fun o s₂ hv₂ _ ho => ?_
  obtain ⟨hs₂, ho⟩ := ho
  have hentry : FoundEntry (found t s₂) package subPath o := by
    rcases ho with ⟨hr, _⟩ | ho
    · rw [hv₁.options, ht.notRestricted] at hr
      cases hr
    · exact ho
  refine .read (.bind mark_ensures fun _ s₃ _ hs₃ h₃ => ?_)
  have hpre₃ : t.Fair s₃.env.log →
      Fits t a b (.package package subPath) ∧ Taking t (.package package subPath) s s₃ := fun hf => by
    have hf₂ := hf.of_subset hs₃.1.log
    obtain ⟨hfits, htaking⟩ := hpre₁ (hf₂.of_subset hs₂.1.log)
    refine ⟨hfits, (htaking.of_frame hs₂.1).mark ht (.involved hfits.involved) (fun _ => id) ?_⟩
    rw [h₃, hv₂.pins hf₂]
    rfl
  cases o with
  | none =>
    refine .pure fun hf => (hpre₃ hf).2.nowhere fun f hl => ?_
    obtain ⟨w, hn, _⟩ := hl
    have hentry := hentry.mono fun _ _ _ h => h (hf.of_subset hs₃.1.log)
    cases hn with
    | package h => cases h.unique t.held_functional hentry
  | some w =>
    exact entry_takesUp ht he (.package (hentry.mono fun _ _ _ => found_of_log hs₃.1.log)) hpre₃

theorem visitPackage_takesUp {package subPath : String} (he : Meets t a b enter)
    (hpre : t.Fair s.env.log → Fits t a b (.package package subPath) ∧ Settled t s) :
    (visitPackage c.watched enter package subPath).Ensures (walking ε t) s
      fun _ s' => t.Fair s'.env.log → TakenUp t (.package package subPath) s s' := by
  refine .of_valid fun hv => .read (.read ?_)
  have hkey : t.Fair s.env.log → (Resource.package package subPath).key (s.pins.version? package) =
      keyIn t.pins (.package package subPath) := fun hf => by
    rw [hv.pins hf]
    rfl
  split
  · next h =>
    refine .pure fun hf => ⟨.of_frame (hpre hf).2 (.refl s), ?_⟩
    rw [← hkey hf]
    exact List.contains_iff_mem.mp h
  · refine .read ?_
    rw [if_neg fun h => ?_]
    · exact openPackage_takesUp ht he fun hf => ⟨hkey hf, hpre hf⟩
    · have hp := h.2
      rw [hv.options, ht.notPreloading] at hp
      cases hp

/-- What a dependency is taken up for, where its budget allows it. -/
structure Visited (t : Terms) (cross step : Option (Enter (Watched ε))) (home : Option String)
    (r : Resource) (s' : Scene (Watched ε)) : Prop where
  crossed : cross ≠ none → Crosses home r → keyIn t.pins r ∈ s'.context.resolved
  stayed : step ≠ none → Stays home r → keyIn t.pins r ∈ s'.context.resolved

theorem visit_covers {cross step : Option (Enter (Watched ε))} {home : Option String} {r : Resource}
    (hc : ∀ enter, cross = some enter → Crosses home r →
      ∃ a b, Meets t a b enter ∧ (t.Fair s.env.log → Fits t a b r))
    (hst : ∀ enter, step = some enter → Stays home r →
      ∃ a b, Meets t a b enter ∧ (t.Fair s.env.log → Fits t a b r))
    (hset : t.Fair s.env.log → Settled t s) :
    (visit c.watched cross step home r).Ensures (walking ε t) s
      fun _ s' => t.Fair s'.env.log → Covers t s s' ∧ Visited t cross step home r s' := by
  rcases visit_cases c.watched cross step home r with ⟨hr, hcross, hstep⟩ | ⟨enter, hway, htaken⟩
  · rw [hr]
    refine .pure fun hf => ⟨.of_frame (hset hf) (.refl s), ?_⟩
    exact ⟨fun hn hr => absurd (hcross hr) hn, fun hn hr => absurd (hstep hr) hn⟩
  · obtain ⟨a, b, he, hfits⟩ : ∃ a b, Meets t a b enter ∧ (t.Fair s.env.log → Fits t a b r) := by
      rcases hway with ⟨h, hr⟩ | ⟨h, hr⟩
      · exact hc enter h hr
      · exact hst enter h hr
    have htakesUp : (visit c.watched cross step home r).Ensures (walking ε t) s
        fun _ s' => t.Fair s'.env.log → TakenUp t r s s' := by
      generalize visit c.watched cross step home r = walk at htaken ⊢
      cases htaken with
      | package => exact visitPackage_takesUp ht he fun hf => ⟨hfits hf, hset hf⟩
      | file => exact visitFile_takesUp ht he fun hf => ⟨hfits hf, hset hf⟩
    refine htakesUp.mono fun _ s' _ _ h hf => ?_
    exact ⟨(h hf).toCovers, fun _ _ => (h hf).resolved, fun _ _ => (h hf).resolved⟩

omit ht in
theorem Visited.of_later {cross step : Option (Enter (Watched ε))} {home : Option String}
    {r : Resource} (h : Visited t cross step home r s) (hl : Later s s') :
    Visited t cross step home r s' :=
  ⟨fun hn hr => hl.resolved _ (h.crossed hn hr), fun hn hr => hl.resolved _ (h.stayed hn hr)⟩

omit ht in
theorem each_covers (cross step : Option (Enter (Watched ε))) (home : Option String)
    {g : Resource → Walk (Watched ε) Unit} {rs : List Resource}
    (hg : ∀ r ∈ rs, ∀ s', (walking ε t).since s s' → (t.Fair s'.env.log → Settled t s') →
      (g r).Ensures (walking ε t) s' fun _ s'' =>
        t.Fair s''.env.log → Covers t s' s'' ∧ Visited t cross step home r s'')
    (hset : t.Fair s.env.log → Settled t s) :
    (Walk.each g rs).Ensures (walking ε t) s fun _ s' =>
      t.Fair s'.env.log → Covers t s s' ∧ ∀ r ∈ rs, Visited t cross step home r s' := by
  let P : List Resource → Scene (Watched ε) → Prop := fun rest s' =>
    t.Fair s'.env.log → Covers t s s' ∧ ∀ r ∈ rs, r ∈ rest ∨ Visited t cross step home r s'
  have hstart : P rs s := fun hf => ⟨.of_frame (hset hf) (.refl s), fun r hr => .inl hr⟩
  refine (Walk.Ensures.each (P := P) (fun r rest s' hr _ hs hp => ?_) hstart).mono
    fun _ s' _ _ hp hf => ⟨(hp hf).1, fun r hr => ((hp hf).2 r hr).resolve_left (List.not_mem_nil)⟩
  refine (hg r hr s' hs fun hf => (hp hf).1.settled).mono fun _ s'' _ hs' hv hf => ?_
  obtain ⟨hcov, hvis⟩ := hp (hf.of_subset hs'.1.log)
  refine ⟨hcov.trans (hv hf).1 hs'.1, fun r' hr' => ?_⟩
  rcases hvis r' hr' with hm | hm
  · rcases List.mem_cons.mp hm with rfl | hm
    · exact .inr (hv hf).2
    · exact .inl hm
  · exact .inr (hm.of_later hs'.1)

/-! ## Expansions -/

/-- The file that was found has been put down as expanded and is in the host. -/
structure Recorded (t : Terms) (f : File) (budget : Remaining) (s s' : Scene (Watched ε)) : Prop where
  resolved : s'.context.resolved = s.context.resolved
  history : s'.context.history =
    .expanded f.package (t.pins.version? f.package) f.path f.text budget :: s.context.history
  hosted : Hosted s'.env.log (Package.hostPath f.package f.path) f.text

omit ht in
theorem Recorded.settled {p : File → Prop} {f : File} {budget : Remaining}
    (h : Recorded t f budget s s') (hs : SettledBut t p s) (hp : ∀ f', p f' → f' = f) :
    Settled t s' := by
  intro r f' hr hk hl
  rw [h.resolved] at hk
  rcases hs r f' hr hk hl with ⟨budget', hm⟩ | hf
  · exact .inl ⟨budget', h.history ▸ List.mem_cons_of_mem _ hm⟩
  · cases hp f' hf
    exact .inl ⟨budget, h.history ▸ List.mem_cons_self ..⟩

omit ht in
theorem Recorded.closed {cross step : Option (Enter (Watched ε))} {f : File} {rs : List Resource}
    (h : Recorded t f ⟨a, b⟩ s s') (hl : Later s' s'') (hrs : f.dependencies = .ok rs)
    (hd : Descends (Meets t) t.fileSteps a b cross step)
    (hv : ∀ r ∈ rs, Visited t cross step (some f.package) r s'') : Closed t s'' f ⟨a, b⟩ where
  hosted := h.hosted.mono hl.log
  crossed hn r hi hr := by
    obtain ⟨rs', hrs', hm⟩ := hi
    cases hrs.symm.trans hrs'
    exact (hv r hm).crossed (fun he => hn (hd.noCross he)) hr
  stayed hn r hi hr := by
    obtain ⟨rs', hrs', hm⟩ := hi
    cases hrs.symm.trans hrs'
    exact (hv r hm).stayed (fun he => hn (hd.noStep he)) hr

omit ht in
theorem record_inject {f : File} {version : Option String} {r : Resource}
    (hf : t.Fair s.env.log → version = t.pins.version? f.package ∧ t.involved r ∧ Leads t.held r f) :
    (do
      Walk.change fun context => context.record (.expanded f.package version f.path f.text ⟨a, b⟩)
      inject c.watched (Package.hostPath f.package f.path) f.text : Walk (Watched ε) Unit).Ensures
      (walking ε t) s fun _ s' => t.Fair s'.env.log → Recorded t f ⟨a, b⟩ s s' := by
  obtain ⟨result, s', he, hi⟩ := inject_eq_done (c := c.watched) (Package.hostPath f.package f.path)
    f.text { s with
      context := s.context.record (.expanded f.package version f.path f.text ⟨a, b⟩) }
  have hlog : ∀ o ∈ s.env.log, o ∈ s'.env.log := hi.log_subset
  have hhist : s'.context.history =
      .expanded f.package version f.path f.text ⟨a, b⟩ :: s.context.history := hi.history_eq
  refine .of_eq_done he (fun hv => ⟨⟨hi.options_eq, fun k hk => ?_, fun m hm => ?_, hlog⟩, fun _ => ?_⟩)
    fun _ hr _ _ hfair => ⟨hi.resolved_eq, ?_, hi.handed.2 hr⟩
  · rw [hi.resolved_eq]
    exact hk
  · rw [hhist]
    exact List.mem_cons_of_mem _ hm
  · refine ⟨hi.options_eq.trans hv.options, fun hfair => ?_, fun hfair => ?_⟩
    · exact hi.pins_eq.trans (hv.pins (hfair.of_subset hlog))
    · have hfair := hfair.of_subset hlog
      intro package version' path text budget hm
      rw [hhist] at hm
      rcases List.mem_cons.mp hm with heq | hm
      · cases heq
        exact ⟨(hf hfair).1, r, (hf hfair).2⟩
      · exact hv.expanded hfair package version' path text budget hm
  · rw [hhist, (hf (hfair.of_subset hlog)).1]

omit ht in
/-- What is closed when the file is put down is closed when its dependencies have been visited. -/
theorem Recorded.covers {cross step : Option (Enter (Watched ε))} {f : File} {rs : List Resource}
    (h : Recorded t f ⟨a, b⟩ s s') (hl : Later s' s'') (hrs : f.dependencies = .ok rs)
    (hd : Descends (Meets t) t.fileSteps a b cross step) (hc : Covers t s' s'')
    (hv : ∀ r ∈ rs, Visited t cross step (some f.package) r s'') : Covers t s s'' := by
  refine ⟨hc.settled, fun package version path text budget hm => ?_⟩
  rcases hc.closed package version path text budget hm with hm | hclosed
  · rw [h.history] at hm
    rcases List.mem_cons.mp hm with he | hm
    · cases he
      exact .inr (h.closed hl hrs hd hv)
    · exact .inl hm
  · exact .inr hclosed

/-- A file with the key of one that was expanded is that file. -/
theorem expanded_of_loaded {r : Resource} {f : File} (hv : Valid t s) (hf : t.Fair s.env.log)
    (hr : t.involved r) (hl : Leads t.held r f)
    (h : Package.fileKey f.package (t.pins.version? f.package) f.path ∈ s.context.loaded) :
    Expanded t s f := by
  obtain ⟨package, version, path, text, budget, hm, hkey⟩ := Context.exists_of_mem_loaded h
  obtain ⟨rfl, r', hr', hl'⟩ := hv.expanded hf _ _ _ _ _ hm
  cases ht.files r' r _ _ hr' hr hl' hl hkey
  exact ⟨budget, hm⟩

/-- The dependencies of a file are visited on what the chain to it leaves of the budget. -/
theorem dependencies_cover {cross step : Option (Enter (Watched ε))} {r : Resource} {f : File}
    {rs : List Resource} (hd : Descends (Meets t) t.fileSteps a b cross step)
    (hrs : f.dependencies = .ok rs) (hpre : t.Fair s.env.log → Fits t a b r ∧ Leads t.held r f)
    (hset : t.Fair s.env.log → Settled t s) :
    (Walk.each (visit c.watched cross step (some f.package)) rs).Ensures (walking ε t) s fun _ s' =>
      t.Fair s'.env.log →
        Covers t s s' ∧ ∀ r' ∈ rs, Visited t cross step (some f.package) r' s' := by
  refine each_covers cross step (some f.package) (fun r' hr' s' hs' hset' => ?_) hset
  have hpre' : t.Fair s'.env.log → Fits t a b r ∧ Leads t.held r f := fun hf =>
    hpre (hf.of_subset hs'.1.log)
  refine visit_covers ht (fun enter he hc => ?_) (fun enter he hh => ?_) hset'
  · obtain ⟨n, rfl, hm⟩ := hd.crosses enter he
    exact ⟨n, t.fileSteps, hm, fun hf => (hpre' hf).1.cross (hpre' hf).2 ⟨rs, hrs, hr'⟩ hc⟩
  · obtain ⟨n, rfl, hm⟩ := hd.stays enter he
    exact ⟨a, n, hm, fun hf => (hpre' hf).1.stay (hpre' hf).2 ⟨rs, hrs, hr'⟩ hh⟩

theorem expandNew_covers {cross step : Option (Enter (Watched ε))} {r : Resource} {f : File}
    {version : Option String} (hd : Descends (Meets t) t.fileSteps a b cross step)
    (hpre : t.Fair s.env.log → version = t.pins.version? f.package ∧ Fits t a b r ∧
      Leads t.held r f ∧ SettledBut t (Leads t.held r) s) :
    ((do
      Walk.change fun context => context.record (.expanded f.package version f.path f.text ⟨a, b⟩)
      inject c.watched (Package.hostPath f.package f.path) f.text) >>= fun _ => do
      let dependencies ← importsOf f.text (.resource (.inPackage f.package (Path.dirname f.path) ""))
      Walk.each (visit c.watched cross step (some f.package)) dependencies :
      Walk (Watched ε) Unit).Ensures (walking ε t) s
      fun _ s' => t.Fair s'.env.log → Covers t s s' := by
  refine .bind (record_inject (r := r) fun hf => ?_) fun _ s₁ _ hs₁ h₁ => ?_
  · obtain ⟨hversion, hfits, hleads, _⟩ := hpre hf
    exact ⟨hversion, hfits.involved, hleads⟩
  refine .bind (lookup importsOf_ensures) fun rs s₂ _ _ h₂ => ?_
  obtain ⟨hs₂, himports⟩ := h₂
  have hrs : f.dependencies = .ok rs := himports
  have hpre₂ : t.Fair s₂.env.log → Fits t a b r ∧ Leads t.held r f := fun hf => by
    obtain ⟨_, hfits, hleads, _⟩ := hpre (hf.of_subset fun o ho => hs₂.1.log o (hs₁.1.log o ho))
    exact ⟨hfits, hleads⟩
  have hset₂ : t.Fair s₂.env.log → Settled t s₂ := fun hf => by
    have hf₁ := hf.of_subset hs₂.1.log
    obtain ⟨_, _, hleads, hset⟩ := hpre (hf₁.of_subset hs₁.1.log)
    refine SettledBut.of_frame hs₂.1 ((h₁ hf₁).settled hset fun f' hl => ?_)
    exact hl.unique t.held_functional hleads
  refine (dependencies_cover ht hd hrs hpre₂ hset₂).mono fun _ s' _ hs' hcov hf => ?_
  obtain ⟨hcov, hvis⟩ := hcov hf
  have hl₁ : Later s₁ s' := (Later.of_frame hs₂.1).trans hs'.1
  have hcov₁ : Covers t s₁ s' :=
    ⟨hcov.settled, (ClosedSince.of_history_eq hs₂.1.history).trans hcov.closed hs'.1⟩
  exact (h₁ (hf.of_subset hl₁.log)).covers hl₁ hrs hd hcov₁ hvis

theorem expand_covers {cross step : Option (Enter (Watched ε))} {r : Resource} {w : Wanted}
    (hd : Descends (Meets t) t.fileSteps a b cross step) (hn : Names (found t s) r w)
    (hpre : t.Fair s.env.log → Fits t a b r ∧ SettledBut t (Leads t.held r) s) :
    (expand c.watched ⟨a, b⟩ cross step w).Ensures (walking ε t) s
      fun _ s' => t.Fair s'.env.log → Covers t s s' := by
  have hp : (account c t ht).pursued s r := fun hf => (hpre hf).1.involved
  refine .bind (lookup ((account c t ht).sourceFile hp hn)) fun o s₁ hv₁ _ ho => ?_
  obtain ⟨hs₁, hfile⟩ := ho
  have hn₁ : Names (found t s₁) r w := hn.mono fun _ _ _ => found_of_log hs₁.1.log
  have hpre₁ : t.Fair s₁.env.log → Fits t a b r ∧ SettledBut t (Leads t.held r) s₁ := fun hf =>
    ⟨(hpre (hf.of_subset hs₁.1.log)).1, (hpre (hf.of_subset hs₁.1.log)).2.of_frame hs₁.1⟩
  have hclosed₁ : ClosedSince t s s₁ := .of_history_eq hs₁.1.history
  have hfound : t.Fair s₁.env.log → FoundFile t.held w o := fun hf => hfile.mono fun _ _ _ h => h hf
  match o, hfile, hfound with
  | none, _, hfound =>
    refine .pure fun hf => ⟨(hpre₁ hf).2.settle fun f hl => ?_, hclosed₁⟩
    obtain ⟨w', hn', _, hw'⟩ := hl
    cases hn'.unique t.held_functional (names_of_found hn₁ hf)
    cases hw'.unique t.held_functional (hfound hf)
  | some (content, path), hfile, hfound =>
    have hleads : ∀ text, content = .text text → t.Fair s₁.env.log →
        Leads t.held r ⟨w.package, path, text⟩ := by
      rintro text rfl hf
      exact ⟨w, names_of_found hn₁ hf, rfl, hfound hf⟩
    have hversion : t.Fair s₁.env.log → s₁.pins.version? w.package = t.pins.version? w.package :=
      fun hf => by rw [hv₁.pins hf]
    refine .read (.read ?_)
    split
    · next hloaded =>
      refine .pure fun hf => ⟨(hpre₁ hf).2.settle fun f hl => ?_, hclosed₁⟩
      obtain ⟨text, rfl⟩ := Terms.exists_text_of_held (hfound hf).found_content
      cases hl.unique t.held_functional (hleads text rfl hf)
      rw [hversion hf] at hloaded
      exact expanded_of_loaded ht hv₁ hf (hpre₁ hf).1.involved hl (List.contains_iff_mem.mp hloaded)
    · have hp₁ : (account c t ht).pursued s₁ r := fun hf => (hpre₁ hf).1.involved
      have hroute : Route (found t s₁) (pursued t s₁) w.package path :=
        .file hp₁ hn₁ hfile.tried.1 hfile.tried.2
      refine .bind (lookup ((account c t ht).hostable hroute)) fun text s₂ _ _ h₂ => ?_
      obtain ⟨_, hcontent, rfl⟩ := h₂
      show Walk.Ensures (walking ε t) ((_ >>= _) >>= _) s₂ _
      refine (expandNew_covers ht (r := r) (f := ⟨w.package, path, text⟩) hd fun hf => ?_).mono
        fun _ s' _ hs' hcov hf => ?_
      · exact ⟨hversion hf, (hpre₁ hf).1, hleads text hcontent hf, (hpre₁ hf).2⟩
      · exact ⟨(hcov hf).settled, hclosed₁.trans (hcov hf).closed hs'.1⟩

omit ht in
/-- The marks of the beginning and the end of an expansion cover nothing and undo nothing. -/
theorem covers_of_marks {w : Wanted}
    (h : Covers t { s with context := s.context.record (.entered w) } s') :
    Covers t s { s' with context := s'.context.record .left } where
  settled r f hr hk hl := (h.settled r f hr hk hl).imp_left fun ⟨budget, hm⟩ =>
    ⟨budget, List.mem_cons_of_mem _ hm⟩
  closed package version path text budget hm := by
    have hm : .expanded package version path text budget ∈ s'.context.history := by
      simpa [Context.record] using hm
    refine (h.closed package version path text budget hm).imp (fun ho => ?_) fun hc => ?_
    · simpa [Context.record] using ho
    · exact ⟨hc.hosted, hc.crossed, hc.stayed⟩

omit ht in
theorem valid_record {m : Milestone}
    (hm : ∀ package version path text budget, m ≠ .expanded package version path text budget)
    (hv : Valid t s) : Valid t { s with context := s.context.record m } where
  options := hv.options
  pins := hv.pins
  expanded hf package version path text budget he := by
    rcases List.mem_cons.mp he with he | he
    · exact absurd he.symm (hm package version path text budget)
    · exact hv.expanded hf package version path text budget he

theorem expandMarked_meets {cross step : Option (Enter (Watched ε))}
    (hd : Descends (Meets t) t.fileSteps a b cross step) :
    Meets t a b (expandMarked c.watched ⟨a, b⟩ cross step) := by
  intro r w s hn hpre
  refine .bracket
    (Q := fun _ s' => t.Fair s'.env.log →
      Covers t { s with context := s.context.record (.entered w) } s')
    (valid_record fun _ _ _ _ _ h => nomatch h) (fun _ => ?_) (fun s' _ hv' hs => ?_)
    fun _ s' _ _ _ hc hf => covers_of_marks (hc hf)
  · refine expand_covers ht hd hn fun hf => ⟨(hpre hf).1, fun r' f hr hk hl => ?_⟩
    refine ((hpre hf).2 r' f hr hk hl).imp_left fun ⟨budget, hm⟩ => ⟨budget, ?_⟩
    exact List.mem_cons_of_mem _ hm
  · refine ⟨⟨hs.1.options, hs.1.resolved, fun m hm => ?_, hs.1.log⟩, fun _ => ?_⟩
    · exact List.mem_cons_of_mem _ (hs.1.history m (List.mem_cons_of_mem _ hm))
    · exact valid_record (fun _ _ _ _ _ h => nomatch h) hv'

end Coverage

end DeclarationFetch.Resolution
