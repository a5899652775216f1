import DeclarationFetch.Proofs.Resolution.Isolation
import DeclarationFetch.Proofs.Resolution.Manifests

/-! # Turns of package imports

When the turn of a package import comes, it is looked up, unless its key was put down before. Keys are put
down for package imports and for files of packages alike, so that something else may have had that key.

* `PackageImport.Honored`: where a key of the import was put down, its manifest is in the host, or
  something else has that key. Every part of a pass keeps this.
* `turn`: the scene of a pass when the turn of one of its dependencies comes.
* `pass_hosts_manifest`: if nothing else has a key of the import then, its manifest is in the host when
  the pass has ended.
* `Nested`: a package and a directory in it with a manifest each. The directory is passed over if the
  package has imported a file by the path of the directory before.
-/

namespace DeclarationFetch.Resolution

variable {ε α : Type} {c : Collaborators ε} {fit : Watched ε → Prop}
  {has : String → Watched ε → Prop}

/-- The branches of a pass end where the last of them do, unless a fault ends them before. -/
theorem finish_branches_append {budget : Budget} {home : Option String} (before rest : List Resource)
    (s : Scene ε) (play : Play ε) :
    (branches c budget home (before ++ rest) s).finish play =
      match (branches c budget home before s).finish play with
      | (.ok (), s₁, play₁) => (branches c budget home rest s₁).finish play₁
      | (.error fault, s₁, play₁) => (.error fault, s₁, play₁) := by
  induction before generalizing s play with
  | nil => rfl
  | cons r before ih =>
    let branch := (visitOn c budget home r).rescue (handle c)
    have hcons : ∀ l, branches c budget home (r :: l) =
        branch >>= fun _ => branches c budget home l := fun _ => rfl
    rw [List.cons_append, hcons, hcons, Walk.finish_bind, Walk.finish_bind]
    obtain ⟨result, s₁, play₁⟩ := (branch s).finish play
    cases result with
    | error fault => rfl
    | ok => exact ih s₁ play₁

namespace PackageImport

open Coverage (Frame Later)

variable {t : PackageImport} {rs : List Resource} {s s' s'' : Scene (Watched ε)}

/-! ## The regime of expansions -/

/-- What was put down stays, and the host keeps its files. -/
structure Grown (t : PackageImport) (fit : Watched ε → Prop) (has : String → Watched ε → Prop)
    (s s' : Scene (Watched ε)) : Prop where
  later : Later s s'
  retained : Retained fit has s.env s'.env
  sound : t.Sound fit s → t.Sound fit s'

theorem Grown.refl (s : Scene (Watched ε)) : t.Grown fit has s s := ⟨.refl s, .refl _, id⟩

theorem Grown.trans (h : t.Grown fit has s s') (h' : t.Grown fit has s' s'') : t.Grown fit has s s'' :=
  ⟨h.later.trans h'.later, h.retained.trans h'.retained, fun hs => h'.sound (h.sound hs)⟩

theorem Grown.of_kept (h : t.Kept fit has s s') : t.Grown fit has s s' :=
  ⟨.of_frame h.frame, h.retained, h.sound⟩

/-- The terms of lookups, but dependencies may be taken up and files expanded. -/
def walking (t : PackageImport) (fit : Watched ε → Prop) (has : String → Watched ε → Prop) :
    Regime (Watched ε) where
  asks _ _ := True
  answers := (t.lookups fit has).answers
  valid := t.Sound fit
  since := t.Grown fit has
  refl := .refl
  trans := .trans
  valid_of_since h := h.sound

theorem lookup {w : Walk (Watched ε) α} {Q : α → Scene (Watched ε) → Prop}
    (h : w.Ensures (t.lookups fit has) s Q) :
    w.Ensures (t.walking fit has) s fun a s' => t.Kept fit has s s' ∧ Q a s' :=
  h.weaken (fun _ _ => id) (fun _ _ _ _ => id) id fun _ => .of_kept

theorem grown_of_context {context : Context}
    (hr : ∀ key ∈ s.context.resolved, key ∈ context.resolved)
    (hh : ∀ m ∈ s.context.history, m ∈ context.history) :
    t.Grown fit has s { s with context := context } :=
  ⟨⟨rfl, hr, hh, fun _ => id⟩, .refl _, fun h => ⟨h.options, h.fit, h.admits⟩⟩

theorem mark_ensures {key : String} :
    (mark key : Walk (Watched ε) Unit).Ensures (t.walking fit has) s
      fun _ s' => s' = { s with context := s.context.mark key } := by
  refine .change (fun _ => grown_of_context (fun k hk => ?_) fun m hm => ?_) fun _ => rfl
  · exact Context.mem_resolved_mark.mpr (.inl hk)
  · rwa [Context.history_mark]

/-! ## Keys that were put down -/

/-- If its key was put down, then its manifest is in the host, or something else has that key. -/
def Honored (t : PackageImport) (has : String → Watched ε → Prop) (rs : List Resource)
    (s : Scene (Watched ε)) : Prop :=
  t.Fair s.env.log → ∀ version, t.versions t.package version →
    t.resource.key version ∈ s.context.resolved → has t.place s.env ∨ t.Shadowed rs s.context.history

theorem Honored.of_has (h : t.Fair s.env.log → has t.place s.env) : t.Honored has rs s :=
  fun hf _ _ _ => .inl (h hf)

theorem Honored.of_grown (h : t.Honored has rs s) (hg : t.Grown fit has s s')
    (hr : ∀ key ∈ s'.context.resolved, key ∈ s.context.resolved) : t.Honored has rs s' :=
  fun hf version hv hk => (h (hf.of_subset hg.later.log) version hv (hr _ hk)).imp (hg.retained.has _)
    (·.mono (fun _ => id) hg.later.history)

theorem Honored.of_kept (h : t.Honored has rs s) (hk : t.Kept fit has s s') : t.Honored has rs s' :=
  h.of_grown (.of_kept hk) fun _ hm => hk.frame.resolved ▸ hm

theorem Honored.mark_package {package subPath : String} {version : Option String}
    (h : t.Honored has rs s)
    (ha : Arises t.options.preloadPackages rs s.context.history package subPath)
    (hv : t.Fair s.env.log → t.versions package version)
    (ht : .package package subPath = t.resource → t.Fair s.env.log → has t.place s.env) :
    t.Honored has rs { s with
      context := s.context.mark ((Resource.package package subPath).key version) } := by
  intro hf version' hv' hk
  by_cases he : .package package subPath = t.resource
  · exact .inl (ht he hf)
  · rcases Context.mem_resolved_mark.mp hk with hk | hk
    · exact (h hf version' hv' hk).imp_right (·.mono (fun _ => id) (by simp))
    · exact .inr (.package (ha.mono (fun _ => id) (by simp)) he (hv hf) hv' hk.symm)

theorem Honored.mark_file {w : Wanted} {version : Option String} (h : t.Honored has rs s)
    (hv : t.Fair s.env.log → t.versions w.package version) :
    t.Honored has rs { s with
      context := (s.context.mark (w.resource.key version)).record (.entered w) } := by
  intro hf version' hv' hk
  rcases Context.mem_resolved_mark.mp hk with hk | hk
  · refine (h hf version' hv' hk).imp_right (·.mono (fun _ => id) fun m hm => ?_)
    exact List.mem_cons_of_mem _ (by rwa [Context.history_mark])
  · exact .inr (.file (List.mem_cons_self ..) (hv hf) hv' hk.symm)

/-! ## Taking up dependencies -/

/-- An expansion that is in order for a file whose key was just put down. -/
def Meets (t : PackageImport) (fit : Watched ε → Prop) (has : String → Watched ε → Prop)
    (rs : List Resource) (enter : Enter (Watched ε)) : Prop :=
  ∀ w s, t.Honored has rs { s with context := s.context.record (.entered w) } →
    (enter w).Ensures (t.walking fit has) s fun _ => t.Honored has rs

theorem once_ensures {resource : Resource} {package : String} {f : String → Walk (Watched ε) Unit}
    {Q : Unit → Scene (Watched ε) → Prop}
    (h : ∀ version, t.Sound fit s → (t.Fair s.env.log → t.versions package version) →
      (f (resource.key version)).Ensures (t.walking fit has) s Q)
    (hk : ∀ version, (t.Fair s.env.log → t.versions package version) →
      resource.key version ∈ s.context.resolved → Q () s) :
    (once resource package f).Ensures (t.walking fit has) s Q := by
  refine .of_valid fun hv => .read (.read ?_)
  split
  · next hm => exact .pure (hk _ (fun hf => hv.admits hf _) (List.contains_iff_mem.mp hm))
  · exact h _ hv fun hf => hv.admits hf _

variable {enter : Enter (Watched ε)}

theorem visitFile_honors {w : Wanted} (he : t.Meets fit has rs enter) (h : t.Honored has rs s) :
    (visitFile enter w).Ensures (t.walking fit has) s fun _ => t.Honored has rs := by
  refine once_ensures (fun version _ hv => ?_) fun _ _ _ => h
  refine .bind mark_ensures fun _ s₁ _ _ h₁ => he w s₁ ?_
  rw [h₁]
  exact h.mark_file hv

section Walks

variable (hc : Retains c.watched fit has) (hopen : t.options.onlySpecifiedPackages = false)
include hc hopen

theorem openPackage_honors {package subPath : String} {version : Option String}
    (he : t.Meets fit has rs enter) (h : t.Honored has rs s)
    (ha : Arises t.options.preloadPackages rs s.context.history package subPath)
    (hv : t.Fair s.env.log → t.versions package version) :
    (openPackage c.watched enter package subPath ((Resource.package package subPath).key version)).Ensures
      (t.walking fit has) s fun _ s' => t.Honored has rs s' ∧
        (.package package subPath = t.resource → t.Fair s'.env.log → has t.place s'.env) := by
  refine .bind mark_ensures fun _ s₁ _ hs₁ h₁ => ?_
  have hentry : (packageEntry c.watched package subPath).Ensures (t.walking fit has) s₁ fun _ s₂ =>
      t.Kept fit has s₁ s₂ ∧ t.Honored has rs s₂ ∧
        (.package package subPath = t.resource → t.Fair s₂.env.log → has t.place s₂.env) := by
    by_cases ht : .package package subPath = t.resource
    · cases ht
      refine (lookup (packageEntry_hosts hc hopen)).mono fun _ s₂ _ _ h₂ => ?_
      exact ⟨h₂.1, .of_has h₂.2, fun _ => h₂.2⟩
    · refine (lookup ((account hc t).packageEntry trivial)).mono fun _ s₂ _ _ h₂ => ?_
      have hmarked : t.Honored has rs s₁ := h₁ ▸ h.mark_package ha hv fun hn => absurd hn ht
      exact ⟨h₂.1, hmarked.of_kept h₂.1, fun hn => absurd hn ht⟩
  refine .bind hentry fun o s₂ hv₂ _ h₂ => .read ?_
  obtain ⟨hs₂, hhonored₂, hhas₂⟩ := h₂
  have ha₂ := ha.mono (fun _ => id) fun m hm => hs₂.frame.history ▸ hs₁.later.history m hm
  refine .bind mark_ensures fun _ s₃ hv₃ hs₃ h₃ => ?_
  have hhonored₃ : t.Honored has rs s₃ :=
    h₃ ▸ hhonored₂.mark_package ha₂ (fun hf => hv₂.admits hf _) hhas₂
  have hhas : ∀ s', t.Grown fit has s₃ s' → .package package subPath = t.resource →
      t.Fair s'.env.log → has t.place s'.env := fun s' hs' ht hf => by
    have hs : t.Grown fit has s₂ s' := .trans hs₃ hs'
    exact hs.retained.has _ (hhas₂ ht (hf.of_subset hs.later.log))
  cases o with
  | none => exact .pure ⟨hhonored₃, hhas s₃ (.refl s₃)⟩
  | some w =>
    refine .read (.bind mark_ensures fun _ s₄ _ hs₄ h₄ => ?_)
    refine (he w s₄ ?_).mono fun _ s₅ _ hs₅ h₅ => ⟨h₅, hhas s₅ (.trans hs₄ hs₅)⟩
    rw [h₄]
    exact hhonored₃.mark_file fun hf => hv₃.admits hf _

/-- Unless its key was put down before, the manifest of the import is in the host once it was taken up. -/
theorem visitPackage_honors {package subPath : String} (he : t.Meets fit has rs enter)
    (h : t.Honored has rs s)
    (ha : Arises t.options.preloadPackages rs s.context.history package subPath) :
    (visitPackage c.watched enter package subPath).Ensures (t.walking fit has) s fun _ s' =>
      t.Honored has rs s' ∧ (.package package subPath = t.resource →
        (∀ version, t.versions t.package version → t.resource.key version ∈ s.context.resolved →
          has t.place s.env) → t.Fair s'.env.log → has t.place s'.env) := by
  refine once_ensures (fun version hv hver => .read ?_) fun version hver hk => ⟨h, fun ht hhas hf => ?_⟩
  · split
    · next hp =>
      have hroot : (once (.package package "") package fun rootKey =>
          openPackage c.watched enter package "" rootKey).Ensures (t.walking fit has) s
            fun _ => t.Honored has rs := by
        refine once_ensures (fun version _ hver => ?_) fun _ _ _ => h
        refine (openPackage_honors hc hopen he h (.root (hv.options ▸ hp.2) ha) hver).mono ?_
        exact fun _ _ _ _ h => h.1
      refine .bind hroot fun _ s₁ _ hs₁ h₁ => ?_
      refine (openPackage_honors hc hopen he h₁ (ha.mono (fun _ => id) hs₁.later.history) fun hf => ?_).mono
        fun _ _ _ _ h => ⟨h.1, fun ht _ => h.2 ht⟩
      exact hver (hf.of_subset hs₁.later.log)
    · exact (openPackage_honors hc hopen he h ha hver).mono fun _ _ _ _ h => ⟨h.1, fun ht _ => h.2 ht⟩
  · cases ht
    exact hhas version (hver hf) hk

theorem visit_honors {cross step : Option (Enter (Watched ε))} {home : Option String} {r : Resource}
    (hcross : ∀ enter, cross = some enter → t.Meets fit has rs enter)
    (hstep : ∀ enter, step = some enter → t.Meets fit has rs enter) (h : t.Honored has rs s)
    (ha : ∀ enter package subPath, cross = some enter → r = .package package subPath →
      Arises t.options.preloadPackages rs s.context.history package subPath) :
    (visit c.watched cross step home r).Ensures (t.walking fit has) s fun _ => t.Honored has rs := by
  rcases visit_cases c.watched cross step home r with ⟨hr, _⟩ | ⟨enter, hway, htaken⟩
  · rw [hr]
    exact .pure h
  · have he := hway.elim (fun h => hcross enter h.1) fun h => hstep enter h.1
    generalize visit c.watched cross step home r = walk at htaken ⊢
    cases htaken with
    | package package subPath =>
      have ha : Arises t.options.preloadPackages rs s.context.history package subPath := by
        rcases hway with ⟨hsome, _⟩ | ⟨_, hr⟩
        · exact ha enter package subPath hsome rfl
        · exact hr.elim
      exact (visitPackage_honors hc hopen he h ha).mono fun _ _ _ _ h => h.1
    | file => exact visitFile_honors he h

/-! ## Expansions -/

omit hopen in
/-- Putting a file down as expanded brings its imports up, and puts no key down. -/
theorem record_inject_honors {f : File} {version : Option String} {budget : Remaining}
    (h : t.Honored has rs s) (hr : Route (t.found s) (fun _ => True) f.package f.path)
    (hf : t.found s f.package f.path (some (.text f.text))) :
    (do
      Walk.change fun context => context.record (.expanded f.package version f.path f.text budget)
      inject c.watched (Package.hostPath f.package f.path) f.text : Walk (Watched ε) Unit).Ensures
      (t.walking fit has) s fun _ s' => t.Honored has rs s' ∧
        .expanded f.package version f.path f.text budget ∈ s'.context.history := by
  let m : Milestone := .expanded f.package version f.path f.text budget
  let s₁ : Scene (Watched ε) := { s with context := s.context.record m }
  have hs₁ : t.Grown fit has s s₁ := grown_of_context (fun _ => id) fun _ => List.mem_cons_of_mem m
  have hinject : (inject c.watched (Package.hostPath f.package f.path) f.text).Ensures
      (t.lookups fit has) s₁ fun _ _ => True :=
    (account hc t).inject (s := s₁) hr hf
  refine .bind (Q := fun _ s' => s' = s₁) (.change (fun _ => hs₁) fun _ => rfl) fun _ _ _ _ h₁ => ?_
  subst h₁
  refine (lookup hinject).mono fun _ s₂ _ _ h₂ => ⟨(h.of_grown hs₁ fun _ => id).of_kept h₂.1, ?_⟩
  exact h₂.1.frame.history ▸ List.mem_cons_self ..

theorem expand_honors {fileSteps crossings steps : Nat} {cross step : Option (Enter (Watched ε))}
    {w : Wanted} (hd : Descends (fun _ _ => t.Meets fit has rs) fileSteps crossings steps cross step)
    (h : t.Honored has rs s) :
    (expand c.watched ⟨crossings, steps⟩ cross step w).Ensures (t.walking fit has) s
      fun _ => t.Honored has rs := by
  let A := account hc t
  have hn : ∀ s' : Scene (Watched ε), Names (t.found s') w.resource w := fun _ => .inPackage ..
  refine .bind (lookup (A.sourceFile trivial (hn s))) fun o s₁ _ _ ho => ?_
  obtain ⟨hs₁, hfile⟩ := ho
  have h₁ := h.of_kept hs₁
  match o, hfile with
  | none, _ => exact .pure h₁
  | some (content, path), hfile =>
    refine .read (.read ?_)
    split
    · exact .pure h₁
    · have hroute : Route (t.found s₁) (fun _ => True) w.package path :=
        .file trivial (hn s₁) hfile.tried.1 hfile.tried.2
      refine .bind (lookup (A.hostable hroute)) fun text s₂ _ _ h₂ => ?_
      obtain ⟨_, rfl, rfl⟩ := h₂
      show Walk.Ensures (t.walking fit has) ((_ >>= _) >>= _) s₂ _
      refine .bind (record_inject_honors (f := ⟨w.package, path, text⟩) hc h₁ hroute hfile.found_content)
        fun _ s₃ _ _ h₃ => ?_
      refine .bind (lookup importsOf_ensures) fun rs' s₄ _ hs₄ h₄ => ?_
      refine .each (P := fun _ => t.Honored has rs) (fun r _ s₅ hr _ hs₅ h₅ => ?_) (h₃.1.of_kept h₄.1)
      refine visit_honors hc hopen hd.cross_holds hd.step_holds h₅ ?_
      rintro enter package subPath he rfl
      obtain ⟨left, hleft, _⟩ := hd.crosses enter he
      have hexpanded := hs₅.later.history _ (hs₄.later.history _ h₃.2)
      exact .imported hexpanded ⟨rs', h₄.2, hr⟩ (by simp [hleft])

theorem expandMarked_honors {fileSteps crossings steps : Nat} {cross step : Option (Enter (Watched ε))}
    (hd : Descends (fun _ _ => t.Meets fit has rs) fileSteps crossings steps cross step) :
    t.Meets fit has rs (expandMarked c.watched ⟨crossings, steps⟩ cross step) := by
  intro w s h
  refine .bracket (Q := fun _ => t.Honored has rs) (fun hv => ⟨hv.options, hv.fit, hv.admits⟩)
    (fun _ => expand_honors hc hopen hd h) (fun s' _ hv' hs => ?_) fun _ s' _ _ _ h' => ?_
  · refine ⟨⟨hs.later.options, hs.later.resolved, fun m hm => ?_, hs.later.log⟩, hs.retained,
      fun _ => ?_⟩
    · exact List.mem_cons_of_mem _ (hs.later.history m (List.mem_cons_of_mem _ hm))
    · exact ⟨hv'.options, hv'.fit, hv'.admits⟩
  · exact fun hf version hv hk => (h' hf version hv hk).imp_right
      (·.mono (fun _ => id) fun _ => List.mem_cons_of_mem _)

/-! ## Branches -/

omit hopen in
theorem handle_not_fair (fault : Fault) :
    (handle c.watched fault).Ensures (t.walking fit has) s fun _ s' => ¬ t.Fair s'.env.log :=
  handle_ensures fault (fun message hv => .of_kept ((account hc t).failed message hv))
    fun _ hf => hf.smooth _ (List.mem_cons_self ..)

theorem branches_honors {budget : Budget} {home : Option String} {l : List Resource}
    (hl : ∀ r ∈ l, r ∈ rs) (h : t.Honored has rs s) :
    (branches c.watched budget home l).Ensures (t.walking fit has) s fun _ => t.Honored has rs := by
  refine .each (P := fun _ => t.Honored has rs) (fun r _ s₁ hr _ _ h₁ => ?_) h
  refine .rescue ?_ fun fault s₂ _ _ => ?_
  · refine visit_honors hc hopen (across_holds (fun _ _ _ _ => expandMarked_honors hc hopen) _)
      (along_holds (fun _ _ _ _ => expandMarked_honors hc hopen) _ _) h₁ ?_
    rintro _ package subPath _ rfl
    exact .listed (hl _ hr)
  · exact (handle_not_fair hc fault).mono fun _ _ _ _ hn hf => absurd hf hn

/-- When its turn has come and nothing else has its key, the manifest of the import gets into the host. -/
theorem branches_host {budget : Budget} {home : Option String} (hdepth : 1 ≤ budget.packageDepth)
    {before after : List Resource} (h : t.Honored has before s)
    (hapart : ¬ t.Shadowed before s.context.history) :
    (branches c.watched budget home (t.resource :: after)).Ensures (t.walking fit has) s
      fun _ s' => t.Fair s'.env.log → has t.place s'.env := by
  let rs := before ++ t.resource :: after
  have hmem : ∀ r ∈ t.resource :: after, r ∈ rs := fun r => List.mem_append_right before
  have hrs : t.Honored has rs s := fun hf version hv hk =>
    (h hf version hv hk).imp_right (·.mono (fun _ => List.mem_append_left _) fun _ => id)
  obtain ⟨n, hn⟩ : ∃ n, budget.packageDepth.toNat = n + 1 := ⟨budget.packageDepth.toNat - 1, by omega⟩
  have hvisit : (visitOn c.watched budget home t.resource).Ensures (t.walking fit has) s fun _ s' =>
      t.Fair s'.env.log → has t.place s'.env := by
    unfold visitOn
    rw [hn]
    have hmeets : ∀ enter, across c.watched budget.initialFileDepth.toNat (n + 1) = some enter →
        t.Meets fit has rs enter := across_holds (fun _ _ _ _ => expandMarked_honors hc hopen) _
    have hlisted := hmem _ (List.mem_cons_self ..)
    refine (visitPackage_honors hc hopen (hmeets _ rfl) hrs (.listed hlisted)).mono fun _ s' _ hs hp hf => ?_
    refine hp.2 rfl (fun version hv hk => ?_) hf
    exact (h (hf.of_subset hs.later.log) version hv hk).resolve_right hapart
  have hbranch : ((visitOn c.watched budget home t.resource).rescue (handle c.watched)).Ensures
      (t.walking fit has) s fun _ s' => t.Fair s'.env.log → has t.place s'.env :=
    .rescue hvisit fun fault s₁ _ _ => (handle_not_fair hc fault).mono fun _ _ _ _ hn hf => absurd hf hn
  refine .bind hbranch fun _ s₁ _ _ h₁ => ?_
  have hrest : (branches c.watched budget home after).Ensures (t.walking fit has) s₁ fun _ =>
      t.Honored has after := branches_honors hc hopen (fun _ => id) (.of_has h₁)
  exact hrest.mono fun _ s₂ _ hs₂ _ hf => hs₂.retained.has _ (h₁ (hf.of_subset hs₂.later.log))

/-- Where branches end without a failure, the manifest of an import among them is in the host. -/
theorem finish_hosts {budget : Budget} {home : Option String} (hdepth : 1 ≤ budget.packageDepth)
    {before after : List Resource} {play play' : Play (Watched ε)} (hv : t.Sound fit s)
    (hfollows : play.Follows (t.walking fit has)) (h : t.Honored has before s)
    (hapart : ¬ t.Shadowed before
      ((branches c.watched budget home before s).finish play).2.1.context.history)
    (hend : (branches c.watched budget home (before ++ t.resource :: after) s).finish play =
      (.ok (), s', play')) (hf : t.Fair s'.env.log) : has t.place s'.env := by
  have hahead : (branches c.watched budget home before).Ensures (t.walking fit has) s
      fun _ => t.Honored has before := branches_honors hc hopen (fun _ => id) h
  have hturn := (hahead.ends hv).finish hfollows
  rw [finish_branches_append] at hend
  generalize (branches c.watched budget home before s).finish play = ended at hapart hend hturn
  obtain ⟨result, s₁, play₁⟩ := ended
  obtain ⟨⟨hgrown, hhonored⟩, hfollows₁⟩ := hturn
  cases result with
  | error fault => cases hend
  | ok =>
    have hbehind : (branches c.watched budget home (t.resource :: after)).Ensures (t.walking fit has) s₁
        fun _ s' => t.Fair s'.env.log → has t.place s'.env :=
      branches_host hc hopen hdepth (hhonored () rfl) hapart
    have hlast := (hbehind.ends (hgrown.sound hv)).finish hfollows₁
    have hend : (branches c.watched budget home (t.resource :: after) s₁).finish play₁ =
      (.ok (), s', play') := hend
    rw [hend] at hlast
    exact hlast.1.2 () rfl hf

end Walks

end PackageImport

/-! ## Passes -/

/-- The scene of a pass when the turn of a dependency comes, behind the branches before it. -/
def turn (c : Collaborators ε) (budget : Budget) (home : Option String) (before : List Resource)
    (s : Scene ε) (play : Play ε) : Scene (Watched ε) :=
  ((branches c.watched budget home before { s.watched with context := {} }).finish play.watched).2.1

/-- Others keep the files of the host, pin packages to versions that they may have, and answer with a
manifest that names an entry if they are asked for that of the import. -/
structure Play.Supports (play : Play Workspace) (t : PackageImport) (host : Nat) : Prop where
  retained : ∀ n request s, Retained (HasHost host) (HasFile host) s.env (play.env n request s)
  admits : ∀ n request s, t.Admits s.pins → t.Admits (play.pins n request s)
  served : ∀ n request s, t.Served request (play.answer n request s)

/-- A package import of the source text, or a preloaded package, whose manifest names an entry: when a
pass has ended and nothing has failed, that manifest is in the host, unless something else had a key of
the import when its turn came. -/
theorem pass_hosts_manifest (cache : CacheRef) (host : Nat) (text : String) (parent : Parent)
    (budget : Budget) (s : Scene Workspace) (play : Play Workspace) (t : PackageImport)
    (hoptions : t.options = s.options) (hopen : s.options.onlySpecifiedPackages = false)
    (hdepth : 1 ≤ budget.packageDepth) (hhost : HasHost host s.env) (hpins : t.Admits s.pins)
    (hplay : play.Supports t host) (before after : List Resource)
    (hrs : dependenciesOf s text parent = .ok (before ++ t.resource :: after))
    (hapart : ¬ t.Shadowed before (turn (Workspace.collaborators cache (.memory host)) budget
      (homeOf parent) before s play).context.history)
    (n : Nat) (s' : Scene (Watched Workspace))
    (hend : (pass (Workspace.collaborators cache (.memory host)).watched text parent budget
      s.watched).after play.watched n = .done (.ok ()) s')
    (hfair : t.Fair s'.env.log) : HasFile host t.place s'.env.env := by
  let fit : Watched Workspace → Prop := fun e => HasHost host e.env
  let has : String → Watched Workspace → Prop := fun path e => HasFile host path e.env
  have hc : Retains (Workspace.collaborators cache (.memory host)).watched fit has :=
    (retains_memory cache host).watched
  have hfollows : play.watched.Follows (t.walking fit has) := fun k request s₁ _ =>
    ⟨rfl, rfl, rfl, Retains.retained_watched (hplay.retained k request s₁.unwatched),
      hplay.admits k request s₁.unwatched, hplay.served k request s₁.unwatched⟩
  have hpass := pass_eq_each (Workspace.collaborators cache (.memory host)).watched text parent budget
    s.watched
  have hwatched : dependenciesOf s.watched text parent = .ok (before ++ t.resource :: after) := hrs
  rw [hwatched] at hpass
  obtain ⟨_, hfinish⟩ := Step.finish_of_after (hpass ▸ hend)
  have hstart : t.Honored has before { s.watched with context := {} } := fun _ _ _ hk => nomatch hk
  exact PackageImport.finish_hosts hc (hoptions ▸ hopen) hdepth ⟨hoptions.symm, hhost, fun _ => hpins⟩
    hfollows hstart hapart hfinish hfair

/-! ## A directory with a manifest of its own -/

namespace Nested

/-- The files of a package and of a directory in it, each with a manifest. The entry of the package imports
one file. -/
def files (imported : String) : List (String × String) := [
  ("package.json", "\x7b\"types\":\"e.d.ts\"\x7d"),
  ("e.d.ts", "require(\"" ++ imported ++ "\")"),
  ("a/package.json", "\x7b\"types\":\"index.d.ts\"\x7d"),
  ("a/index.d.ts", "export \x7b\x7d"),
  ("b.d.ts", "export \x7b\x7d")]

def source (imported : String) : Request → Option String := Play.files "p" (files imported)

/-- The import of the directory where no package has a version. -/
def directory : PackageImport :=
  { options := {}, package := "p", subPath := "a", versions := fun _ version => version = none }

def text : String := "require(\"p\") require(\"p/a\")"

/-- The pass over a text that imports first the package and then the directory. -/
def ended (imported : String) (n : Nat) : Step (Watched Workspace) Unit :=
  (pass (Workspace.collaborators (.memory 0) (.memory 0)).watched text (.directory "/")
    (atFirst {}).options.budget (atFirst {}).watched).after (Play.answering (source imported)).watched n

def atDirectory (imported : String) : Scene (Watched Workspace) :=
  turn (Workspace.collaborators (.memory 0) (.memory 0)) (atFirst {}).options.budget
    (homeOf (.directory "/")) [.package "p" ""] (atFirst {}) (.answering (source imported))

theorem dependencies_text : dependenciesOf (atFirst {}) text (.directory "/") =
    .ok ([.package "p" ""] ++ directory.resource :: []) :=
  ok_of_toOption (by decide +kernel)

theorem declares_directory : Declares "p" (some (.text "\x7b\"types\":\"index.d.ts\"\x7d")) := by
  have hread : (Manifest.read "p" "\x7b\"types\":\"index.d.ts\"\x7d").toOption.map
      (fun m => ((m.field "typings").isSet, m.types?)) = some (false, some "index.d.ts") := by decide +kernel
  obtain ⟨m, hm, he⟩ := Option.map_eq_some_iff.mp hread
  obtain ⟨hunset, htypes⟩ := Prod.mk.inj he
  exact declares_of_types (ok_of_toOption hm) hunset htypes

/-- The source has the manifest of the directory, and nobody else acts. -/
theorem supports (imported : String) : (Play.answering (source imported)).Supports directory 0 where
  retained _ _ s := .refl s.env
  admits _ _ _ := id
  served _ request _ hpackage hpath o ho := by
    have hpath : request.path = "a/package.json" := hpath.trans (by decide)
    have hserved : source imported request = some "\x7b\"types\":\"index.d.ts\"\x7d" := by
      unfold source Play.files
      rw [if_pos (show request.package = "p" from hpackage), hpath]
      rfl
    have ho : source imported request = o := Except.ok.inj ho
    rw [← ho, hserved]
    exact declares_directory

def fromSource (imported : String) (log : List Observation) : Bool := log.all fun
  | .failed _ => false
  | .cached _ (.ok (some _)) => false
  | .answered request (.ok answer) => answer = source imported request
  | _ => true

def unversioned (imported : String) : Bool := (files imported).all fun file =>
  ((Manifest.read "p" file.2).toOption.bind Manifest.version?).isNone

theorem fair_of_fromSource {imported : String} {log : List Observation}
    (hv : unversioned imported = true) (h : fromSource imported log = true) : directory.Fair log where
  smooth _ hm := nomatch List.all_eq_true.mp h _ hm
  cached _ _ _ hm := nomatch List.all_eq_true.mp h _ hm
  named package path text manifest version hs hm hver := by
    generalize ho : some (Value.text text) = o at hs
    cases hs with
    | cached hs => exact nomatch List.all_eq_true.mp h _ hs
    | @answered _ _ pin answer hs =>
      obtain ⟨text', rfl, heq⟩ := Option.map_eq_some_iff.mp ho.symm
      cases heq
      have hanswer : some text = source imported ⟨package, _, pin⟩ :=
        of_decide_eq_true (List.all_eq_true.mp h _ hs)
      unfold source Play.files at hanswer
      split at hanswer
      · next hp =>
        cases hp
        obtain ⟨front, rest, he, _⟩ := List.lookup_eq_some_iff.mp hanswer.symm
        have hmem : (Path.join [path, "package.json"], text) ∈ files imported := he ▸ by simp
        have hnone := List.all_eq_true.mp hv _ hmem
        simp only [hm, Except.toOption] at hnone
        exact hver.symm.trans (Option.isNone_iff_eq_none.mp hnone)
      · cases hanswer

/-- Nothing that came up or was entered has the key of the directory. -/
def keyless (history : List Milestone) : Bool := history.all fun
  | .expanded package _ path text _ =>
      ((File.mk package path text).dependencies.toOption.getD []).all fun r => r.kind != "package"
  | .entered w => w.resource.key none != directory.resource.key none
  | .left => true

theorem not_shadowed_of_keyless {history : List Milestone} (h : keyless history = true) :
    ¬ directory.Shadowed [.package "p" ""] history := by
  intro hs
  cases hs with
  | @package package subPath _ _ ha hne hv hv' hk =>
    cases hv
    cases hv'
    cases ha with
    | listed hm =>
      cases List.mem_singleton.mp hm
      exact absurd hk (by decide)
    | root hp => cases hp
    | @imported f _ _ _ _ hm hi =>
      have hall := List.all_eq_true.mp (List.all_eq_true.mp h _ hm) _ (File.imports_iff.mp hi)
      cases hall
  | file hm hv hv' hk =>
    cases hv
    cases hv'
    have hne := List.all_eq_true.mp h _ hm
    simp [hk] at hne

/-- The package imports another file, so that the manifest of the directory gets into the host. -/
theorem directory_hosted :
    dependenciesOf (atFirst {}) text (.directory "/") =
        .ok ([.package "p" ""] ++ directory.resource :: []) ∧
      (Play.answering (source "./b")).Supports directory 0 ∧
      ¬ directory.Shadowed [.package "p" ""] (atDirectory "./b").context.history ∧
      ended "./b" 5 = .done (.ok ()) (ended "./b" 5).scene ∧
      directory.Fair (ended "./b" 5).scene.env.log ∧
      HasFile 0 directory.place (ended "./b" 5).scene.env.env := by
  have hrun : (ended "./b" 5).value? = some () ∧
      fromSource "./b" (ended "./b" 5).scene.env.log = true ∧ unversioned "./b" = true ∧
      keyless (atDirectory "./b").context.history = true := by decide +kernel
  obtain ⟨hvalue, hsource, hversions, hkeyless⟩ := hrun
  have hend := Step.eq_done_of_value? hvalue
  have hfair := fair_of_fromSource hversions hsource
  have hapart := not_shadowed_of_keyless hkeyless
  refine ⟨dependencies_text, supports "./b", hapart, hend, hfair, ?_⟩
  -- unfolded, so that nothing has to be run to see that it is this pass
  unfold atDirectory at hapart
  unfold ended at hend hfair ⊢
  exact pass_hosts_manifest (.memory 0) 0 text (.directory "/") (atFirst {}).options.budget (atFirst {})
    (.answering (source "./b")) directory rfl rfl (by decide) Nat.zero_lt_one (fun _ => rfl)
    (supports "./b") [.package "p" ""] [] dependencies_text hapart 5 _ hend hfair

/-- The package imports a file by the path of the directory. When the turn of the directory comes, its key
has been put down for that file, and its manifest is never looked up. -/
theorem directory_passed_over :
    dependenciesOf (atFirst {}) text (.directory "/") =
        .ok ([.package "p" ""] ++ directory.resource :: []) ∧
      (Play.answering (source "./a")).Supports directory 0 ∧
      ended "./a" 4 = .done (.ok ()) (ended "./a" 4).scene ∧
      directory.Fair (ended "./a" 4).scene.env.log ∧
      ¬ HasFile 0 directory.place (ended "./a" 4).scene.env.env := by
  have hrun : (ended "./a" 4).value? = some () ∧
      fromSource "./a" (ended "./a" 4).scene.env.log = true ∧ unversioned "./a" = true ∧
      (((ended "./a" 4).scene.env.env.memoryHost 0).get? directory.place).isSome = false := by
    decide +kernel
  obtain ⟨hvalue, hsource, hversions, hnone⟩ := hrun
  refine ⟨dependencies_text, supports "./a", Step.eq_done_of_value? hvalue,
    fair_of_fromSource hversions hsource, ?_⟩
  unfold HasFile
  rw [hnone]
  exact Bool.false_ne_true

end Nested

end DeclarationFetch.Resolution
