import DeclarationFetch.Proofs.Resolution.Settlement

/-! # Completeness within the budget

A dependency is taken up once and a file is expanded once, so a pass covers a chain of dependencies where
every file on the way was expanded with at least the budget that the chain leaves it.

* `Terms.ample`: a file was expanded with at least that budget, if at all.
* `expanded_of_due`: chains through ample files are expanded to their ends.
* `pass_covers`: the files that a pass has expanded at its end.
* `Detour`: a package where a chain within the budget is cut short, since it passes through a file that
  was expanded before with less.
-/

namespace DeclarationFetch.Resolution

variable {ε : Type} {c : Collaborators ε}

namespace Coverage

variable {t : Terms} {s : Scene (Watched ε)}

theorem handle_not_fair (fault : Fault) :
    (handle c.watched fault).Ensures (walking ε t) s fun _ s' => ¬ t.Fair s'.env.log :=
  handle_ensures fault (fun _ _ => .of_kept (.noted rfl rfl rfl rfl))
    fun _ hf => hf.smooth _ (List.mem_cons_self ..)

theorem branch_covers (ht : Orderly t) (step : Option (Enter (Watched ε))) {r : Resource}
    (hr : t.first r) (hset : t.Fair s.env.log → Settled t s) :
    (branch c.watched (across c.watched t.fileSteps t.crossings) step none r).Ensures (walking ε t) s
      fun _ s' => t.Fair s'.env.log →
        Covers t s s' ∧ Visited t (across c.watched t.fileSteps t.crossings) step none r s' := by
  refine .rescue (visit_covers ht (fun enter he _ => ?_) (fun enter _ hh => ?_) hset)
    fun fault s' _ _ => (handle_not_fair fault).mono fun _ _ _ _ hn hf => absurd hf hn
  · obtain ⟨n, hn, hm⟩ := across_descends (fun _ _ _ _ => expandMarked_meets ht) t.crossings enter he
    exact ⟨n, t.fileSteps, hm, fun _ => ⟨1, 0, by omega, Nat.zero_add _, .first hr⟩⟩
  · cases r <;> cases hh

/-- A pass takes up all its first dependencies, and covers what they bring up. -/
theorem course_covers {text directory : String} {s : Scene (Watched ε)} (ht : Orderly t)
    (hopts : t.options = s.options) (hfirst : t.first = First s.options s.pins text (.directory directory))
    (hblank : s.context = {}) :
    (course c.watched text (.directory directory) s.options.budget).Ensures (walking ε t) s
      fun _ s' => t.Fair s'.env.log → Covers t s s' ∧
        ∀ r, t.first r → Crosses none r → t.crossings ≠ 0 → keyIn t.pins r ∈ s'.context.resolved := by
  have hcross : across c.watched s.options.budget.initialFileDepth.toNat
      s.options.budget.packageDepth.toNat = across c.watched t.fileSteps t.crossings := by
    rw [Terms.fileSteps, Terms.crossings, hopts]
    rfl
  have hnone : across c.watched t.fileSteps t.crossings = none → t.crossings = 0 := across_eq_none
  unfold course
  rw [hcross]
  refine .read (.bind (Q := fun rs s' => s' = s ∧ preloads s = .ok rs)
    (.ofExcept fun rs h => ⟨rfl, h⟩) fun first s₁ _ _ h₁ => ?_)
  obtain ⟨rfl, hpre⟩ := h₁
  refine .bind (lookup importsOf_ensures) fun rest s₂ _ _ h₂ => ?_
  obtain ⟨hs₂, hrest⟩ := h₂
  have hmem : ∀ r ∈ first ++ rest, t.first r := fun r hr => by
    rw [hfirst]
    rcases List.mem_append.mp hr with hr | hr
    · exact first_of_preloads hpre r hr
    · exact .imported hrest hr
  have hset₂ : t.Fair s₂.env.log → Settled t s₂ := fun _ r f _ hk => by
    rw [hs₂.1.resolved, hblank] at hk
    cases hk
  refine (each_covers _ _ none (fun r hr _ _ hset₃ => branch_covers ht _ (hmem r hr) hset₃)
    hset₂).mono fun _ s' _ hs' hcov hf => ?_
  obtain ⟨hcov, hvis⟩ := hcov hf
  have hsince : ClosedSince t s₂ s' := hcov.closed
  refine ⟨⟨hcov.settled, (ClosedSince.of_history_eq hs₂.1.history).trans hsince hs'.1⟩,
    fun r hr hc hn => ?_⟩
  rw [hfirst] at hr
  cases hr with
  | preloaded ho =>
    rw [← hopts, ht.notPreloading] at ho
    cases ho
  | imported h hr =>
    cases h.symm.trans hrest
    exact (hvis r (List.mem_append_right _ hr)).crossed (fun he => hn (hnone he)) hc

theorem pass_ends {text directory : String} {s : Scene (Watched ε)} (ht : Orderly t)
    (hopts : t.options = s.options) (hfirst : t.first = First s.options s.pins text (.directory directory))
    (hpins : t.pins = s.pins) :
    (pass c.watched text (.directory directory) s.options.budget s).Ends (walking ε t)
      fun result s' => result = .ok () → t.Fair s'.env.log →
        Covers t { s with context := {} } s' ∧
          ∀ r, t.first r → Crosses none r → t.crossings ≠ 0 →
            keyIn t.pins r ∈ s'.context.resolved := by
  have hv : Valid t { s with context := {} } :=
    ⟨hopts.symm, fun _ => hpins.symm, fun _ _ _ _ _ _ hm => nomatch hm⟩
  have hcourse := course_covers (c := c) (s := { s with context := {} }) ht hopts hfirst rfl
  rw [pass_eq]
  exact (hcourse.ends hv).mono fun result s' hr hok hf => hr.2 () hok hf

/-- The file was expanded, if at all, with at least the budget that a chain leaves it. -/
def Terms.ample (t : Terms) (s : Scene (Watched ε)) (n k : Nat) (f : File) : Prop :=
  ∀ version budget, .expanded f.package version f.path f.text budget ∈ s.context.history →
    t.crossings - n ≤ budget.crossings ∧ t.fileSteps - k ≤ budget.steps

/-- Along a chain within the budget, through files with ample budgets, every file was expanded. -/
theorem expanded_of_due {s₀ : Scene (Watched ε)} (hcov : Covers t s₀ s)
    (hstart : s₀.context.history = [])
    (hfirst : ∀ r, t.first r → Crosses none r → t.crossings ≠ 0 →
      keyIn t.pins r ∈ s.context.resolved)
    {n k : Nat} {r : Resource} (hd : Due t.held t.first false t.fileSteps (t.ample s) n k r)
    (hn : n ≤ t.crossings) {f : File} (hl : Leads t.held r f) : Expanded t s f := by
  have settled : ∀ {n k r f}, Due t.held t.first false t.fileSteps (t.ample s) n k r →
      n ≤ t.crossings → keyIn t.pins r ∈ s.context.resolved → Leads t.held r f → Expanded t s f :=
    fun {n k r f} hd hn hk hl =>
      (hcov.settled r f (.involved ⟨n, k, hn, hd.anywhere⟩) hk hl).resolve_right id
  have closed : ∀ {f}, Expanded t s f → ∃ budget,
      .expanded f.package (t.pins.version? f.package) f.path f.text budget ∈ s.context.history ∧
        Closed t s f budget := fun {f} ⟨budget, hm⟩ => by
    refine ⟨budget, hm, (hcov.closed _ _ _ _ _ hm).resolve_left fun h => ?_⟩
    rw [hstart] at h
    cases h
  -- On the way to the dependency: the file that names it is expanded, and so it is closed.
  induction hd generalizing f with
  | first h =>
    refine settled (.first h) hn (hfirst _ h ?_ (by omega)) hl
    obtain ⟨w, hw, _⟩ := hl
    cases hw with
    | package => trivial
    | inPackage => exact fun he => nomatch he
  | root hp => cases hp
  | cross h hl' ha hi hc ih =>
    obtain ⟨budget, hm, hclosed⟩ := closed (ih (by omega) hl')
    have hb := (ha _ budget hm).1
    exact settled (.cross h hl' ha hi hc) hn (hclosed.crossed (by omega) _ hi hc) hl
  | stay h hl' ha hi hs hk ih =>
    obtain ⟨budget, hm, hclosed⟩ := closed (ih hn hl')
    have hb := (ha _ budget hm).2
    exact settled (.stay h hl' ha hi hs hk) hn (hclosed.stayed (by omega) _ hi hs) hl

def terms (s : Scene ε) (text directory : String) (source : Request → Option String) : Terms where
  options := s.options
  pins := s.pins
  first := First s.options s.pins text (.directory directory)
  source := source

end Coverage

/-- When an orderly pass ends without a failure, and the cache and the source have answered as one
function does, the last file of every chain of dependencies within the budget has been expanded and is in
the host, if no file that the chain passes through was expanded with less budget than the chain leaves
it. -/
theorem pass_covers (c : Collaborators ε) (source : Request → Option String)
    (text directory : String) (s : Scene ε) (play : Play ε) (hplay : play.KeepsPins)
    (ht : Coverage.Orderly (Coverage.terms s text directory source)) (n : Nat)
    (s' : Scene (Watched ε))
    (hend : watchedPass c s text directory play n = .done (.ok ()) s')
    (hfair : (Coverage.terms s text directory source).Fair s'.env.log) :
    let t := Coverage.terms s text directory source
    ∀ crossings steps f, crossings ≤ s.options.packageRecursionDepth.toNat →
      Reached t.held t.first false s.options.fileRecursionDepth.toNat (t.ample s') crossings steps f →
        Coverage.Expanded t s' f ∧ Hosted s'.env.log (Package.hostPath f.package f.path) f.text := by
  intro t crossings steps f hc hf
  obtain ⟨r, hd, hl⟩ := hf
  have hfollows : play.watched.Follows (Coverage.walking ε t) := fun k request s₁ _ =>
    ⟨List.mem_cons_self .., ⟨rfl, rfl, rfl, fun _ => List.mem_cons_of_mem _⟩, hplay ..⟩
  have hends : (watchedPass c s text directory play n).Ends _ _ :=
    (Coverage.pass_ends ht (c := c) (s := s.watched) rfl rfl rfl).after hfollows n
  rw [hend] at hends
  obtain ⟨hcov, hfirst⟩ := hends rfl hfair
  have hexp := Coverage.expanded_of_due hcov rfl hfirst hd hc hl
  obtain ⟨budget, hm⟩ := hexp
  have hclosed := (hcov.closed _ _ _ _ _ hm).resolve_left fun h => nomatch h
  exact ⟨⟨budget, hm⟩, hclosed.hosted⟩

/-! ## A chain that is cut short -/

namespace Detour

open Coverage

/-- The files of a package in which one is imported by two others. -/
def files : List (String × String) := [
  ("package.json", "\x7b\"types\":\"index.d.ts\",\"version\":\"1.0.0\"\x7d"),
  ("index.d.ts", "require(\"./a\") require(\"./b\")"),
  ("a.d.ts", "require(\"./b\")"),
  ("b.d.ts", "require(\"./c\")"),
  ("c.d.ts", "declare const c: number")]

def source : Request → Option String := Play.files "p" files

def index : File := ⟨"p", "index.d.ts", "require(\"./a\") require(\"./b\")"⟩

def fileA : File := ⟨"p", "a.d.ts", "require(\"./b\")"⟩

def fileB : File := ⟨"p", "b.d.ts", "require(\"./c\")"⟩

def fileC : File := ⟨"p", "c.d.ts", "declare const c: number"⟩

/-- The dependencies that come up, and the entry of the package, with the files that they lead to. -/
def table : List (Resource × File) := [
  (.package "p" "", index), (.inPackage "p" "." "./a", fileA), (.inPackage "p" "." "./b", fileB),
  (.inPackage "p" "." "./c", fileC), (.inPackage "p" "" "index.d.ts", index)]

def pins : Pins := Pins.ofVersions (some (Assoc.ofList [("p", "1.0.0")]))

def options (fileSteps : Int) : Options :=
  { fileRecursionDepth := fileSteps, versions := some (Assoc.ofList [("p", "1.0.0")]) }

def given (fileSteps : Int) : Terms := terms (atFirst (options fileSteps)) "require(\"p\")" "/" source

variable {fileSteps : Int} {r : Resource} {f : File}

theorem held_of_source {path text : String} (h : source ⟨"p", path, .null⟩ = some text) :
    (given fileSteps).held "p" path (some (.text text)) := by
  show some (Value.text text) = (source ⟨"p", path, .null⟩).map .text
  rw [h]
  rfl

theorem names_of_entry {found : Findings} {package manifest : String} (entry : String)
    (h : found package "package.json" (some (.text manifest)))
    (he : (Manifest.read package manifest).toOption.bind Manifest.entry? = some entry) :
    Names found (.package package "") ⟨package, "", entryPath "" "" entry⟩ := by
  obtain ⟨m, hm, he⟩ := Option.bind_eq_some_iff.mp he
  exact .package (.own (.own h) (.named (ok_of_toOption hm) he))

/-- What is read off the files and the table: the entry and the version that the manifest names, what
the source text and the files import, and that neither keys nor file keys are shared. -/
theorem table_facts :
    (Manifest.read "p" "\x7b\"types\":\"index.d.ts\",\"version\":\"1.0.0\"\x7d").toOption.bind
      Manifest.entry? = some "index.d.ts" ∧
    (∀ e ∈ files, ∀ v ∈ (Manifest.read "p" e.2).toOption.bind Manifest.version?, v = "1.0.0") ∧
    (Specifier.dependencies "require(\"p\")" (.directory "/")).toOption = some [.package "p" ""] ∧
    (∀ p ∈ table, ∀ r ∈ p.2.dependencies.toOption.getD [], r ∈ table.map Prod.fst) ∧
    (∀ r ∈ table.map Prod.fst, ∀ r' ∈ table.map Prod.fst, keyIn pins r = keyIn pins r' → r = r') ∧
    (∀ p ∈ table, ∀ p' ∈ table,
      Package.fileKey p.2.package (pins.version? p.2.package) p.2.path =
        Package.fileKey p'.2.package (pins.version? p'.2.package) p'.2.path → p.2 = p'.2) := by
  decide +kernel

theorem names_index : Names (given fileSteps).held (.package "p" "") ⟨"p", "", "index.d.ts"⟩ :=
  have hmanifest : (given fileSteps).held "p" "package.json"
      (some (.text "\x7b\"types\":\"index.d.ts\",\"version\":\"1.0.0\"\x7d")) :=
    held_of_source (by decide)
  names_of_entry "index.d.ts" hmanifest table_facts.1

theorem leads_of_ending (target : String) (f : File)
    (hl : leavesPackage (filePath ⟨"p", ".", target⟩) = false)
    (he : hasExtension (filePath ⟨"p", ".", target⟩) = false)
    (hp : filePath ⟨"p", ".", target⟩ ++ ".d.ts" = f.path)
    (h : source ⟨"p", f.path, .null⟩ = some f.text) :
    Leads (given fileSteps).held (.inPackage "p" "." target) ⟨"p", f.path, f.text⟩ := by
  have hfound : (given fileSteps).held "p" f.path (some (.text f.text)) := held_of_source h
  rw [← hp] at hfound ⊢
  exact ⟨_, .inPackage .., rfl, .directly hl (.probed he (.hit hfound))⟩

theorem leads_of_mem : ∀ p ∈ table, Leads (given fileSteps).held p.1 p.2 := by
  have hindex : FoundFile (given fileSteps).held ⟨"p", "", "index.d.ts"⟩
      (some (.text index.text, index.path)) := by
    have hpath : filePath ⟨"p", "", "index.d.ts"⟩ = "index.d.ts" := by decide
    have hfile : (given fileSteps).held "p" "index.d.ts" (some (.text index.text)) :=
      held_of_source (by decide)
    refine .directly (by decide) (.exact (by decide) ?_)
    rw [hpath]
    exact ⟨_, hfile, rfl⟩
  simp only [table, List.forall_mem_cons]
  refine ⟨⟨_, names_index, rfl, hindex⟩, ?_, ?_, ?_, ⟨_, .inPackage .., rfl, hindex⟩,
    fun _ h => nomatch h⟩
  · exact leads_of_ending "./a" fileA (by decide) (by decide) (by decide) (by decide)
  · exact leads_of_ending "./b" fileB (by decide) (by decide) (by decide) (by decide)
  · exact leads_of_ending "./c" fileC (by decide) (by decide) (by decide) (by decide)

theorem mem_of_leads (hm : r ∈ table.map Prod.fst) (hl : Leads (given fileSteps).held r f) :
    (r, f) ∈ table := by
  obtain ⟨⟨r', f'⟩, hp, rfl⟩ := List.mem_map.mp hm
  cases hl.unique (Terms.held_functional _) (leads_of_mem _ hp)
  exact hp

theorem first_iff : (given fileSteps).first r ↔ r = .package "p" "" := by
  have hd := ok_of_toOption table_facts.2.2.1
  constructor
  · intro h
    cases h with
    | preloaded ho => cases ho
    | imported h hr =>
      cases hd.symm.trans h
      exact List.mem_singleton.mp hr
  · rintro rfl
    exact .imported hd (List.mem_singleton.mpr rfl)

theorem mem_of_involved (h : (given fileSteps).involved r) : r ∈ table.map Prod.fst := by
  have himports := table_facts.2.2.2.1
  obtain ⟨_, _, hn, h⟩ := h
  clear hn
  induction h with
  | first h => exact first_iff.mp h ▸ by decide
  | root hp => cases hp
  | cross _ hl _ hi _ ih => exact himports _ (mem_of_leads ih hl) _ (File.imports_iff.mp hi)
  | stay _ hl _ hi _ _ ih => exact himports _ (mem_of_leads ih hl) _ (File.imports_iff.mp hi)

theorem mem_of_noted (h : (given fileSteps).noted r) : r ∈ table.map Prod.fst := by
  cases h with
  | involved h => exact mem_of_involved h
  | @entry package subPath w h hn =>
    have hroot : ∀ r ∈ table.map Prod.fst, r = .package package subPath → r = .package "p" "" := by
      simp [table]
    cases hroot _ (mem_of_involved h) rfl
    cases hn.unique (Terms.held_functional _) names_index
    decide

theorem orderly : Orderly (given fileSteps) where
  notPreloading := rfl
  notRestricted := rfl
  pinned package directory text manifest version _ hheld hread hver := by
    have hfile : some (Value.text text) =
        (source ⟨package, Path.join [directory, "package.json"], .null⟩).map .text := hheld
    obtain ⟨text', hs, ht⟩ := Option.map_eq_some_iff.mp hfile.symm
    cases ht
    unfold source Play.files at hs
    split at hs
    · next hp =>
      cases hp
      obtain ⟨front, rest, he, _⟩ := List.lookup_eq_some_iff.mp hs
      have hm : (Path.join [directory, "package.json"], text) ∈ files := he ▸ by simp
      have hv : version = "1.0.0" := table_facts.2.1 _ hm version (by rw [hread]; exact hver)
      have hpinned : pins.agrees "p" "1.0.0" = true := by decide
      exact hv ▸ hpinned
    · cases hs
  keys r r' f hr hr' hk hl := by
    have hkeys := table_facts.2.2.2.2.1
    exact hkeys r (mem_of_noted hr) r' (mem_of_noted hr') hk ▸ hl
  files r r' f f' hr hr' hl hl' hk := by
    have hfiles := table_facts.2.2.2.2.2
    exact hfiles (r, f) (mem_of_leads (mem_of_involved hr) hl) (r', f')
      (mem_of_leads (mem_of_involved hr') hl') hk

theorem step {through : Nat → Nat → File → Prop} {steps n k : Nat} {target : String}
    (h : Due (given fileSteps).held (given fileSteps).first false steps through n k r)
    (hm : (r, f) ∈ table) (ht : through n k f)
    (hi : .inPackage "p" "." target ∈ f.dependencies.toOption.getD []) (hp : f.package = "p")
    (hk : k < steps) :
    Due (given fileSteps).held (given fileSteps).first false steps through n (k + 1)
      (.inPackage "p" "." target) :=
  .stay h (leads_of_mem _ hm) ht (File.imports_iff.mpr hi) (congrArg some hp) hk

variable {through : Nat → Nat → File → Prop} {steps : Nat}

theorem due_root :
    Due (given fileSteps).held (given fileSteps).first false steps through 1 0 (.package "p" "") :=
  .first (first_iff.mpr rfl)

theorem due_long (h₀ : through 1 0 index) (h₁ : through 1 1 fileA) (h₂ : through 1 2 fileB)
    (hs : 2 < steps) :
    Due (given fileSteps).held (given fileSteps).first false steps through 1 3
      (.inPackage "p" "." "./c") := by
  have ha : Due (given fileSteps).held (given fileSteps).first false steps through 1 1
      (.inPackage "p" "." "./a") := step due_root (by decide) h₀ (by decide +kernel) rfl (by omega)
  have hb : Due (given fileSteps).held (given fileSteps).first false steps through 1 2
      (.inPackage "p" "." "./b") := step ha (by decide) h₁ (by decide +kernel) rfl (by omega)
  exact step hb (by decide) h₂ (by decide +kernel) rfl hs

theorem due_short (h₀ : through 1 0 index) (h₁ : through 1 1 fileB) (hs : 1 < steps) :
    Due (given fileSteps).held (given fileSteps).first false steps through 1 2
      (.inPackage "p" "." "./c") := by
  have hb : Due (given fileSteps).held (given fileSteps).first false steps through 1 1
      (.inPackage "p" "." "./b") := step due_root (by decide) h₀ (by decide +kernel) rfl (by omega)
  exact step hb (by decide) h₁ (by decide +kernel) rfl hs

/-- Nothing has failed, and everything came from the source. -/
def quiet (log : List Observation) : Bool := log.all fun
  | .failed _ => false
  | .cached _ (.ok (some _)) => false
  | .answered request (.ok answer) => answer = source request
  | _ => true

theorem fair_of_quiet {log : List Observation} (h : quiet log = true) :
    (given fileSteps).Fair log where
  smooth _ hm := nomatch List.all_eq_true.mp h _ hm
  cached _ _ _ _ hm := nomatch List.all_eq_true.mp h _ hm
  answered _ _ hm := of_decide_eq_true (List.all_eq_true.mp h _ hm)

def succeeded : Step ε Unit → Bool
  | .done (.ok _) _ => true
  | _ => false

theorem eq_done_of_succeeded (step : Step ε Unit) (h : succeeded step = true) :
    step = .done (.ok ()) step.scene := by
  unfold succeeded at h
  split at h
  · rfl
  · cases h

def budgets (path : String) (history : List Milestone) : List Remaining :=
  history.filterMap fun
    | .expanded _ _ path' _ budget => if path' = path then some budget else none
    | _ => none

theorem mem_budgets {package path text : String} {version : Option String} {budget : Remaining}
    {history : List Milestone} (h : .expanded package version path text budget ∈ history) :
    budget ∈ budgets path history :=
  List.mem_filterMap.mpr ⟨_, h, if_pos rfl⟩

theorem ample_of_budgets {s : Scene (Watched ε)} {k : Nat}
    (h : ∀ budget ∈ budgets f.path s.context.history, 2 ≤ budget.crossings ∧ 3 - k ≤ budget.steps) :
    (given 3).ample s 1 k f := fun _ budget hm => h budget (mem_budgets hm)

/-- With three steps allowed the last file is expanded, since every file comes up on the longest chain
first. -/
theorem detour_covered : Expanded (given 3) (watchedPass inMemory (atFirst (options 3)) "require(\"p\")" "/"
    (.answering source) 5).scene fileC := by
  have hrun : succeeded (watchedPass inMemory (atFirst (options 3)) "require(\"p\")" "/"
        (.answering source) 5) = true ∧
      quiet (watchedPass inMemory (atFirst (options 3)) "require(\"p\")" "/"
        (.answering source) 5).scene.env.log = true ∧
      ∀ p ∈ [(0, index), (1, fileA), (2, fileB)], ∀ budget ∈ budgets p.2.path
        (watchedPass inMemory (atFirst (options 3)) "require(\"p\")" "/"
          (.answering source) 5).scene.context.history,
        2 ≤ budget.crossings ∧ 3 - p.1 ≤ budget.steps := by decide +kernel
  obtain ⟨hend, hquiet, hbudgets⟩ := hrun
  simp only [List.forall_mem_cons] at hbudgets
  obtain ⟨h₀, h₁, h₂, _⟩ := hbudgets
  have hchain : Due (given 3).held (given 3).first false 3 ((given 3).ample
      (watchedPass inMemory (atFirst (options 3)) "require(\"p\")" "/" (.answering source) 5).scene) 1 3
      (.inPackage "p" "." "./c") :=
    due_long (ample_of_budgets h₀) (ample_of_budgets h₁) (ample_of_budgets h₂) (by decide)
  have hleads : Leads (given 3).held (.inPackage "p" "." "./c") fileC :=
    leads_of_mem (.inPackage "p" "." "./c", fileC) (by decide)
  exact (pass_covers inMemory source "require(\"p\")" "/" (atFirst (options 3)) (.answering source)
    (Play.keepsPins_answering source) orderly 5 _ (eq_done_of_succeeded _ hend) (fair_of_quiet hquiet)
    1 3 fileC (by decide) ⟨_, hchain, hleads⟩).1

/-- With two steps allowed the last file is not expanded. The shorter way to it is within the budget, but
the file before it came up on the longer way first, with nothing left. -/
theorem detour_not_covered :
    watchedPass inMemory (atFirst (options 2)) "require(\"p\")" "/" (.answering source) 4 =
        .done (.ok ()) (watchedPass inMemory (atFirst (options 2)) "require(\"p\")" "/"
          (.answering source) 4).scene ∧
      (given 2).Fair (watchedPass inMemory (atFirst (options 2)) "require(\"p\")" "/"
        (.answering source) 4).scene.env.log ∧
      Orderly (given 2) ∧ Reached (given 2).held (given 2).first false 2 Anywhere 1 2 fileC ∧
      ¬ Expanded (given 2) (watchedPass inMemory (atFirst (options 2)) "require(\"p\")" "/"
        (.answering source) 4).scene fileC := by
  have hrun : succeeded (watchedPass inMemory (atFirst (options 2)) "require(\"p\")" "/"
        (.answering source) 4) = true ∧
      quiet (watchedPass inMemory (atFirst (options 2)) "require(\"p\")" "/"
        (.answering source) 4).scene.env.log = true ∧
      budgets "c.d.ts" (watchedPass inMemory (atFirst (options 2)) "require(\"p\")" "/"
        (.answering source) 4).scene.context.history = [] := by decide +kernel
  obtain ⟨hend, hquiet, hnone⟩ := hrun
  refine ⟨eq_done_of_succeeded _ hend, fair_of_quiet hquiet, orderly,
    ⟨_, due_short trivial trivial (by decide), ?_⟩, ?_⟩
  · exact leads_of_mem (.inPackage "p" "." "./c", fileC) (by decide)
  · rintro ⟨budget, hm⟩
    have hb := mem_budgets hm
    rw [show budgets fileC.path _ = [] from hnone] at hb
    cases hb

end Detour

end DeclarationFetch.Resolution
