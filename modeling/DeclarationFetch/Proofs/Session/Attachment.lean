import DeclarationFetch.Proofs.Session.Ownership
import Mathlib.Data.List.Nodup

/-! # Attached or not at all

Who attaches a session to an editor gets it back attached, or gets the fault of its first pass and nothing is
left of it. What the session holds is let go of once.

* `World.Returned` and `World.GivenUp`: the two ends of a first pass. `World.Held`: what a session in its
  first pass holds. A stretch keeps it, and closing gives all of it up.
* `Course.Along`: how far a task has come with a body. `FirstEnd`: what the first pass comes to.
* `Life`: a session from its first pass on, with the calls that were made of it. Nobody has it in hand before
  that pass has ended well.
* `Story`, `Phase`: the invariant. `Creating`: the first pass is running; `Given`: it has ended well, and the
  session is in hand. `Attending.wentOn`, `Story.beside`, `Story.doing` and `Story.called` are the steps, and
  `Life.story` is the run.
* `create_attached_or_nothing`: how the first pass ends, and what each of the calls lets go of.
-/

namespace DeclarationFetch

open World (Tended Stretch StretchOrClose Spared Kept Closed)
open Stage (Call)

variable {id other task : Nat} {m m' m'' : Stage} {p : World.Plan}

/-! ## What the first pass leaves -/

namespace World

structure Returned (p : Plan) (id : Nat) (w : World) : Prop where
  editor : (w.session id).editor = p.editor
  live : (w.session id).disposed = false
  listens : ∀ e, (w.editor e).listeners.count id = if e = p.editor then 1 else 0
  ownsSource : (w.session id).ownsSource = true ↔ p.source = none

/-- Nothing is left of the session, where these clients were made while it ran. -/
structure GivenUp (p : Plan) (id : Nat) (made : Nat → Prop) (w : World) : Prop where
  disposed : (w.session id).disposed = true
  unarmed : (w.session id).pending = false
  listens : ∀ e, id ∉ (w.editor e).listeners
  ownsSource : (w.session id).ownsSource = false
  source : p.source = none → (∃ c, (w.session id).source = .registry c ∧ c.client = none) ∧
    ∀ k, made k → w.web.closed[k]? = some true

/-- A session in its first pass. A client that was made while it ran is its source's. -/
structure Held (p : Plan) (id : Nat) (made : Nat → Prop) (w : World) : Prop extends Returned p id w where
  unarmed : (w.session id).pending = false
  sourced : w.Sourced id
  clients : (w.session id).ownsSource = true → ∀ k, made k →
    ∃ c, (w.session id).source = .registry c ∧ c.client = some k

namespace Held

variable {made made' : Nat → Prop} {w w' : World}

theorem congr (h : Held p id made w) (hmade : ∀ k, made' k → made k) : Held p id made' w :=
  ⟨h.toReturned, h.unarmed, h.sourced, fun ho k hk => h.clients ho k (hmade k hk)⟩

theorem returned (h : Held p id made w) (hk : Kept id w w') : Returned p id w' where
  editor := hk.editor.trans h.editor
  live := (congrArg Subscription.disposed hk.subscription).trans h.live
  listens e := (hk.listeners e).trans (h.listens e)
  ownsSource := by
    rw [hk.ownsSource]
    exact h.ownsSource

theorem spared (h : Held p id made w) (hs : Spared id w w') : Held p id made w' where
  toReturned := h.returned hs.kept
  unarmed := (congrArg Debouncer.pending hs.debouncer).trans h.unarmed
  sourced := hs.kept.sourced h.sourced
  clients ho k hk := by
    rw [hs.ownsSource] at ho
    obtain ⟨c, hsource, hclient⟩ := h.clients ho k hk
    exact ⟨c, (hs.source ho).trans hsource, hclient⟩

/-- Where a stretch makes a client there was none, and it is the source's. -/
theorem stretch (h : Held p id made w) (hs : Stretch id w w') (hk : Kept id w w') :
    Held p id (fun k => w.web.closed.length ≤ k ∧ k < w'.web.closed.length ∨ made k) w' where
  toReturned := h.returned hk
  unarmed := (congrArg Debouncer.pending hs.debouncer).trans h.unarmed
  sourced := hk.sourced h.sourced
  clients ho k hmade := by
    rw [hs.ownsSource] at ho
    have hold := h.clients ho k
    have hfetched := hs.source
    generalize (w'.session id).source = source' at hfetched ⊢
    generalize (w.session id).source = source at hfetched hold
    cases hfetched with
    | same hweb =>
      rcases hmade with ⟨hle, hlt⟩ | hmade
      · exact absurd (hweb ▸ hlt) (Nat.not_lt.mpr hle)
      · exact hold hmade
    | made hc hweb =>
      rcases hmade with ⟨hle, hlt⟩ | hmade
      · rw [hweb, List.length_append, List.length_singleton] at hlt
        obtain rfl : w.web.closed.length = k := Nat.le_antisymm hle (Nat.le_of_lt_succ hlt)
        exact ⟨_, rfl, rfl⟩
      · -- there would have been a client already
        obtain ⟨c, he, hclient⟩ := hold hmade
        cases he
        exact nomatch hc.symm.trans hclient

theorem givenUp (h : Held p id made w) (hid : id < w.sessions.length) (hl : (w.close id).Listening) :
    GivenUp p id made (w.close id) := by
  have hsame := same_close w hid
  have hdisposed : ((w.close id).session id).disposed = true :=
    congrArg Subscription.disposed hsame.subscription
  have hout : ∀ e, id ∉ ((w.close id).editor e).listeners := fun e hin =>
    nomatch (hl e id hin).2.2.symm.trans hdisposed
  refine ⟨hdisposed, congrArg Debouncer.pending hsame.debouncer, hout, ownsSource_close hid h.sourced,
    fun hp => ?_⟩
  have ho := h.ownsSource.mpr hp
  obtain ⟨c, c', hsource, hsource', hnone, hclosed⟩ := (close_own hid ho h.sourced).source
  refine ⟨⟨c', hsource', hnone⟩, fun k hk => ?_⟩
  obtain ⟨c'', hsource'', hclient⟩ := h.clients ho k hk
  cases hsource.symm.trans hsource''
  exact hclosed k hclient

end Held

end World

/-! ## The first pass -/

/-- How far a task has come with a body. It has begun in the last of the worlds and gone on in the others, the
latest coming first, whatever was thrown. -/
inductive Course.Along (body : World → Course World) : List World → Course World → Prop
  | begun (v : World) : Along body [v] (body v)
  | resumed {vs : List World} {gated : Bool} {w : World} {resume : Option Fault → World → Course World}
      (h : Along body vs (.waiting gated w resume)) (thrown : Option Fault) (v : World) :
      Along body (v :: vs) (resume thrown v)

/-- A client that was made while the session ran. -/
def Made (runs : List Ran) (k : Nat) : Prop :=
  ∃ r ∈ runs, r.before.web.closed.length ≤ k ∧ k < r.after.web.closed.length

/-- How the first pass ends, with a stretch of its task after others. What the pass comes to is what the task
comes to. -/
structure FirstEnd (p : World.Plan) (id task : Nat) (last : Ran) (earlier : List Ran)
    (result : Except Fault Unit) : Prop where
  task : last.task = task
  ended : last.result = some result
  passed : ∃ w, Course.Along (World.resolveContents id) ((last :: earlier).map Ran.before) (.ended result w)
  returned : result = .ok () → last.after.Returned p id
  givenUp : ∀ fault, result = .error fault → last.after.GivenUp p id (Made (last :: earlier))

def Stage.Ends (m : Stage) (p : World.Plan) (id task : Nat) : Prop :=
  Loop.task? m.loop task = some .running ∨ ∃ later last earlier result,
    m.runs id = later ++ last :: earlier ∧ Loop.task? m.loop task = some (.ofResult result) ∧
      FirstEnd p id task last earlier result

/-- No client is closed by a task, except by the first one where it fails and the source was made for the
session. -/
def Stage.Spares (m : Stage) (p : World.Plan) (id task : Nat) : Prop :=
  ∀ r ∈ m.runs id, (p.source = none ∧ r.task = task ∧ ∃ fault, r.result = some (.error fault)) ∨
    ∀ (k : Nat) closed, r.before.web.closed[k]? = some closed → r.after.web.closed[k]? = some closed

/-- The first task of the session is its only one. -/
structure Attending (p : World.Plan) (id task : Nat) (m : Stage) : Prop where
  owner : m.ledger.owners[task]? = some id
  alone : ∀ other : Nat, m.ledger.owners[other]? = some id → other = task
  held : m.world.Held p id (Made (m.runs id))

/-- The first task of the session has begun its pass, which it goes on with. -/
structure Creating (p : World.Plan) (id task : Nat) (m : Stage) : Prop extends Attending p id task m where
  begun : task ∈ m.ledger.begun
  waits : ∃ gated w pass, Course.Along (World.resolveContents id) ((m.runs id).map Ran.before)
      (.waiting gated w pass) ∧
    (task, fun thrown v => (pass thrown v).onFailure (·.close id)) ∈ m.loop.pending ∧
    ∀ thrown v, id < v.sessions.length → (pass thrown v).Each (Stretch id) id v

/-! ## The life of a session -/

/-- A call that was made of a session, and the world before and after it. -/
structure Called where
  call : Call
  before : World
  after : World

/-- A session from its first pass on, with the calls that were made of it. Nobody has it in hand before the
task of that pass has ended well. -/
inductive Life (id task : Nat) (m : Stage) : List Called → Stage → Prop
  | start : Life id task m [] m
  | act {calls : List Called} {m' m'' : Stage} {label : Option (Nat × Call)} (h : Life id task m calls m')
      (ha : Act m' label m'') (hl : ∀ c, label ≠ some (id, c)) : Life id task m calls m''
  | called {calls : List Called} {m' : Stage} (c : Call) (h : Life id task m calls m')
      (hdone : Loop.task? m'.loop task = some .done) :
      Life id task m (calls ++ [⟨c, m'.world, (m'.called id c).world⟩]) (m'.called id c)

def OnlyPasses (calls : List Called) : Prop := ∀ c ∈ calls, c.call = .resolve

def NeverClosed (calls : List Called) : Prop := ∀ c ∈ calls, c.call ≠ .close

instance (calls : List Called) : Decidable (OnlyPasses calls) :=
  inferInstanceAs (Decidable (∀ c ∈ calls, c.call = .resolve))

theorem onlyPasses_snoc {calls : List Called} {c : Called} :
    OnlyPasses (calls ++ [c]) ↔ OnlyPasses calls ∧ c.call = .resolve := by
  unfold OnlyPasses
  rw [List.forall_mem_append, List.forall_mem_singleton]

theorem neverClosed_snoc {calls : List Called} {c : Called} :
    NeverClosed (calls ++ [c]) ↔ NeverClosed calls ∧ c.call ≠ .close := by
  unfold NeverClosed
  rw [List.forall_mem_append, List.forall_mem_singleton]

theorem not_onlyPasses_snoc (calls : List Called) {c : Called} (hc : c.call ≠ .resolve) :
    ¬ OnlyPasses (calls ++ [c]) := fun h => hc (onlyPasses_snoc.mp h).2

theorem neverClosed_snoc_of {calls : List Called} {c : Called} (hc : c.call ≠ .close) :
    NeverClosed (calls ++ [c]) ↔ NeverClosed calls :=
  neverClosed_snoc.trans (and_iff_left hc)

def Called.Releases (id : Nat) (c : Called) : Prop :=
  ∃ e, id ∈ (c.before.editor e).listeners ∧ id ∉ (c.after.editor e).listeners

def Called.Closes (id : Nat) (c : Called) : Prop :=
  (c.before.session id).ownsSource = true ∧ (c.after.session id).ownsSource = false

/-- What a call lets go of, after others. -/
structure Called.LetsGo (p : World.Plan) (id : Nat) (before : List Called) (c : Called) : Prop where
  releases : c.Releases id ↔ c.call ≠ .resolve ∧ OnlyPasses before
  closes : c.Closes id ↔ c.call = .close ∧ p.source = none ∧ NeverClosed before
  closed : c.Closes id → Closed id c.before c.after
  left : ¬ c.Closes id →
    c.after.web = c.before.web ∧ (c.after.session id).source = (c.before.session id).source

theorem letsGo_of_nil {calls : List Called} (h : calls = []) :
    ∀ before c after, calls = before ++ c :: after → c.LetsGo p id before := fun _ _ _ heq =>
  absurd (h.symm.trans heq).symm (List.append_ne_nil_of_right_ne_nil _ nofun)

structure Given (p : World.Plan) (id : Nat) (calls : List Called) (m : Stage) : Prop where
  editor : (m.session id).editor = p.editor
  live : (m.session id).disposed = false ↔ OnlyPasses calls
  listens : ∀ e, (m.world.editor e).listeners.count id = if e = p.editor ∧ OnlyPasses calls then 1 else 0
  ownsSource : (m.session id).ownsSource = true ↔ p.source = none ∧ NeverClosed calls
  sourced : m.world.Sourced id
  each : m.Each (Stretch id) id
  calls : ∀ before c after, calls = before ++ c :: after → c.LetsGo p id before

namespace Given

variable {calls : List Called}

theorem kept (h : Given p id calls m) (hk : Kept id m.world m'.world) (he : m'.Each (Stretch id) id) :
    Given p id calls m' where
  editor := hk.editor.trans h.editor
  live := by
    have hdisposed : (m'.session id).disposed = (m.session id).disposed :=
      congrArg Subscription.disposed hk.subscription
    rw [hdisposed]
    exact h.live
  listens e := (hk.listeners e).trans (h.listens e)
  ownsSource := by
    rw [show (m'.session id).ownsSource = (m.session id).ownsSource from hk.ownsSource]
    exact h.ownsSource
  sourced := hk.sourced h.sourced
  each := he
  calls := h.calls

theorem snoc_calls {x : Called} (h : Given p id calls m) (hx : x.LetsGo p id calls) :
    ∀ before c after, calls ++ [x] = before ++ c :: after → c.LetsGo p id before := by
  intro before c after heq
  -- the call is the last one, or one of those before
  rcases List.eq_nil_or_concat after with rfl | ⟨after', last, rfl⟩
  · obtain ⟨rfl, hlast⟩ := List.append_inj' heq rfl
    cases hlast
    exact hx
  · rw [List.concat_eq_append, ← List.cons_append, ← List.append_assoc] at heq
    exact h.calls before c after' (List.append_inj' heq rfl).1

theorem doing (h : Given p id calls m) (hm : Timeline m) (hid : id < m.world.sessions.length)
    (hd : Doing id m none m') : Given p id calls m' := by
  refine h.kept ?_ (hd.each hm hid h.each)
  cases hd with
  | heard hid hh => exact (World.rearmed_contentChanged m.loop id).kept
  | fired hid hp => exact (World.rearmed_fire m.loop id).kept
  | wentOn ho hp thrown =>
    have htended := (hm.sound.wentOn_cases ho hp thrown).tended
    have hstretch := (h.each _ _ hp ho thrown m.world hid).first
    show Kept id m.world ((m.loop.without _).park _ _).state
    rw [Loop.state_park]
    exact hstretch.kept htended.sessions htended.own.editor

theorem resolved (h : Given p id calls m) (hm : Timeline m) (hid : id < m.world.sessions.length) :
    Given p id (calls ++ [⟨.resolve, m.world, (m.asked id).world⟩]) (m.asked id) := by
  have hnotClosed : ¬ Called.Closes id ⟨.resolve, m.world, (m.asked id).world⟩ := fun ⟨hown, hnot⟩ =>
    Bool.false_ne_true (hnot.symm.trans hown)
  refine ⟨h.editor, ?_, fun e => ?_, ?_, h.sourced, ?_, h.snoc_calls ⟨?_, ?_, ?_, fun _ => ⟨rfl, rfl⟩⟩⟩
  · rw [onlyPasses_snoc, and_iff_left rfl]
    exact h.live
  · simp only [onlyPasses_snoc, and_true]
    exact h.listens e
  · rw [neverClosed_snoc_of (show Call.resolve ≠ .close from nofun)]
    exact h.ownsSource
  · exact (Doing.called .resolve hid).each hm hid h.each
  · exact iff_of_false (fun ⟨e, hin, hout⟩ => hout hin) fun hc => hc.1 rfl
  · exact iff_of_false hnotClosed fun hc => nomatch hc.1
  · exact fun hc => absurd hc hnotClosed

/-- A call after which the session listens to no editor has released it if none did before. -/
theorem releases_iff (h : Given p id calls m) (c : Call) {w : World}
    (hout : ∀ e, id ∉ (w.editor e).listeners) :
    Called.Releases id ⟨c, m.world, w⟩ ↔ OnlyPasses calls := by
  constructor
  · rintro ⟨e, hin, -⟩
    have hcount := List.count_pos_iff.mpr hin
    rw [h.listens] at hcount
    split at hcount
    · next hc => exact hc.2
    · cases hcount
  · intro hc
    refine ⟨p.editor, List.count_pos_iff.mp ?_, hout p.editor⟩
    rw [h.listens, if_pos ⟨rfl, hc⟩]
    exact Nat.one_pos

theorem disposed (h : Given p id calls m) (hm : Timeline m) (hid : id < m.world.sessions.length) :
    Given p id (calls ++ [⟨.dispose, m.world, (m.disposed id).world⟩]) (m.disposed id) := by
  have hsession := m.session_disposed hid
  have hover := not_onlyPasses_snoc calls (c := ⟨.dispose, m.world, (m.disposed id).world⟩) nofun
  have hout : ∀ e, id ∉ ((m.disposed id).world.editor e).listeners :=
    World.not_listens_dispose hm.sound.listening
  have hnotClosed : ¬ Called.Closes id ⟨.dispose, m.world, (m.disposed id).world⟩ := fun ⟨hown, hnot⟩ => by
    have hsame : ((m.disposed id).session id).ownsSource = (m.session id).ownsSource := by rw [hsession]; rfl
    exact Bool.false_ne_true (hnot.symm.trans (hsame.trans hown))
  refine ⟨?_, ?_, fun e => ?_, ?_, World.sourced_dispose hid h.sourced,
    (Doing.called .dispose hid).each hm hid h.each, h.snoc_calls ⟨?_, ?_, ?_, fun _ => ⟨?_, ?_⟩⟩⟩
  · rw [hsession]
    exact h.editor
  · rw [hsession]
    exact iff_of_false nofun hover
  · rw [if_neg fun hc => hover hc.2]
    exact List.count_eq_zero.mpr (hout e)
  · rw [hsession, neverClosed_snoc_of (show Call.dispose ≠ .close from nofun)]
    exact h.ownsSource
  · exact (h.releases_iff .dispose hout).trans (and_iff_right nofun).symm
  · exact iff_of_false hnotClosed fun hc => nomatch hc.1
  · exact fun hc => absurd hc hnotClosed
  · exact World.web_dispose m.world id
  · show ((m.disposed id).session id).source = _
    rw [hsession]
    rfl

theorem closed (h : Given p id calls m) (hm : Timeline m) (hid : id < m.world.sessions.length) :
    Given p id (calls ++ [⟨.close, m.world, (m.closed id).world⟩]) (m.closed id) := by
  have hout : ∀ e, id ∉ ((m.closed id).world.editor e).listeners :=
    World.not_listens_close hm.sound.listening
  have hsame := World.same_close m.world hid
  have hdisposed : ((m.closed id).session id).disposed = true :=
    congrArg Subscription.disposed hsame.subscription
  have hlent : ((m.closed id).session id).ownsSource = false := World.ownsSource_close hid h.sourced
  have hcloses : Called.Closes id ⟨.close, m.world, (m.closed id).world⟩ ↔
      p.source = none ∧ NeverClosed calls :=
    (and_iff_left hlent).trans h.ownsSource
  have hover := not_onlyPasses_snoc calls (c := ⟨.close, m.world, (m.closed id).world⟩) nofun
  refine ⟨hsame.editor.trans h.editor, ?_, fun e => ?_, ?_, fun ho => (nomatch ho.symm.trans hlent),
    (Doing.called .close hid).each hm hid h.each, h.snoc_calls ⟨?_, ?_, fun hc => ?_, fun hc => ?_⟩⟩
  · exact iff_of_false (fun hlive => nomatch hlive.symm.trans hdisposed) hover
  · rw [if_neg fun hc => hover hc.2]
    exact List.count_eq_zero.mpr (hout e)
  · rw [neverClosed_snoc]
    exact iff_of_false (fun ho => nomatch ho.symm.trans hlent) fun hc => hc.2.2 rfl
  · exact (h.releases_iff .close hout).trans (and_iff_right nofun).symm
  · exact hcloses.trans (and_iff_right rfl).symm
  · exact World.close_own hid hc.1 h.sourced
  · have hbefore : (m.session id).ownsSource = false := Bool.eq_false_iff.mpr fun ho => hc ⟨ho, hlent⟩
    exact World.close_lent_same hid hbefore

theorem called (h : Given p id calls m) (hm : Timeline m) (hid : id < m.world.sessions.length) (c : Call) :
    Given p id (calls ++ [⟨c, m.world, (m.called id c).world⟩]) (m.called id c) := by
  cases c with
  | resolve => exact h.resolved hm hid
  | dispose => exact h.disposed hm hid
  | close => exact h.closed hm hid

end Given

/-! ## From the first pass on -/

theorem made_cons {r : Ran} {runs : List Ran} {k : Nat} : Made (r :: runs) k ↔
    r.before.web.closed.length ≤ k ∧ k < r.after.web.closed.length ∨ Made runs k := by
  simp only [Made, List.mem_cons, exists_eq_or_imp]

namespace Stage

theorem Ends.kept (h : m.Ends p id task) (hs : Loop.task? m'.loop task = Loop.task? m.loop task)
    (hruns : ∃ new, m'.runs id = new ++ m.runs id) : m'.Ends p id task := by
  obtain ⟨new, hnew⟩ := hruns
  unfold Ends
  rw [hs, hnew]
  refine h.imp_right fun ⟨later, last, earlier, result, hruns, hend⟩ => ?_
  exact ⟨new ++ later, last, earlier, result, by rw [hruns, List.append_assoc], hend⟩

theorem Spares.same (h : m.Spares p id task) (hruns : m'.runs id = m.runs id) : m'.Spares p id task := by
  unfold Spares
  rw [hruns]
  exact h

theorem spares_cons {r : Ran} (h : m.Spares p id task) (hruns : m'.runs id = r :: m.runs id)
    (hr : (p.source = none ∧ r.task = task ∧ ∃ fault, r.result = some (.error fault)) ∨
      ∀ (k : Nat) closed, r.before.web.closed[k]? = some closed → r.after.web.closed[k]? = some closed) :
    m'.Spares p id task := by
  unfold Spares
  rw [hruns]
  exact List.forall_mem_cons.mpr ⟨hr, h⟩

theorem beside_heard (hm : Sound m) (h : m.world.marked id = true) : Stage.Beside id m (m.heard id) := by
  have hsame : (m.loop.contentChanged id).2 = m.loop := World.contentChanged_marked h
  have htasks : (m.heard id).loop.tasks = m.loop.tasks := congrArg Loop.tasks hsame
  refine ⟨past_of_eq (fun entry => ?_) (hm.guarded.enter_eq htasks), ?_, fun _ _ => ?_,
    runs_of_log (.inr ⟨_, rfl, rfl⟩)⟩
  · exact iff_of_eq (congrArg (fun l : SessionLoop => entry ∈ l.pending) hsame)
  · show Spared id m.world (m.loop.contentChanged id).2.state
    rw [hsame]
    exact .refl _
  · exact congrArg (·[_]?) htasks

end Stage

theorem Loop.task?_park_ended {l : SessionLoop} (result : Except Fault Unit) (w : World)
    (hr : Loop.task? l task = some .running) :
    Loop.task? ((l.without task).park task (.ended result w)) task = some (.ofResult result) :=
  List.getElem?_set_self (List.getElem?_eq_some_iff.mp hr).1

theorem Sound.resume_unique (hm : Sound m) {resume resume' : Option Fault → World → Course World}
    (h : (task, resume) ∈ m.loop.pending) (h' : (task, resume') ∈ m.loop.pending) : resume = resume' :=
  (Prod.mk.inj (List.inj_on_of_nodup_map hm.guarded.distinct h h' rfl)).2

/-- How things stand with a session: it is in its first pass, or in hand, or given up. -/
inductive Phase (p : World.Plan) (id task : Nat) (calls : List Called) (m : Stage) : Prop
  | creating (h : Creating p id task m) (hcalls : calls = [])
  | given (h : Given p id calls m) (hdone : Loop.task? m.loop task = some .done)
  | gone {fault : Fault} (hfailed : Loop.task? m.loop task = some (.failed fault)) (hcalls : calls = [])
      (heach : m.Each (Stretch id) id)

structure Story (p : World.Plan) (id task : Nat) (calls : List Called) (m : Stage) : Prop where
  owner : m.ledger.owners[task]? = some id
  phase : Phase p id task calls m
  ends : m.Ends p id task
  spares : m.Spares p id task

theorem Attending.each_ended (h : Attending p id task m) {thrown : Option Fault}
    {result : Except Fault Unit} {w : World} :
    (m.wentOn id task thrown (.ended result w)).Each (Stretch id) id := by
  intro other resume hp ho
  -- the only task has ended, so that there is none to be told of
  rcases Loop.mem_pending_park.mp hp with ⟨_, hne⟩ | ⟨_, _, _, hc, _⟩
  · exact absurd (h.alone other ho) hne
  · cases hc

section Stretches

variable {thrown : Option Fault} {resume : Option Fault → World → Course World} {w : World}

theorem Attending.returned (h : Attending p id task m) (hm : Timeline m) (hs : m.Spares p id task)
    (hp : (task, resume) ∈ m.loop.pending) (hran : thrown = none ∨ task ∈ m.ledger.begun)
    (hc : resume thrown m.world = .ended (.ok ()) w) (hstretch : Stretch id m.world w)
    (halong : Course.Along (World.resolveContents id) (m.world :: (m.runs id).map Ran.before)
      (.ended (.ok ()) w)) :
    Story p id task [] (m.wentOn id task thrown (resume thrown m.world)) := by
  have htended := (hm.sound.wentOn_cases h.owner hp thrown).tended
  rw [hc] at htended ⊢
  have hkept := hstretch.kept htended.sessions htended.own.editor
  have hreturned := h.held.returned hkept
  have hruns := Stage.runs_wentOn id (.ended (.ok ()) w) hran
  have hdone := Loop.task?_park_ended (.ok ()) w (hm.sound.running hp)
  have hnone : OnlyPasses [] := List.forall_mem_nil _
  have hgiven : Given p id [] (m.wentOn id task thrown (.ended (.ok ()) w)) :=
    { editor := hreturned.editor
      live := iff_of_true hreturned.live hnone
      listens := fun e => by
        simp only [hnone, and_true]
        exact hreturned.listens e
      ownsSource := hreturned.ownsSource.trans (and_iff_left (List.forall_mem_nil _)).symm
      sourced := hkept.sourced h.held.sourced
      each := h.each_ended
      calls := letsGo_of_nil rfl }
  exact ⟨h.owner, .given hgiven hdone,
    .inr ⟨[], _, _, .ok (), hruns, hdone, rfl, rfl, ⟨w, halong⟩, fun _ => hreturned, nofun⟩,
    Stage.spares_cons hs hruns (.inr fun _ _ => hstretch.source.flag)⟩

theorem Attending.givenUp {fault : Fault} (h : Attending p id task m) (hm : Timeline m)
    (hs : m.Spares p id task) (hp : (task, resume) ∈ m.loop.pending)
    (hran : thrown = none ∨ task ∈ m.ledger.begun)
    (hc : resume thrown m.world = .ended (.error fault) (w.close id)) (hstretch : Stretch id m.world w)
    (halong : Course.Along (World.resolveContents id) (m.world :: (m.runs id).map Ran.before)
      (.ended (.error fault) w)) :
    Story p id task [] (m.wentOn id task thrown (resume thrown m.world)) := by
  have hid := hm.sound.lt_of_owner h.owner
  have htended := (hm.sound.wentOn_cases h.owner hp thrown).tended
  rw [hc] at htended ⊢
  -- what is known of the stretch is known of the world after closing, which leaves these alone
  have hlen : w.sessions.length = m.world.sessions.length :=
    (World.tended_close w id).sessions.symm.trans htended.sessions
  have hid' : id < w.sessions.length := hlen.symm ▸ hid
  have hkept := hstretch.kept hlen ((World.same_close w hid').editor.symm.trans htended.own.editor)
  have hruns := Stage.runs_wentOn id (.ended (.error fault) (w.close id)) hran
  have hfailed := Loop.task?_park_ended (.error fault) (w.close id) (hm.sound.running hp)
  have hmade : ∀ k, Made (⟨task, m.world, w.close id, some (.error fault)⟩ :: m.runs id) k →
      m.world.web.closed.length ≤ k ∧ k < w.web.closed.length ∨ Made (m.runs id) k := fun k hk => by
    rw [← World.length_close w id]
    exact made_cons.mp hk
  have hgivenUp := ((h.held.stretch hstretch hkept).congr hmade).givenUp hid'
    (htended.listening hm.sound.listening)
  refine ⟨h.owner, .gone hfailed rfl h.each_ended,
    .inr ⟨[], _, _, .error fault, hruns, hfailed, rfl, rfl, ⟨w, halong⟩, nofun, fun _ _ => hgivenUp⟩,
    Stage.spares_cons hs hruns ?_⟩
  cases ho : (w.session id).ownsSource with
  | true => exact .inl ⟨h.held.ownsSource.mp (hstretch.ownsSource.symm.trans ho), rfl, fault, rfl⟩
  | false =>
    refine .inr fun k closed hk => ?_
    show (w.close id).web.closed[k]? = some closed
    rw [(World.close_lent_same hid' ho).1]
    exact hstretch.source.flag hk

theorem Attending.waited {gated : Bool} {pass : Option Fault → World → Course World}
    (h : Attending p id task m) (hm : Timeline m) (hs : m.Spares p id task)
    (hp : (task, resume) ∈ m.loop.pending) (hran : thrown = none ∨ task ∈ m.ledger.begun)
    (hc : resume thrown m.world =
      .waiting gated w fun thrown v => (pass thrown v).onFailure (·.close id))
    (hstretch : Stretch id m.world w)
    (heach : ∀ thrown v, id < v.sessions.length → (pass thrown v).Each (Stretch id) id v)
    (halong : Course.Along (World.resolveContents id) (m.world :: (m.runs id).map Ran.before)
      (.waiting gated w pass)) :
    Story p id task [] (m.wentOn id task thrown (resume thrown m.world)) := by
  have htended := (hm.sound.wentOn_cases h.owner hp thrown).tended
  rw [hc] at htended ⊢
  have hkept := hstretch.kept htended.sessions htended.own.editor
  have hruns := Stage.runs_wentOn id
    (.waiting gated w fun thrown v => (pass thrown v).onFailure (·.close id)) hran
  have hcreating : Creating p id task (m.wentOn id task thrown
      (.waiting gated w fun thrown v => (pass thrown v).onFailure (·.close id))) :=
    { owner := h.owner
      alone := h.alone
      held := by
        rw [hruns]
        exact (h.held.stretch hstretch hkept).congr fun _ => made_cons.mp
      begun := List.mem_cons_self ..
      waits := by
        rw [hruns]
        exact ⟨gated, w, pass, halong, Loop.mem_pending_park.mpr (.inr ⟨gated, w, _, rfl, rfl⟩), heach⟩ }
  have hrunning := (Loop.task?_park_self (c := .waiting gated w fun thrown v =>
    (pass thrown v).onFailure (·.close id)) (hm.sound.running hp)).mpr rfl
  exact ⟨h.owner, .creating hcreating rfl, .inl hrunning,
    Stage.spares_cons hs hruns (.inr fun _ _ => hstretch.source.flag)⟩

end Stretches

/-- A stretch of the first pass, in whatever way it ends. -/
theorem Attending.wentOn (h : Attending p id task m) (hm : Timeline m) (hs : m.Spares p id task)
    {thrown : Option Fault} {resume : Option Fault → World → Course World} {c : Course World}
    (hp : (task, resume) ∈ m.loop.pending) (hran : thrown = none ∨ task ∈ m.ledger.begun)
    (hc : resume thrown m.world = c.onFailure (·.close id)) (heach : c.Each (Stretch id) id m.world)
    (halong : Course.Along (World.resolveContents id) (m.world :: (m.runs id).map Ran.before) c) :
    Story p id task [] (m.wentOn id task thrown (resume thrown m.world)) := by
  cases c with
  | ended result w =>
    cases result with
    | ok => exact h.returned hm hs hp hran hc heach halong
    | error fault => exact h.givenUp hm hs hp hran hc heach halong
  | waiting gated w pass => exact h.waited hm hs hp hran hc heach.1 heach.2 halong

namespace Creating

theorem beside (h : Creating p id task m) (hb : Stage.Beside id m m') : Creating p id task m' where
  owner := (hb.past.owners task).mpr h.owner
  alone other ho := h.alone other ((hb.past.owners other).mp ho)
  held := by
    rw [hb.runs]
    exact h.held.spared hb.spared
  begun := hb.past.begun h.begun
  waits := by
    obtain ⟨gated, w, pass, halong, hp, heach⟩ := h.waits
    rw [hb.runs]
    exact ⟨gated, w, pass, halong, (hb.past.pending task _ h.owner).mpr hp, heach⟩

theorem running (h : Creating p id task m) (hm : Sound m) : Loop.task? m.loop task = some .running := by
  obtain ⟨gated, w, pass, halong, hp, heach⟩ := h.waits
  exact hm.running hp

theorem story (h : Creating p id task m) (hm : Sound m) (hs : m.Spares p id task) : Story p id task [] m :=
  ⟨h.owner, .creating h rfl, .inl (h.running hm), hs⟩

theorem doing (h : Creating p id task m) (hm : Timeline m) (hs : m.Spares p id task)
    (hd : Doing id m none m') : Story p id task [] m' := by
  cases hd with
  | heard hid hh =>
    -- the pass is running, and what is heard is passed over
    have hmarked : m.world.marked id = true :=
      (hm.sound.guarded.marked id).mpr ⟨task, h.owner, h.begun, h.running hm.sound⟩
    have hbeside := Stage.beside_heard hm.sound hmarked
    exact (h.beside hbeside).story (hm.move (.deed id (.heard hid hh))).sound (hs.same hbeside.runs)
  | fired hid hp =>
    -- nothing has armed the timer yet
    exact nomatch hp.symm.trans h.held.unarmed
  | wentOn ho hp thrown =>
    obtain rfl := h.alone _ ho
    obtain ⟨gated, w, pass, halong, hp', heach⟩ := h.waits
    obtain rfl := hm.sound.resume_unique hp hp'
    exact h.toAttending.wentOn hm hs hp (.inr h.begun) rfl (heach thrown _ (hm.sound.lt_of_owner h.owner))
      (.resumed halong thrown m.world)

end Creating

theorem Doing.runs {c : Option Call} (h : Doing id m c m') (hm : Timeline m)
    (heach : m.Each (Stretch id) id) :
    m'.runs id = m.runs id ∨ ∃ r : Ran, m'.runs id = r :: m.runs id ∧
      ∀ (k : Nat) closed, r.before.web.closed[k]? = some closed → r.after.web.closed[k]? = some closed := by
  cases h with
  | called c hid =>
    cases c with
    | resolve => exact .inl (Stage.runs_of_log (.inr ⟨_, rfl, rfl⟩))
    | dispose => exact .inl rfl
    | close => exact .inl rfl
  | heard hid hh => exact .inl (Stage.runs_of_log (.inr ⟨_, rfl, rfl⟩))
  | fired hid hp => exact .inl rfl
  | @wentOn task resume ho hp thrown =>
    by_cases hran : thrown = none ∨ task ∈ m.ledger.begun
    · refine .inr ⟨_, Stage.runs_wentOn id _ hran, fun k closed => ?_⟩
      exact (heach _ _ hp ho thrown m.world (hm.sound.lt_of_owner ho)).first.source.flag
    · obtain ⟨hthrown, hu⟩ := not_or.mp hran
      obtain ⟨fault, rfl⟩ := Option.ne_none_iff_exists'.mp hthrown
      exact .inl (Stage.runs_of_log (.inr ⟨_, rfl, by rw [m.occurrence_dropped id fault _ hu]; rfl⟩))

namespace Story

variable {calls calls' : List Called}

theorem beside (h : Story p id task calls m) (hb : Stage.Beside id m m') : Story p id task calls m' where
  owner := (hb.past.owners task).mpr h.owner
  phase := by
    have hsame := hb.settled task h.owner
    cases h.phase with
    | creating h hcalls => exact .creating (h.beside hb) hcalls
    | given h hdone => exact .given (h.kept hb.spared.kept (hb.past.each h.each)) (hsame.trans hdone)
    | gone hfailed hcalls heach => exact .gone (hsame.trans hfailed) hcalls (hb.past.each heach)
  ends := h.ends.kept (hb.settled task h.owner) ⟨[], hb.runs⟩
  spares := h.spares.same hb.runs

theorem afterwards (h : Story p id task calls m) (hm : Timeline m) {state : TaskState}
    (hs : Loop.task? m.loop task = some state) (hr : state ≠ .running) (heach : m.Each (Stretch id) id)
    {c : Option Call} (hd : Doing id m c m') (hphase : Phase p id task calls' m') :
    Story p id task calls' m' := by
  have hsame : Loop.task? m'.loop task = Loop.task? m.loop task := (hd.settled hm hs hr).trans hs.symm
  have howner := hd.owner hm h.owner
  rcases hd.runs hm heach with hruns | ⟨r, hruns, hflag⟩
  · exact ⟨howner, hphase, h.ends.kept hsame ⟨[], hruns⟩, h.spares.same hruns⟩
  · exact ⟨howner, hphase, h.ends.kept hsame ⟨[r], hruns⟩, Stage.spares_cons h.spares hruns (.inr hflag)⟩

theorem doing (h : Story p id task calls m) (hm : Timeline m) (hd : Doing id m none m') :
    Story p id task calls m' := by
  cases h.phase with
  | creating hc hcalls =>
    subst hcalls
    exact hc.doing hm h.spares hd
  | given hg hdone =>
    have hid := hm.sound.lt_of_owner h.owner
    exact h.afterwards hm hdone nofun hg.each hd (.given (hg.doing hm hid hd) (hd.settled hm hdone nofun))
  | gone hfailed hcalls heach =>
    have hid := hm.sound.lt_of_owner h.owner
    exact h.afterwards hm hfailed nofun heach hd
      (.gone (hd.settled hm hfailed nofun) hcalls (hd.each hm hid heach))

theorem called (h : Story p id task calls m) (hm : Timeline m) (c : Call)
    (hdone : Loop.task? m.loop task = some .done) :
    Story p id task (calls ++ [⟨c, m.world, (m.called id c).world⟩]) (m.called id c) := by
  have hid := hm.sound.lt_of_owner h.owner
  have hd : Doing id m (some c) (m.called id c) := .called c hid
  cases h.phase with
  | creating hc hcalls => exact nomatch (hc.running hm.sound).symm.trans hdone
  | given hg _ =>
    exact h.afterwards hm hdone nofun hg.each hd (.given (hg.called hm hid c) (hd.settled hm hdone nofun))
  | gone hfailed hcalls heach => exact nomatch hfailed.symm.trans hdone

theorem act (h : Story p id task calls m) (hm : Timeline m) {label : Option (Nat × Call)}
    (ha : Act m label m') (hl : ∀ c, label ≠ some (id, c)) : Story p id task calls m' := by
  rcases ha.beside_or hm (hm.sound.lt_of_owner h.owner) with hb | ⟨c, hd, hlabel⟩
  · exact h.beside hb
  · cases c with
    | none => exact h.doing hm hd
    | some c => exact absurd hlabel (hl c)

end Story

theorem Life.story {calls : List Called} (h : Life id task m calls m') (hm : Timeline m)
    (hs : Story p id task [] m) : Timeline m' ∧ Story p id task calls m' := by
  -- that it is a timeline is carried along, since each step rests on it
  induction h with
  | start => exact ⟨hm, hs⟩
  | act h ha hl ih => exact ⟨ih.1.later ha.later, ih.2.act ih.1 ha hl⟩
  | called c h hdone ih =>
    have hd : Doing id _ (some c) _ := .called c (ih.1.sound.lt_of_owner ih.2.owner)
    exact ⟨ih.1.later hd.later, ih.2.called ih.1 c hdone⟩

/-! ## Sessions that are created -/

theorem World.ownsSource_attach (p : World.Plan) : (World.attachSource p).2 = true ↔ p.source = none := by
  unfold World.attachSource
  cases p.source with
  | none => exact iff_of_true rfl rfl
  | some source => exact iff_of_false nofun nofun

theorem World.Plan.Attaches.sourced {s : Session} (h : p.Attaches s) (ho : s.ownsSource = true) :
    s.source = .registry (.own Registry.defaultRoot) := by
  rw [h.ownsSource, World.ownsSource_attach] at ho
  rw [h.source]
  unfold World.attachSource
  rw [ho]

namespace Attaching

def start (reply : Registry.Reply) : Stage :=
  { loop := { state := { web := { elsewhere := reply }, editors := [{ text := "require('a')" }] } } }

def plan : World.Plan := { editor := 0 }

/-- The session is attached, and its first pass waits for a file. -/
def first (reply : Registry.Reply) : Stage := ((start reply).created plan).onward 0 0 none

def passed (reply : Registry.Reply) : Stage := (first reply).onward 0 0 none

/-- The package is not found, and the session is in hand. -/
def given : Stage := passed (.ok { status := 404 })

/-- There is no connection. -/
def gone : Stage := passed (.error (.transport "refused"))

/-- A session is disposed, and closed twice. -/
def handled (m : Stage) : List Called :=
  [⟨.dispose, m.world, (m.disposed 0).world⟩,
    ⟨.close, (m.disposed 0).world, ((m.disposed 0).closed 0).world⟩,
    ⟨.close, ((m.disposed 0).closed 0).world, (((m.disposed 0).closed 0).closed 0).world⟩]

end Attaching

end DeclarationFetch
