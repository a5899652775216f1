import DeclarationFetch.Resolution.Walk

/-! # Walks among others

A walk stops at each request, and others act before it goes on. What it promises then and what it may
rely on are its regime.

* `Regime ε`: the scenes in which requests are made, the answers that they may get, and a preorder
  `since` that every part of a walk keeps, with the scenes `valid` along it.
* `Step.Ends R post`: every request is made on the terms of `R`, and every end satisfies `post`, however
  the requests are answered on these terms.
* `Walk.Ensures R w s Q`: from the valid scene `s` the walk `w` leads to later scenes only, and to one
  with `Q` if it ends without a fault. There is one rule for each way to build a walk.
* `Play ε`: how the others move. `Step.after play n` is what a step has come to after `n` fetches; every
  step comes to its end (`Step.exists_after_eq_done`), which is `Step.finish play`.
-/

namespace DeclarationFetch.Resolution

variable {ε α β : Type}

/-- The terms on which a walk and the others deal with each other. -/
structure Regime (ε : Type) where
  /-- Where a request may be made. -/
  asks : Request → Scene ε → Prop
  /-- The answers to a request, with the scenes in which the walk may find itself then. -/
  answers : Request → Scene ε → Answer → Scene ε → Prop
  valid : Scene ε → Prop
  since : Scene ε → Scene ε → Prop
  refl : ∀ s, since s s
  trans : ∀ {s s' s''}, since s s' → since s' s'' → since s s''
  valid_of_since : ∀ {s s'}, since s s' → valid s → valid s'

variable {R : Regime ε}

/-! ## The ends of a step -/

namespace Step

def scene : Step ε α → Scene ε
  | done _ scene => scene
  | fetch _ scene _ => scene

def within : Step ε α → Scene ε → Step ε α
  | done result _, s => done result s
  | fetch request _ resume, s => fetch request s resume

theorem scene_within (step : Step ε α) (s : Scene ε) : (step.within s).scene = s := by
  cases step <;> rfl

def request? : Step ε α → Option Request
  | done _ _ => none
  | fetch request _ _ => some request

def value? : Step ε α → Option α
  | done (.ok a) _ => some a
  | _ => none

theorem eq_done_of_value? {step : Step ε α} {a : α} (h : step.value? = some a) :
    step = .done (.ok a) step.scene := by
  unfold value? at h
  split at h
  · cases h
    rfl
  · cases h

/-- Every request is made on the terms of the regime, and every end that they allow satisfies `post`. -/
def Ends (R : Regime ε) (post : Except Fault α → Scene ε → Prop) : Step ε α → Prop
  | done result scene => post result scene
  | fetch request scene resume =>
      R.asks request scene ∧
        ∀ answer scene', R.answers request scene answer scene' → (resume answer scene').Ends R post

theorem Ends.mono {post post' : Except Fault α → Scene ε → Prop} {step : Step ε α}
    (h : step.Ends R post) (hp : ∀ result s, post result s → post' result s) : step.Ends R post' := by
  induction step with
  | done result scene => exact hp result scene h
  | fetch request scene resume ih =>
    exact ⟨h.1, fun answer scene' ha => ih answer scene' (h.2 answer scene' ha)⟩

theorem Ends.andThen {mid : Except Fault α → Scene ε → Prop} {post : Except Fault β → Scene ε → Prop}
    {next : Except Fault α → Scene ε → Step ε β} {step : Step ε α} (h : step.Ends R mid)
    (hn : ∀ result s, mid result s → (next result s).Ends R post) :
    (step.andThen next).Ends R post := by
  induction step with
  | done result scene => exact hn result scene h
  | fetch request scene resume ih =>
    exact ⟨h.1, fun answer scene' ha => ih answer scene' (h.2 answer scene' ha)⟩

theorem Ends.weaken {R' : Regime ε} {post : Except Fault α → Scene ε → Prop} {step : Step ε α}
    (h : step.Ends R post) (hask : ∀ r s, R.asks r s → R'.asks r s)
    (hans : ∀ r s answer s', R'.answers r s answer s' → R.answers r s answer s') :
    step.Ends R' post := by
  induction step with
  | done result scene => exact h
  | fetch request scene resume ih =>
    refine ⟨hask request scene h.1, fun answer scene' ha => ?_⟩
    exact ih answer scene' (h.2 answer scene' (hans request scene answer scene' ha))

theorem Ends.asks {post : Except Fault α → Scene ε → Prop} {step : Step ε α} (h : step.Ends R post)
    {request : Request} (hr : step.request? = some request) : R.asks request step.scene := by
  cases step with
  | done result scene => cases hr
  | fetch request scene resume =>
    cases hr
    exact h.1

/-- What holds at every request and at every end holds of the scene that a step has come to. -/
theorem Ends.scene {post : Except Fault α → Scene ε → Prop} {P : Scene ε → Prop} {step : Step ε α}
    (h : step.Ends R post) (hask : ∀ request s, R.asks request s → P s)
    (hpost : ∀ result s, post result s → P s) : P step.scene := by
  cases step with
  | done result scene => exact hpost result scene h
  | fetch request scene resume => exact hask request scene h.1

/-- Others may leave another scene to a step, if all that its regime goes by stays as it was. -/
theorem Ends.within {post : Except Fault α → Scene ε → Prop} {step : Step ε α} (h : step.Ends R post)
    {s : Scene ε} (hask : ∀ request, R.asks request s) (hpost : ∀ result, post result s)
    (hans : ∀ request answer s', R.answers request s answer s' →
      R.answers request step.scene answer s') : (step.within s).Ends R post := by
  cases step with
  | done result scene => exact hpost result
  | fetch request scene resume =>
    exact ⟨hask request, fun answer s' ha => h.2 answer s' (hans request answer s' ha)⟩

end Step

/-! ## Walks -/

namespace Walk

/-- From a valid scene the walk leads to later scenes only, and to `Q` if it ends without a fault. -/
structure Ensures (R : Regime ε) (w : Walk ε α) (s : Scene ε) (Q : α → Scene ε → Prop) : Prop where
  ends : R.valid s → (w s).Ends R fun result s' => R.since s s' ∧ ∀ a, result = .ok a → Q a s'

namespace Ensures

variable {s : Scene ε} {w : Walk ε α} {Q Q' : α → Scene ε → Prop}

theorem mono (h : w.Ensures R s Q)
    (hq : ∀ a s', R.valid s' → R.since s s' → Q a s' → Q' a s') : w.Ensures R s Q' where
  ends hv := (h.ends hv).mono fun _ s' hr =>
    ⟨hr.1, fun a ha => hq a s' (R.valid_of_since hr.1 hv) hr.1 (hr.2 a ha)⟩

theorem of_valid (h : R.valid s → w.Ensures R s Q) : w.Ensures R s Q := ⟨fun hv => (h hv).ends hv⟩

theorem of_eq_done {result : Except Fault α} {s' : Scene ε} (hw : w s = .done result s')
    (hs : R.valid s → R.since s s')
    (hq : ∀ a, result = .ok a → R.valid s' → R.since s s' → Q a s') : w.Ensures R s Q where
  ends hv := by
    rw [hw]
    exact ⟨hs hv, fun a ha => hq a ha (R.valid_of_since (hs hv) hv) (hs hv)⟩

theorem pure {a : α} (h : Q a s) : (Walk.pure a).Ensures R s Q :=
  of_eq_done rfl (fun _ => R.refl s) fun _ ha _ _ => by cases ha; exact h

theorem raise (fault : Fault) : (Walk.raise fault).Ensures R s Q :=
  of_eq_done rfl (fun _ => R.refl s) fun _ ha _ _ => nomatch ha

theorem read {f : Scene ε → Walk ε α} (h : (f s).Ensures R s Q) :
    (Walk.scene >>= f).Ensures R s Q := ⟨h.ends⟩

theorem ofExcept {result : Except Fault α} (h : ∀ a, result = .ok a → Q a s) :
    (Walk.ofExcept result).Ensures R s Q :=
  of_eq_done rfl (fun _ => R.refl s) fun a ha _ _ => h a ha

theorem act {f : ε → Except Fault α × ε} (hs : R.valid s → R.since s { s with env := (f s.env).2 })
    (hq : ∀ a, (f s.env).1 = .ok a → R.valid s → Q a { s with env := (f s.env).2 }) :
    (Walk.act f).Ensures R s Q :=
  .of_valid fun hv => of_eq_done rfl hs fun a ha _ _ => hq a ha hv

theorem change {f : Context → Context} {Q : Unit → Scene ε → Prop}
    (hs : R.valid s → R.since s { s with context := f s.context })
    (hq : R.valid s → Q () { s with context := f s.context }) :
    (Walk.change f).Ensures R s Q :=
  .of_valid fun hv => of_eq_done rfl hs fun _ _ _ _ => hq hv

theorem setPins {pins : Pins} {Q : Unit → Scene ε → Prop}
    (hs : R.valid s → R.since s { s with pins := pins })
    (hq : R.valid s → Q () { s with pins := pins }) : (Walk.setPins pins).Ensures R s Q :=
  .of_valid fun hv => of_eq_done rfl hs fun _ _ _ _ => hq hv

theorem request {r : Request} {Q : Option String → Scene ε → Prop} (hask : R.valid s → R.asks r s)
    (hs : ∀ answer s', R.valid s → R.answers r s answer s' →
      R.since s s' ∧ ∀ found, answer = .ok found → Q found s') :
    (Walk.request r).Ensures R s Q where
  ends hv := ⟨hask hv, fun answer s' ha => hs answer s' hv ha⟩

theorem bind {f : α → Walk ε β} {Q' : β → Scene ε → Prop} (h : w.Ensures R s Q)
    (hf : ∀ a s', R.valid s' → R.since s s' → Q a s' → (f a).Ensures R s' Q') :
    (w >>= f).Ensures R s Q' where
  ends hv := by
    refine (h.ends hv).andThen fun result s' hr => ?_
    cases result with
    | error fault => exact ⟨hr.1, fun _ he => nomatch he⟩
    | ok a =>
      have hv' := R.valid_of_since hr.1 hv
      refine ((hf a s' hv' hr.1 (hr.2 a rfl)).ends hv').mono fun _ s'' hr' => ?_
      exact ⟨R.trans hr.1 hr'.1, hr'.2⟩

theorem rescue {f : Fault → Walk ε α} (h : w.Ensures R s Q)
    (hf : ∀ fault s', R.valid s' → R.since s s' → (f fault).Ensures R s' Q) :
    (w.rescue f).Ensures R s Q where
  ends hv := by
    refine (h.ends hv).andThen fun result s' hr => ?_
    cases result with
    | ok a => exact hr
    | error fault =>
      have hv' := R.valid_of_since hr.1 hv
      refine ((hf fault s' hv' hr.1).ends hv').mono fun _ s'' hr' => ?_
      exact ⟨R.trans hr.1 hr'.1, hr'.2⟩

theorem weaken {R' : Regime ε} (h : w.Ensures R s Q) (hask : ∀ r s', R.asks r s' → R'.asks r s')
    (hans : ∀ r s' answer s'', R'.answers r s' answer s'' → R.answers r s' answer s'')
    (hv : R'.valid s → R.valid s) (hs : ∀ s', R.since s s' → R'.since s s') :
    w.Ensures R' s fun a s' => R.since s s' ∧ Q a s' where
  ends hv' := ((h.ends (hv hv')).weaken hask hans).mono fun _ s' hr =>
    ⟨hs s' hr.1, fun a ha => ⟨hr.1, hr.2 a ha⟩⟩

/-- A walk between a change at its beginning and one at its end, with the regime in between. -/
theorem bracket {first last : Context → Context} {Q' : α → Scene ε → Prop}
    (hv : R.valid s → R.valid { s with context := first s.context })
    (h : R.valid s → w.Ensures R { s with context := first s.context } Q)
    (hs : ∀ s', R.valid s → R.valid s' → R.since { s with context := first s.context } s' →
      R.since s { s' with context := last s'.context })
    (hq : ∀ a s', R.valid s → R.valid s' → R.since { s with context := first s.context } s' →
      Q a s' → Q' a { s' with context := last s'.context }) :
    (Walk.change first >>= fun _ => w.closing last).Ensures R s Q' where
  ends hv₀ := by
    show ((w { s with context := first s.context }).andThen _).Ends R _
    refine ((h hv₀).ends (hv hv₀)).andThen fun result s' hr => ?_
    have hv' := R.valid_of_since hr.1 (hv hv₀)
    exact ⟨hs s' hv₀ hv' hr.1, fun a ha => hq a s' hv₀ hv' hr.1 (hr.2 a ha)⟩

/-- One walk after another keeps what each of them keeps, `P` telling what is left to do. -/
theorem each {f : α → Walk ε Unit} {P : List α → Scene ε → Prop} {l : List α}
    (hf : ∀ a rest s', a ∈ l → R.valid s' → R.since s s' → P (a :: rest) s' →
      (f a).Ensures R s' fun _ => P rest) (h : P l s) :
    (Walk.each f l).Ensures R s fun _ => P [] := by
  induction l generalizing s with
  | nil => exact pure h
  | cons a rest ih =>
    have ha : (f a).Ensures R s fun _ => P rest :=
      .of_valid fun hv => hf a rest s (List.mem_cons_self ..) hv (R.refl s) h
    refine bind ha fun _ s' hv hs hp => ?_
    exact ih (fun b l s'' hb hv' hs' =>
      hf b l s'' (List.mem_cons_of_mem a hb) hv' (R.trans hs hs')) hp

end Ensures
end Walk

/-! ## Plays -/

/-- How others move: the answer to the request that comes up after so many others, and the pins and the
environment that the walk then goes on with. Its options and its context are not theirs to change. -/
structure Play (ε : Type) where
  answer : Nat → Request → Scene ε → Answer
  pins : Nat → Request → Scene ε → Pins
  env : Nat → Request → Scene ε → ε

namespace Play

def scene (play : Play ε) (n : Nat) (request : Request) (s : Scene ε) : Scene ε :=
  { s with pins := play.pins n request s, env := play.env n request s }

def tail (play : Play ε) : Play ε where
  answer n := play.answer (n + 1)
  pins n := play.pins (n + 1)
  env n := play.env (n + 1)

def Follows (play : Play ε) (R : Regime ε) : Prop :=
  ∀ n request s, R.asks request s →
    R.answers request s (play.answer n request s) (play.scene n request s)

def KeepsPins (play : Play ε) : Prop := ∀ n request s, play.pins n request s = s.pins

/-- A source that is a fixed function, and others that do nothing. -/
def answering (source : Request → Option String) : Play ε where
  answer _ request _ := .ok (source request)
  pins _ _ s := s.pins
  env _ _ s := s.env

def files (package : String) (entries : List (String × String)) : Request → Option String := fun r =>
  if r.package = package then entries.lookup r.path else none

theorem keepsPins_answering (source : Request → Option String) :
    (answering source : Play ε).KeepsPins := fun _ _ _ => rfl

theorem Follows.tail {play : Play ε} (h : play.Follows R) : play.tail.Follows R := fun n => h (n + 1)

end Play

namespace Step

/-- What a step has come to after so many fetches. -/
def after (play : Play ε) : Nat → Step ε α → Step ε α
  | 0, step => step
  | _ + 1, done result scene => done result scene
  | n + 1, fetch request scene resume =>
      (resume (play.answer 0 request scene) (play.scene 0 request scene)).after play.tail n

theorem Ends.after {post : Except Fault α → Scene ε → Prop} {step : Step ε α} (h : step.Ends R post)
    {play : Play ε} (hp : play.Follows R) (n : Nat) : (step.after play n).Ends R post := by
  induction n generalizing play step with
  | zero => exact h
  | succ n ih =>
    cases step with
    | done result scene => exact h
    | fetch request scene resume => exact ih (h.2 _ _ (hp 0 request scene h.1)) hp.tail

/-- Whatever the others do, there is an end. -/
theorem exists_after_eq_done (step : Step ε α) (play : Play ε) :
    ∃ n result scene, step.after play n = .done result scene := by
  induction step generalizing play with
  | done result scene => exact ⟨0, result, scene, rfl⟩
  | fetch request scene resume ih =>
    obtain ⟨n, result, s, hn⟩ :=
      ih (play.answer 0 request scene) (play.scene 0 request scene) play.tail
    exact ⟨n + 1, result, s, hn⟩

/-- The end of a step among others, with their moves after it. -/
def finish (play : Play ε) : Step ε α → Except Fault α × Scene ε × Play ε
  | done result scene => (result, scene, play)
  | fetch request scene resume =>
      (resume (play.answer 0 request scene) (play.scene 0 request scene)).finish play.tail

theorem finish_andThen (play : Play ε) (step : Step ε α) (next : Except Fault α → Scene ε → Step ε β) :
    (step.andThen next).finish play =
      (next (step.finish play).1 (step.finish play).2.1).finish (step.finish play).2.2 := by
  induction step generalizing play with
  | done result scene => rfl
  | fetch request scene resume ih => exact ih _ _ play.tail

theorem finish_of_after {step : Step ε α} {play : Play ε} {n : Nat} {result : Except Fault α}
    {s : Scene ε} (h : step.after play n = .done result s) :
    ∃ rest, step.finish play = (result, s, rest) := by
  induction step generalizing play n with
  | done result' scene => cases n <;> cases h <;> exact ⟨play, rfl⟩
  | fetch request scene resume ih =>
    cases n with
    | zero => cases h
    | succ n => exact ih _ _ h

theorem Ends.finish {post : Except Fault α → Scene ε → Prop} {step : Step ε α} (h : step.Ends R post)
    {play : Play ε} (hp : play.Follows R) :
    post (step.finish play).1 (step.finish play).2.1 ∧ (step.finish play).2.2.Follows R := by
  induction step generalizing play with
  | done result scene => exact ⟨h, hp⟩
  | fetch request scene resume ih => exact ih _ _ (h.2 _ _ (hp 0 request scene h.1)) hp.tail

end Step

theorem Walk.finish_bind (play : Play ε) (w : Walk ε α) (f : α → Walk ε β) (s : Scene ε) :
    ((w >>= f) s).finish play =
      match (w s).finish play with
      | (.ok a, s₁, rest) => (f a s₁).finish rest
      | (.error fault, s₁, rest) => (.error fault, s₁, rest) := by
  show ((w s).andThen _).finish play = _
  rw [Step.finish_andThen]
  obtain ⟨result, s₁, rest⟩ := (w s).finish play
  cases result <;> rfl

end DeclarationFetch.Resolution
