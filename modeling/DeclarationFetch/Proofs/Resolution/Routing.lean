import DeclarationFetch.Proofs.Resolution.Containment
import DeclarationFetch.Proofs.Resolution.Mirror

/-! # Failures raised and failures told

A pass whose failures go to an error handler, beside the same pass without a handler.

* `Collaborators.telling`: the same collaborators with an error handler that puts down what it is told,
  and returns.
* `attempts`: the walks over the dependencies of a source text, as far as the pass gets.
* `Routed`: what the two passes have in common, and what they do with a failure.
* `pass_routed`: every pass is routed.
-/

namespace DeclarationFetch

def Options.handling (o : Options) (errors : Bool) : Options :=
  { o with handlers := { o.handlers with errors } }

theorem Fault.handled?_eq_some {fault : Fault} {message : String}
    (h : fault.handled? = some message) : ∃ e : FetchFault, fault = .fetch e ∧ e.message = message := by
  cases fault with
  | fetch e =>
    cases h
    exact ⟨e, rfl, rfl⟩
  | _ => cases h

namespace Resolution

variable {ε σ α β : Type} {c : Collaborators ε}

/-! ## Handlers that put down what they are told -/

/-- An environment with the messages that an error handler was told, each with the environment at the
time. -/
structure Told (ε : Type) where
  env : ε
  calls : List (String × ε)

def Told.pass (e : Told ε) (r : Except Fault α × ε) : Except Fault α × Told ε := (r.1, ⟨r.2, e.calls⟩)

/-- The same collaborators with an error handler that does no more than to put down what it is told. -/
def Collaborators.telling (c : Collaborators ε) : Collaborators (Told ε) where
  cached key e := e.pass (c.cached key e.env)
  isCached key e := e.pass (c.isCached key e.env)
  store key text e := e.pass (c.store key text e.env)
  hosted path e := e.pass (c.hosted path e.env)
  host path text e := e.pass (c.host path text e.env)
  makeRoom path e := e.pass (c.makeRoom path e.env)
  onUpdate u e := e.pass (c.onUpdate u e.env)
  onVersions pins e := e.pass (c.onVersions pins e.env)
  onError message e := (.ok (), ⟨e.env, e.calls ++ [(message, e.env)]⟩)

namespace Scene

def raising (s : Scene ε) : Scene ε := { s with options := s.options.handling false }

/-- The scene with an error handler that has had these calls. -/
def telling (s : Scene ε) (calls : List (String × ε)) : Scene (Told ε) :=
  ⟨s.options.handling true, s.pins, s.context, ⟨s.env, calls⟩⟩

end Scene

def raisingView (c : Collaborators ε) : View c c where
  env e := e
  options o := o.handling false
  onlySpecified _ := rfl
  preload _ := rfl
  updates _ := rfl
  versions _ := rfl
  perform _ _ := rfl

/-- Before the handler is called, a pass does the same as without a handler. -/
def tellingView (c : Collaborators ε) (calls : List (String × ε)) : View c c.telling where
  env e := ⟨e, calls⟩
  options o := o.handling true
  onlySpecified _ := rfl
  preload _ := rfl
  updates _ := rfl
  versions _ := rfl
  perform a _ := by cases a <;> rfl

/-! ## Attempts -/

theorem Step.run_andThen (step : Step ε α) (next : Except Fault α → Scene ε → Step ε β)
    (source : Request → σ → Answer × σ) (memory : σ) :
    (step.andThen next).run source memory =
      let ended := step.run source memory
      (next ended.1 ended.2.1).run source ended.2.2 := by
  induction step generalizing memory with
  | done result s => rfl
  | fetch request s resume ih => exact ih ..

theorem run_each_cons (walk : Resource → Walk ε Unit) (handler : Fault → Walk ε Unit) (r : Resource)
    (rest : List Resource) (s : Scene ε) (source : Request → σ → Answer × σ) (memory : σ) :
    (Walk.each (fun r => (walk r).rescue handler) (r :: rest) s).run source memory =
      let go := Walk.each (fun r => (walk r).rescue handler) rest
      let ended := (walk r s).run source memory
      match ended.1 with
      | .ok _ => (go ended.2.1).run source ended.2.2
      | .error fault =>
          let handled := (handler fault ended.2.1).run source ended.2.2
          match handled.1 with
          | .ok _ => (go handled.2.1).run source handled.2.2
          | .error fault => (.error fault, handled.2) := by
  show ((((walk r).rescue handler) s).andThen _).run source memory = _
  unfold Walk.rescue
  simp only [Step.run_andThen]
  cases ((walk r s).run source memory).1 with
  | ok => rfl
  | error fault =>
    dsimp only
    cases ((handler fault ((walk r s).run source memory).2.1).run source
      ((walk r s).run source memory).2.2).1 <;> rfl

theorem handle_raising (fault : Fault) (s : Scene ε) :
    handle c fault s.raising = .done (.error fault) s.raising := handle_of_unhandled (.inr rfl)

theorem handle_telling (fault : Fault) (s : Scene ε) (calls : List (String × ε)) :
    handle c.telling fault (s.telling calls) =
      match fault.handled? with
      | some message => .done (.ok ()) (s.telling (calls ++ [(message, s.env)]))
      | none => .done (.error fault) (s.telling calls) := by
  cases h : fault.handled? with
  | none => exact handle_of_unhandled (.inl h)
  | some message => exact handle_of_handled h rfl

/-- How the walk over one dependency of a source text has ended. -/
structure Attempt (ε σ : Type) where
  dependency : Resource
  result : Except Fault Unit
  scene : Scene (Told ε)
  memory : σ

/-- What the error handler is told of an attempt. -/
def Attempt.call? (a : Attempt ε σ) : Option (String × ε) :=
  match a.result with
  | .error fault => fault.handled?.map fun message => (message, a.scene.env.env)
  | .ok _ => none

/-- The scene in which the next dependency is attempted; there is none after a fault that is not
handled. -/
def Attempt.next? (a : Attempt ε σ) : Option (Scene (Told ε)) :=
  match a.result with
  | .ok _ => some a.scene
  | .error fault => fault.handled?.map fun message =>
      { a.scene with env := ⟨a.scene.env.env, a.scene.env.calls ++ [(message, a.scene.env.env)]⟩ }

/-- The walks over dependencies one after another, with a handler that is told of failures. -/
def attempts (source : Request → σ → Answer × σ) (walk : Resource → Walk (Told ε) Unit) :
    List Resource → Scene (Told ε) → σ → List (Attempt ε σ)
  | [], _, _ => []
  | r :: rest, s, memory =>
      let ended := (walk r s).run source memory
      let a : Attempt ε σ := ⟨r, ended.1, ended.2.1, ended.2.2⟩
      a :: match a.next? with
        | some s' => attempts source walk rest s' a.memory
        | none => []

/-! ## Two passes -/

abbrev Outcome (ε σ : Type) := Except Fault Unit × Scene ε × σ

def Outcome.fault? (o : Outcome ε σ) : Option Fault :=
  match o.1 with
  | .ok _ => none
  | .error fault => some fault

theorem Outcome.eq_error_of_fault? {o : Outcome ε σ} {fault : Fault} (h : o.fault? = some fault) :
    o.1 = .error fault := by
  unfold fault? at h
  split at h
  · cases h
  · next he =>
    cases h
    exact he

/-- How a pass that raises its failures and a pass that tells them go side by side, both from a scene
after so many calls of the handler. -/
structure Routed (calls : List (String × ε)) (dependencies : List Resource)
    (raised : Outcome ε σ) (told : Outcome (Told ε) σ) (log : List (Attempt ε σ)) : Prop where
  /-- The handler was called once for each attempt that failed, in their order. -/
  called : told.2.1.env.calls = calls ++ log.filterMap Attempt.call?
  /-- Each dependency was attempted once, in order, unless another fault has ended the pass. -/
  attempted : log.map Attempt.dependency = dependencies ∧ told.1 = .ok () ∨
    log.map Attempt.dependency <+: dependencies ∧
      ∃ fault, told.1 = .error fault ∧ fault.handled? = none
  /-- If an attempt has failed, the first failure was raised, in the scene of the first call. -/
  first : ∀ a, log.find? (fun a => a.call?.isSome) = some a →
    a.scene = raised.2.1.telling calls ∧ a.memory = raised.2.2 ∧
      ∃ e : FetchFault, raised.1 = .error (.fetch e) ∧ a.call? = some (e.message, raised.2.1.env)
  /-- If none has, both passes have ended alike, and no failure was raised. -/
  none_failed : log.find? (fun a => a.call?.isSome) = none →
    told = (raised.1, raised.2.1.telling calls, raised.2.2) ∧
      ∀ e : FetchFault, raised.1 ≠ .error (.fetch e)

namespace Routed

variable {calls : List (String × ε)} {r : Resource} {rest : List Resource}
  {raised : Outcome ε σ} {told : Outcome (Told ε) σ} {log : List (Attempt ε σ)}
  {s : Scene ε} {memory : σ} {fault : Fault}

theorem passed (h : Routed calls rest raised told log) :
    Routed calls (r :: rest) raised told (⟨r, .ok (), s.telling calls, memory⟩ :: log) where
  called := h.called
  attempted := h.attempted.imp (fun ⟨hl, ho⟩ => ⟨congrArg _ hl, ho⟩)
    (fun ⟨hl, hf⟩ => ⟨(List.prefix_cons_inj r).mpr hl, hf⟩)
  first := h.first
  none_failed := h.none_failed

theorem failed {e : FetchFault}
    (h : Routed (calls ++ [(e.message, s.env)]) rest raised told log) :
    Routed calls (r :: rest) (.error (.fetch e), s.raising, memory) told
      (⟨r, .error (.fetch e), s.telling calls, memory⟩ :: log) where
  called := h.called.trans (List.append_assoc ..)
  attempted := h.attempted.imp (fun ⟨hl, ho⟩ => ⟨congrArg _ hl, ho⟩)
    (fun ⟨hl, hf⟩ => ⟨(List.prefix_cons_inj r).mpr hl, hf⟩)
  first a ha := by
    cases ha
    exact ⟨rfl, rfl, e, rfl, rfl⟩
  none_failed h := by cases h

theorem ended (hf : fault.handled? = none) :
    Routed calls (r :: rest) (.error fault, s.raising, memory) (.error fault, s.telling calls, memory)
      [⟨r, .error fault, s.telling calls, memory⟩] := by
  have hcall : (⟨r, .error fault, s.telling calls, memory⟩ : Attempt ε σ).call? = none := by
    simp [Attempt.call?, hf]
  have hnone : [(⟨r, .error fault, s.telling calls, memory⟩ : Attempt ε σ)].find?
      (fun a => a.call?.isSome) = none := by simp [hcall]
  exact
    { called := by
        rw [List.filterMap_cons_none hcall]
        exact (List.append_nil calls).symm
      attempted := .inr ⟨(List.prefix_cons_inj r).mpr List.nil_prefix, fault, rfl, hf⟩
      first := fun a ha => nomatch hnone.symm.trans ha
      none_failed := fun _ => ⟨rfl, fun e he => by cases he; cases hf⟩ }

/-- The first failure is the one that the first call tells of. -/
theorem head?_calls (h : Routed [] rest raised told log) {a : Attempt ε σ}
    (ha : log.find? (fun a => a.call?.isSome) = some a) : told.2.1.env.calls.head? = a.call? := by
  obtain ⟨hsome, before, after, rfl, hbefore⟩ := List.find?_eq_some_iff_append.mp ha
  obtain ⟨call, hcall⟩ := Option.isSome_iff_exists.mp hsome
  have hnone : before.filterMap Attempt.call? = [] :=
    List.filterMap_eq_nil_iff.mpr fun b hb => by simpa using hbefore b hb
  rw [h.called, List.nil_append, List.filterMap_append, hnone, List.filterMap_cons_some hcall, hcall]
  rfl

theorem calls_eq_nil (h : Routed [] rest raised told log)
    (hn : log.find? (fun a => a.call?.isSome) = none) : told.2.1.env.calls = [] := by
  rw [(h.none_failed hn).1]
  rfl

theorem first_call (h : Routed [] rest raised told log) {e : FetchFault}
    (he : raised.1 = .error (.fetch e)) :
    told.2.1.env.calls.head? = some (e.message, raised.2.1.env) := by
  cases hfind : log.find? (fun a => a.call?.isSome) with
  | none => exact absurd he ((h.none_failed hfind).2 e)
  | some a =>
    obtain ⟨_, _, e', he', hcall⟩ := h.first a hfind
    cases he.symm.trans he'
    exact (h.head?_calls hfind).trans hcall

theorem otherwise (h : Routed [] rest raised told log)
    (hn : ∀ e : FetchFault, raised.1 ≠ .error (.fetch e)) :
    told = (raised.1, raised.2.1.telling [], raised.2.2) := by
  cases hfind : log.find? (fun a => a.call?.isSome) with
  | none => exact (h.none_failed hfind).1
  | some a =>
    obtain ⟨_, _, e, he, _⟩ := h.first a hfind
    exact absurd he (hn e)

/-- A failure is raised just when one is told. -/
theorem raised_iff (h : Routed [] rest raised told log) :
    (∃ e : FetchFault, raised.1 = .error (.fetch e)) ↔ told.2.1.env.calls ≠ [] := by
  cases hfind : log.find? (fun a => a.call?.isSome) with
  | none =>
    refine ⟨fun ⟨e, he⟩ => absurd he ((h.none_failed hfind).2 e), fun hc => ?_⟩
    exact absurd (h.calls_eq_nil hfind) hc
  | some a =>
    obtain ⟨_, _, e, he, hcall⟩ := h.first a hfind
    refine ⟨fun _ hnil => ?_, fun _ => ⟨e, he⟩⟩
    have hhead := h.head?_calls hfind
    rw [hnil, hcall] at hhead
    cases hhead

end Routed

/-- Dependencies one after another, with their failures raised and told. -/
theorem each_routed {walk : Resource → Walk ε Unit} {walk' : Resource → Walk (Told ε) Unit}
    (c : Collaborators ε) (source : Request → σ → Answer × σ)
    (hraise : ∀ r, (walk r).Mirrors Scene.raising (walk r))
    (htell : ∀ calls r, (walk r).Mirrors (Scene.telling · calls) (walk' r))
    (rs : List Resource) (calls : List (String × ε)) (s : Scene ε) (memory : σ) :
    Routed calls rs
      ((Walk.each (fun r => (walk r).rescue (handle c)) rs s.raising).run source memory)
      ((Walk.each (fun r => (walk' r).rescue (handle c.telling)) rs (s.telling calls)).run source memory)
      (attempts source walk' rs (s.telling calls) memory) := by
  -- Both series come to each dependency in the same scene, but for the handler.
  induction rs generalizing s calls memory with
  | nil =>
    exact
      { called := (List.append_nil calls).symm
        attempted := .inl ⟨rfl, rfl⟩
        first := fun _ h => by cases h
        none_failed := fun _ => ⟨rfl, fun _ h => by cases h⟩ }
  | cons r rest ih =>
    have hraised := ((hraise r).step s).run_eq source memory
    have htold := ((htell calls r).step s).run_eq source memory
    rw [run_each_cons, run_each_cons]
    unfold attempts
    dsimp only
    rw [hraised, htold]
    generalize (walk r s).run source memory = ended
    obtain ⟨result, s', memory'⟩ := ended
    cases result with
    | ok => exact (ih calls s' memory').passed
    | error fault =>
      dsimp only
      rw [handle_raising, handle_telling]
      cases hf : fault.handled? with
      | none =>
        unfold Attempt.next?
        simp only [hf]
        exact .ended hf
      | some message =>
        obtain ⟨e, rfl, rfl⟩ := Fault.handled?_eq_some hf
        exact (ih (calls ++ [(e.message, s'.env)]) s' memory').failed

/-! ## Passes -/

/-- The dependencies of a source text: the preloaded packages, and what the text imports. -/
def dependenciesOf (s : Scene ε) (text : String) (parent : Parent) : Except Fault (List Resource) := do
  let first ← preloads s
  let rest ← (Specifier.dependencies text parent).mapError .specifier
  return first ++ rest

theorem handled?_of_dependenciesOf {s : Scene ε} {text : String} {parent : Parent} {fault : Fault}
    (h : dependenciesOf s text parent = .error fault) : fault.handled? = none := by
  unfold dependenciesOf at h
  rcases preloads_eq s with ⟨_, hp⟩ | ⟨_, first, hp⟩
  · rw [hp] at h
    cases h
    rfl
  · rw [hp] at h
    cases hd : Specifier.dependencies text parent with
    | error fault =>
      rw [hd] at h
      cases h
      rfl
    | ok rest =>
      rw [hd] at h
      cases h

theorem pass_eq_each (c : Collaborators ε) (text : String) (parent : Parent) (budget : Budget)
    (s : Scene ε) :
    pass c text parent budget s =
      match dependenciesOf s text parent with
      | .error fault => .done (.error fault) { s with context := {} }
      | .ok rs =>
          Walk.each (fun r => (visitOn c budget (homeOf parent) r).rescue (handle c)) rs
            { s with context := {} } := by
  have hpreloads : preloads ({ s with context := {} } : Scene ε) = preloads s := rfl
  unfold dependenciesOf
  simp only [pass, importsOf, Bind.bind, Walk.bind, Walk.change, Walk.scene, Walk.ofExcept, Step.andThen,
    hpreloads]
  cases preloads s with
  | error fault => rfl
  | ok first =>
    cases Specifier.dependencies text parent with
    | error fault => rfl
    | ok rest => rfl

theorem visitOn_raising (c : Collaborators ε) (budget : Budget) (home : Option String) (r : Resource) :
    (visitOn c budget home r).Mirrors Scene.raising (visitOn c budget home r) :=
  (raisingView c).parallel.visitOn budget home r

theorem visitOn_telling (c : Collaborators ε) (calls : List (String × ε)) (budget : Budget)
    (home : Option String) (r : Resource) :
    (visitOn c budget home r).Mirrors (Scene.telling · calls) (visitOn c.telling budget home r) :=
  (tellingView c calls).parallel.visitOn budget home r

/-- Whatever the source answers to what it was asked so far, a pass that raises its failures and the same
pass with an error handler that returns go side by side: the first raises a failure just when the second
calls its handler, and then in the scene of the first call, whose message is that of the failure. If it
raises none, both end alike. With the handler each dependency is attempted once, in order, and the
handler is called once for each that has failed, unless some other fault ends the pass. -/
theorem pass_routed (c : Collaborators ε) (source : Request → σ → Answer × σ) (text : String)
    (parent : Parent) (budget : Budget) (s : Scene ε) (memory : σ) :
    let raised := (pass c text parent budget s.raising).run source memory
    let told := (pass c.telling text parent budget (s.telling [])).run source memory
    ((∃ e : FetchFault, raised.1 = .error (.fetch e)) ↔ told.2.1.env.calls ≠ []) ∧
    (∀ e : FetchFault, raised.1 = .error (.fetch e) →
      told.2.1.env.calls.head? = some (e.message, raised.2.1.env)) ∧
    ((∀ e : FetchFault, raised.1 ≠ .error (.fetch e)) →
      told = (raised.1, raised.2.1.telling [], raised.2.2)) ∧
    ∀ rs, dependenciesOf s text parent = .ok rs →
      Routed [] rs raised told
        (attempts source (visitOn c.telling budget (homeOf parent)) rs
          (({ s with context := {} } : Scene ε).telling []) memory) := by
  intro raised told
  have hraised : raised = _ := congrArg (Step.run source · memory) (pass_eq_each c text parent budget s.raising)
  have htold : told = _ :=
    congrArg (Step.run source · memory) (pass_eq_each c.telling text parent budget (s.telling []))
  have hr : dependenciesOf s.raising text parent = dependenciesOf s text parent := rfl
  have ht : dependenciesOf (s.telling []) text parent = dependenciesOf s text parent := rfl
  rw [hr] at hraised
  rw [ht] at htold
  cases hd : dependenciesOf s text parent with
  | error fault =>
    -- the text cannot be read, which is no fault of fetching
    have hf := handled?_of_dependenciesOf hd
    rw [hd] at hraised htold
    rw [hraised, htold]
    have hnone : ∀ e : FetchFault, (Except.error fault : Except Fault Unit) ≠ .error (.fetch e) :=
      fun e he => by cases he; cases hf
    exact ⟨⟨fun ⟨e, he⟩ => absurd he (hnone e), fun hc => absurd rfl hc⟩,
      fun e he => absurd he (hnone e), fun _ => rfl, fun _ h => nomatch h⟩
  | ok rs =>
    rw [hd] at hraised htold
    have h := each_routed c source (visitOn_raising c budget (homeOf parent))
      (fun calls => visitOn_telling c calls budget (homeOf parent)) rs [] { s with context := {} } memory
    have h : Routed [] rs raised told _ := hraised ▸ htold ▸ h
    exact ⟨h.raised_iff, fun _ => h.first_call, h.otherwise, fun rs' hrs => by cases hrs; exact h⟩

/-- A source that has nothing, and cannot be reached when it is asked for the first and the third time. -/
def flaky : Request → Nat → Answer × Nat := fun request asked =>
  (if asked = 0 ∨ asked = 2 then .error (.fetch (.unreachable request.key "reset")) else .ok none,
    asked + 1)

def flakyText : String := "require('a') require('b') require('c')"

def flakyRaised : Outcome Workspace Nat :=
  (pass inMemory flakyText (.directory "/") ({} : Options).budget (atFirst {}).raising).run flaky 0

def flakyTold : Outcome (Told Workspace) Nat :=
  (pass inMemory.telling flakyText (.directory "/") ({} : Options).budget
    ((atFirst {}).telling [])).run flaky 0

/-- Two of three dependencies fail. The first failure is raised, and both are told. -/
theorem flaky_routed :
    flakyRaised.fault? = some (.fetch (.unreachable "a/package.json" "reset")) ∧
    flakyTold.fault? = none ∧ flakyTold.2.1.env.calls.length = 2 ∧
    flakyTold.2.1.env.calls.head? = some ("Failed to fetch a/package.json: reset", flakyRaised.2.1.env) := by
  have hraised : flakyRaised.fault? = some (.fetch (.unreachable "a/package.json" "reset")) := by
    decide +kernel
  have hmessage : (FetchFault.unreachable "a/package.json" "reset").message =
      "Failed to fetch a/package.json: reset" := by decide +kernel
  refine ⟨hraised, by decide +kernel, by decide +kernel, ?_⟩
  rw [← hmessage]
  unfold flakyTold flakyRaised
  exact (pass_routed inMemory flaky flakyText (.directory "/") ({} : Options).budget
    (atFirst {}) 0).2.1 _ (Outcome.eq_error_of_fault? hraised)

end Resolution

end DeclarationFetch
