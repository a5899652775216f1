import DeclarationFetch.Proofs.Resolution.Account
import DeclarationFetch.Resolver

/-! # Passes under watch

A pass among collaborators that put down what they are asked and what they answer.

* `Collaborators.watched`, `Play.watched`: the same collaborators and the same others, with a log.
* `watchedPass`: a pass under watch.
* `Seen log`: what the cache and the source of packages have answered, by package and path.
* `givenPaths log`: where the host was given something.
* `Handed log path text`: the host was handed a text, unless it had it or failed to say.
-/

namespace DeclarationFetch.Resolution

variable {ε : Type} {c : Collaborators ε}

inductive Observation where
  /-- The cache was asked for a key. -/
  | cached (key : String) (result : Except Fault (Option Value))
  /-- The source of packages was asked for a file. -/
  | answered (request : Request) (answer : Answer)
  /-- The host was asked for a file. -/
  | hosted (path : String) (result : Except Fault (Option String))
  /-- The host was given a file. -/
  | placed (path text : String)
  /-- The host was given something that is no text. -/
  | readied (path : String)
  /-- The error handler was called. -/
  | failed (message : String)

/-- An environment with everything that was observed, the latest first. -/
structure Watched (ε : Type) where
  env : ε
  log : List Observation

def Watched.note {α : Type} (e : Watched ε) (r : Except Fault α × ε) (o : Observation) :
    Except Fault α × Watched ε :=
  (r.1, ⟨r.2, o :: e.log⟩)

def Watched.pass {α : Type} (e : Watched ε) (r : Except Fault α × ε) : Except Fault α × Watched ε :=
  (r.1, ⟨r.2, e.log⟩)

def Collaborators.watched (c : Collaborators ε) : Collaborators (Watched ε) where
  cached key e := e.note (c.cached key e.env) (.cached key (c.cached key e.env).1)
  isCached key e := e.pass (c.isCached key e.env)
  store key text e := e.pass (c.store key text e.env)
  hosted path e := e.note (c.hosted path e.env) (.hosted path (c.hosted path e.env).1)
  host path text e := e.note (c.host path text e.env) (.placed path text)
  makeRoom path e := e.note (c.makeRoom path e.env) (.readied path)
  onUpdate u e := e.pass (c.onUpdate u e.env)
  onVersions pins e := e.pass (c.onVersions pins e.env)
  onError message e := e.note (c.onError message e.env) (.failed message)

theorem Collaborators.mem_log_cached {key : String} {e : Watched ε} {o : Option Value}
    (h : (c.watched.cached key e).1 = .ok o) :
    .cached key (.ok o) ∈ (c.watched.cached key e).2.log :=
  List.mem_cons.mpr (.inl (congrArg (Observation.cached key) h.symm))

namespace Scene

def withEnv {ε' : Type} (s : Scene ε) (env : ε') : Scene ε' := ⟨s.options, s.pins, s.context, env⟩

def watched (s : Scene ε) : Scene (Watched ε) := s.withEnv ⟨s.env, []⟩

def unwatched (s : Scene (Watched ε)) : Scene ε := s.withEnv s.env.env

end Scene

def Play.watched (play : Play ε) : Play (Watched ε) where
  answer n request s := play.answer n request s.unwatched
  pins n request s := play.pins n request s.unwatched
  env n request s := ⟨play.env n request s.unwatched,
    .answered request (play.answer n request s.unwatched) :: s.env.log⟩

def Regime.watched (R : Regime ε) : Regime (Watched ε) where
  asks request s := R.asks request s.unwatched
  answers request s answer s' := R.answers request s.unwatched answer s'.unwatched ∧
    s'.env.log = .answered request answer :: s.env.log
  valid s := R.valid s.unwatched
  since s s' := R.since s.unwatched s'.unwatched
  refl s := R.refl s.unwatched
  trans := R.trans
  valid_of_since := R.valid_of_since

theorem Play.Follows.watched {R : Regime ε} {play : Play ε} (h : play.Follows R) :
    play.watched.Follows R.watched := fun n request s ha => ⟨h n request s.unwatched ha, rfl⟩

/-- What a watched pass over a source text in a directory has come to after so many fetches. -/
def watchedPass (c : Collaborators ε) (s : Scene ε) (source directory : String) (play : Play ε)
    (n : Nat) : Step (Watched ε) Unit :=
  (pass c.watched source (.directory directory) s.options.budget s.watched).after play.watched n

/-- What passes work with that have the first cache and the first host in memory. -/
def inMemory : Collaborators Workspace := Workspace.collaborators (.memory 0) (.memory 0)

/-- The start of a pass with an empty cache and an empty host in memory. -/
def atFirst (options : Options) : Scene Workspace :=
  let w := (({} : Workspace).addMemoryCache {}).2.addMemoryHost {}
  (Resolver.start options (.memory 0) (.memory 0)).scene w.2

/-! ## What a log tells -/

/-- What the cache held for a file under one of its versions, and what the source answered. -/
inductive Seen (log : List Observation) : Findings
  | cached {package path : String} {version : Option String} {value : Value}
      (h : .cached (Package.fileKey package version path) (.ok (some value)) ∈ log) :
      Seen log package path (some value)
  | answered {package path : String} {version : Value} {answer : Option String}
      (h : .answered ⟨package, path, version⟩ (.ok answer) ∈ log) :
      Seen log package path (answer.map .text)

/-- The host had a text at a path, or was given it. -/
inductive Hosted (log : List Observation) (path text : String) : Prop
  | present (h : .hosted path (.ok (some text)) ∈ log)
  | placed (h : .placed path text ∈ log)

/-- A text was handed over for a path: the host had it, or was given it, or failed when it was asked. -/
inductive Handed (log : List Observation) (path text : String) : Prop
  | hosted (h : Hosted log path text)
  | unreadable {fault : Fault} (h : .hosted path (.error fault) ∈ log)

def givenPaths (log : List Observation) : List String :=
  log.filterMap fun
    | .placed path _ => some path
    | .readied path => some path
    | _ => none

variable {log log' : List Observation}

theorem mem_givenPaths {path : String} (h : path ∈ givenPaths log) :
    (∃ text, .placed path text ∈ log) ∨ .readied path ∈ log := by
  obtain ⟨o, hm, ho⟩ := List.mem_filterMap.mp h
  cases o with
  | placed path' text =>
    cases ho
    exact .inl ⟨text, hm⟩
  | readied path' =>
    cases ho
    exact .inr hm
  | cached | answered | hosted | failed => cases ho

theorem Seen.mono (hl : ∀ o ∈ log, o ∈ log') {package path : String} {o : Option Value}
    (h : Seen log package path o) : Seen log' package path o := by
  cases h with
  | cached h => exact .cached (hl _ h)
  | answered h => exact .answered (hl _ h)

theorem Hosted.mono (hl : ∀ o ∈ log, o ∈ log') {path text : String} (h : Hosted log path text) :
    Hosted log' path text := by
  cases h with
  | present h => exact .present (hl _ h)
  | placed h => exact .placed (hl _ h)

theorem Handed.mono (hl : ∀ o ∈ log, o ∈ log') {path text : String} (h : Handed log path text) :
    Handed log' path text := by
  cases h with
  | hosted h => exact .hosted (h.mono hl)
  | unreadable h => exact .unreadable (hl _ h)

/-- An injection under watch asks the host for the path, and gives it no other text. -/
theorem Injected.log_eq {path text : String} {s s' : Scene (Watched ε)} {result : Except Fault Unit}
    (h : Injected c.watched path text s result s') :
    ∃ held, s'.env.log = .hosted path held :: s.env.log ∨
      s'.env.log = .placed path text :: .hosted path held :: s.env.log := by
  refine ⟨(c.hosted path s.env.env).1, ?_⟩
  cases h with
  | unreadable => exact .inl rfl
  | present => exact .inl rfl
  | refused => exact .inr rfl
  | placed => exact .inr rfl

theorem Injected.log_subset {path text : String} {s s' : Scene (Watched ε)}
    {result : Except Fault Unit} (h : Injected c.watched path text s result s') :
    ∀ o ∈ s.env.log, o ∈ s'.env.log := by
  intro o ho
  obtain ⟨held, hlog⟩ := h.log_eq
  rcases hlog with hlog | hlog <;> rw [hlog] <;> simp [ho]

theorem Injected.handed {path text : String} {s s' : Scene (Watched ε)} {result : Except Fault Unit}
    (h : Injected c.watched path text s result s') :
    Handed s'.env.log path text ∧ (result = .ok () → Hosted s'.env.log path text) := by
  cases h with
  | @unreadable fault h =>
    have hm : Observation.hosted path (.error fault) ∈
        Observation.hosted path (c.hosted path s.env.env).1 :: s.env.log :=
      List.mem_cons.mpr (.inl (congrArg _ h.symm))
    exact ⟨.unreadable hm, fun hr => nomatch hr⟩
  | present h =>
    have hm : Observation.hosted path (.ok (some text)) ∈
        Observation.hosted path (c.hosted path s.env.env).1 :: s.env.log :=
      List.mem_cons.mpr (.inl (congrArg _ h.symm))
    exact ⟨.hosted (.present hm), fun _ => .present hm⟩
  | refused => exact ⟨.hosted (.placed (List.mem_cons_self ..)), fun hr => nomatch hr⟩
  | placed =>
    exact ⟨.hosted (.placed (List.mem_cons_self ..)), fun _ => .placed (List.mem_cons_self ..)⟩

end DeclarationFetch.Resolution
