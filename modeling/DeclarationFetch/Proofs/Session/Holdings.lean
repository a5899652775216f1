import DeclarationFetch.Proofs.Session.Deeds

/-! # What sessions hold

A session holds a listener on its editor and, where its source was made for it, that source with the client
that it uses on the web.

* `PackageSource.Fetched`: a source makes a client at its first fetch and keeps it.
* `World.Stretch id w w'`: what a stretch of a pass does to what the session holds. `Course.Each`: all
  stretches of a task are as told; `firstPass_each` and `resolveContents_each` are the two bodies of tasks.
* `World.Sourced`: a source that the session made. `close_own` and `close_lent`: what closing does to it.
* `World.Spared id w w'`: what others leave to a session; `World.Kept id w w'`: what is left to it by all but
  the calls that let go.
-/

namespace DeclarationFetch

/-! ## Clients on the web -/

namespace Registry

/-- Clients that are closed stay so, and there are never fewer. -/
structure Web.Lasts (web web' : Web) : Prop where
  length : web.closed.length ≤ web'.closed.length
  closed : ∀ k : Nat, web.closed[k]? = some true → web'.closed[k]? = some true

namespace Web

variable {web web' web'' : Web}

theorem Lasts.trans (h : web.Lasts web') (h' : web'.Lasts web'') : web.Lasts web'' :=
  ⟨Nat.le_trans h.length h'.length, fun k hk => h'.closed k (h.closed k hk)⟩

theorem lasts_of_eq (h : web'.closed = web.closed) : web.Lasts web' :=
  ⟨Nat.le_of_eq (congrArg List.length h).symm, fun k hk => by rw [h, hk]⟩

theorem lasts_closeClient (web : Web) (id : Nat) : web.Lasts (web.closeClient id) where
  length := Nat.le_of_eq List.length_set.symm
  closed k hk := by
    unfold closeClient
    rw [List.getElem?_set]
    split
    · next he =>
      subst he
      rw [if_pos (List.getElem?_eq_some_iff.mp hk).1]
    · exact hk

theorem closed_ask {u : Url} {reply : Reply} (h : web.ask u = (reply, web')) : web'.closed = web.closed := by
  cases h
  rfl

theorem closed_follow (left : Nat) (u : Url) (web : Web) : (follow left u web).2.closed = web.closed := by
  fun_induction follow left u web with
  | case1 left u web failure web' hasked => exact closed_ask hasked
  | case2 left u web response web' hasked => exact closed_ask hasked
  | case3 left u web response web' hasked => exact closed_ask hasked
  | case4 u web response web' hasked => exact closed_ask hasked
  | case5 u web response web' hasked left target hnext ih => exact ih.trans (closed_ask hasked)

theorem closed_exchange (u : Url) (web : Web) : (web.exchange u).2.closed = web.closed := by
  unfold exchange
  split <;> next hasked => exact closed_ask hasked

end Web

theorem Client.closed_get (c : Client) (address : String) (web : Web) :
    (c.get address web).2.closed = web.closed := by
  unfold get
  split
  · rfl
  · split
    · exact web.closed_exchange _
    · exact Web.closed_follow _ _ web

end Registry

open Registry (Web Client)

/-! ## Sources -/

/-- A client is made where there is none, and kept. -/
inductive PackageSource.Fetched (web : Web) : PackageSource → PackageSource → Web → Prop
  | same {s : PackageSource} {web' : Web} (h : web'.closed = web.closed) : Fetched web s s web'
  | made {c : Client} {web' : Web} (hc : c.client = none) (h : web'.closed = web.closed ++ [false]) :
      Fetched web (.registry c) (.registry { c with client := some web.closed.length }) web'

namespace PackageSource.Fetched

variable {web web' web'' : Web} {s s' s'' : PackageSource}

theorem trans (h : Fetched web s s' web') (h' : Fetched web' s' s'' web'') : Fetched web s s'' web'' := by
  cases h with
  | same h =>
    cases h' with
    | same h' => exact .same (h'.trans h)
    | made hc h' =>
      rw [h] at h' ⊢
      exact .made hc h'
  | made hc h =>
    cases h' with
    | same h' => exact .made hc (h'.trans h)
    | made hc' => cases hc'

theorem closed_append (h : Fetched web s s' web') : ∃ new, web'.closed = web.closed ++ new := by
  cases h with
  | same h => exact ⟨[], h.trans (List.append_nil _).symm⟩
  | made hc h => exact ⟨[false], h⟩

theorem flag (h : Fetched web s s' web') {k : Nat} {closed : Bool} (hk : web.closed[k]? = some closed) :
    web'.closed[k]? = some closed := by
  obtain ⟨new, hnew⟩ := h.closed_append
  rw [hnew, List.getElem?_append_left (List.getElem?_eq_some_iff.mp hk).1]
  exact hk

theorem lasts (h : Fetched web s s' web') : web.Lasts web' where
  length := by
    obtain ⟨new, hnew⟩ := h.closed_append
    rw [hnew, List.length_append]
    exact Nat.le_add_right _ _
  closed _ hk := h.flag hk

end PackageSource.Fetched

theorem Registry.Client.fetched (c : Client) (r : Resolution.Request) (web : Web) :
    PackageSource.Fetched web (.registry c) (.registry (c.fetch r web).2.1) (c.fetch r web).2.2 := by
  unfold fetch ready
  cases hc : c.client with
  | some k => exact .same (Client.closed_get _ _ _)
  | none => exact .made hc (Client.closed_get _ _ _)

/-! ## Stretches of tasks -/

namespace World

variable {w w' w'' : World} {id other : Nat}

/-- A stretch of a pass leaves the registration, the timer and all who listen alone, and may make a client for
the session's source. -/
structure Stretch (id : Nat) (w w' : World) : Prop where
  subscription : (w'.session id).subscription = (w.session id).subscription
  debouncer : (w'.session id).debouncer = (w.session id).debouncer
  ownsSource : (w'.session id).ownsSource = (w.session id).ownsSource
  listeners : ∀ e, (w'.editor e).listeners = (w.editor e).listeners
  source : (w.session id).source.Fetched w.web (w'.session id).source w'.web

/-- The session may be closed at the end of the stretch. -/
def StretchOrClose (id : Nat) (w w' : World) : Prop :=
  Stretch id w w' ∨ ∃ v, Stretch id w v ∧ w' = v.close id

theorem Stretch.refl (w : World) : Stretch id w w := ⟨rfl, rfl, rfl, fun _ => rfl, .same rfl⟩

theorem Stretch.trans (h : Stretch id w w') (h' : Stretch id w' w'') : Stretch id w w'' where
  subscription := h'.subscription.trans h.subscription
  debouncer := h'.debouncer.trans h.debouncer
  ownsSource := h'.ownsSource.trans h.ownsSource
  listeners e := (h'.listeners e).trans (h.listeners e)
  source := h.source.trans h'.source

theorem stretch_of_eq (hs : w'.sessions = w.sessions)
    (he : ∀ e, (w'.editor e).listeners = (w.editor e).listeners) (hw : w'.web = w.web) : Stretch id w w' := by
  have hsession : w'.session id = w.session id := by
    unfold session
    rw [hs]
  refine ⟨?_, ?_, ?_, he, ?_⟩
  · rw [hsession]
  · rw [hsession]
  · rw [hsession]
  · rw [hsession]
    exact .same (congrArg Web.closed hw)

theorem stretch_mapEditor {e : Nat} {f : Editor → Editor}
    (hf : (f (w.editor e)).listeners = (w.editor e).listeners) : Stretch id w (w.mapEditor e f) := by
  refine stretch_of_eq rfl (fun other => ?_) rfl
  rw [editor_mapEditor]
  split
  · next he => exact he.1 ▸ hf
  · rfl

theorem stretch_mapSession {f : Session → Session} (hsub : ∀ s, (f s).subscription = s.subscription)
    (hd : ∀ s, (f s).debouncer = s.debouncer) (ho : ∀ s, (f s).ownsSource = s.ownsSource)
    (hs : ∀ s, (f s).source = s.source) : Stretch id w (w.mapSession id f) := by
  have hsession : (w.mapSession id f).session id = f (w.session id) ∨
      (w.mapSession id f).session id = w.session id := by
    rw [mapSession, session_setSession]
    split
    · exact .inl rfl
    · exact .inr rfl
  rcases hsession with h | h
  · refine ⟨?_, ?_, ?_, fun _ => rfl, ?_⟩
    · rw [h, hsub]
    · rw [h, hd]
    · rw [h, ho]
    · rw [h, hs]
      exact .same rfl
  · refine ⟨?_, ?_, ?_, fun _ => rfl, ?_⟩
    · rw [h]
    · rw [h]
    · rw [h]
    · rw [h]
      exact .same rfl

theorem stretch_report (w : World) (id : Nat) (listened : Handlers → Bool) (r : Report) :
    Stretch id w (w.report id listened r).2 := by
  unfold report
  dsimp only
  split
  · exact stretch_of_eq rfl (fun _ => rfl) rfl
  · exact .refl w

theorem stretch_setResolving (w : World) (id : Nat) (isResolving : Bool) :
    Stretch id w (w.setResolving id isResolving) :=
  stretch_mapSession (fun _ => rfl) (fun _ => rfl) (fun _ => rfl) fun _ => rfl

theorem stretch_readEditor (w : World) (id : Nat) : Stretch id w (w.readEditor id).2 :=
  stretch_mapEditor (e := (w.session id).editor) (f := fun _ => (w.editorOf id).getText.2) rfl

theorem stretch_refreshed (w : World) (id : Nat) : Stretch id w (w.refreshed id).2 := by
  have hrefresh : Stretch id w (w.refreshEditor id).2 := by
    refine stretch_mapEditor (e := (w.session id).editor) (f := fun _ => (w.editorOf id).refresh.2) ?_
    show (w.editorOf id).refresh.2.listeners = (w.editorOf id).listeners
    unfold Editor.refresh
    split <;> rfl
  have hreset (v : World) :
      Stretch id v (v.mapSession id fun s => { s with resolver := s.resolver.resetNewImports }) :=
    stretch_mapSession (fun _ => rfl) (fun _ => rfl) (fun _ => rfl) fun _ => rfl
  have hfirst : Stretch id w (if (w.session id).options.skipRefreshAfterResolve then (.ok (), w)
      else w.refreshEditor id : Except Fault Unit × World).2 := by
    split
    · exact .refl w
    · exact hrefresh
  unfold refreshed
  dsimp only
  split
  · generalize (if (w.session id).options.skipRefreshAfterResolve then (.ok (), w)
      else w.refreshEditor id : Except Fault Unit × World) = refreshed at hfirst
    obtain ⟨result, w'⟩ := refreshed
    cases result with
    | ok => exact hfirst.trans (hreset w')
    | error fault => exact hfirst
  · exact .refl w

theorem stretch_putScene (w : World) (id : Nat) (s : Resolution.Scene Workspace) :
    Stretch id w (w.putScene id s) := by
  have hgathered : Stretch id w ({ w with workspace := s.env }.gather id) :=
    stretch_of_eq rfl (fun _ => rfl) rfl
  exact hgathered.trans (stretch_mapSession (fun _ => rfl) (fun _ => rfl) (fun _ => rfl) fun _ => rfl)

theorem stretch_ask (w : World) (id : Nat) (request : Resolution.Request) :
    Stretch id w (w.ask id request).2 := by
  unfold ask
  split <;> exact stretch_of_eq rfl (fun _ => rfl) rfl

theorem stretch_answer (hid : id < w.sessions.length) (request : Resolution.Request) (thrown : Option Fault) :
    Stretch id w (w.answer id request thrown).2 := by
  unfold answer
  split
  · exact .refl w
  · exact .refl w
  · next client hsource =>
    have hfetched := client.fetched request w.web
    generalize client.fetch request w.web = fetched at hfetched
    obtain ⟨answer, client', web⟩ := fetched
    have hsession : (({ w with web } : World).mapSession id fun s =>
        { s with source := .registry client' }).session id =
          { w.session id with source := .registry client' } := by
      rw [mapSession, session_setSession, if_pos ⟨rfl, hid⟩]
      rfl
    refine ⟨?_, ?_, ?_, fun _ => rfl, ?_⟩
    · rw [hsession]
    · rw [hsession]
    · rw [hsession]
    · rw [hsession, hsource]
      exact hfetched

end World

/-! ## Courses -/

open World (Stretch StretchOrClose)

/-- Every stretch of a course, from one stop to the next or to the end, is as `r` says, whatever is thrown and
whatever others have done to the world before it. -/
def Course.Each (r : World → World → Prop) (id : Nat) : Course World → World → Prop
  | .ended _ w', w => r w w'
  | .waiting _ w' resume, w =>
      r w w' ∧ ∀ thrown v, id < v.sessions.length → (resume thrown v).Each r id v

namespace Course.Each

variable {id : Nat} {c : Course World} {w w' : World} {r r' : World → World → Prop}

theorem first (h : c.Each r id w) : r w c.state := by
  cases c with
  | ended result w' => exact h
  | waiting gated w' resume => exact h.1

theorem mono (hr : ∀ v v', r v v' → r' v v') (h : c.Each r id w) : c.Each r' id w := by
  induction c generalizing w with
  | ended result w' => exact hr _ _ h
  | waiting gated w' resume ih => exact ⟨hr _ _ h.1, fun thrown v hv => ih thrown v (h.2 thrown v hv)⟩

theorem after (hw : Stretch id w w') (h : c.Each (Stretch id) id w') : c.Each (Stretch id) id w := by
  cases c with
  | ended result w'' => exact hw.trans h
  | waiting gated w'' resume => exact ⟨hw.trans h.1, h.2⟩

theorem andThen {next : Except Fault Unit → World → Course World} (h : c.Each (Stretch id) id w)
    (hn : ∀ result v, (next result v).Each (Stretch id) id v) : (c.andThen next).Each (Stretch id) id w := by
  induction c generalizing w with
  | ended result w' => exact .after h (hn result w')
  | waiting gated w' resume ih => exact ⟨h.1, fun thrown v hv => ih thrown v (h.2 thrown v hv)⟩

theorem onFailure (h : c.Each (Stretch id) id w) :
    (c.onFailure (·.close id)).Each (StretchOrClose id) id w := by
  unfold Course.onFailure
  induction c generalizing w with
  | ended result w' =>
    cases result with
    | ok => exact .inl h
    | error fault => exact .inr ⟨w', h, rfl⟩
  | waiting gated w' resume ih => exact ⟨.inl h.1, fun thrown v hv => ih thrown v (h.2 thrown v hv)⟩

end Course.Each

namespace World

variable {w w' : World} {id other : Nat} {host : HostRef}

theorem finishPass_each (id : Nat) (result : Except Fault Unit) (w : World) :
    (finishPass id result w).Each (Stretch id) id w := by
  cases result with
  | ok => exact stretch_refreshed w id
  | error fault => exact .refl w

theorem course_each (step : Resolution.Step Workspace Unit) (id : Nat) (w : World) :
    (course id step w).Each (Stretch id) id w := by
  induction step generalizing w with
  | done result s => exact stretch_putScene w id s
  | fetch request s resume ih =>
    rw [course_fetch]
    refine ⟨(stretch_putScene w id s).trans (stretch_ask _ id request), fun thrown v hv => ?_⟩
    exact .after (stretch_answer hv request thrown) (ih _ _ _)

theorem passOver_each (id : Nat) (w : World) : (passOver id w).Each (Stretch id) id w := by
  unfold passOver
  have htold : Stretch id w (w.tellUpdate id .resolveNewImports).2 := stretch_report w id _ _
  generalize w.tellUpdate id .resolveNewImports = told at htold
  obtain ⟨result, w'⟩ := told
  cases result with
  | error fault => exact htold
  | ok =>
    have hread := htold.trans (stretch_readEditor w' id)
    dsimp only
    generalize w'.readEditor id = read at hread
    obtain ⟨result, v⟩ := read
    cases result with
    | error fault => exact hread
    | ok text => exact .after hread ((course_each _ id v).andThen (finishPass_each id))

theorem resolveContents_each (id : Nat) (w : World) : (resolveContents id w).Each (Stretch id) id w := by
  unfold resolveContents
  split
  · exact .refl w
  · refine .after (stretch_setResolving w id true) ?_
    exact (passOver_each id _).andThen fun result v => stretch_setResolving v id false

theorem firstPass_each (id : Nat) (w : World) : (firstPass id w).Each (StretchOrClose id) id w :=
  (resolveContents_each id w).onFailure

/-! ## Letting go -/

theorem web_dispose (w : World) (id : Nat) : (w.dispose id).web = w.web := by
  rw [dispose_eq]
  split <;> rfl

/-- A source that was made for the session is one on the web, with a client of its own or none yet. -/
def Sourced (w : World) (id : Nat) : Prop := (w.session id).ownsSource = true →
  ∃ c, (w.session id).source = .registry c ∧ c.shared = false ∧
    ∀ k, c.client = some k → k < w.web.closed.length

/-- The session holds no client any more, and the one that it held is closed. -/
structure Closed (id : Nat) (w w' : World) : Prop where
  source : ∃ c c', (w.session id).source = .registry c ∧ (w'.session id).source = .registry c' ∧
    c'.client = none ∧ ∀ k, c.client = some k → w'.web.closed[k]? = some true
  ownsSource : (w'.session id).ownsSource = false
  web : w.web.Lasts w'.web

theorem closeSource_lent (h : (w.session id).ownsSource = false) : w.closeSource id = w := by
  unfold closeSource
  dsimp only
  rw [h]
  split
  · next ho => cases ho
  · rfl

theorem closeSource_own (hid : id < w.sessions.length) (ho : (w.session id).ownsSource = true)
    (h : w.Sourced id) : Closed id w (w.closeSource id) := by
  obtain ⟨c, hsource, hshared, hrange⟩ := h ho
  have heq : w.closeSource id = { w with web := (c.close w.web).2 }.setSession id
      { w.session id with source := .registry (c.close w.web).1, ownsSource := false } := by
    unfold closeSource
    dsimp only
    rw [hsource, ho]
  have hsession : (w.closeSource id).session id =
      { w.session id with source := .registry (c.close w.web).1, ownsSource := false } := by
    rw [heq, session_setSession, if_pos ⟨rfl, hid⟩]
  have hweb : (w.closeSource id).web = (c.close w.web).2 := by rw [heq]; rfl
  have hclient : (c.close w.web).1.client = none ∧ w.web.Lasts (c.close w.web).2 ∧
      ∀ k, c.client = some k → (c.close w.web).2.closed[k]? = some true := by
    unfold Client.close
    rw [hshared]
    cases hc : c.client with
    | none => exact ⟨hc, Registry.Web.lasts_of_eq rfl, nofun⟩
    | some k =>
      refine ⟨rfl, w.web.lasts_closeClient k, fun k' hk => ?_⟩
      obtain rfl : k = k' := Option.some.inj hk
      exact List.getElem?_set_self (hrange k hc)
  refine ⟨⟨c, _, hsource, ?_, hclient.1, ?_⟩, ?_, ?_⟩
  · rw [hsession]
  · rw [hweb]
    exact hclient.2.2
  · rw [hsession]
  · rw [hweb]
    exact hclient.2.1

theorem session_dispose_self (hid : id < w.sessions.length) :
    (w.dispose id).session id = (w.session id).letGo := by
  rw [session_dispose, if_pos ⟨rfl, hid⟩]

theorem sourced_dispose (hid : id < w.sessions.length) (h : w.Sourced id) : (w.dispose id).Sourced id := by
  unfold Sourced
  rw [session_dispose_self hid, web_dispose]
  exact h

theorem close_own (hid : id < w.sessions.length) (ho : (w.session id).ownsSource = true)
    (h : w.Sourced id) : Closed id w (w.close id) := by
  have hsession := session_dispose_self hid
  have hclosed := closeSource_own (sessions_length_dispose w id ▸ hid) (hsession ▸ ho) (sourced_dispose hid h)
  obtain ⟨c, c', hsource, hclient⟩ := hclosed.source
  refine ⟨⟨c, c', ?_, hclient⟩, hclosed.ownsSource, ?_⟩
  · rw [hsession] at hsource
    exact hsource
  · have hweb := hclosed.web
    rw [web_dispose] at hweb
    exact hweb

theorem close_lent (hid : id < w.sessions.length) (ho : (w.session id).ownsSource = false) :
    w.close id = w.dispose id :=
  closeSource_lent (by rw [session_dispose_self hid]; exact ho)

theorem close_lent_same (hid : id < w.sessions.length) (ho : (w.session id).ownsSource = false) :
    (w.close id).web = w.web ∧ ((w.close id).session id).source = (w.session id).source := by
  rw [close_lent hid ho, session_dispose_self hid]
  exact ⟨web_dispose w id, rfl⟩

theorem length_close (w : World) (id : Nat) : (w.close id).web.closed.length = w.web.closed.length := by
  rw [← web_dispose w id]
  unfold close closeSource
  dsimp only
  split
  · next client _ _ =>
    show (client.close (w.dispose id).web).2.closed.length = _
    unfold Client.close
    split
    · exact List.length_set
    · rfl
  · rfl

theorem ownsSource_close (hid : id < w.sessions.length) (h : w.Sourced id) :
    ((w.close id).session id).ownsSource = false := by
  cases ho : (w.session id).ownsSource with
  | true => exact (close_own hid ho h).ownsSource
  | false =>
    rw [close_lent hid ho, session_dispose_self hid]
    exact ho

/-! ## What others leave -/

/-- What others leave to a session. They may make clients and close theirs, and do as they like with a source
that the session was given. -/
structure Spared (id : Nat) (w w' : World) : Prop where
  sessions : w.sessions.length ≤ w'.sessions.length
  editor : (w'.session id).editor = (w.session id).editor
  subscription : (w'.session id).subscription = (w.session id).subscription
  debouncer : (w'.session id).debouncer = (w.session id).debouncer
  ownsSource : (w'.session id).ownsSource = (w.session id).ownsSource
  source : (w.session id).ownsSource = true → (w'.session id).source = (w.session id).source
  listeners : ∀ e, (w'.editor e).listeners.count id = (w.editor e).listeners.count id
  web : w.web.Lasts w'.web

/-- What is left to a session by all but the calls that let go. -/
structure Kept (id : Nat) (w w' : World) : Prop where
  sessions : w.sessions.length ≤ w'.sessions.length
  editor : (w'.session id).editor = (w.session id).editor
  subscription : (w'.session id).subscription = (w.session id).subscription
  ownsSource : (w'.session id).ownsSource = (w.session id).ownsSource
  listeners : ∀ e, (w'.editor e).listeners.count id = (w.editor e).listeners.count id
  sourced : w.Sourced id → w'.Sourced id

theorem spared_of_session_eq (hlen : w.sessions.length ≤ w'.sessions.length)
    (hs : w'.session id = w.session id)
    (hl : ∀ e, (w'.editor e).listeners.count id = (w.editor e).listeners.count id)
    (hw : w.web.Lasts w'.web) : Spared id w w' where
  sessions := hlen
  editor := congrArg Session.editor hs
  subscription := congrArg Session.subscription hs
  debouncer := congrArg Session.debouncer hs
  ownsSource := congrArg Session.ownsSource hs
  source _ := congrArg Session.source hs
  listeners := hl
  web := hw

theorem Spared.refl (w : World) : Spared id w w :=
  spared_of_session_eq (Nat.le_refl _) rfl (fun _ => rfl) (Registry.Web.lasts_of_eq rfl)

theorem Spared.kept (h : Spared id w w') : Kept id w w' where
  sessions := h.sessions
  editor := h.editor
  subscription := h.subscription
  ownsSource := h.ownsSource
  listeners := h.listeners
  sourced hs ho := by
    rw [h.ownsSource] at ho
    obtain ⟨c, hsource, hshared, hrange⟩ := hs ho
    exact ⟨c, (h.source ho).trans hsource, hshared, fun k hk => Nat.lt_of_lt_of_le (hrange k hk) h.web.length⟩

theorem Stretch.kept (h : Stretch id w w') (hlen : w'.sessions.length = w.sessions.length)
    (he : (w'.session id).editor = (w.session id).editor) : Kept id w w' where
  sessions := Nat.le_of_eq hlen.symm
  editor := he
  subscription := h.subscription
  ownsSource := h.ownsSource
  listeners e := congrArg (List.count id) (h.listeners e)
  sourced hs ho := by
    rw [h.ownsSource] at ho
    obtain ⟨c, hsource, hshared, hrange⟩ := hs ho
    have hfetched := h.source
    rw [hsource] at hfetched
    generalize (w'.session id).source = source' at hfetched ⊢
    cases hfetched with
    | same hweb => exact ⟨c, rfl, hshared, fun k hk => hweb ▸ hrange k hk⟩
    | made hc hweb =>
      refine ⟨_, rfl, hshared, fun k hk => ?_⟩
      obtain rfl : w.web.closed.length = k := Option.some.inj hk
      rw [hweb, List.length_append, List.length_singleton]
      exact Nat.lt_succ_self _

theorem count_listeners_dispose (hne : id ≠ other) (e : Nat) :
    ((w.dispose other).editor e).listeners.count id = (w.editor e).listeners.count id := by
  rcases editor_dispose w other e with he | he
  · rw [he]
  · rw [he]
    exact List.count_filter (by simpa using hne)

theorem web_closeSource (w : World) (id : Nat) : w.web.Lasts (w.closeSource id).web := by
  unfold closeSource
  dsimp only
  split
  · next client _ _ =>
    show w.web.Lasts (client.close w.web).2
    unfold Client.close
    split
    · exact w.web.lasts_closeClient _
    · exact Registry.Web.lasts_of_eq rfl
  · exact Registry.Web.lasts_of_eq rfl

theorem editors_closeSource (w : World) (id : Nat) : (w.closeSource id).editors = w.editors := by
  unfold closeSource
  dsimp only
  split <;> rfl

theorem not_listens_close (h : w.Listening) (e : Nat) : id ∉ ((w.close id).editor e).listeners := by
  have heditor : (w.close id).editor e = (w.dispose id).editor e := by
    unfold editor close
    rw [editors_closeSource]
  rw [heditor]
  exact not_listens_dispose h e

theorem spared_dispose (w : World) (hne : id ≠ other) : Spared id w (w.dispose other) := by
  have htended := tended_dispose w other
  refine spared_of_session_eq (Nat.le_of_eq htended.sessions.symm) (htended.others id hne)
    (count_listeners_dispose hne) (Registry.Web.lasts_of_eq (congrArg Registry.Web.closed ?_))
  exact web_dispose w other

theorem spared_close (w : World) (hne : id ≠ other) : Spared id w (w.close other) := by
  have htended := tended_close w other
  refine spared_of_session_eq (Nat.le_of_eq htended.sessions.symm) (htended.others id hne) (fun e => ?_) ?_
  · have heditor : (w.close other).editor e = (w.dispose other).editor e := by
      unfold editor close
      rw [editors_closeSource]
    rw [heditor]
    exact count_listeners_dispose hne e
  · have hclosed := web_closeSource (w.dispose other) other
    rw [web_dispose] at hclosed
    exact hclosed

theorem StretchOrClose.spared (h : StretchOrClose other w w') (ht : Tended other w w') (hne : id ≠ other) :
    Spared id w w' := by
  have hsession := ht.others id hne
  have hlen := Nat.le_of_eq ht.sessions.symm
  rcases h with h | ⟨v, h, rfl⟩
  · exact spared_of_session_eq hlen hsession (fun e => congrArg (List.count id) (h.listeners e))
      h.source.lasts
  · have hclosed := spared_close v hne
    refine spared_of_session_eq hlen hsession (fun e => ?_) (h.source.lasts.trans hclosed.web)
    exact (hclosed.listeners e).trans (congrArg (List.count id) (h.listeners e))

/-! ## Timers -/

structure Rearmed (id : Nat) (w w' : World) : Prop where
  sessions : w'.sessions.length = w.sessions.length
  editors : w'.editors = w.editors
  web : w'.web = w.web
  session : ∃ d turn, w'.session id = { w.session id with debouncer := d, turn := turn }

theorem Rearmed.kept {w w' : World} (h : Rearmed id w w') : Kept id w w' := by
  obtain ⟨d, turn, hsession⟩ := h.session
  refine ⟨Nat.le_of_eq h.sessions.symm, ?_, ?_, ?_, fun e => ?_, fun hs ho => ?_⟩
  · rw [hsession]
  · rw [hsession]
  · rw [hsession]
  · unfold editor
    rw [h.editors]
  · rw [hsession] at ho ⊢
    rw [h.web]
    exact hs ho

theorem Rearmed.spared {w w' : World} (h : Rearmed other w w') (hs : w'.session id = w.session id) :
    Spared id w w' :=
  spared_of_session_eq (Nat.le_of_eq h.sessions.symm) hs (fun e => by unfold editor; rw [h.editors])
    (Registry.Web.lasts_of_eq (congrArg Registry.Web.closed h.web))

theorem Rearmed.trans {w w' w'' : World} (h : Rearmed id w w') (h' : Rearmed id w' w'') :
    Rearmed id w w'' where
  sessions := h'.sessions.trans h.sessions
  editors := h'.editors.trans h.editors
  web := h'.web.trans h.web
  session := by
    obtain ⟨d, turn, hsession⟩ := h.session
    obtain ⟨d', turn', hsession'⟩ := h'.session
    exact ⟨d', turn', by rw [hsession', hsession]⟩

theorem rearmed_of_eq {w w' : World} (hs : w'.sessions = w.sessions) (he : w'.editors = w.editors)
    (hw : w'.web = w.web) : Rearmed id w w' where
  sessions := congrArg List.length hs
  editors := he
  web := hw
  session := by
    unfold session
    rw [hs]
    exact ⟨_, _, rfl⟩

theorem rearmed_setSession (w : World) (id : Nat) (d : Debouncer) (turn : Nat) :
    Rearmed id w (w.setSession id { w.session id with debouncer := d, turn := turn }) where
  sessions := List.length_set
  editors := rfl
  web := rfl
  session := by
    rw [session_setSession]
    split
    · exact ⟨d, turn, rfl⟩
    · exact ⟨_, _, rfl⟩

theorem rearmed_fire (l : SessionLoop) (id : Nat) : Rearmed id l.state (l.fire id).state :=
  rearmed_setSession l.state id _ (l.state.session id).turn

theorem rearmed_setTimer (w : World) (id : Nat) : Rearmed id w (w.setTimer id) := by
  unfold setTimer
  dsimp only
  split <;> exact rearmed_of_eq rfl rfl rfl

theorem rearmed_contentChanged (l : SessionLoop) (id : Nat) :
    Rearmed id l.state (l.contentChanged id).2.state := by
  unfold SessionLoop.contentChanged
  split
  · exact rearmed_of_eq rfl rfl rfl
  · have htold : Rearmed id l.state (l.state.tellUpdate id .codeChanged).2 := by
      unfold tellUpdate report
      dsimp only
      split <;> exact rearmed_of_eq rfl rfl rfl
    generalize l.state.tellUpdate id .codeChanged = told at htold
    obtain ⟨result, w⟩ := told
    cases result with
    | error fault => exact htold
    | ok =>
      have hturn : Rearmed id w { w with turns := w.turns + 1 } := rearmed_of_eq rfl rfl rfl
      have hset := htold.trans (hturn.trans (rearmed_setSession { w with turns := w.turns + 1 } id
        ((w.session id).debouncer.trigger w.now).1 w.turns))
      dsimp only
      split
      · exact hset.trans (rearmed_fire { l with state := _ } id)
      · exact hset.trans (rearmed_setTimer _ id)

theorem contentChanged_marked {l : SessionLoop} (h : l.state.marked id = true) :
    (l.contentChanged id).2 = l := by
  have hresolving : (l.state.session id).isResolving = true := h
  unfold SessionLoop.contentChanged
  rw [if_pos hresolving]

end World

end DeclarationFetch
