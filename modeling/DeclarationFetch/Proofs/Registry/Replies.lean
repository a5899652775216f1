import DeclarationFetch.Registry.Client

/-! # What a client makes of a reply

* `read_eq_text_iff`, `read_eq_none_iff`, `read_eq_fetch_iff`: which replies are a text, no file, or a
  failure to fetch.
* `Response.Foreseen`, `Reply.Foreseen`: the file, an error of the server, or one of the transport.
* `Reply.Yields`: the answer that a reply stands for; `fetch_yields`: a shared client gives it to replies that
  were to be expected.
-/

namespace DeclarationFetch.Registry

open DeclarationFetch.Resolution (Request Answer)

theorem Response.isError_of_missing {response : Response} (h : response.status = 404) :
    response.isError = true := by
  unfold isError
  rw [h]
  rfl

namespace Client

variable {address : String} {reply : Reply}

theorem read_eq_text_iff {text : String} : read address reply = .ok (some text) ↔
    ∃ response, reply = .ok response ∧ response.isError = false ∧ response.text = .ok text := by
  constructor
  · intro h
    cases reply with
    | error failure => cases failure <;> cases h
    | ok response =>
      simp only [read] at h
      split at h
      · cases h
      · split at h
        · cases h
        · next herror =>
          refine ⟨response, rfl, by simpa using herror, ?_⟩
          cases ht : response.text with
          | error reason =>
            rw [ht] at h
            cases h
          | ok found =>
            rw [ht] at h
            cases h
            rfl
  · rintro ⟨response, rfl, herror, htext⟩
    have hstatus : response.status ≠ 404 := fun hs => by
      rw [Response.isError_of_missing hs] at herror
      cases herror
    simp [read, hstatus, herror, htext]

theorem read_eq_none_iff : read address reply = .ok none ↔
    ∃ response, reply = .ok response ∧ response.status = 404 := by
  constructor
  · intro h
    cases reply with
    | error failure => cases failure <;> cases h
    | ok response =>
      refine ⟨response, rfl, ?_⟩
      simp only [read] at h
      split at h
      · assumption
      · split at h
        · cases h
        · cases ht : response.text <;> rw [ht] at h <;> cases h
  · rintro ⟨response, rfl, hstatus⟩
    simp [read, hstatus]

theorem read_eq_fetch_iff : (∃ fault, read address reply = .error (.fetch fault)) ↔
    (∃ message, reply = .error (.transport message)) ∨
      ∃ response, reply = .ok response ∧ response.status ≠ 404 ∧ response.isError = true := by
  constructor
  · rintro ⟨fault, h⟩
    cases reply with
    | error failure =>
      cases failure with
      | transport message => exact .inl ⟨message, rfl⟩
      | address | unschemed | header | foreign => cases h
    | ok response =>
      simp only [read] at h
      split at h
      · cases h
      · next hstatus =>
        split at h
        · next herror => exact .inr ⟨response, rfl, hstatus, herror⟩
        · cases ht : response.text <;> rw [ht] at h <;> cases h
  · rintro (⟨message, rfl⟩ | ⟨response, rfl, hstatus, herror⟩)
    · exact ⟨_, rfl⟩
    · exact ⟨.badStatus address response.status, by simp [read, hstatus, herror]⟩

def replyTo (c : Client) (request : Request) (web : Web) : Reply := (c.get (c.address request) web).1

theorem fetch_sharing (root : String) (id : Nat) (request : Request) (web : Web) :
    let client := sharing root id
    (client.fetch request web).1 = read (client.address request) (client.replyTo request web) := by
  simp only [fetch, ready, sharing, replyTo]

end Client

/-- A response that was to be expected: the file itself, or an error of the server. -/
def Response.Foreseen (response : Response) : Prop := response.status = 200 ∨ response.isError = true

instance : DecidablePred Response.Foreseen := fun _ => inferInstanceAs (Decidable (_ ∨ _))

theorem Response.Foreseen.isError_iff {response : Response} (h : response.Foreseen) :
    response.isError = true ↔ response.status ≠ 200 := by
  constructor
  · intro herror hstatus
    rw [Response.isError, hstatus] at herror
    cases herror
  · intro hstatus
    exact h.resolve_left hstatus

/-- Besides such a response, the failures of the transport were to be expected. -/
def Reply.Foreseen : Reply → Prop
  | .ok response => response.Foreseen
  | .error (.transport _) => True
  | .error _ => False

instance : DecidablePred Reply.Foreseen
  | .ok response => inferInstanceAs (Decidable response.Foreseen)
  | .error (.transport _) => instDecidableTrue
  | .error (.address _) | .error .unschemed | .error .header | .error (.foreign _) => instDecidableFalse

/-- An answer that is the text of the file if the status is 200, no file if it is 404, and else a failure to
fetch. -/
structure Reply.Yields (reply : Reply) (answer : Answer) : Prop where
  found : ∀ text, answer = .ok (some text) ↔
    ∃ response, reply = .ok response ∧ response.status = 200 ∧ response.text = .ok text
  missing : answer = .ok none ↔ ∃ response, reply = .ok response ∧ response.status = 404
  failed : (∃ fault, answer = .error (.fetch fault)) ↔ (∃ message, reply = .error (.transport message)) ∨
    ∃ response, reply = .ok response ∧ response.status ≠ 200 ∧ response.status ≠ 404

namespace Client

variable {address : String} {reply : Reply}

theorem foreseen_of_read {fault : FetchFault} (h : read address reply = .error (.fetch fault)) :
    reply.Foreseen := by
  obtain ⟨message, rfl⟩ | ⟨response, rfl, -, herror⟩ := read_eq_fetch_iff.mp ⟨fault, h⟩
  · trivial
  · exact .inr herror

/-- To a reply that was to be expected a shared client answers as the protocol says. -/
theorem fetch_yields (root : String) (id : Nat) (request : Request) (web : Web)
    (h : ((sharing root id).replyTo request web).Foreseen) :
    ((sharing root id).replyTo request web).Yields ((sharing root id).fetch request web).1 := by
  rw [fetch_sharing]
  generalize (sharing root id).replyTo request web = reply at h
  have herror : ∀ response, reply = .ok response → (response.isError = true ↔ response.status ≠ 200) :=
    fun response hreply => by
      rw [hreply] at h
      exact Response.Foreseen.isError_iff h
  refine ⟨fun text => read_eq_text_iff.trans ?_, read_eq_none_iff, read_eq_fetch_iff.trans ?_⟩
  · refine exists_congr fun response => and_congr_right fun hreply => and_congr_left' ?_
    rw [← Bool.not_eq_true, herror response hreply, Decidable.not_not]
  · refine or_congr_right (exists_congr fun response => and_congr_right fun hreply => ?_)
    rw [herror response hreply, and_comm]

end Client

end DeclarationFetch.Registry
