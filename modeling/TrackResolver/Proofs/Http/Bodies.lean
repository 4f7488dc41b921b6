import TrackResolver.Proofs.Http.Limit
import TrackResolver.Proofs.Http.Search
import TrackResolver.Proofs.Json.Grammar

/-!
# Which bodies are accepted

A request is turned away for its body unless the body begins with a document that the endpoint can
read. So every body that is not JSON where the reader comes is refused, and so is one that is JSON of
another shape; but what stands behind the document is not looked at, and neither are the characters in
what is passed over.

Results:
* `refusesBody_iff`: which requests are turned away for their body.
* `takes_first_iff`: a body that is accepted begins with a document that is read as a whole.
* `bodies_accepted`: which bodies are accepted.
* `not_strict`: a body can be accepted that is not one document.
-/
namespace TrackResolver.Http

open Json Reading Router

/-! ## What an endpoint can read -/

/-- The endpoint finds what it is asked with in the body, of which it reads so much. -/
def Endpoint.Takes (e : Endpoint) (much : {α : Type} → Reader α → List UInt8 → Except Fault α)
    (body : List UInt8) : Prop :=
  match e with
  | .search => ∃ q, much SearchRequest.read body = .ok q
  | .retrieve => ∃ q, much RetrieveRequest.read body = .ok q
  | .health | .engines => False

/-- The whole body is text that holds what the endpoint is asked with, and nothing else. -/
def Endpoint.TakesStrictly (e : Endpoint) (body : List UInt8) : Prop :=
  (∃ s : String, body = utf8 s.toList) ∧ e.Takes readWhole body

/-- A body that is accepted begins with a document that is read as a whole. -/
theorem takes_first_iff {e : Endpoint} {body : List UInt8} :
    e.Takes readFirst body ↔
      ∃ document rest, body = document ++ rest ∧ e.Takes readWhole document := by
  cases e with
  | health | engines => exact iff_of_false id fun ⟨_, _, _, h⟩ => h
  | search | retrieve =>
    exact exists_readFirst_iff (minds_readRecord _) (needsContainer_readRecord _)

theorem takes_whole_blanks {e : Endpoint} {text blanks : List UInt8} (h : e.Takes readWhole text)
    (hblanks : ∀ b ∈ blanks, isSpace b = true) : e.Takes readWhole (text ++ blanks) := by
  cases e with
  | health | engines => cases h
  | search | retrieve =>
    obtain ⟨q, hq⟩ := h
    exact ⟨q, readWhole_blanks (minds_readRecord _) hq hblanks⟩

/-! ## Requests with a body -/

section
variable {rt : Router} {now : Instant} {r : Request} {e : Endpoint}

/-- A body of the right type and length is judged by its first value. -/
theorem decode_of_json {α : Type} {read : Reader α}
    (hjson : (r.header? "content-type").any MediaType.isJson = true)
    (hlen : r.body.length ≤ bodyLimit) :
    (∃ q, readFirst read r.body = .ok q ∧ r.decode read = .ok q) ∨
    (¬ ∃ q, readFirst read r.body = .ok q) ∧
      (r.decode read = .error .malformed ∨ r.decode read = .error .misfit) := by
  have hno : ∀ why, ¬ ∃ q, (.error why : Except Fault α) = .ok q := by
    rintro why ⟨q, h⟩
    cases h
  rw [Request.decode, hjson, if_neg (by decide), if_neg (Nat.not_lt.2 hlen)]
  cases readFirst read r.body with
  | ok q => exact .inl ⟨q, rfl, rfl⟩
  | error why =>
    cases why with
    | data why => exact .inr ⟨hno _, .inr rfl⟩
    | stopped s => exact .inr ⟨hno _, .inl rfl⟩

/-- The request is turned away for its body, and nothing else has happened. -/
def Router.RefusesBody (rt : Router) (now : Instant) (r : Request) : Prop :=
  ∃ response : Response,
    (response.Refuses 400 "INVALID_BODY" ∨ response.Refuses 422 "INVALID_BODY") ∧
    rt.handle now r =
      some (response, .zero, ⟨rt.service, rt.budget.map fun b => (b.request now).2⟩)

/-- No call is refused for its body. -/
theorem not_refuses_call (why : CallError) (status : Nat) :
    ¬ (shared (ApiFault.call why).response).Refuses status "INVALID_BODY" := by
  rw [refuses_iff]
  cases why with
  | noEngines | unknownEngines => simp [ApiFault.kind]
  | allFailed report =>
    rw [ApiFault.kind]
    split <;> simp
  | engineFailed engine why => cases why <;> simp [ApiFault.kind]

/-- What an endpoint serves is not refused for the body, if the endpoint could read it. -/
theorem serve_of_takes (hjson : (r.header? "content-type").any MediaType.isJson = true)
    (hlen : r.body.length ≤ bodyLimit) (h : e.Takes readFirst r.body) {s : Service} {served : Served}
    (hserved : e.serve s r = some served) (status : Nat) (hstatus : status ≠ 200) :
    ¬ (shared served.response).Refuses status "INVALID_BODY" := by
  have hok : ∀ body, ¬ (shared (Response.json 200 body)).Refuses status "INVALID_BODY" :=
    fun _ h => hstatus h.1.symm
  cases e with
  | health | engines => cases h
  | search =>
    rcases decode_of_json hjson hlen with ⟨q, -, hq⟩ | ⟨hno, -⟩
    · rw [Endpoint.serve, hq] at hserved
      obtain ⟨-, -, -, -, ⟨f, -, hresponse⟩ | ⟨why, -, hresponse⟩⟩ := search_served hserved
      · rw [hresponse]; exact hok _
      · rw [hresponse]; exact not_refuses_call why status
    · exact absurd h hno
  | retrieve =>
    rcases decode_of_json hjson hlen with ⟨q, -, hq⟩ | ⟨hno, -⟩
    · rw [Endpoint.serve, hq] at hserved
      cases hserved
      rw [Service.retrieve]
      cases (s.executor.retrieve q.found (s.contextFor q.context)).answer with
      | ok p => exact hok _
      | error why => exact not_refuses_call why status
    · exact absurd h hno

/-- A body that an endpoint cannot read is refused. -/
theorem serve_of_not_takes (he : e.isRead = false)
    (hjson : (r.header? "content-type").any MediaType.isJson = true)
    (hlen : r.body.length ≤ bodyLimit) (h : ¬ e.Takes readFirst r.body) (s : Service) :
    e.serve s r = some (s.refuse .malformed) ∨ e.serve s r = some (s.refuse .misfit) := by
  cases e with
  | health | engines => cases he
  | search | retrieve =>
    rw [Endpoint.serve]
    rcases decode_of_json hjson hlen with ⟨q, hq, -⟩ | ⟨-, hq⟩
    · exact absurd ⟨q, hq⟩ h
    · exact hq.imp (fun hq => by rw [hq]) fun hq => by rw [hq]

/-- A request is turned away for its body unless the endpoint can read the beginning of it. -/
theorem refusesBody_iff (he : e.isRead = false) (hm : r.method = .post) (hp : LeadsTo r.path e)
    (hb : ∀ b ∈ rt.budget, (b.request now).1 = .admitted)
    (hjson : (r.header? "content-type").any MediaType.isJson = true)
    (hlen : r.body.length ≤ bodyLimit) :
    rt.RefusesBody now r ↔ ¬ e.Takes readFirst r.body := by
  rw [Router.RefusesBody, handle_admitted he hm hp hb]
  constructor
  · rintro ⟨response, hrefuses, hhandle⟩ htakes
    obtain ⟨served, hserved, heq⟩ := Option.map_eq_some_iff.1 hhandle
    obtain rfl : shared served.response = response := congrArg Prod.fst heq
    rcases hrefuses with hrefuses | hrefuses
    · exact serve_of_takes hjson hlen htakes hserved 400 (by decide) hrefuses
    · exact serve_of_takes hjson hlen htakes hserved 422 (by decide) hrefuses
  · intro hno
    rcases serve_of_not_takes he hjson hlen hno rt.service with hserved | hserved
    · exact ⟨_, .inl ((refuses_iff (.body .malformed) 400 _).2 rfl), by rw [hserved]; rfl⟩
    · exact ⟨_, .inr ((refuses_iff (.body .misfit) 422 _).2 rfl), by rw [hserved]; rfl⟩

/-- **Which bodies are accepted.** A request with a body of the right type and length is turned away
for its body, with nothing else done, unless the body begins with a document that the endpoint can
read. So it is accepted if the whole body is text and such a document; and if it is accepted although
it is not, there is something behind the document that is not blank, or the body is no text. -/
theorem bodies_accepted (he : e.isRead = false) (hm : r.method = .post) (hp : LeadsTo r.path e)
    (hb : ∀ b ∈ rt.budget, (b.request now).1 = .admitted)
    (hjson : (r.header? "content-type").any MediaType.isJson = true)
    (hlen : r.body.length ≤ bodyLimit) :
    (rt.RefusesBody now r ↔
      ¬ ∃ document rest, r.body = document ++ rest ∧ e.Takes readWhole document) ∧
    (e.TakesStrictly r.body → ¬ rt.RefusesBody now r) ∧
    (¬ rt.RefusesBody now r → ¬ e.TakesStrictly r.body →
      (∃ document rest, r.body = document ++ rest ∧ e.Takes readWhole document ∧
        ∃ b ∈ rest, isSpace b = false) ∨ ¬ ∃ s : String, r.body = utf8 s.toList) := by
  have hrefuses := refusesBody_iff he hm hp hb hjson hlen
  rw [takes_first_iff] at hrefuses
  refine ⟨hrefuses, fun hstrict => ?_, fun haccepted hnot => ?_⟩
  · rw [hrefuses, not_not]
    exact ⟨r.body, [], (List.append_nil _).symm, hstrict.2⟩
  · rw [hrefuses, not_not] at haccepted
    obtain ⟨document, rest, hbody, htakes⟩ := haccepted
    by_cases hblank : ∀ b ∈ rest, isSpace b = true
    · exact .inr fun htext => hnot ⟨htext, hbody ▸ takes_whole_blanks htakes hblank⟩
    · push Not at hblank
      obtain ⟨b, hmem, hb⟩ := hblank
      exact .inl ⟨document, rest, hbody, htakes, b, hmem, Bool.eq_false_iff.2 hb⟩

end

/-- A service over one engine. -/
def hatch : Router := .ofService ⟨0⟩ { build := default, executor := .ofScripts [{ id := "a" }] }

/-- A request for a search with this body. -/
def note (body : String) : Request where
  method := .post
  target := "/api/v1/search"
  headers := [("content-type", "application/json")]
  body := body.toUTF8.toList

/-- A document and a letter behind it. -/
def scrawl : Request := note "\x7b\"song\":\x7b\"name\":\"x\"\x7d\x7d x"

theorem scrawl_arrives :
    LeadsTo scrawl.path .search ∧ (∀ b ∈ hatch.budget, (b.request 0).1 = .admitted) ∧
    (scrawl.header? "content-type").any MediaType.isJson = true ∧
    scrawl.body.length ≤ bodyLimit := by
  have hpath : scrawl.path = "/api/v1/search".toList := by decide
  exact ⟨hpath ▸ leadsTo_search, nofun, by decide +kernel, by decide +kernel⟩

/-- The document in front of the letter. -/
theorem takes_scrawl : ∃ document rest, scrawl.body = document ++ rest ∧
    Endpoint.search.Takes readWhole document := by
  have hread : (readWhole SearchRequest.read (scrawl.body.take 21)).toOption.isSome = true := by
    decide +kernel
  refine ⟨scrawl.body.take 21, scrawl.body.drop 21, (List.take_append_drop ..).symm, ?_⟩
  cases hq : readWhole SearchRequest.read (scrawl.body.take 21) with
  | error why => rw [hq] at hread; cases hread
  | ok q => exact ⟨q, hq⟩

theorem not_takes_scrawl : ¬ Endpoint.search.Takes readWhole scrawl.body := by
  have hnone : (readWhole SearchRequest.read scrawl.body).toOption.isNone = true := by
    decide +kernel
  rintro ⟨q, hq⟩
  have hsome : readWhole SearchRequest.read scrawl.body = .ok q := hq
  rw [hsome] at hnone
  cases hnone

theorem bodies_accepted_scrawl :
    Endpoint.search.isRead = false ∧ scrawl.method = .post ∧ LeadsTo scrawl.path .search ∧
    (∀ b ∈ hatch.budget, (b.request 0).1 = .admitted) ∧
    (scrawl.header? "content-type").any MediaType.isJson = true ∧
    scrawl.body.length ≤ bodyLimit ∧ ¬ Endpoint.search.Takes readWhole scrawl.body ∧
    ¬ hatch.RefusesBody 0 scrawl := by
  obtain ⟨hp, hb, hjson, hlen⟩ := scrawl_arrives
  obtain ⟨hrefuses, -, -⟩ := bodies_accepted rfl rfl hp hb hjson hlen
  refine ⟨rfl, rfl, hp, hb, hjson, hlen, not_takes_scrawl, ?_⟩
  rw [hrefuses, not_not]
  exact takes_scrawl

/-- Not all bodies that are accepted are one document each. -/
theorem not_strict :
    ¬ ∀ (rt : Router) (now : Instant) (r : Request) (e : Endpoint), e.isRead = false →
      r.method = .post → LeadsTo r.path e → (∀ b ∈ rt.budget, (b.request now).1 = .admitted) →
      (r.header? "content-type").any MediaType.isJson = true → r.body.length ≤ bodyLimit →
      ¬ e.TakesStrictly r.body → rt.RefusesBody now r := by
  intro h
  obtain ⟨hp, hb, hjson, hlen⟩ := scrawl_arrives
  have hrefused := h hatch 0 scrawl .search rfl rfl hp hb hjson hlen fun hstrict =>
    not_takes_scrawl hstrict.2
  rw [refusesBody_iff rfl rfl hp hb hjson hlen, takes_first_iff] at hrefused
  exact hrefused takes_scrawl

end TrackResolver.Http
