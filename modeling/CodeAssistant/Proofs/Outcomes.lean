/-
# What comes of a call

A call whose request can be made is sent off, and comes to a final response or to a breakage
(`Client.dispatch`).  Everything else is a matter of that one result: `Client.conclude` says what
outcome it has, and takes neither the network nor the request into account.

The outcome is settled by three questions, in this order: whether there is a response, whether its
status is one of success, and whether its body decodes.  Only the first and a body that breaks off
on the way count against the network.  A status that is not one of success is a refusal, whatever
the body would decode to; if the body of a refusal breaks off, it is taken for an empty one.

Main statement: `call_concludes`.
-/
import CodeAssistant.Backend.Client
import CodeAssistant.Proofs.ErrorBodies

namespace CodeAssistant

open Http (Network Request Response)

namespace Operation

/-- The type of the body that answers an operation. -/
def bodyType : Operation → WireType
  | chat => .chatResponse
  | debug => .debugResponse
  | plan => .planResponse
  | listFiles => .fileListing
  | getFileContent => .fileContent
  | triggerIndex => .indexTriggerResponse
  | indexStats => .indexStats
  | health => .healthStatus

/-- The answer in a body: the files of a listing, in order, and else the body itself. -/
def answerOf : (op : Operation) → op.bodyType.Value → op.Response
  | chat, r => r
  | debug, r => r
  | plan, r => r
  | listFiles, listing => FileListing.files listing
  | getFileContent, r => r
  | triggerIndex, r => r
  | indexStats, r => r
  | health, r => r

theorem readBody_eq (op : Operation) (body : String) :
    op.readBody body = (op.bodyType.codec.decode body).map op.answerOf := by
  have hsame {α : Type} (x : Except Fault α) : x = x.map fun a => a := by
    cases x <;> rfl
  cases op with
  | listFiles => rfl
  | _ => exact hsame _

end Operation

namespace Client

/-! ## 1. The result of a call -/

/-- The result of sending a request, which has to say where to. -/
def dispatch {m : Type → Type} [Monad m] (c : Client) (net : Network m) (op : Operation)
    (asked : op.Request) (draft : Request) : m (Except Breakage Response) :=
  if draft.url.hasHost then Http.exchange net c.config.timeout (fill op asked draft)
  else pure (.error (.unsendable draft.url.write))

/-- The outcome of a call with a result. -/
def conclude (op : Operation) : Except Breakage Response → Outcome op.Response
  | .error breakage => .ofExcept (.error (.transport op breakage))
  | .ok response => .ofExcept (read op response)

/-- What is streamed of a call with a result. -/
def concludeStream : Except Breakage Response → Streamed
  | .error breakage => ⟨[], .error (.transport .chat breakage)⟩
  | .ok response => readStream response

/-- No response came, or one of success whose body did not arrive whole. -/
def BrokeDown : Except Breakage Response → Prop
  | .error _ => True
  | .ok response => response.status.isSuccess = true ∧ response.text? = none

section Calls

variable {m : Type → Type} [Monad m] [LawfulMonad m] (c : Client) (net : Network m)

theorem call_eq (op : Operation) (asked : op.Request) {draft : Request}
    (h : c.draft op = .ok draft) :
    Outcome.ofExcept <$> c.call net op asked =
      conclude op <$> c.dispatch net op asked draft := by
  delta call request dispatch
  simp only [h]
  by_cases hhost : draft.url.hasHost = true
  · simp only [hhost, if_true, map_bind]
    rw [← bind_pure_comp]
    refine bind_congr fun result => ?_
    cases result with
    | error breakage => simp only [map_pure]; rfl
    | ok response => simp only [map_pure]; rfl
  · simp only [hhost, Bool.false_eq_true, if_false, map_pure]
    rfl

theorem stream_eq (asked : ChatRequest) {draft : Request} (h : c.draft .chat = .ok draft) :
    c.stream net asked =
      concludeStream <$> c.dispatch net .chat asked.streaming draft := by
  delta stream request dispatch
  simp only [h]
  by_cases hhost : draft.url.hasHost = true
  · simp only [hhost, if_true]
    rw [← bind_pure_comp]
    refine bind_congr fun result => ?_
    cases result <;> rfl
  · simp only [hhost, Bool.false_eq_true, if_false, map_pure]
    rfl

end Calls

/-! ## 2. The outcome of a result -/

section Conclusions

variable {op : Operation} {response : Response} {result : Except Breakage Response}

theorem isSuccess_iff {status : Http.Status} :
    status.isSuccess = true ↔ 200 ≤ status.code ∧ status.code ≤ 299 := by
  simp [Http.Status.isSuccess]

/-- What is read from a response of success is in its body, if that has arrived. -/
theorem read_of_success (h : response.status.isSuccess = true) :
    read op response = match response.text? with
      | none => .error (.transport op (bodyBreakage response.ending))
      | some body => match op.bodyType.codec.decode body with
        | .ok value => .ok (op.answerOf value)
        | .error fault => .error (.decode op body fault) := by
  rw [read, if_pos h]
  cases response.text? with
  | none => rfl
  | some body =>
    simp only [Operation.readBody_eq]
    cases op.bodyType.codec.decode body <;> rfl

theorem conclude_of_refusal (h : response.status.isSuccess = false) :
    conclude op (.ok response) =
      .failure ⟨.server, (ErrorBody.message? (response.text?.getD "")).getD
        (BackendError.plainMessage op response.status (response.text?.getD ""))⟩ := by
  simp only [conclude, read, h, Bool.false_eq_true, if_false]
  cases hmessage : ErrorBody.message? (response.text?.getD "") with
  | none =>
    rw [ErrorBody.ofStatus_of_none hmessage]
    rfl
  | some message =>
    rw [ErrorBody.ofStatus_of_some hmessage]
    rfl

theorem conclude_of_undecoded (h : response.status.isSuccess = true) {body : String}
    (hbody : response.text? = some body) {fault : Fault}
    (hfault : op.bodyType.codec.decode body = .error fault) :
    conclude op (.ok response) =
      .failure ⟨.server,
        op.label ++ " response could not be decoded: " ++ fault.describe body⟩ := by
  simp only [conclude, read_of_success h, hbody, hfault]
  rfl

theorem conclude_eq_success_iff {answer : op.Response} :
    conclude op result = .success answer ↔
      ∃ response body value, result = .ok response ∧ response.status.isSuccess = true ∧
        response.text? = some body ∧ op.bodyType.codec.decode body = .ok value ∧
        op.answerOf value = answer := by
  constructor
  · intro h
    cases result with
    | error breakage => cases h
    | ok response =>
      cases hs : response.status.isSuccess with
      | false =>
        rw [conclude_of_refusal hs] at h
        cases h
      | true =>
        rw [conclude, read_of_success hs] at h
        cases hbody : response.text? with
        | none =>
          rw [hbody] at h
          cases h
        | some body =>
          rw [hbody] at h
          cases hvalue : op.bodyType.codec.decode body with
          | error fault =>
            simp only [hvalue] at h
            cases h
          | ok value =>
            simp only [hvalue] at h
            cases h
            exact ⟨response, body, value, rfl, hs, hbody, hvalue, rfl⟩
  · rintro ⟨response, body, value, rfl, hs, hbody, hvalue, rfl⟩
    simp only [conclude, read_of_success hs, hbody, hvalue]
    rfl

/-- An outcome is a success, or a failure of the server or of the network; it is one of the network
where the transport broke down. -/
theorem conclude_cases (op : Operation) (result : Except Breakage Response) :
    (∃ answer, conclude op result = .success answer ∧ ¬ BrokeDown result) ∨
      (∃ message, conclude op result = .failure ⟨.server, message⟩ ∧ ¬ BrokeDown result) ∨
      ∃ message, conclude op result = .failure ⟨.network, message⟩ ∧ BrokeDown result := by
  cases result with
  | error breakage => exact Or.inr (Or.inr ⟨_, rfl, trivial⟩)
  | ok response =>
    cases hs : response.status.isSuccess with
    | false =>
      have hrefused : ¬ BrokeDown (.ok response) := fun h => by cases hs.symm.trans h.1
      exact Or.inr (Or.inl ⟨_, conclude_of_refusal hs, hrefused⟩)
    | true =>
      cases hbody : response.text? with
      | none =>
        have hbroken : conclude op (.ok response) = .failure
            ⟨.network, (BackendError.transport op (bodyBreakage response.ending)).message⟩ := by
          simp only [conclude, read_of_success hs, hbody]
          rfl
        exact Or.inr (Or.inr ⟨_, hbroken, hs, hbody⟩)
      | some body =>
        have hwhole : ¬ BrokeDown (.ok response) := fun h => by cases hbody.symm.trans h.2
        cases hvalue : op.bodyType.codec.decode body with
        | error fault => exact Or.inr (Or.inl ⟨_, conclude_of_undecoded hs hbody hvalue, hwhole⟩)
        | ok value =>
          exact Or.inl ⟨_, conclude_eq_success_iff.mpr
            ⟨response, body, value, rfl, hs, hbody, hvalue, rfl⟩, hwhole⟩

end Conclusions

/-- **What comes of a call.**  A call whose request can be made has the outcome of what it is sent
off for.  That is an answer if there is a response with a status of success and a body that
decodes; a failure of the server if the body of such a response does not decode, or the status is
another, whatever the body says; and a failure of the network if the transport breaks down.  There
is no other outcome, and a streamed question is refused as any other call is. -/
theorem call_concludes {m : Type → Type} [Monad m] [LawfulMonad m] (c : Client)
    (net : Network m) :
    (∀ op asked draft, c.draft op = .ok draft →
      Outcome.ofExcept <$> c.call net op asked =
        conclude op <$> c.dispatch net op asked draft) ∧
    (∀ op result,
      (∀ answer, conclude op result = .success answer ↔
        ∃ response body value, result = .ok response ∧
          (200 ≤ response.status.code ∧ response.status.code ≤ 299) ∧
          response.text? = some body ∧ op.bodyType.codec.decode body = .ok value ∧
          op.answerOf value = answer) ∧
      (∀ response body fault, result = .ok response →
        200 ≤ response.status.code ∧ response.status.code ≤ 299 →
        response.text? = some body → op.bodyType.codec.decode body = .error fault →
        conclude op result = .failure ⟨.server,
          op.label ++ " response could not be decoded: " ++ fault.describe body⟩) ∧
      (∀ response, result = .ok response →
        ¬ (200 ≤ response.status.code ∧ response.status.code ≤ 299) →
        conclude op result = .failure ⟨.server,
          (ErrorBody.message? (response.text?.getD "")).getD
            (BackendError.plainMessage op response.status (response.text?.getD ""))⟩) ∧
      ((∃ message, conclude op result = .failure ⟨.network, message⟩) ↔ BrokeDown result) ∧
      conclude op result ≠ .pending ∧
        ∀ message, conclude op result ≠ .failure ⟨.validation, message⟩) ∧
    (∀ asked draft, c.draft .chat = .ok draft →
      c.stream net asked = concludeStream <$> c.dispatch net .chat asked.streaming draft) ∧
    ∀ response : Response, ¬ (200 ≤ response.status.code ∧ response.status.code ≤ 299) →
      (concludeStream (.ok response)).pieces = [] ∧
        (Outcome.ofExcept (concludeStream (.ok response)).result).failure? =
          (conclude .chat (.ok response)).failure? := by
  refine ⟨fun op asked draft => call_eq c net op asked, fun op result =>
    ⟨?success, ?undecoded, ?refused, ?network, ?pending, ?validation⟩,
    fun asked draft => stream_eq c net asked, ?streamed⟩
  case success =>
    intro answer
    simp only [← isSuccess_iff]
    exact conclude_eq_success_iff
  case undecoded =>
    rintro response body fault rfl hs hbody hfault
    exact conclude_of_undecoded (isSuccess_iff.mpr hs) hbody hfault
  case refused =>
    rintro response rfl hs
    exact conclude_of_refusal (Bool.eq_false_iff.mpr (mt isSuccess_iff.mp hs))
  case network =>
    rcases conclude_cases op result with ⟨answer, h, hb⟩ | ⟨message, h, hb⟩ | ⟨message, h, hb⟩
    · simp [h, hb]
    · simp [h, hb]
    · simp [h, hb]
  case pending =>
    rcases conclude_cases op result with ⟨answer, h, -⟩ | ⟨message, h, -⟩ | ⟨message, h, -⟩ <;>
      simp [h]
  case validation =>
    rcases conclude_cases op result with ⟨answer, h, -⟩ | ⟨message, h, -⟩ | ⟨message, h, -⟩ <;>
      simp [h]
  case streamed =>
    intro response hs
    have hs : response.status.isSuccess = false := Bool.eq_false_iff.mpr (mt isSuccess_iff.mp hs)
    simp only [concludeStream, conclude, readStream, read, hs, Bool.false_eq_true, if_false]
    exact ⟨trivial, rfl⟩

/-- A refusal whose body would do for an answer. -/
theorem call_concludes_refused_listing :
    let c : Client := ⟨{ baseUrl := "http://[::1]:5001" }, []⟩
    let draft : Request := ⟨.get, {
      scheme := "http"
      host := some (.ipv6 [0, 0, 0, 0, 0, 0, 0, 1])
      port := some 5001
      path := .segments ["files"] }, [], none⟩
    let body := "\x7b\"files\":[]\x7d"
    let response : Response := ⟨⟨503, by decide⟩, [], [Text.Utf8.encode body], .complete⟩
    let net : Network Id := fun _ _ => .ok response
    c.draft .listFiles = .ok draft ∧
      ¬ (200 ≤ response.status.code ∧ response.status.code ≤ 299) ∧
      FileListing.codec.decode body = .ok ⟨[], none⟩ ∧
      Outcome.ofExcept (c.call net .listFiles "src").run =
        .failure ⟨.server, "List files request failed: Service Unavailable"⟩ := by
  intro c draft body response net
  have hdraft : c.draft .listFiles = .ok draft := by decide +kernel
  have hrefused : ¬ (200 ≤ response.status.code ∧ response.status.code ≤ 299) := by decide
  obtain ⟨hcall, hconclude, -⟩ := call_concludes c net
  have hresponse : (c.dispatch net .listFiles "src" draft).run = .ok response := by decide +kernel
  obtain ⟨-, -, hrefusal, -⟩ := hconclude .listFiles (.ok response)
  refine ⟨hdraft, hrefused, by decide +kernel, ?_⟩
  have hresult := congrArg Id.run (hcall .listFiles "src" draft hdraft)
  rw [Id.run_map, Id.run_map, hresponse, hrefusal response rfl hrefused] at hresult
  rw [hresult]
  decide +kernel

end Client

end CodeAssistant
