import ChatDesktop.Library.Reactive
import ChatDesktop.Network.RetryPolicy

namespace ChatDesktop.Network

open Library.Reactive

abbrev Bytes := List UInt8

def networkErrorToString : NetworkError → String
  | .none => "No error"
  | .invalideRequest => "Invalid request"
  | .invalideUrl => "Invalid URL"
  | .connectionRefused => "Connection refused"
  | .remoteHostClose => "Remote host closed the connection"
  | .hostNotFound => "Host not found"
  | .operationCancelled => "Request cancelled"
  | .timeout => "Connection timeout"
  | .sslHandshakeFailed => "Ssl handshake failed"
  | .networkSessionFailed => "Network session failed"
  | .temporaryNetworkFailure => "Temporary network failure"
  | .badRequest => "Bad request"
  | .unauthorized => "Unauthorized"
  | .forbidden => "Forbidden"
  | .notFound => "Not found"
  | .conflict => "Conflict"
  | .validationFailed => "Validation failed"
  | .tooManyRequest => "Too many requests"
  | .internalServerError => "Internal server error"
  | .badGateway => "Bad Gateway"
  | .serviceUnavailable => "Service unavailable"
  | .gatewayTimeout => "Gateway timeout"
  | .jsonParseError => "Invalid JSON response"
  | .emptyResponse => "Empty response"
  | .unknownNetworkError => "Unknown network error"
  | .unknownHttpError => "Unknown HTTP error"

/-- `QNetworkReply::NetworkError`. -/
inductive ReplyError
  | noError
  | connectionRefusedError
  | remoteHostClosedError
  | hostNotFoundError
  | timeoutError
  | operationCanceledError
  | sslHandshakeFailedError
  | temporaryNetworkFailureError
  | networkSessionFailedError
  | backgroundRequestNotAllowedError
  | tooManyRedirectsError
  | insecureRedirectError
  | unknownNetworkError
  | proxyConnectionRefusedError
  | proxyConnectionClosedError
  | proxyNotFoundError
  | proxyTimeoutError
  | proxyAuthenticationRequiredError
  | unknownProxyError
  | contentAccessDenied
  | contentOperationNotPermittedError
  | contentNotFoundError
  | authenticationRequiredError
  | contentReSendError
  | contentConflictError
  | contentGoneError
  | unknownContentError
  | protocolUnknownError
  | protocolInvalidOperationError
  | protocolFailure
  | internalServerError
  | operationNotImplementedError
  | serviceUnavailableError
  | unknownServerError
  deriving DecidableEq

/-- A finished `QNetworkReply`; `statusCode` is the attribute, which may be invalid. -/
structure Reply where
  error : ReplyError := .noError
  errorString : String := ""
  statusCode : Option ℤ := none
  body : Bytes := []
  rawHeaders : List (Bytes × Bytes) := []
  deriving DecidableEq

/-- What Qt says of a `QUrl`. -/
structure Url where
  text : String
  isValid : Bool := true
  scheme : String
  host : String

/-- `resolvedUrl` is `url` with the query set. -/
structure NetworkRequest where
  url : Url
  resolvedUrl : Url
  requestId : String
  method : HttpMethod := .get
  parseJsonResponse : Bool := true
  retryPolicy : RetryPolicy := default

def NetworkRequest.isValid (request : NetworkRequest) : Bool :=
  request.resolvedUrl.isValid && !request.resolvedUrl.scheme.isEmpty && !request.resolvedUrl.host.isEmpty

/-- What Qt makes of JSON text: the document with the text of the error, if there is one, the empty
document, and the string under "message" where the document is an object. -/
structure Qt (Document : Type) where
  fromJson : Bytes → Document × Option String
  noDocument : Document
  message : Document → Option String

structure NetworkResponse (Document : Type) where
  statusCode : ℤ := 0
  body : Bytes := []
  json : Document
  headers : List (Bytes × Bytes) := []
  error : NetworkError := .none
  errorMessage : String := ""
  requestUrl : String
  requestId : String
  attemptCount : ℕ := 1
  durationMs : ℤ := 0

variable {Document : Type}

def NetworkResponse.isSuccess (r : NetworkResponse Document) : Bool :=
  decide (r.error = .none) && decide (200 ≤ r.statusCode) && decide (r.statusCode < 300)

inductive Interceptor
  | auth
  | logging
  deriving DecidableEq

def Interceptor.interceptorResponse :
    Interceptor → NetworkRequest → NetworkResponse Document → NetworkResponse Document
  | .auth, _, response => response
  | .logging, _, response => response

def mapNetworkError (reply : Reply) : NetworkError :=
  match reply.error with
  | .noError => .none
  | .connectionRefusedError => .connectionRefused
  | .remoteHostClosedError => .remoteHostClose
  | .hostNotFoundError => .hostNotFound
  | .timeoutError => .timeout
  | .operationCanceledError => .operationCancelled
  | .sslHandshakeFailedError => .sslHandshakeFailed
  | .temporaryNetworkFailureError => .temporaryNetworkFailure
  | .networkSessionFailedError => .networkSessionFailed
  | _ => if reply.statusCode.isSome then .none else .unknownNetworkError

def mapHttpStatus (statusCode : ℤ) : NetworkError :=
  if 200 ≤ statusCode ∧ statusCode < 300 then .none
  else if statusCode = 0 then .unknownNetworkError
  else if statusCode = 400 then .badRequest
  else if statusCode = 401 then .unauthorized
  else if statusCode = 403 then .forbidden
  else if statusCode = 404 then .notFound
  else if statusCode = 409 then .conflict
  else if statusCode = 422 then .validationFailed
  else if statusCode = 429 then .tooManyRequest
  else if statusCode = 500 then .internalServerError
  else if statusCode = 502 then .badGateway
  else if statusCode = 503 then .serviceUnavailable
  else if statusCode = 504 then .gatewayTimeout
  else if 500 ≤ statusCode then .internalServerError
  else if 400 ≤ statusCode then .unknownHttpError
  else .none

def isSpace (b : UInt8) : Bool := b = 0x20 || (0x09 ≤ b && b ≤ 0x0D)

def replyError (reply : Reply) : NetworkError :=
  if mapNetworkError reply = .none then mapHttpStatus (reply.statusCode.getD 0) else mapNetworkError reply

def failureMessage (Q : Qt Document) (reply : Reply) (error : NetworkError) : String :=
  let parsed := Q.fromJson reply.body
  let backendMessage := if parsed.2.isNone then (Q.message parsed.1).getD "" else ""
  let message := if backendMessage ≠ "" then backendMessage else reply.errorString
  if message = "" then networkErrorToString error else message

def createResponse (Q : Qt Document) (request : NetworkRequest) (reply : Reply) (durationMs : ℤ) (attemptCount : ℕ) :
    NetworkResponse Document :=
  let response : NetworkResponse Document :=
    { statusCode := reply.statusCode.getD 0
      body := reply.body
      json := Q.noDocument
      headers := reply.rawHeaders
      error := replyError reply
      errorMessage := if replyError reply = .none then "" else failureMessage Q reply (replyError reply)
      requestUrl := request.resolvedUrl.text
      requestId := request.requestId
      attemptCount := attemptCount
      durationMs := durationMs }
  if request.parseJsonResponse && !reply.body.all isSpace then
    let parsed := Q.fromJson reply.body
    match parsed.2 with
    | some text =>
      if response.error = .none then { response with json := parsed.1, error := .jsonParseError, errorMessage := text }
      else { response with json := parsed.1 }
    | none => { response with json := parsed.1 }
  else response

def applyResponseInterceptors (interceptors : List Interceptor) (request : NetworkRequest)
    (response : NetworkResponse Document) : NetworkResponse Document :=
  interceptors.foldr (fun interceptor response => interceptor.interceptorResponse request response) response

/-! ### Attempts -/

inductive Action
  | requestStarted (requestId requestUrl : String)
  | requestFinished (requestId requestUrl : String) (statusCode : ℤ)
  | singleShot (delayMs : Option CInt)

inductive Phase
  | waiting
  | delayed
  | over
  deriving DecidableEq

inductive Ended
  | unanswered (durationMs : ℤ)
  | replied (reply : Reply) (timedOut : Bool) (durationMs : ℤ)

/-- The context of a request and its promise; `dispatches` and `last` are what the network has seen. -/
structure State (Document : Type) where
  completeRetries : ℕ := 0
  attemptCount : ℕ := 0
  canceled : Bool := false
  results : List (NetworkResponse Document) := []
  finishes : ℕ := 0
  phase : Phase := .over
  log : List Action := []
  dispatches : ℕ := 0
  last : Option Ended := none

inductive Event
  | cancel
  | replied (reply : Reply) (durationMs : ℤ)
  /-- The timeout aborts the reply, which then finishes as it is. -/
  | timedOut (reply : Reply) (durationMs : ℤ)
  | retried (dispatched : Bool) (durationMs : ℤ)

/-- What does not change while a request is under way. -/
structure Setting (Document : Type) where
  qt : Qt Document
  request : NetworkRequest
  interceptors : List Interceptor
  generator : Generator

variable (S : Setting Document)

/-- `addResult` and `finish`; a canceled promise takes no result. -/
def State.deliver (s : State Document) (response : NetworkResponse Document) : State Document :=
  let response := applyResponseInterceptors S.interceptors S.request response
  { s with
    results := if s.canceled then s.results else s.results ++ [response]
    finishes := s.finishes + 1
    phase := .over }

def unansweredResponse (durationMs : ℤ) (attemptCount : ℕ) : NetworkResponse Document :=
  { json := S.qt.noDocument
    error := .invalideRequest
    errorMessage := "Unable to dispatch network request"
    requestUrl := S.request.resolvedUrl.text
    requestId := S.request.requestId
    attemptCount := attemptCount
    durationMs := durationMs }

def repliedResponse (reply : Reply) (timedOut : Bool) (durationMs : ℤ) (attemptCount : ℕ) : NetworkResponse Document :=
  let response := createResponse S.qt S.request reply durationMs attemptCount
  if timedOut then
    { response with error := .timeout, errorMessage := "The request exceeded its timeout" }
  else response

/-- `dispatched` says whether the manager gives a reply object. -/
def executeAttempt (dispatched : Bool) (durationMs : ℤ) (s : State Document) : State Document :=
  if s.canceled then { s with finishes := s.finishes + 1, phase := .over }
  else
    let s := { s with attemptCount := s.attemptCount + 1, dispatches := s.dispatches + 1 }
    if dispatched then
      { s with phase := .waiting, log := s.log ++ [Action.requestStarted S.request.requestId S.request.resolvedUrl.text] }
    else { s with last := some (.unanswered durationMs) }.deliver S (unansweredResponse S durationMs s.attemptCount)

def replyFinished (reply : Reply) (timedOut : Bool) (durationMs : ℤ) (s : State Document) : State Document :=
  let response := repliedResponse S reply timedOut durationMs s.attemptCount
  let s := { s with
    last := some (.replied reply timedOut durationMs)
    log := s.log ++ [Action.requestFinished response.requestId response.requestUrl response.statusCode] }
  if S.request.retryPolicy.shouldRetry S.request.method response.error s.completeRetries && !s.canceled then
    let delayMs := S.request.retryPolicy.retryDelay S.generator s.completeRetries
    { s with completeRetries := s.completeRetries + 1, phase := .delayed, log := s.log ++ [Action.singleShot delayMs] }
  else s.deliver S response

def step (s : State Document) : Event → State Document
  | .cancel => { s with canceled := true }
  | .replied reply durationMs => if s.phase = .waiting then replyFinished S reply false durationMs s else s
  | .timedOut reply durationMs => if s.phase = .waiting then replyFinished S reply true durationMs s else s
  | .retried dispatched durationMs => if s.phase = .delayed then executeAttempt S dispatched durationMs s else s

/-- The answer to a request that is not valid; its `attemptCount` is the default. -/
def invalidResponse : NetworkResponse Document :=
  { json := S.qt.noDocument
    error := .invalideUrl
    errorMessage := "The request URL is invalid"
    requestUrl := S.request.url.text
    requestId := S.request.requestId }

/-- `send` starts the first attempt before anyone holds the future. -/
def send (dispatched : Bool) (durationMs : ℤ) : State Document :=
  if !S.request.isValid then ({} : State Document).deliver S (invalidResponse S)
  else executeAttempt S dispatched durationMs {}

def Ended.response (attemptCount : ℕ) : Ended → NetworkResponse Document
  | .unanswered durationMs => unansweredResponse S durationMs attemptCount
  | .replied reply timedOut durationMs => repliedResponse S reply timedOut durationMs attemptCount

def Ended.Succeeded : Ended → Prop
  | .unanswered _ => False
  | .replied reply timedOut _ => timedOut = false ∧ reply.error = .noError ∧
      ∃ c, reply.statusCode = some c ∧ 200 ≤ c ∧ c < 300

structure Lifecycle (s : State Document) : Prop where
  finished : s.finishes = if s.phase = .over then 1 else 0
  attempts : (s.dispatches : ℤ) ≤ S.request.retryPolicy.maximumRetries.1 + 1
  once : isIdempotentHttpMethod S.request.method = false →
    S.request.retryPolicy.retryNonIdempotentReqeusts = false → s.dispatches = 1
  answered : s.phase = .over → s.canceled = false → s.results ≠ []
  delivered : ∀ r ∈ s.results, s.results = [r] ∧ r.attemptCount = s.dispatches ∧
    ∃ e, s.last = some e ∧ r = applyResponseInterceptors S.interceptors S.request (e.response S s.dispatches)
  success : ∀ r ∈ s.results, r.isSuccess = true → ∃ e, s.last = some e ∧ e.Succeeded

def Awaited (s : State Document) : Event → Prop
  | .cancel => False
  | .replied _ _ | .timedOut _ _ => s.phase = .waiting
  | .retried _ _ => s.phase = .delayed

instance (s : State Document) (e : Event) : Decidable (Awaited s e) := by
  cases e <;> unfold Awaited <;> infer_instance

section

variable {S : Setting Document} {s : State Document} {e : Event} {es : List Event}

/-! ### When a response is a success -/

@[simp] lemma applyResponseInterceptors_eq (interceptors : List Interceptor) (request : NetworkRequest)
    (response : NetworkResponse Document) : applyResponseInterceptors interceptors request response = response := by
  induction interceptors with
  | nil => rfl
  | cons interceptor interceptors ih =>
    rw [applyResponseInterceptors, List.foldr_cons, ← applyResponseInterceptors, ih]
    cases interceptor <;> rfl

structure Counted (S : Setting Document) (s : State Document) : Prop where
  counted : s.attemptCount = s.dispatches
  started : 1 ≤ s.dispatches
  bounded : s.dispatches ≤ s.completeRetries + 1
  retries : s.completeRetries ≤ S.request.retryPolicy.maximumRetries.1.toNat
  repeats : isIdempotentHttpMethod S.request.method = false →
    S.request.retryPolicy.retryNonIdempotentReqeusts = false → s.completeRetries = 0

structure Running (S : Setting Document) (s : State Document) : Prop extends Counted S s where
  finished : s.finishes = if s.phase = .over then 1 else 0
  waiting : s.phase = .waiting → s.dispatches = s.completeRetries + 1
  delayed : s.phase = .delayed → s.dispatches = s.completeRetries
  unanswered : s.phase ≠ .over → s.results = []
  answered : s.phase = .over → s.canceled = false → s.results ≠ []
  delivered : ∀ r ∈ s.results, s.results = [r] ∧ ∃ e, s.last = some e ∧ r = e.response S s.dispatches

def Honest (s : State Document) : Prop :=
  ∀ r ∈ s.results, r.isSuccess = true → ∃ e, s.last = some e ∧ e.Succeeded

lemma Counted.deliver {e : Ended} (h : Counted S s) (hlast : s.last = some e) (hnone : s.results = [])
    (hfin : s.finishes = 0) : Running S (s.deliver S (e.response S s.attemptCount)) where
  counted := h.counted
  started := h.started
  bounded := h.bounded
  retries := h.retries
  repeats := h.repeats
  finished := by simp [State.deliver, hfin]
  waiting := nofun
  delayed := nofun
  unanswered hover := absurd rfl hover
  answered _ hlive := by
    have hlive' : s.canceled = false := hlive
    simp [State.deliver, hlive']
  delivered r hr := by
    simp only [State.deliver, applyResponseInterceptors_eq, hnone, List.nil_append] at hr ⊢
    split_ifs at hr ⊢
    · cases hr
    · rw [List.mem_singleton] at hr
      exact ⟨by rw [hr], e, hlast, by rw [hr, h.counted]⟩

lemma executeAttempt_running {dispatched : Bool} {durationMs : ℤ} (hcount : s.attemptCount = s.dispatches)
    (hready : s.dispatches = s.completeRetries) (hstart : s.canceled = true → 1 ≤ s.dispatches)
    (hret : s.completeRetries ≤ S.request.retryPolicy.maximumRetries.1.toNat)
    (hrep : isIdempotentHttpMethod S.request.method = false →
      S.request.retryPolicy.retryNonIdempotentReqeusts = false → s.completeRetries = 0)
    (hnone : s.results = []) (hfin : s.finishes = 0) : Running S (executeAttempt S dispatched durationMs s) := by
  unfold executeAttempt
  split_ifs with hc hd
  · exact
      { counted := hcount
        started := hstart hc
        bounded := by
          dsimp only
          omega
        retries := hret
        repeats := hrep
        finished := by simp [hfin]
        waiting := nofun
        delayed := nofun
        unanswered := fun hover => absurd rfl hover
        answered := fun _ hlive => absurd (hc.symm.trans hlive) (by decide)
        delivered := fun r hr => by
          rw [hnone] at hr
          cases hr }
  all_goals
    have hcounted : Counted S { s with attemptCount := s.attemptCount + 1, dispatches := s.dispatches + 1 } :=
      ⟨congrArg (· + 1) hcount, Nat.le_add_left .., by dsimp only; omega, hret, hrep⟩
  · exact
      { hcounted with
        finished := by simp [hfin]
        waiting := fun _ => congrArg (· + 1) hready
        delayed := nofun
        unanswered := fun _ => hnone
        answered := nofun
        delivered := fun r hr => by
          dsimp only at hr
          rw [hnone] at hr
          cases hr }
  · have hcounted' : Counted S
        { s with
          attemptCount := s.attemptCount + 1
          dispatches := s.dispatches + 1
          last := some (.unanswered durationMs) } := ⟨hcounted.1, hcounted.2, hcounted.3, hcounted.4, hcounted.5⟩
    exact hcounted'.deliver rfl hnone hfin

lemma Lifecycle.valid {dispatched : Bool} {durationMs : ℤ} (h : Lifecycle S (send S dispatched durationMs)) :
    S.request.isValid = true := by
  by_contra hinvalid
  have hsend : send S dispatched durationMs = ({} : State Document).deliver S (invalidResponse S) :=
    if_pos (by simpa using hinvalid)
  rw [hsend] at h
  obtain ⟨-, hcount, -⟩ := h.delivered _ (List.mem_singleton.mpr rfl)
  simp [State.deliver, invalidResponse] at hcount

lemma shouldRetry_eq_true {p : RetryPolicy} {method : HttpMethod} {error : NetworkError} {n : ℤ}
    (h : p.shouldRetry method error n = true) :
    n < p.maximumRetries.1 ∧ (p.retryNonIdempotentReqeusts = true ∨ isIdempotentHttpMethod method = true) := by
  unfold RetryPolicy.shouldRetry at h
  split_ifs at h with hmax herror hrep
  refine ⟨not_le.mp hmax, ?_⟩
  simpa [or_iff_not_imp_left] using hrep

lemma Running.replyFinished {reply : Reply} {timedOut : Bool} {durationMs : ℤ} (h : Running S s)
    (hwait : s.phase = .waiting) : Running S (replyFinished S reply timedOut durationMs s) := by
  have hopen : s.phase ≠ .over := by
    rw [hwait]
    nofun
  have hnone := h.unanswered hopen
  have hfin : s.finishes = 0 := by rw [h.finished, if_neg hopen]
  unfold Network.replyFinished
  dsimp only
  split_ifs with hretry
  · rw [Bool.and_eq_true] at hretry
    obtain ⟨hmax, hrep⟩ := shouldRetry_eq_true hretry.1
    exact
      { counted := h.counted
        started := h.started
        bounded := Nat.le_succ_of_le h.bounded
        retries := by
          dsimp only
          omega
        repeats := fun hidem hopt => by
          rw [hidem, hopt] at hrep
          simp at hrep
        finished := by simp [hfin]
        waiting := nofun
        delayed := fun _ => h.waiting hwait
        unanswered := fun _ => hnone
        answered := nofun
        delivered := fun r hr => by
          dsimp only at hr
          rw [hnone] at hr
          cases hr }
  · have hcounted : Counted S
        { s with
          last := some (.replied reply timedOut durationMs)
          log := s.log ++ [Action.requestFinished (repliedResponse S reply timedOut durationMs s.attemptCount).requestId
            (repliedResponse S reply timedOut durationMs s.attemptCount).requestUrl
            (repliedResponse S reply timedOut durationMs s.attemptCount).statusCode] } :=
      ⟨h.counted, h.started, h.bounded, h.retries, h.repeats⟩
    exact hcounted.deliver rfl hnone hfin

lemma step_cases (S : Setting Document) (s : State Document) (e : Event) :
    (e = .cancel ∧ step S s e = { s with canceled := true }) ∨
    (Awaited s e ∧ s.phase = .waiting ∧
      ∃ reply timedOut durationMs, step S s e = replyFinished S reply timedOut durationMs s) ∨
    (Awaited s e ∧ s.phase = .delayed ∧
      ∃ dispatched durationMs, step S s e = executeAttempt S dispatched durationMs s) ∨
    ¬Awaited s e ∧ step S s e = s := by
  cases e with
  | cancel => exact .inl ⟨rfl, rfl⟩
  | replied reply durationMs =>
    by_cases hwait : s.phase = .waiting
    · exact .inr (.inl ⟨hwait, hwait, reply, false, durationMs, if_pos hwait⟩)
    · exact .inr (.inr (.inr ⟨hwait, if_neg hwait⟩))
  | timedOut reply durationMs =>
    by_cases hwait : s.phase = .waiting
    · exact .inr (.inl ⟨hwait, hwait, reply, true, durationMs, if_pos hwait⟩)
    · exact .inr (.inr (.inr ⟨hwait, if_neg hwait⟩))
  | retried dispatched durationMs =>
    by_cases hdelay : s.phase = .delayed
    · exact .inr (.inr (.inl ⟨hdelay, hdelay, dispatched, durationMs, if_pos hdelay⟩))
    · exact .inr (.inr (.inr ⟨hdelay, if_neg hdelay⟩))

lemma Running.step (h : Running S s) (e : Event) : Running S (step S s e) := by
  rcases step_cases S s e with ⟨-, hs⟩ | ⟨-, hwait, reply, timedOut, durationMs, hs⟩ |
    ⟨-, hdelay, dispatched, durationMs, hs⟩ | ⟨-, hs⟩ <;> rw [hs]
  · exact { h with answered := nofun }
  · exact h.replyFinished hwait
  · have hopen : s.phase ≠ .over := by
      rw [hdelay]
      nofun
    refine executeAttempt_running h.counted (h.delayed hdelay) (fun _ => h.started) h.retries h.repeats
      (h.unanswered hopen) ?_
    rw [h.finished, if_neg hopen]
  · exact h

def remaining (S : Setting Document) (s : State Document) : ℕ :=
  match s.phase with
  | .waiting => 2 * (S.request.retryPolicy.maximumRetries.1.toNat - s.completeRetries) + 1
  | .delayed => 2 * (S.request.retryPolicy.maximumRetries.1.toNat - s.completeRetries) + 2
  | .over => 0

lemma Running.after (h : Running S s) (es : List Event) : Running S (after (Network.step S) s es) :=
  each_true.invariant h fun _ e h _ => h.step e

end

end ChatDesktop.Network
