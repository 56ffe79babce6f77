import ChatDesktop.Session.SessionRepository

namespace ChatDesktop.Session

open Library Library.Reactive

structure LoginRequest where
  username : QString
  password : QString

def LoginRequest.toJson (request : LoginRequest) : Json.Object :=
  [(key "password", .string request.password), (key "username", .string request.username)]

inductive LoginEffect
  | post (body : Json.Object)
  | loginSucceded
  | connectToServer (jid password host : QString) (port : UInt16)

/-- `posts` are the requests made so far, each as its continuation has captured it; `answered` numbers those
whose continuation has run. -/
structure LoginRepositoryImpl where
  m_request : LoginRequest := ⟨[], []⟩
  m_response : Option LoginResponseDTO := none
  posts : List LoginRequest := []
  answered : List ℕ := []
  stored : Stored := none
  logins : ℕ := 0

inductive LoginEvent
  | login (request : LoginRequest)
  /-- The answer to request number `i`; `io` says whether the session can be saved, and `again` are the
  requests made by the slots of `loginSucceded`. -/
  | response (i : ℕ) (r : Response) (io : Bool) (again : List LoginRequest)

namespace LoginRepositoryImpl

def login (request : LoginRequest) (s : LoginRepositoryImpl) : LoginRepositoryImpl :=
  { s with m_request := request, posts := s.posts ++ [request] }

def connectToXmpp (s : LoginRepositoryImpl) : List LoginEffect :=
  match s.m_response with
  | none => []
  | some response =>
    [.connectToServer response.xmpp.jid s.m_request.password response.xmpp.host response.xmpp.port]

def onResponse (request : LoginRequest) (r : Response) (io : Bool) (again : List LoginRequest)
    (s : LoginRepositoryImpl) : LoginRepositoryImpl × List LoginEffect :=
  if !r.isSuccess then (s, [])
  else match r.body with
    | none => (s, [])
    | some object =>
      let s := { s with m_response := LoginResponseDTO.fromJson object }
      match s.m_response with
      | none => (s, [])
      | some response =>
        let (saved, stored) := LoginResponseStore.save io (s.logins + 1) response request.password s.stored
        let s := { s with stored := stored, logins := if saved then s.logins + 1 else s.logins }
        let s := again.foldl (fun s request => s.login request) s
        (s, [.loginSucceded] ++ again.map (fun request => .post request.toJson) ++ s.connectToXmpp)

def handle (s : LoginRepositoryImpl) : LoginEvent → LoginRepositoryImpl × List LoginEffect
  | .login request => (s.login request, [.post request.toJson])
  | .response i r io again =>
    match s.posts[i]? with
    | none => (s, [])
    | some request =>
      if i ∈ s.answered then (s, [])
      else onResponse request r io again { s with answered := i :: s.answered }

def step (s : LoginRepositoryImpl) (e : LoginEvent) : LoginRepositoryImpl := (s.handle e).1

def completed (s : LoginRepositoryImpl) : LoginEvent → Option (LoginRequest × LoginResponseDTO)
  | .login _ => none
  | .response i r _ _ => do
    let request ← s.posts[i]?
    if i ∈ s.answered ∨ r.isSuccess = false then none
    else
      let object ← r.body
      let response ← LoginResponseDTO.fromJson object
      return (request, response)

/-- A response connects to its own account with the password of its own request, and the session saved for
it has that password. -/
def Unmixed (s : LoginRepositoryImpl) (e : LoginEvent) : Prop :=
  (∀ jid password host port, .connectToServer jid password host port ∈ (s.handle e).2 →
    ∃ request response, s.completed e = some (request, response) ∧ jid = response.xmpp.jid ∧
      host = response.xmpp.host ∧ port = response.xmpp.port ∧ password = request.password) ∧
  ∀ request response, s.completed e = some (request, response) → (s.step e).logins = s.logins + 1 →
    ∃ object, (s.step e).stored = some (s.logins + 1, object) ∧
      object.value (key "password") = .string request.password

def requested (s : LoginRepositoryImpl) : LoginEvent → List LoginRequest
  | .login request => s.posts ++ [request]
  | .response _ _ _ again => s.posts ++ again

def Alone (s : LoginRepositoryImpl) (e : LoginEvent) : Prop :=
  ∀ request response, s.completed e = some (request, response) →
    ((s.requested e).getLast?.map LoginRequest.password) = some request.password

section

variable {s : LoginRepositoryImpl} {e : LoginEvent} {es : List LoginEvent} {request : LoginRequest}
  {response : LoginResponseDTO} {i : ℕ} {r : Response} {io : Bool} {again : List LoginRequest}

lemma foldl_login (s : LoginRepositoryImpl) (again : List LoginRequest) :
    again.foldl (fun s request => s.login request) s =
      { s with m_request := again.getLast?.getD s.m_request, posts := s.posts ++ again } := by
  induction again generalizing s with
  | nil => simp
  | cons request again ih =>
    rw [List.foldl_cons, ih, List.getLast?_cons, login]
    simp

def Latest (s : LoginRepositoryImpl) : Prop := ∀ request, s.posts.getLast? = some request → s.m_request = request

lemma latest_append (s : LoginRepositoryImpl) (h : s.Latest) (again : List LoginRequest) :
    { s with m_request := again.getLast?.getD s.m_request, posts := s.posts ++ again }.Latest := by
  intro request hlast
  dsimp only at hlast ⊢
  rw [List.getLast?_append] at hlast
  cases hagain : again.getLast? with
  | none =>
    rw [hagain, Option.none_or] at hlast
    exact h request hlast
  | some last =>
    rw [hagain, Option.some_or] at hlast
    exact Option.some.inj hlast

lemma completed_response : s.completed (.response i r io again) = some (request, response) ↔
    s.posts[i]? = some request ∧ i ∉ s.answered ∧ r.isSuccess = true ∧
      ∃ object, r.body = some object ∧ LoginResponseDTO.fromJson object = some response := by
  rw [completed]
  cases hpost : s.posts[i]? with
  | none => simp
  | some post =>
    by_cases hnew : i ∈ s.answered ∨ r.isSuccess = false
    · rw [Option.bind_eq_bind, Option.bind_some, if_pos hnew]
      refine iff_of_false nofun ?_
      rintro ⟨-, hi, hr, -⟩
      rcases hnew with h | h
      · exact hi h
      · rw [hr] at h
        cases h
    · rw [Option.bind_eq_bind, Option.bind_some, if_neg hnew]
      obtain ⟨hi, hr⟩ := not_or.mp hnew
      rw [Bool.not_eq_false] at hr
      simp only [Option.bind_eq_bind, Option.bind_eq_some_iff, Option.pure_def, Option.some_inj, Prod.mk.injEq, hi, hr,
        not_false_eq_true, true_and]
      constructor
      · rintro ⟨object, hbody, response', hjson, rfl, rfl⟩
        exact ⟨rfl, object, hbody, hjson⟩
      · rintro ⟨rfl, object, hbody, hjson⟩
        exact ⟨object, hbody, response, hjson, rfl, rfl⟩

lemma handle_completed (h : s.completed (.response i r io again) = some (request, response)) :
    ∃ saved stored, LoginResponseStore.save io (s.logins + 1) response request.password s.stored = (saved, stored) ∧
      s.handle (.response i r io again) =
        ({ s with
          m_request := again.getLast?.getD s.m_request
          m_response := some response
          posts := s.posts ++ again
          answered := i :: s.answered
          stored := stored
          logins := if saved then s.logins + 1 else s.logins },
        [.loginSucceded] ++ again.map (fun request => .post request.toJson) ++
          [.connectToServer response.xmpp.jid (again.getLast?.getD s.m_request).password response.xmpp.host
            response.xmpp.port]) := by
  obtain ⟨hpost, hnew, hsuccess, object, hbody, hresponse⟩ := completed_response.mp h
  refine ⟨(LoginResponseStore.save io (s.logins + 1) response request.password s.stored).1,
    (LoginResponseStore.save io (s.logins + 1) response request.password s.stored).2, rfl, ?_⟩
  simp only [handle, hpost, if_neg hnew, onResponse, hsuccess, Bool.not_true, Bool.false_eq_true, if_false, hbody,
    hresponse, foldl_login, connectToXmpp]

lemma handle_idle (h : s.completed (.response i r io again) = none) : (s.handle (.response i r io again)).2 = [] ∧
    (s.handle (.response i r io again)).1.posts = s.posts ∧
    (s.handle (.response i r io again)).1.m_request = s.m_request := by
  rw [handle]
  cases hpost : s.posts[i]? with
  | none => exact ⟨rfl, rfl, rfl⟩
  | some request =>
    dsimp only
    by_cases hnew : i ∈ s.answered
    · rw [if_pos hnew]
      exact ⟨rfl, rfl, rfl⟩
    · rw [if_neg hnew, onResponse]
      cases hsuccess : r.isSuccess with
      | false => exact ⟨rfl, rfl, rfl⟩
      | true =>
        cases hbody : r.body with
        | none => exact ⟨rfl, rfl, rfl⟩
        | some object =>
          cases hresponse : LoginResponseDTO.fromJson object with
          | none => simp [hresponse]
          | some response =>
            rw [completed_response.mpr ⟨hpost, hnew, hsuccess, object, hbody, hresponse⟩] at h
            cases h

lemma Latest.step (h : s.Latest) (e : LoginEvent) : (s.step e).Latest := by
  cases e with
  | login request => exact latest_append s h [request]
  | response i r io again =>
    cases hcompleted : s.completed (.response i r io again) with
    | none =>
      obtain ⟨-, hposts, hrequest⟩ := handle_idle hcompleted
      intro request hlast
      rw [LoginRepositoryImpl.step, hposts] at hlast
      exact hrequest.trans (h request hlast)
    | some login =>
      obtain ⟨saved, stored, -, hhandle⟩ := handle_completed hcompleted
      rw [LoginRepositoryImpl.step, hhandle]
      exact latest_append s h again

lemma save_password {number : ℕ} {password : QString} {stored stored' : Stored}
    (h : LoginResponseStore.save io number response password stored = (true, stored')) :
    ∃ object, stored' = some (number, object) ∧ object.value (key "password") = .string password := by
  rw [LoginResponseStore.save, AuthStorage.save, AuthStorage.writeSession] at h
  split_ifs at h with hidentified
  · obtain ⟨-, rfl⟩ := Prod.mk.inj h
    exact ⟨_, rfl, Json.Object.value_insert_self ..⟩
  · cases (Prod.mk.inj h).1

lemma Latest.requested (h : s.Latest) (hpost : s.posts[i]? = some request) (again : List LoginRequest) :
    (s.posts ++ again).getLast? = some (again.getLast?.getD s.m_request) := by
  rw [List.getLast?_append]
  cases hagain : again.getLast? with
  | some last => rfl
  | none =>
    have hne : s.posts ≠ [] := List.ne_nil_of_mem (List.mem_of_getElem? hpost)
    have hlast := List.getLast?_eq_some_getLast hne
    rw [Option.none_or, hlast, h _ hlast]
    rfl

lemma Latest.unmixed_iff (h : s.Latest) (e : LoginEvent) : s.Unmixed e ↔ s.Alone e := by
  have hidle : (s.handle e).2 = [] ∨ (∃ request, (s.handle e).2 = [.post request]) → s.completed e = none →
      (s.Unmixed e ↔ s.Alone e) := by
    intro heffects hnone
    refine iff_of_true ⟨fun jid password host port hmem => ?_, fun request response hsome => ?_⟩
      fun request response hsome => ?_
    · rcases heffects with hnil | ⟨request, hpost⟩
      · rw [hnil] at hmem
        cases hmem
      · rw [hpost] at hmem
        cases List.mem_singleton.mp hmem
    · cases hnone.symm.trans hsome
    · cases hnone.symm.trans hsome
  cases e with
  | login request => exact hidle (.inr ⟨_, rfl⟩) rfl
  | response i r io again =>
    cases hcompleted : s.completed (.response i r io again) with
    | none => exact hidle (.inl (handle_idle hcompleted).1) hcompleted
    | some login =>
      obtain ⟨request, response⟩ := login
      obtain ⟨saved, stored, hsave, hhandle⟩ := handle_completed hcompleted
      have hlast := h.requested (completed_response.mp hcompleted).1 again
      constructor
      · rintro ⟨hconnects, -⟩ request' response' hsome
        cases hcompleted.symm.trans hsome
        obtain ⟨request', response', hsome, -, -, -, hpassword⟩ := hconnects response.xmpp.jid
          (again.getLast?.getD s.m_request).password response.xmpp.host response.xmpp.port (by rw [hhandle]; simp)
        cases hcompleted.symm.trans hsome
        rw [LoginRepositoryImpl.requested, hlast, Option.map_some, hpassword]
      · intro halone
        have hpassword := halone request response hcompleted
        rw [LoginRepositoryImpl.requested, hlast, Option.map_some, Option.some_inj] at hpassword
        refine ⟨fun jid password host port hmem => ?_, fun request' response' hsome hcount => ?_⟩
        · rw [hhandle] at hmem
          simp only [List.mem_append, List.mem_singleton, List.mem_map, reduceCtorEq, and_false, exists_false, or_false,
            false_or, LoginEffect.connectToServer.injEq] at hmem
          obtain ⟨rfl, rfl, rfl, rfl⟩ := hmem
          exact ⟨request, response, hcompleted, rfl, rfl, rfl, hpassword⟩
        · cases hcompleted.symm.trans hsome
          rw [LoginRepositoryImpl.step, hhandle] at hcount ⊢
          cases saved with
          | false => exact absurd hcount (by simp)
          | true => exact save_password hsave

end

/-- Logins stay apart in a run exactly if no other request with another password is the last one when a
login is completed. -/
theorem logins_unmixed (es : List LoginEvent) (stored : Stored) :
    Each step Unmixed { stored := stored } es ↔ Each step Alone { stored := stored } es := by
  have hstart : LoginRepositoryImpl.Latest { stored := stored } := fun request hlast => by cases hlast
  constructor
  · intro hruns
    exact hruns.imp (I := Latest) hstart (fun s e h _ => h.step e) fun s e h hs => (h.unmixed_iff e).mp hs
  · intro hruns
    exact hruns.imp (I := Latest) hstart (fun s e h _ => h.step e) fun s e h hs => (h.unmixed_iff e).mpr hs

def sampleAccount (jid : String) : Json.Object :=
  [(key "user", .object []), (key "xmpp", .object [(key "jid", .string (key jid)), (key "host", .string (key "chat"))])]

/-- Alice logs in, then Bob, and Alice's answer comes first. -/
theorem logins_mixed : ¬∀ (es : List LoginEvent) (stored : Stored), Each step Unmixed { stored := stored } es := by
  intro h
  have hruns := h [.login ⟨key "alice", key "a"⟩, .login ⟨key "bob", key "b"⟩,
    .response 0 ⟨true, some (sampleAccount "alice@chat")⟩ true []] none
  have heffects : ((LoginRepositoryImpl.step (LoginRepositoryImpl.step {} (.login ⟨key "alice", key "a"⟩))
      (.login ⟨key "bob", key "b"⟩)).handle (.response 0 ⟨true, some (sampleAccount "alice@chat")⟩ true [])).2 =
      [.loginSucceded, .connectToServer (key "alice@chat") (key "b") (key "chat") 0] := by
    rfl
  have hconnects := List.mem_cons_of_mem .loginSucceded
    (List.mem_singleton_self (LoginEffect.connectToServer (key "alice@chat") (key "b") (key "chat") 0))
  rw [← heffects] at hconnects
  obtain ⟨request, response, hcompleted, -, -, -, hpassword⟩ := hruns.2.2.1.1 _ _ _ _ hconnects
  obtain ⟨hpost, -⟩ := completed_response.mp hcompleted
  cases hpost
  exact absurd hpassword (by decide)

end LoginRepositoryImpl

end ChatDesktop.Session
