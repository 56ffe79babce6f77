import ChatDesktop.Session.SessionRepository

namespace ChatDesktop.Session

open Library Library.Reactive SessionRepositoryImpl LoginResponseStore

def step (a : App) (e : Event) : App := (a.handle e).1

def accessToken (stored : Stored) : Option Json := stored.map (fun s => s.2.value (key "access_token"))

def refreshTokenOf (stored : Stored) : Option Json := stored.map (fun s => s.2.value (key "refresh_token"))

def ConnectsAsStored (stored : Stored) (es : List Effect) : Prop :=
  ∀ jid password host port, .connectToServer jid password host port ∈ es →
    ∃ number object user, stored = some (number, object) ∧ decodeSession object = some user ∧
      jid = user.xmpp_jid ∧ password = user.password ∧ host = user.xmpp_host ∧ port = user.xmpp_port

/-- A response changes the stored tokens only if the stored session is the one whose token was sent, it
and the continuation of its refresh connect only to the account stored then, and no step reads an empty
`m_user`. -/
def AffectsItsSession (a : App) (e : Event) : Prop :=
  .emptyDereference ∉ (a.handle e).2 ∧
  match e with
  | .response i _ _ =>
    (∀ q, a.requests[i]? = some q →
      accessToken (step a e).stored ≠ accessToken a.stored ∨
        refreshTokenOf (step a e).stored ≠ refreshTokenOf a.stored → a.stored.map Prod.fst = some q.number) ∧
    ConnectsAsStored (step a e).stored (a.handle e).2
  | .resume i => ∀ c, a.continuations[i]? = some c → c.refreshed = true →
      ConnectsAsStored (step a e).stored (a.handle e).2
  | _ => True

/-- No login has been saved since the start when a response with tokens is handled, unless there is no
stored session, and neither a login nor a logout when the continuation of a refresh runs. -/
def Unreplaced (a : App) : Event → Prop
  | .response _ r _ => r.token.isSome → ∀ number object, a.stored = some (number, object) → number = 0
  | .resume i => ∀ c, a.continuations[i]? = some c → c.refreshed = true →
      ∃ object, a.stored = some (0, object)
  | _ => True

section

variable {a : App} {o : Json.Object} {u v : LocalUser} {token : TokenResponseDto} {stored : Stored} {k : QString}

lemma value_withTokens (ha : k ≠ key "access_token") (hr : k ≠ key "refresh_token") :
    (withTokens token o).value k = o.value k := by
  rw [withTokens, Json.Object.value_insert _ _ hr, Json.Object.value_insert _ _ ha]

lemma contains_withTokens (ha : k ≠ key "access_token") (hr : k ≠ key "refresh_token") :
    (withTokens token o).contains k = o.contains k := by
  rw [withTokens, Json.Object.contains_insert _ _ hr, Json.Object.contains_insert _ _ ha]

lemma accessToken_withTokens :
    (withTokens token o).value (key "access_token") = .string token.access_token := by
  rw [withTokens, Json.Object.value_insert _ _ (by decide), Json.Object.value_insert_self]

lemma refreshToken_withTokens :
    (withTokens token o).value (key "refresh_token") = .string token.refresh_token :=
  Json.Object.value_insert_self _ _ _

lemma decodeSession_withTokens (h : decodeSession o = some u) :
    decodeSession (withTokens token o) =
      some { u with access_token := token.access_token, refresh_token := token.refresh_token } := by
  have huser : (withTokens token o).value (key "user") = o.value (key "user") :=
    value_withTokens (by decide) (by decide)
  have hxmpp : (withTokens token o).value (key "xmpp") = o.value (key "xmpp") :=
    value_withTokens (by decide) (by decide)
  have hpassword : (withTokens token o).value (key "password") = o.value (key "password") :=
    value_withTokens (by decide) (by decide)
  have hversion : (withTokens token o).value (key "version") = o.value (key "version") :=
    value_withTokens (by decide) (by decide)
  have hcuser : (withTokens token o).contains (key "user") = o.contains (key "user") :=
    contains_withTokens (by decide) (by decide)
  have hcxmpp : (withTokens token o).contains (key "xmpp") = o.contains (key "xmpp") :=
    contains_withTokens (by decide) (by decide)
  unfold decodeSession at h ⊢
  simp only [huser, hxmpp, hpassword, hversion, LoginResponseDTO.fromJson, hcuser, hcxmpp,
    accessToken_withTokens, refreshToken_withTokens, List.any_cons, List.any_nil, Json.isString_string,
    Json.toText_string, Bool.not_true, Bool.false_or, Bool.or_false] at h ⊢
  split_ifs at h with h₁ h₂ h₃ h₄ h₅ <;> try cases h
  have hp : ¬(!(o.value (key "password")).isString) = true := by
    simp only [Bool.or_eq_true, not_or] at h₁
    exact h₁.2.2
  rw [if_neg hp, if_neg h₂, if_neg h₃, if_neg h₄, if_neg h₅]
  rfl

lemma updateToken_cases (io : Bool) (token : TokenResponseDto) (stored : Stored) :
    updateToken io token stored = (false, stored) ∨
    ∃ number o u, stored = some (number, o) ∧ decodeSession o = some u ∧
      updateToken io token stored = (true, some (number, withTokens token o)) := by
  unfold updateToken AuthStorage.update AuthStorage.read AuthStorage.writeSession
  cases io with
  | false => exact Or.inl (by simp)
  | true =>
    cases stored with
    | none => exact Or.inl (by simp)
    | some s =>
      obtain ⟨number, o⟩ := s
      cases hd : decodeSession o with
      | none => exact Or.inl (by simp [hd])
      | some u =>
        simp only [if_true, hd, Option.isSome_some, Bool.and_true]
        split_ifs
        · exact Or.inr ⟨number, o, u, rfl, hd, rfl⟩
        · exact Or.inl rfl

def SameAccount (v u : LocalUser) : Prop :=
  v.xmpp_jid = u.xmpp_jid ∧ v.password = u.password ∧ v.xmpp_host = u.xmpp_host ∧ v.xmpp_port = u.xmpp_port

/-- The repository holds the session found at the start, and as long as that is the stored one, its
account. -/
structure Own (a : App) : Prop where
  requests : ∀ q ∈ a.requests, q.number = 0
  user : ∀ number u, a.sessionUser = some (number, u) → number = 0
  present : a.requests ≠ [] → a.sessionUser.isSome
  account : ∀ o number u, a.stored = some (0, o) → a.sessionUser = some (number, u) →
    ∃ v, decodeSession o = some v ∧ SameAccount v u

lemma Own.start (stored : Option Json.Object) (io io' : Bool) : Own (.start stored io io') where
  requests q hq := by simp [App.start] at hq
  user number u hu := by
    cases io <;> cases stored <;> simp [App.start, getLocalUser, AuthStorage.read] at hu
    obtain ⟨v, -, rfl, -⟩ := hu
    rfl
  present h := by simp [App.start] at h
  account o number u ho hu := by
    cases io <;> cases stored <;> simp [App.start, getLocalUser, AuthStorage.read] at ho hu
    subst ho
    exact ⟨u, hu.1, rfl, rfl, rfl, rfl⟩

lemma onRefreshed_cases (r : Response) (io : Bool) (a : App) :
    (∃ b, onRefreshed r io a = (b, a, [])) ∨
    ∃ token number o v, r.token = some token ∧ a.stored = some (number, o) ∧ decodeSession o = some v ∧
      ((a.sessionUser = none ∧ onRefreshed r io a =
          (true, { a with stored := some (number, withTokens token o) }, [.emptyDereference])) ∨
        ∃ number' u, a.sessionUser = some (number', u) ∧ onRefreshed r io a =
          (true, { a with
            stored := some (number, withTokens token o)
            sessionUser := some (number', { u with
              access_token := token.access_token, refresh_token := token.refresh_token }) }, [connectTo u])) := by
  unfold onRefreshed
  cases hr : r.token with
  | none => exact Or.inl ⟨false, rfl⟩
  | some token =>
    obtain hu | ⟨number, o, v, ho, hv, hu⟩ := updateToken_cases io token a.stored
    · exact Or.inl ⟨false, by simp only [hu, Bool.false_eq_true, if_false]⟩
    · refine Or.inr ⟨token, number, o, v, rfl, ho, hv, ?_⟩
      cases hs : a.sessionUser with
      | none => exact Or.inl ⟨rfl, by simp only [hu, if_true]⟩
      | some w => exact Or.inr ⟨w.1, w.2, rfl, by simp only [hu, if_true, connectTo]⟩

lemma refreshToken_some {number : ℕ} (hs : a.sessionUser = some (number, u)) :
    refreshToken a =
      ({ a with requests := a.requests ++ [⟨number, u.refresh_token⟩] }, [.postRefresh u.refresh_token]) := by
  simp only [refreshToken, hs]

lemma Own.onResponse (h : Own a) (i : ℕ) (r : Response) (io : Bool) : Own (a.onResponse i r io).1 := by
  unfold App.onResponse
  split_ifs with hi
  · have herase : Own { a with requests := a.requests.eraseIdx i } := by
      refine ⟨fun q hq => h.requests q (List.mem_of_mem_eraseIdx hq), h.user, fun hne => h.present ?_, h.account⟩
      rintro hnil
      simp [hnil] at hne
    obtain ⟨b, he⟩ | ⟨token, number, o, v, -, ho, hv, ⟨hs, -⟩ | ⟨number', u, hs, he⟩⟩ :=
      onRefreshed_cases r io { a with requests := a.requests.eraseIdx i }
    · rw [he]
      exact ⟨herase.requests, herase.user, herase.present, herase.account⟩
    · have := h.present (List.ne_nil_of_length_pos (Nat.zero_lt_of_lt hi))
      rw [show a.sessionUser = none from hs] at this
      cases this
    · rw [he]
      refine ⟨herase.requests, ?_, fun _ => rfl, ?_⟩
      · rintro number u hu
        obtain ⟨rfl, -⟩ := Prod.mk.inj (Option.some.inj hu)
        exact herase.user _ _ hs
      · rintro o' number u' ho' hu'
        obtain ⟨rfl, rfl⟩ := Prod.mk.inj (Option.some.inj ho')
        obtain ⟨rfl, rfl⟩ := Prod.mk.inj (Option.some.inj hu')
        obtain ⟨v', hv', hsame⟩ := herase.account _ _ _ ho hs
        obtain rfl := Option.some.inj (hv.symm.trans hv')
        exact ⟨_, decodeSession_withTokens hv, hsame⟩
  · exact h

lemma Own.step (h : Own a) (e : Event) : Own (Session.step a e) := by
  unfold Session.step
  cases e with
  | checkAuthentication expired =>
    simp only [App.handle, sessionChecked]
    split_ifs with hn
    · exact ⟨h.requests, h.user, h.present, h.account⟩
    · obtain ⟨⟨number, u⟩, hs⟩ := Option.ne_none_iff_exists'.mp (by simpa using hn)
      rw [refreshToken_some hs]
      refine ⟨fun q hq => ?_, h.user, fun _ => hs ▸ rfl, h.account⟩
      obtain hq | hq := List.mem_append.mp hq
      · exact h.requests q hq
      · rw [List.mem_singleton.mp hq]
        exact h.user number u hs
    · exact ⟨h.requests, h.user, h.present, h.account⟩
  | response i r io => exact h.onResponse i r io
  | resume i =>
    simp only [App.handle, App.onResume]
    split
    · exact h
    · exact ⟨h.requests, h.user, h.present, h.account⟩
  | logout io =>
    simp only [App.handle, SessionRepositoryImpl.logout, LoginResponseStore.logout, AuthStorage.clear]
    cases io with
    | false => exact ⟨h.requests, h.user, h.present, h.account⟩
    | true => exact ⟨h.requests, h.user, h.present, fun o _ _ ho => by cases ho⟩
  | login response password m_request_password io =>
    refine ⟨h.requests, h.user, h.present, fun o number u ho hu => ?_⟩
    simp only [App.handle, App.onLogin, LoginResponseStore.save, AuthStorage.save, AuthStorage.writeSession] at ho hu
    split_ifs at ho
    · cases ho
    · exact h.account o number u ho hu

lemma Own.connectsAsStored (h : Own a) {o : Json.Object} {number : ℕ} (ho : a.stored = some (0, o))
    (hu : a.sessionUser = some (number, u)) : ConnectsAsStored a.stored [connectTo u] := by
  intro jid password host port hm
  obtain ⟨v, hv, hjid, hpassword, hhost, hport⟩ := h.account o number u ho hu
  rw [List.mem_singleton, connectTo, Effect.connectToServer.injEq] at hm
  obtain ⟨rfl, rfl, rfl, rfl⟩ := hm
  exact ⟨0, o, v, ho, hv, hjid.symm, hpassword.symm, hhost.symm, hport.symm⟩

lemma connectsAsStored_nil : ConnectsAsStored stored [] := by
  intro _ _ _ _ hm
  cases hm

lemma Own.response_affects (h : Own a) (i : ℕ) (r : Response) (io : Bool)
    (hu : Unreplaced a (.response i r io)) : AffectsItsSession a (.response i r io) := by
  unfold AffectsItsSession
  simp only [Session.step, App.handle, App.onResponse]
  split_ifs with hi
  · have hsome : a.sessionUser.isSome := h.present (List.ne_nil_of_length_pos (Nat.zero_lt_of_lt hi))
    obtain ⟨b, he⟩ | ⟨token, number, o, v, hr, ho, hv, ⟨hs, -⟩ | ⟨number', u, hs, he⟩⟩ :=
      onRefreshed_cases r io { a with requests := a.requests.eraseIdx i }
    · rw [he]
      exact ⟨List.not_mem_nil, fun q hq hne => absurd hne (by simp), connectsAsStored_nil⟩
    · rw [show a.sessionUser = none from hs] at hsome
      cases hsome
    · have h0 : number = 0 := hu (by rw [hr]; rfl) number o ho
      subst h0
      rw [he]
      refine ⟨by simp [connectTo], fun q hq _ => ?_, ?_⟩
      · rw [show a.stored = some (0, o) from ho, h.requests q (List.mem_of_getElem? hq)]
        rfl
      · have hown := h.onResponse i r io
        simp only [App.onResponse, if_pos hi, he] at hown
        have hconnects : ConnectsAsStored _ [connectTo { u with
            access_token := token.access_token, refresh_token := token.refresh_token }] :=
          hown.connectsAsStored rfl rfl
        exact hconnects
  · exact ⟨List.not_mem_nil, fun q hq hne => absurd hne (by simp), connectsAsStored_nil⟩

lemma Own.affects (h : Own a) {e : Event} (hu : Unreplaced a e) : AffectsItsSession a e := by
  cases e with
  | checkAuthentication expired =>
    refine ⟨?_, trivial⟩
    simp only [App.handle, sessionChecked]
    split_ifs with hn
    · exact List.not_mem_nil
    · obtain ⟨⟨number, u⟩, hs⟩ := Option.ne_none_iff_exists'.mp (by simpa using hn)
      rw [refreshToken_some hs]
      simp
    · exact List.not_mem_nil
  | response i r io => exact h.response_affects i r io hu
  | resume i =>
    cases hc : a.continuations[i]? with
    | none =>
      refine ⟨?_, fun c hc' => ?_⟩
      · simp [App.handle, App.onResume, hc]
      · rw [hc] at hc'
        cases hc'
    | some c =>
      refine ⟨?_, fun c' hc' href => ?_⟩
      · cases hs : a.sessionUser <;> simp [App.handle, App.onResume, hc, connectToXmpp, connectTo, hs]
      · obtain ⟨o, ho⟩ := hu c' hc' href
        have hstored : (Session.step a (.resume i)).stored = a.stored := by
          simp only [Session.step, App.handle, App.onResume, hc]
        rw [hstored]
        intro jid password host port hm
        cases hs : a.sessionUser with
        | none => simp [App.handle, App.onResume, hc, connectToXmpp, hs] at hm
        | some w =>
          refine h.connectsAsStored ho hs jid password host port ?_
          simpa [App.handle, App.onResume, hc, connectToXmpp, hs] using hm
  | logout io =>
    refine ⟨?_, trivial⟩
    cases io <;> simp [App.handle, SessionRepositoryImpl.logout, LoginResponseStore.logout, AuthStorage.clear]
  | login response password m_request_password io => exact ⟨by simp [App.handle, App.onLogin], trivial⟩

end

/-- In every run in which no other login stands in the store when a refresh is answered. -/
theorem refreshes_own_session {stored : Option Json.Object} {io io' : Bool} {es : List Event}
    (h : Each step Unreplaced (.start stored io io') es) :
    Each step AffectsItsSession (.start stored io io') es :=
  h.imp (Own.start stored io io') (fun _ e ha _ => ha.step e) (fun _ _ ha hu => ha.affects hu)

def sessionOf (user refresh_token jid : String) : LoginResponseDTO :=
  ⟨key "access", key refresh_token, ⟨key user, key user, key user⟩, ⟨key jid, [], 5222⟩⟩

def aliceSession : Json.Object :=
  ((sessionOf "alice" "token-a" "alice@chat").toJson.insert (key "version") (.number 1)).insert
    (key "password") (.string (key "a"))

def refreshed : Response :=
  ⟨true, some [(key "access_token", .string (key "access-2")), (key "refresh_token", .string (key "token-2"))]⟩

def refreshes : List Event := [.checkAuthentication true, .response 0 refreshed true]

theorem refreshes_own_session_sample :
    Each step AffectsItsSession (.start (some aliceSession) true true) (refreshes ++ [.resume 0]) := by
  refine refreshes_own_session ⟨trivial, fun _ number object ho => ?_, fun c hc hr => ?_, trivial⟩
  · have hnumber : (step (.start (some aliceSession) true true) (.checkAuthentication true)).stored.map
        Prod.fst = some 0 := by decide
    rw [ho] at hnumber
    exact Option.some.inj hnumber
  · have hnumber : (after step (.start (some aliceSession) true true) refreshes).stored.map Prod.fst =
        some 0 := by decide
    obtain ⟨⟨number, object⟩, ho, rfl⟩ := Option.map_eq_some_iff.mp hnumber
    exact ⟨object, ho⟩

def relogin : List Event := [.checkAuthentication true, .logout true,
  .login (sessionOf "bob" "token-b" "bob@chat") (key "b") (key "b") true]

theorem refresh_changes_other_session :
    ¬Each step AffectsItsSession (.start (some aliceSession) true true) (relogin ++ [.response 0 refreshed true]) := by
  intro h
  obtain ⟨⟨-, htokens, -⟩, -⟩ := (each_append.mp h).2
  have hrequest : ((after step (.start (some aliceSession) true true) relogin).requests[0]?).map
      Request.number = some 0 := by decide
  obtain ⟨q, hq, hnumber⟩ := Option.map_eq_some_iff.mp hrequest
  have hother : (after step (.start (some aliceSession) true true) relogin).stored.map Prod.fst = some 1 := by
    decide
  have hchanged : (accessToken (step (after step (.start (some aliceSession) true true) relogin)
      (.response 0 refreshed true)).stored).map Json.toText ≠
      (accessToken (after step (.start (some aliceSession) true true) relogin).stored).map Json.toText := by
    decide
  have := htokens q hq (Or.inl (fun he => hchanged (congrArg _ he)))
  rw [hother, hnumber] at this
  cases this

end ChatDesktop.Session
