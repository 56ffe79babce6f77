import ChatDesktop.Session.LoginResponseStore
import ChatDesktop.Library.Reactive

/-! The two session repositories of the application and the store they share: one repository checks the
session and refreshes its token, the other logs out. A login writes the store only. -/

namespace ChatDesktop.Session

open Library

structure Request where
  number : ℕ
  refresh_token : QString

structure Response where
  isSuccess : Bool
  body : Option Json.Object

def Response.token (r : Response) : Option TokenResponseDto :=
  if r.isSuccess then r.body.map TokenResponseDto.fromJson else none

inductive Effect
  | postRefresh (refresh_token : QString)
  | connectToServer (jid password host : QString) (port : UInt16)
  | closeConnection
  | closeAll
  | sessionChanged (session : Bool)
  | loginSucceded
  /-- `m_user` is dereferenced while it is empty. -/
  | emptyDereference
  deriving DecidableEq

/-- A finished `sessionChecked` whose continuation has not run, and whether it took a refresh. -/
structure Continuation where
  isSession : Bool
  refreshed : Bool

structure App where
  stored : Stored
  /-- `m_user` of the repository of `SessionUsecase`. -/
  sessionUser : Option (ℕ × LocalUser)
  /-- `m_user` of the repository of `LogoutUsecase`. -/
  logoutUser : Option (ℕ × LocalUser)
  requests : List Request
  continuations : List Continuation
  logins : ℕ

def App.start (stored : Option Json.Object) (io io' : Bool) : App where
  stored := stored.map (fun object => (0, object))
  sessionUser := LoginResponseStore.getLocalUser io (stored.map (fun object => (0, object)))
  logoutUser := LoginResponseStore.getLocalUser io' (stored.map (fun object => (0, object)))
  requests := []
  continuations := []
  logins := 0

namespace SessionRepositoryImpl

def connectTo (user : LocalUser) : Effect :=
  .connectToServer user.xmpp_jid user.password user.xmpp_host user.xmpp_port

def connectToXmpp (m_user : Option (ℕ × LocalUser)) : List Effect :=
  match m_user with
  | none => []
  | some (_, user) => [connectTo user]

def refreshToken (a : App) : App × List Effect :=
  match a.sessionUser with
  | none => (a, [.emptyDereference])
  | some (number, user) =>
    ({ a with requests := a.requests ++ [⟨number, user.refresh_token⟩] }, [.postRefresh user.refresh_token])

/-- `expired` is the answer of the token validator. A ready future runs its continuation like any other. -/
def sessionChecked (expired : Bool) (a : App) : App × List Effect :=
  if a.sessionUser.isNone then ({ a with continuations := a.continuations ++ [⟨false, false⟩] }, [])
  else if expired then refreshToken a
  else ({ a with continuations := a.continuations ++ [⟨true, false⟩] }, [])

def onRefreshed (r : Response) (io : Bool) (a : App) : Bool × App × List Effect :=
  match r.token with
  | none => (false, a, [])
  | some token =>
    let (isSuccess, stored) := LoginResponseStore.updateToken io token a.stored
    let a₁ := { a with stored := stored }
    if isSuccess then
      match a₁.sessionUser with
      | none => (isSuccess, a₁, [.emptyDereference])
      | some (number, user) =>
        let user := { user with access_token := token.access_token, refresh_token := token.refresh_token }
        (isSuccess, { a₁ with sessionUser := some (number, user) }, [connectTo user])
    else (isSuccess, a₁, [])

def logout (io : Bool) (a : App) : Bool × App × List Effect :=
  let (done, stored) := LoginResponseStore.logout io a.stored
  if done then
    (true, { a with stored := stored, logoutUser := none }, [.closeAll, .closeConnection, .sessionChanged false])
  else (false, { a with stored := stored }, [])

end SessionRepositoryImpl

inductive Event
  | checkAuthentication (expired : Bool)
  | response (i : ℕ) (r : Response) (io : Bool)
  | resume (i : ℕ)
  | logout (io : Bool)
  /-- The response of a login; `m_request_password` is the password of the last login request. -/
  | login (response : LoginResponseDTO) (password m_request_password : QString) (io : Bool)

namespace App

def onResponse (i : ℕ) (r : Response) (io : Bool) (a : App) : App × List Effect :=
  if i < a.requests.length then
    let (isSession, a₁, es) := SessionRepositoryImpl.onRefreshed r io { a with requests := a.requests.eraseIdx i }
    ({ a₁ with continuations := a₁.continuations ++ [⟨isSession, true⟩] }, es)
  else (a, [])

def onResume (i : ℕ) (a : App) : App × List Effect :=
  match a.continuations[i]? with
  | none => (a, [])
  | some c =>
    ({ a with continuations := a.continuations.eraseIdx i },
      SessionRepositoryImpl.connectToXmpp a.sessionUser ++ [.sessionChanged c.isSession])

def onLogin (response : LoginResponseDTO) (password m_request_password : QString) (io : Bool) (a : App) :
    App × List Effect :=
  let (saved, stored) := LoginResponseStore.save io (a.logins + 1) response password a.stored
  ({ a with stored := stored, logins := if saved then a.logins + 1 else a.logins },
    [.loginSucceded,
      .connectToServer response.xmpp.jid m_request_password response.xmpp.host response.xmpp.port])

def handle (a : App) : Event → App × List Effect
  | .checkAuthentication expired => SessionRepositoryImpl.sessionChecked expired a
  | .response i r io => a.onResponse i r io
  | .resume i => a.onResume i
  | .logout io => (SessionRepositoryImpl.logout io a).2
  | .login response password m_request_password io => a.onLogin response password m_request_password io

end App

end ChatDesktop.Session
