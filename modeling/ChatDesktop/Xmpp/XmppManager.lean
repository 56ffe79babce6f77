import ChatDesktop.Library.Reactive
import ChatDesktop.Library.Text

/-! The connection to the XMPP server. A reconnection goes through the pending slot, the signal
`disconnected` and a timer of zero delay that holds its parameters by value. -/

namespace ChatDesktop.Xmpp

open Library Library.Text

abbrev QString := Text

structure ConnectionParameters where
  jid : QString
  password : QString
  host : QString
  port : UInt16
  deriving DecidableEq, Repr

inductive ConnectionState
  | disconnected
  | connecting
  | connected
  deriving DecidableEq, Repr

/-- What `startConnection` hands to the client; the resource is the number of the drawn UUID. -/
structure Configuration where
  jid : QString
  password : QString
  resource : ℕ
  host : Option QString
  port : Option UInt16
  deriving DecidableEq, Repr

inductive Effect
  | connectToServer (configuration : Configuration)
  | disconnectFromServer
  | setClientPresence
  | connectionFailed
  | connectionStateChanged
  | connectedChanged
  | lastErrorChanged
  deriving DecidableEq, Repr

/-- `clientState` is the state of the QXmpp client, `timers` the single shots not yet fired, the first
to fire first. -/
structure XmppManager where
  clientState : ConnectionState := .disconnected
  connectionState : ConnectionState := .disconnected
  lastError : QString := []
  currentJid : QString := []
  pendingConnection : Option ConnectionParameters := none
  timers : List ConnectionParameters := []
  uuids : ℕ := 0
  deriving DecidableEq, Repr

namespace XmppManager

def updateState (state : ConnectionState) (m : XmppManager) : XmppManager × List Effect :=
  if m.connectionState = state then (m, [])
  else ({ m with connectionState := state }, [.connectionStateChanged])

def setLastError (error : QString) (m : XmppManager) : XmppManager × List Effect :=
  if m.lastError = error then (m, [])
  else ({ m with lastError := error }, [.lastErrorChanged])

def configurationOf (parameters : ConnectionParameters) (uuid : ℕ) : Configuration where
  jid := parameters.jid
  password := parameters.password
  resource := uuid
  host := if parameters.host = [] then none else some parameters.host
  port := if parameters.port = 0 then none else some parameters.port

def startConnection (parameters : ConnectionParameters) (m : XmppManager) : XmppManager × List Effect :=
  let configuration := configurationOf parameters m.uuids
  let (m₁, es₁) := { m with uuids := m.uuids + 1 }.updateState .connecting
  let (m₂, es₂) := m₁.setLastError []
  (m₂, es₁ ++ es₂ ++ [.connectToServer configuration])

def fail (error : String) (m : XmppManager) : XmppManager × List Effect :=
  let (m₁, es) := m.setLastError (Text.ofAscii error)
  (m₁, es ++ [.connectionFailed])

def connectToServer (jid password host : QString) (port : UInt16) (m : XmppManager) :
    XmppManager × List Effect :=
  let normalized_jid := trimmed jid
  if normalized_jid = [] then m.fail "XMPP JID cannot be empty."
  else if password = [] then m.fail "XMPP password cannot be empty."
  else if 0x40 ∉ normalized_jid then m.fail "Invalid XMPP JID. Expected user@domain."
  else
    let parameters : ConnectionParameters := ⟨normalized_jid, password, trimmed host, port⟩
    if m.clientState ≠ .disconnected then
      ({ m with pendingConnection := some parameters }, [.disconnectFromServer])
    else m.startConnection parameters

def closeConnection (m : XmppManager) : XmppManager × List Effect :=
  let m₁ := { m with pendingConnection := none }
  if m₁.clientState = .disconnected then m₁.updateState .disconnected
  else (m₁, [.setClientPresence, .disconnectFromServer])

def onStateChanged (state : ConnectionState) (m : XmppManager) : XmppManager × List Effect :=
  { m with clientState := state }.updateState state

/-- `jid` is the one the client reports of its configuration. -/
def onConnected (jid : QString) (m : XmppManager) : XmppManager × List Effect :=
  let (m₁, es) := m.setLastError []
  ({ m₁ with currentJid := jid }, es ++ [.connectedChanged])

def onDisconnected (m : XmppManager) : XmppManager × List Effect :=
  let (m₁, es₁) := m.setLastError []
  let (m₂, es₂) := m₁.updateState .disconnected
  match m₂.pendingConnection with
  | none => (m₂, es₁ ++ es₂)
  | some parameters =>
    ({ m₂ with pendingConnection := none, timers := m₂.timers ++ [parameters] }, es₁ ++ es₂)

def onTimeout (m : XmppManager) : XmppManager × List Effect :=
  match m.timers with
  | [] => (m, [])
  | parameters :: timers =>
    let m₁ := { m with timers := timers }
    if m₁.clientState = .disconnected then m₁.startConnection parameters
    else ({ m₁ with pendingConnection := some parameters }, [])

end XmppManager

inductive Event
  | connectToServer (jid password host : QString) (port : UInt16)
  | closeConnection
  | stateChanged (state : ConnectionState)
  | connected (jid : QString)
  | disconnected
  | timeout
  deriving DecidableEq, Repr

def XmppManager.handle (m : XmppManager) : Event → XmppManager × List Effect
  | .connectToServer jid password host port => m.connectToServer jid password host port
  | .closeConnection => m.closeConnection
  | .stateChanged state => m.onStateChanged state
  | .connected jid => m.onConnected jid
  | .disconnected => m.onDisconnected
  | .timeout => m.onTimeout

end ChatDesktop.Xmpp
