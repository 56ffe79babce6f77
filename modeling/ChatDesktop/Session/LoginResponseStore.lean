import ChatDesktop.Library.Json

/-! The login that is kept on disk. Each session carries the number of the login that saved it, so that
two logins of one account are told apart; number 0 is the session found when the program starts. -/

namespace ChatDesktop.Session

open Library

abbrev QString := Text

def key (name : String) : QString := Text.ofAscii name

structure LocalUser where
  access_token : QString
  refresh_token : QString
  user_id : QString
  username : QString
  password : QString
  display_name : QString
  xmpp_jid : QString
  xmpp_host : QString
  xmpp_port : UInt16
  deriving DecidableEq, Repr

structure UserDTO where
  id : QString
  username : QString
  display_name : QString

structure XmppDTO where
  jid : QString
  host : QString
  port : UInt16

structure LoginResponseDTO where
  access_token : QString
  refresh_token : QString
  user : UserDTO
  xmpp : XmppDTO

structure TokenResponseDto where
  access_token : QString
  refresh_token : QString

def UserDTO.fromJson (object : Json.Object) : UserDTO where
  id := (object.value (key "id")).toText
  username := (object.value (key "username")).toText
  display_name := (object.value (key "display_name")).toText

def UserDTO.toJson (user : UserDTO) : Json.Object :=
  [(key "display_name", .string user.display_name), (key "id", .string user.id),
    (key "username", .string user.username)]

def XmppDTO.fromJson (object : Json.Object) : XmppDTO where
  jid := (object.value (key "jid")).toText
  host := (object.value (key "host")).toText
  port := UInt16.ofInt ((object.value (key "port")).toInt 0)

def XmppDTO.toJson (xmpp : XmppDTO) : Json.Object :=
  [(key "host", .string xmpp.host), (key "jid", .string xmpp.jid), (key "port", .number xmpp.port.toNat)]

def LoginResponseDTO.fromJson (object : Json.Object) : Option LoginResponseDTO :=
  if !object.contains (key "user") || !(object.value (key "user")).isObject then none
  else if !object.contains (key "xmpp") || !(object.value (key "xmpp")).isObject then none
  else some {
    access_token := (object.value (key "access_token")).toText
    refresh_token := (object.value (key "refresh_token")).toText
    user := .fromJson (object.value (key "user")).toObject
    xmpp := .fromJson (object.value (key "xmpp")).toObject }

def LoginResponseDTO.toJson (response : LoginResponseDTO) : Json.Object :=
  [(key "access_token", .string response.access_token), (key "refresh_token", .string response.refresh_token),
    (key "user", .object response.user.toJson), (key "xmpp", .object response.xmpp.toJson)]

def TokenResponseDto.fromJson (object : Json.Object) : TokenResponseDto where
  access_token := (object.value (key "access_token")).toText
  refresh_token := (object.value (key "refresh_token")).toText

def decodeSession (object : Json.Object) : Option LocalUser :=
  let user := (object.value (key "user")).toObject
  let xmpp := (object.value (key "xmpp")).toObject
  if [key "access_token", key "refresh_token", key "password"].any (fun k => !(object.value k).isString) then none
  else if [key "id", key "username", key "display_name"].any (fun k => !(user.value k).isString) then none
  else
    let port := xmpp.value (key "port")
    let portNumber := port.toInt (-1)
    if (object.value (key "version")).toInt 0 ≠ 1 ∨ !(xmpp.value (key "jid")).isString ∨
        !(xmpp.value (key "host")).isString ∨ !port.isDouble ∨ portNumber < 0 ∨ portNumber > 65535 ∨
        port.toDouble ≠ portNumber then none
    else
      (LoginResponseDTO.fromJson object).map (fun response => {
        access_token := response.access_token
        refresh_token := response.refresh_token
        user_id := response.user.id
        username := response.user.username
        password := (object.value (key "password")).toText
        display_name := response.user.display_name
        xmpp_jid := response.xmpp.jid
        xmpp_host := response.xmpp.host
        xmpp_port := response.xmpp.port })

abbrev Stored := Option (ℕ × Json.Object)

/-! `io` says whether the file operations of a call succeed; a call whose operations fail leaves the
stored session as it was. -/

namespace AuthStorage

def identified (object : Json.Object) : Bool :=
  let user := (object.value (key "user")).toObject
  !(user.value (key "username")).toText.isEmpty && !(user.value (key "id")).toText.isEmpty

def writeSession (io : Bool) (number : ℕ) (object : Json.Object) (stored : Stored) : Bool × Stored :=
  if identified object && io then (true, some (number, object)) else (false, stored)

def save (io : Bool) (number : ℕ) (object : Json.Object) (stored : Stored) : Bool × Stored :=
  writeSession io number object stored

def read (io : Bool) (stored : Stored) : Stored := if io then stored else none

def clear (io : Bool) (stored : Stored) : Bool × Stored := if io then (true, none) else (false, stored)

def update (io : Bool) (modify : Json.Object → Option Json.Object) (stored : Stored) : Bool × Stored :=
  match read io stored with
  | none => (false, stored)
  | some (number, object) =>
    match modify object with
    | none => (false, stored)
    | some object' => writeSession io number object' stored

end AuthStorage

namespace LoginResponseStore

def save (io : Bool) (number : ℕ) (response : LoginResponseDTO) (password : QString) (stored : Stored) :
    Bool × Stored :=
  let object := (response.toJson.insert (key "version") (.number 1)).insert (key "password") (.string password)
  AuthStorage.save io number object stored

def getLocalUser (io : Bool) (stored : Stored) : Option (ℕ × LocalUser) :=
  (AuthStorage.read io stored).bind (fun s => (decodeSession s.2).map (fun user => (s.1, user)))

def logout (io : Bool) (stored : Stored) : Bool × Stored := AuthStorage.clear io stored

def withTokens (token : TokenResponseDto) (object : Json.Object) : Json.Object :=
  (object.insert (key "access_token") (.string token.access_token)).insert
    (key "refresh_token") (.string token.refresh_token)

def updateToken (io : Bool) (token : TokenResponseDto) (stored : Stored) : Bool × Stored :=
  AuthStorage.update io
    (fun object => if (decodeSession object).isSome then some (withTokens token object) else none) stored

end LoginResponseStore

end ChatDesktop.Session
