import ChatDesktop.Chat.HistoryOrder
import ChatDesktop.Session.SessionRepository

namespace ChatDesktop.Session

open Library Chat

def base64UrlValue (ch : UInt8) : Option ℕ :=
  if 0x41 ≤ ch ∧ ch ≤ 0x5A then some (ch.toNat - 0x41)
  else if 0x61 ≤ ch ∧ ch ≤ 0x7A then some (ch.toNat - 0x61 + 26)
  else if 0x30 ≤ ch ∧ ch ≤ 0x39 then some (ch.toNat - 0x30 + 52)
  else if ch = 0x2D then some 62
  else if ch = 0x5F then some 63
  else none

structure Base64Decoder where
  buf : ℕ := 0
  nbits : ℕ := 0
  output : List UInt8 := []

def Base64Decoder.next (s : Base64Decoder) (ch : UInt8) : Base64Decoder :=
  match base64UrlValue ch with
  | none => s
  | some d =>
    let buf := s.buf * 64 + d
    let nbits := s.nbits + 6
    if 8 ≤ nbits then
      ⟨buf % 2 ^ (nbits - 8), nbits - 8, s.output ++ [UInt8.ofNat (buf / 2 ^ (nbits - 8))]⟩
    else ⟨buf, nbits, s.output⟩

/-- `QByteArray::fromBase64`; what is no digit is passed over. -/
def fromBase64Url (input : List UInt8) : List UInt8 := (input.foldl Base64Decoder.next {}).output

namespace TokenValidator

/-- The whole part of a double as a `quint64`; where it does not fit, the language leaves it open. -/
def toUInt64 (d : ℚ) : UInt64 := UInt64.ofInt (if 0 ≤ d then d.floor else -(-d).floor)

def parts (token : QString) : List QString := token.splitOn 0x2E

def payload (P : Platform) (token : QString) : Option Json :=
  P.json.parse (P.fromUtf8 (fromBase64Url (P.toUtf8 ((parts token).getD 1 []))))

def isTokenExpired (P : Platform) (now : Int64) (token : QString) : Bool :=
  if (parts token).length ≠ 3 then true
  else
    match payload P token with
    | some (.object fields) =>
      let exp_value := Json.Object.value fields (key "exp")
      if !exp_value.isDouble then true
      else
        let expiration_time : Int64 := (toUInt64 exp_value.toDouble).toInt64
        let current_time : UInt64 := now.toUInt64
        -- The signed difference is compared as an unsigned number.
        decide ((expiration_time - 30).toUInt64 ≤ current_time)
    | _ => true

end TokenValidator

namespace SessionRepositoryImpl

def sessionCheckedAt (P : Platform) (now : Int64) (a : App) : App × List Effect :=
  sessionChecked (a.sessionUser.any (fun m_user => TokenValidator.isTokenExpired P now m_user.2.access_token)) a

end SessionRepositoryImpl

namespace TokenValidator

/-- A token of three parts that expires at `exp`. -/
structure ExpiresAt (P : Platform) (token : QString) (exp : ℕ) : Prop where
  parts : (parts token).length = 3
  payload : ∃ fields, payload P token = some (.object fields) ∧
    Json.Object.value fields (key "exp") = .number exp
  exact : exp ≤ 2 ^ 53

/-- The token is expired from half a minute before its time on; from then on a session is refreshed. -/
def DecidedInIntegers (P : Platform) (now : Int64) (token : QString) (exp : ℕ) : Prop :=
  (isTokenExpired P now token = true ↔ (exp : ℤ) - 30 ≤ now.toInt) ∧
    ∀ (a : App) (number : ℕ) (user : LocalUser), a.sessionUser = some (number, user) → user.access_token = token →
      (exp : ℤ) - 30 ≤ now.toInt →
        SessionRepositoryImpl.sessionCheckedAt P now a = SessionRepositoryImpl.refreshToken a

section

variable {P : Platform} {token : QString} {exp : ℕ} {now : Int64}

lemma toNat_toUInt64 (h : exp ≤ 2 ^ 53) : (toUInt64 exp).toNat = exp := by
  have hfloor : (exp : ℚ).floor = exp := by exact_mod_cast Rat.floor_intCast exp
  have hsize : exp < 2 ^ 64 := h.trans_lt (by norm_num)
  have hmod : ((exp : ℤ) % 2 ^ 64).toNat = exp := by omega
  rw [toUInt64, if_pos (Nat.cast_nonneg exp), hfloor, UInt64.ofInt, hmod]
  exact UInt64.toNat_ofNat_of_lt' hsize

lemma toNat_limit (h : exp ≤ 2 ^ 53) :
    ((toUInt64 exp).toInt64 - 30).toUInt64.toNat = (exp + (2 ^ 64 - 30)) % 2 ^ 64 := by
  have hlimit : ((toUInt64 exp).toInt64 - 30).toUInt64 = toUInt64 exp - 30 := rfl
  rw [hlimit, UInt64.toNat_sub, toNat_toUInt64 h]
  exact congrArg (· % 2 ^ 64) (Nat.add_comm _ _)

lemma toNat_now (h : 0 ≤ now.toInt) : (now.toUInt64.toNat : ℤ) = now.toInt := by
  have hnow : 0 ≤ now := Int64.le_iff_toInt_le.mpr h
  rw [Int64.toNat_toUInt64_of_le hnow, Int64.toInt_eq_toNatClampNeg hnow]

lemma isTokenExpired_iff (h : ExpiresAt P token exp) :
    isTokenExpired P now token = true ↔ (exp + (2 ^ 64 - 30)) % 2 ^ 64 ≤ now.toUInt64.toNat := by
  obtain ⟨fields, hpayload, hexp⟩ := h.payload
  rw [isTokenExpired, if_neg (not_not_intro h.parts), hpayload]
  dsimp only
  rw [hexp]
  exact decide_eq_true_iff.trans (UInt64.le_iff_toNat_le.trans (by rw [Json.toDouble, toNat_limit h.exact]))

lemma sessionCheckedAt_eq {a : App} {number : ℕ} {user : LocalUser} (hs : a.sessionUser = some (number, user)) :
    SessionRepositoryImpl.sessionCheckedAt P now a =
      SessionRepositoryImpl.sessionChecked (isTokenExpired P now user.access_token) a := by
  rw [SessionRepositoryImpl.sessionCheckedAt, hs]
  rfl

end

/-- The decision is that of the integers just when the token does not expire in the first half minute of all time. -/
theorem decided_in_integers_iff {P : Platform} {token : QString} {exp : ℕ} {now : Int64} (h : ExpiresAt P token exp)
    (hlo : 0 ≤ now.toInt) (hhi : now.toInt ≤ 2 ^ 62) : DecidedInIntegers P now token exp ↔ 30 ≤ exp := by
  have hnow := toNat_now hlo
  have hexact := h.exact
  constructor
  · intro hdecided
    by_contra hsmall
    have hexpired := hdecided.1.mpr (by omega)
    rw [isTokenExpired_iff h, Nat.mod_eq_of_lt (by omega)] at hexpired
    omega
  · intro hlarge
    have hlimit : (exp + (2 ^ 64 - 30)) % 2 ^ 64 = exp - 30 := by omega
    have hexpired : isTokenExpired P now token = true ↔ (exp : ℤ) - 30 ≤ now.toInt := by
      rw [isTokenExpired_iff h, hlimit]
      omega
    refine ⟨hexpired, fun a number user hs htoken hpast => ?_⟩
    subst htoken
    rw [sessionCheckedAt_eq hs, hexpired.mpr hpast, SessionRepositoryImpl.sessionChecked, hs]
    rfl

lemma expiresAt_of_text {token : QString} {exp : ℕ} (hparts : (parts token).length = 3) (hexact : exp ≤ 2 ^ 53)
    (htext : plainPlatform.fromUtf8 (fromBase64Url (plainPlatform.toUtf8 ((parts token).getD 1 []))) =
      Json.write (.object [(key "exp", .number exp)])) : ExpiresAt plainPlatform token exp := by
  have hwhole : Json.Whole (.object [(key "exp", .number exp)]) := by
    refine .object (fun field hf => ?_)
    obtain rfl := List.mem_singleton.mp hf
    exact .number exp
  refine ⟨hparts, ⟨[(key "exp", .number exp)], ?_, rfl⟩, hexact⟩
  rw [payload, htext]
  exact Json.parse_write hwhole

def sampleToken : QString := key "e30.eyJleHAiOjE3MDAwMDAwMDB9.s"

def sampleNow : Int64 := 1800000000

theorem decided_in_integers_sample :
    DecidedInIntegers plainPlatform sampleNow sampleToken 1700000000 ↔ 30 ≤ 1700000000 :=
  decided_in_integers_iff (expiresAt_of_text (by decide) (by norm_num) (by decide)) (by decide)
    (by decide)

def firstToken : QString := key "e30.eyJleHAiOjV9.s"

theorem not_decided_in_integers : ¬∀ (P : Platform) (token : QString) (exp : ℕ) (now : Int64), ExpiresAt P token exp →
    0 ≤ now.toInt → now.toInt ≤ 2 ^ 62 → DecidedInIntegers P now token exp := by
  intro h
  have htoken : ExpiresAt plainPlatform firstToken 5 :=
    expiresAt_of_text (by decide) (by norm_num) (by decide)
  have hdecided := h plainPlatform firstToken 5 sampleNow htoken (by decide) (by decide)
  have hexpired := (isTokenExpired_iff htoken).mp (hdecided.1.mpr (by decide))
  exact absurd hexpired (by decide)

end TokenValidator

end ChatDesktop.Session
