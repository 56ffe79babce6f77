import Mathlib.Data.Nat.Log
import Mathlib.Data.Rat.Floor
import Mathlib.Tactic.Common
import Mathlib.Tactic.NormNum
import Mathlib.Tactic.Positivity
import Mathlib.Tactic.Ring

namespace ChatDesktop.Network

inductive HttpMethod
  | get
  | post
  | put
  | patch
  | delete
  | head
  deriving DecidableEq

def isIdempotentHttpMethod : HttpMethod → Bool
  | .get | .put | .delete | .head => true
  | .post | .patch => false

inductive NetworkError
  | none
  | invalideRequest
  | invalideUrl
  | connectionRefused
  | remoteHostClose
  | hostNotFound
  | operationCancelled
  | timeout
  | sslHandshakeFailed
  | networkSessionFailed
  | temporaryNetworkFailure
  | badRequest
  | unauthorized
  | forbidden
  | notFound
  | conflict
  | validationFailed
  | tooManyRequest
  | internalServerError
  | badGateway
  | serviceUnavailable
  | gatewayTimeout
  | jsonParseError
  | emptyResponse
  | unknownNetworkError
  | unknownHttpError
  deriving DecidableEq

def IsInt (z : ℤ) : Prop := -2 ^ 31 ≤ z ∧ z < 2 ^ 31

instance (z : ℤ) : Decidable (IsInt z) := instDecidableAnd

abbrev CInt := { z : ℤ // IsInt z }

structure RetryPolicy where
  maximumRetries : CInt := ⟨2, by decide⟩
  initialDelayMs : CInt := ⟨500, by decide⟩
  maximumDelayMs : CInt := ⟨5000, by decide⟩
  backOffMulitplier : ℚ := 2
  useJitter : Bool := true
  retryNonIdempotentReqeusts : Bool := false
  retryableErrors : List NetworkError := [.connectionRefused, .remoteHostClose, .timeout, .temporaryNetworkFailure,
    .badGateway, .serviceUnavailable, .gatewayTimeout]

instance : Inhabited RetryPolicy := ⟨{}⟩

/-- `QRandomGenerator::bounded`: a number below the bound. -/
structure Generator where
  bounded : ℤ → ℤ
  bounded_range : ∀ k, 0 < k → 0 ≤ bounded k ∧ bounded k < k

def checked (z : ℤ) : Option CInt := if h : IsInt z then some ⟨z, h⟩ else none

/-- `static_cast<int>`: the fraction is dropped; what then does not fit is undefined. -/
def castInt (q : ℚ) : Option CInt := checked (q.num.tdiv q.den)

namespace RetryPolicy

def shouldRetry (p : RetryPolicy) (method : HttpMethod) (error : NetworkError) (completedRetries : ℤ) : Bool :=
  if p.maximumRetries.1 ≤ completedRetries then false
  else if error ∉ p.retryableErrors then false
  else if !p.retryNonIdempotentReqeusts && !isIdempotentHttpMethod method then false
  else true

def multiplied (mulitplier : ℚ) : ℕ → ℚ → ℚ
  | 0, delay => delay
  | n + 1, delay => multiplied mulitplier n (delay * mulitplier)

def backedOff (p : RetryPolicy) (retryNumber : ℕ) : ℚ := multiplied p.backOffMulitplier retryNumber p.initialDelayMs.1

def delayForRetry (p : RetryPolicy) (retryNumber : ℕ) : Option CInt :=
  (castInt (p.backedOff retryNumber)).map (fun delay => if delay.1 < p.maximumDelayMs.1 then delay else p.maximumDelayMs)

def retryDelay (generator : Generator) (p : RetryPolicy) (retryNumber : ℕ) : Option CInt := do
  let delayMs ← p.delayForRetry retryNumber
  if !p.useJitter then some delayMs
  else checked (delayMs.1 + generator.bounded (max 1 (delayMs.1.tdiv 4)))

/-- Nothing overflows on the way to the delay, and the delay is the product up to the maximum, for
the timer with at most a quarter more. -/
structure BacksOff (generator : Generator) (p : RetryPolicy) (m n : ℕ) : Prop where
  converts : ∃ d, castInt (p.backedOff n) = some d
  delay : ∃ d, p.delayForRetry n = some d ∧ d.1 = min (p.initialDelayMs.1 * m ^ n) p.maximumDelayMs.1
  timer : ∃ d, p.retryDelay generator n = some d ∧ 0 ≤ d.1 ∧
    d.1 ≤ p.maximumDelayMs.1 + max 1 (p.maximumDelayMs.1 / 4)

section

variable {p : RetryPolicy} {generator : Generator} {m n : ℕ}

lemma multiplied_eq (q : ℚ) (n : ℕ) (d : ℚ) : multiplied q n d = d * q ^ n := by
  induction n generalizing d with
  | zero => simp [multiplied]
  | succ n ih =>
    rw [multiplied, ih]
    ring

lemma checked_eq_some {z : ℤ} {d : CInt} : checked z = some d ↔ d.1 = z := by
  unfold checked
  split_ifs with h
  · rw [Option.some_inj, Subtype.ext_iff]
    exact eq_comm
  · refine iff_of_false nofun (fun hd => h (hd ▸ d.2))

lemma castInt_intCast (z : ℤ) : castInt z = checked z := by
  rw [castInt, Rat.num_intCast, Rat.den_intCast]
  simp

lemma backedOff_eq (hm : p.backOffMulitplier = m) (n : ℕ) :
    p.backedOff n = ((p.initialDelayMs.1 * m ^ n : ℤ) : ℚ) := by
  rw [backedOff, multiplied_eq, hm]
  push_cast
  ring

lemma fits_iff (h0 : 0 ≤ p.initialDelayMs.1) (hm : 1 ≤ m) :
    IsInt (p.initialDelayMs.1 * m ^ n) ↔
      p.initialDelayMs.1 = 0 ∨ m = 1 ∨ n ≤ Nat.log m ((2 ^ 31 - 1) / p.initialDelayMs.1.toNat) := by
  obtain ⟨i, hi⟩ := Int.eq_ofNat_of_zero_le h0
  have hmax : i < 2 ^ 31 := by
    have h := p.initialDelayMs.2.2
    rw [hi] at h
    exact_mod_cast h
  rw [hi, Int.toNat_natCast]
  have hfits : IsInt ((i : ℤ) * m ^ n) ↔ i * m ^ n ≤ 2 ^ 31 - 1 := by
    have hcast : (i : ℤ) * m ^ n = ((i * m ^ n : ℕ) : ℤ) := by push_cast; ring
    rw [hcast, IsInt]
    generalize i * m ^ n = k
    omega
  rw [hfits]
  rcases Nat.eq_zero_or_pos i with rfl | hpos
  · simp
  · rcases Nat.eq_or_lt_of_le hm with rfl | hlt
    · simp only [one_pow, mul_one]
      exact iff_of_true (by omega) (.inr (.inl trivial))
    · have hne : (2 ^ 31 - 1) / i ≠ 0 := (Nat.div_pos (by omega) hpos).ne'
      rw [Nat.le_log_iff_pow_le hlt hne, Nat.le_div_iff_mul_le hpos, Nat.mul_comm]
      refine ⟨fun h => .inr (.inr h), fun h => ?_⟩
      rcases h with h | h | h
      · exact absurd (Int.ofNat_eq_zero.mp h) hpos.ne'
      · exact absurd h hlt.ne'
      · exact h

lemma BacksOff.of_fits (h0 : 0 ≤ p.initialDelayMs.1) (hm : p.backOffMulitplier = m)
    (hmax0 : 0 ≤ p.maximumDelayMs.1) (hmax : p.maximumDelayMs.1 ≤ 2 ^ 30)
    (hfits : IsInt (p.initialDelayMs.1 * m ^ n)) : BacksOff generator p m n := by
  have hcast : castInt (p.backedOff n) = some ⟨_, hfits⟩ := by
    rw [backedOff_eq hm, castInt_intCast, checked_eq_some]
  obtain ⟨d, hd, hmin⟩ : ∃ d, p.delayForRetry n = some d ∧
      d.1 = min (p.initialDelayMs.1 * m ^ n) p.maximumDelayMs.1 := by
    rw [delayForRetry, hcast, Option.map_some]
    refine ⟨_, rfl, ?_⟩
    dsimp only
    split_ifs with hlt
    · exact (min_eq_left hlt.le).symm
    · exact (min_eq_right (le_of_not_gt hlt)).symm
  have hd0 : 0 ≤ d.1 := by
    rw [hmin]
    exact le_min (by positivity) hmax0
  have hdmax : d.1 ≤ p.maximumDelayMs.1 := hmin ▸ min_le_right _ _
  refine ⟨⟨_, hcast⟩, ⟨d, hd, hmin⟩, ?_⟩
  rw [retryDelay, hd]
  by_cases hj : p.useJitter = true
  · have hquarter : d.1.tdiv 4 = d.1 / 4 := Int.tdiv_eq_ediv_of_nonneg hd0
    obtain ⟨hlow, hhigh⟩ := generator.bounded_range (max 1 (d.1.tdiv 4)) (lt_max_of_lt_left one_pos)
    rw [hquarter] at hlow hhigh
    generalize hr : generator.bounded (max 1 (d.1 / 4)) = jitter at hlow hhigh
    have hint : IsInt (d.1 + jitter) := by
      unfold IsInt
      omega
    refine ⟨⟨_, hint⟩, ?_, ?_, ?_⟩
    · simp only [Option.bind_eq_bind, Option.bind_some, hj, Bool.not_true, Bool.false_eq_true, if_false, hquarter, hr,
        checked_eq_some]
    · dsimp only
      omega
    · dsimp only
      omega
  · refine ⟨d, ?_, hd0, by omega⟩
    simp [hj]

/-- The delays are right as long as the product fits an `int`: it is cut off at the maximum only
after its conversion. -/
theorem backsOff_iff (generator : Generator) (p : RetryPolicy) (m n : ℕ) (h0 : 0 ≤ p.initialDelayMs.1)
    (hm1 : 1 ≤ m) (hm : p.backOffMulitplier = m) (hmax0 : 0 ≤ p.maximumDelayMs.1)
    (hmax : p.maximumDelayMs.1 ≤ 2 ^ 30) :
    BacksOff generator p m n ↔
      p.initialDelayMs.1 = 0 ∨ m = 1 ∨ n ≤ Nat.log m ((2 ^ 31 - 1) / p.initialDelayMs.1.toNat) := by
  rw [← fits_iff h0 hm1]
  refine ⟨fun h => ?_, BacksOff.of_fits h0 hm hmax0 hmax⟩
  obtain ⟨d, hd⟩ := h.converts
  rw [backedOff_eq hm, castInt_intCast, checked_eq_some] at hd
  exact hd ▸ d.2

end

def noJitter : Generator := ⟨fun _ => 0, fun _ hk => ⟨le_rfl, hk⟩⟩

def conversationsPolicy : RetryPolicy := { maximumRetries := ⟨1000, by decide⟩ }

/-- After 23 retries half a second has become more milliseconds than an `int` holds. -/
theorem conversations_overflow :
    ¬∀ (generator : Generator) (p : RetryPolicy) (m n : ℕ), 0 ≤ p.initialDelayMs.1 → 1 ≤ m →
      p.backOffMulitplier = m → 0 ≤ p.maximumDelayMs.1 → p.maximumDelayMs.1 ≤ 2 ^ 30 →
      (n : ℤ) < p.maximumRetries.1 → BacksOff generator p m n := by
  intro h
  have hback := h noJitter conversationsPolicy 2 23 (by decide) (by decide) rfl (by decide) (by decide) (by decide)
  obtain ⟨d, hd⟩ := hback.converts
  rw [backedOff_eq (m := 2) rfl, castInt_intCast, checked_eq_some] at hd
  have hlt := d.2.2
  rw [hd] at hlt
  exact absurd hlt (by decide)

theorem conversations_first_delays : BacksOff noJitter conversationsPolicy 2 22 := by
  refine (backsOff_iff noJitter conversationsPolicy 2 22 (by decide) (by decide) rfl (by decide) (by decide)).mpr
    (.inr (.inr ?_))
  exact Nat.le_log_of_pow_le (by decide) (by decide)

end RetryPolicy

end ChatDesktop.Network
