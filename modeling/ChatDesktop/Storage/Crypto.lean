import ChatDesktop.Library.LittleEndian

/-! The cryptographic primitives a store relies on: a source of random bytes, key derivation and
authenticated encryption. The encryption is ideal: what was encrypted under a key, nonce and
associated data is decrypted to the same bytes, and anything else fails. -/

namespace ChatDesktop.Storage

abbrev Bytes := List UInt8

def kNonce : ℕ := 24
def kTag : ℕ := 16

structure Crypto where
  /-- `random t n` is what the draw number `t` returns when asked for `n` bytes. -/
  random : ℕ → ℕ → Bytes
  deriveKey : Bytes → Bytes → Bytes
  /-- Key, nonce, associated data and plaintext to ciphertext followed by the tag. -/
  aeadEncrypt : Bytes → Bytes → Bytes → Bytes → Bytes
  aeadDecrypt : Bytes → Bytes → Bytes → Bytes → Option Bytes
  length_random : ∀ t n, (random t n).length = n
  length_encrypt : ∀ k n ad p, (aeadEncrypt k n ad p).length = p.length + kTag
  decrypt_encrypt : ∀ k n ad p, aeadDecrypt k n ad (aeadEncrypt k n ad p) = some p
  /-- Nothing but an encryption under the same key, nonce and associated data is accepted. -/
  encrypt_of_decrypt : ∀ k n ad c p, aeadDecrypt k n ad c = some p → aeadEncrypt k n ad p = c
  /-- Zero bytes are not the result of an encryption. -/
  encrypt_ne_zero : ∀ k n ad p, aeadEncrypt k n ad p ≠ List.replicate (p.length + kTag) 0

namespace Crypto

lemma decrypt_zero (C : Crypto) (k n ad : Bytes) (m : ℕ) :
    C.aeadDecrypt k n ad (List.replicate m 0) = none := by
  cases h : C.aeadDecrypt k n ad (List.replicate m 0) with
  | none => rfl
  | some p =>
    have he := C.encrypt_of_decrypt k n ad _ p h
    have hl : p.length + kTag = m := by rw [← C.length_encrypt k n ad p, he, List.length_replicate]
    exact absurd he (hl ▸ C.encrypt_ne_zero k n ad p)

/-- A transparent instance: the ciphertext is the plaintext, the tag holds the first bytes of the
key's and the associated data and ends in a mark. -/
def transparent : Crypto where
  random _ n := List.replicate n 7
  deriveKey pw salt := (pw ++ salt ++ List.replicate 32 0).take 32
  aeadEncrypt k _ ad p := p ++ ((k ++ List.replicate 7 0).take 7 ++ (ad ++ List.replicate 8 0).take 8 ++ [1])
  aeadDecrypt k _ ad c :=
    if c.drop (c.length - 16) = (k ++ List.replicate 7 0).take 7 ++ (ad ++ List.replicate 8 0).take 8 ++ [1]
    then some (c.take (c.length - 16)) else none
  length_random _ n := by simp
  length_encrypt k n ad p := by simp [kTag]
  decrypt_encrypt k n ad p := by simp
  encrypt_of_decrypt k n ad c p h := by
    split_ifs at h with hc
    obtain rfl := Option.some.inj h
    rw [← hc, List.take_append_drop]
  encrypt_ne_zero k n ad p h := by
    have hm : (1 : UInt8) ∈ List.replicate (p.length + kTag) (0 : UInt8) := by rw [← h]; simp
    exact absurd (List.eq_of_mem_replicate hm) (by decide)

end Crypto

end ChatDesktop.Storage
