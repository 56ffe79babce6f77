import Mathlib.Algebra.Group.Int.Defs
import Mathlib.Tactic.Common

/-! The pinned chain of the server: root, intermediate and server certificate are searched for in the list the
peer presents, then names and signatures are compared. -/

namespace ChatDesktop.Network

structure BasicConstraints where
  ca : Bool
  pathlen : Option Int
  deriving DecidableEq

structure X509 (Name Key Signature : Type) where
  subject : Name
  issuer : Name
  basicConstraints : Option BasicConstraints
  key : Key
  signature : Signature
  deriving DecidableEq

variable {Name Key Signature : Type}

section

variable (chain : List (Option (X509 Name Key Signature)))

end

section

variable [DecidableEq Name] (verify : X509 Name Key Signature → Key → Verification)

end

section

variable {chain : List (Option (X509 Name Key Signature))} {c server intermediate root : X509 Name Key Signature}

variable {verify : X509 Name Key Signature → Key → Verification}

variable [DecidableEq Name]

end

/-! ### A signature that cannot be checked -/

def root : X509 String ℕ Bool := ⟨"root", "root", some ⟨true, some 1⟩, 0, true⟩

end ChatDesktop.Network
