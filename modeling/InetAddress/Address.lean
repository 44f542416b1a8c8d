import InetAddress.V6.Text
import InetAddress.Descriptor

/-!
# Addresses of either family

A mapped IPv6 address and the IPv4 address it carries are the same address for most purposes. The
key of an address makes that precise: two addresses are the same when their keys are equal, and
then their digests are equal too.
-/

namespace InetAddress

/-- An address of either family. -/
inductive Address where
  | v4 (a : V4)
  | v6 (a : V6)
deriving DecidableEq

namespace Address

/-- The family of an address. -/
def family : Address → Family
  | v4 _ => .v4
  | v6 _ => .v6

/-- The number of bits in an address. -/
def width (a : Address) : Nat :=
  a.family.width

/-- The text of an address, in the manner of its family. -/
def text : Address → String
  | v4 a => a.text
  | v6 a => a.text

/-- The digest of an address. -/
def digest : Address → UInt64
  | v4 a => a.digest
  | v6 a => a.digest

/-- The words that an address hands to a hasher of the caller's. There is one, its digest. -/
def feed (a : Address) : List UInt64 :=
  [a.digest]

/-- The description of an address. -/
def describe (a : Address) : Descriptor :=
  ⟨a.family, a.text, a.digest⟩

/-- The description as a JSON object. That of an IPv6 address holds the canonical text, so it is
there only if the text is. -/
def toJson : Address → Except Error String
  | v4 a => .ok (Descriptor.json ⟨.v4, a.text, a.digest⟩)
  | v6 a => a.canonicalText.map fun text => Descriptor.json ⟨.v6, text, a.digest⟩

/-! ## Sameness -/

/-- What an address is known by: the carried IPv4 address if it is mapped, else itself. -/
def key : Address → Address
  | v4 a => v4 a
  | v6 a =>
      match a.mapped? with
      | some carried => v4 carried
      | none => v6 a

/-- Whether two addresses are known by the same key. -/
def same (a b : Address) : Bool :=
  a.key == b.key

theorem same_iff {a b : Address} : a.same b ↔ a.key = b.key := by
  simp [same]

/-- An address has the digest of its key. -/
theorem digest_key (a : Address) : a.key.digest = a.digest := by
  cases a with
  | v4 a => rfl
  | v6 a =>
      cases hmapped : a.mapped? with
      | none => simp [key, hmapped]
      | some carried => simp [key, digest, V6.digest, hmapped]

theorem digest_eq_of_same {a b : Address} (h : a.same b) : a.digest = b.digest := by
  rw [← digest_key a, ← digest_key b, same_iff.mp h]

end Address

end InetAddress
