import InetAddress.Proofs.Languages
import InetAddress.Proofs.Network.Common

/-!
# The normal form of a network

What a text is read as has been masked: it is in normal form.  There is one normal
form to a network, in three ways.

* Masking changes nothing more, and what a normal form is written as is read as the
  same normal form (`parse_text_of_isNormal`).
* Of two normal forms with the same members there is only one.  A network in normal
  form is the hull of its members (`isHull_of_isNormal`), and hulls are unique.
* All spellings lead to it.  A text spells a network just when it asks for the length
  of the network and its host agrees with the base on so many bits (`spells_iff`); what
  else the host says, in other bits, a zone, brackets or capital letters, is not
  looked at.
-/

namespace InetAddress

/-- For a row that is masked already, to be what a mask leaves of another row is to agree with it on
the bits that are kept. -/
theorem Octets.eq_mask_iff_agree {n : Nat} {x y : Octets n} {length : Nat}
    (hy : y = y.mask length) : y = x.mask length ↔ ∀ i < length, x.bit i = y.bit i := by
  rw [← mask_eq_mask_iff]
  constructor
  · intro h
    exact h.symm.trans hy
  · intro h
    exact hy.trans h.symm

namespace Address

variable {a b : Address} {n : Nat}

theorem slash_not_mem_text (a : Address) : '/' ∉ a.text.toList :=
  not_mem_of_parse a.parse_text (by decide)

/-- Addresses of one family that agree on the first `n` bits. -/
inductive Agree (n : Nat) : Address → Address → Prop
  | v4 {a b : V4} (hbits : ∀ i < n, a.octets.bit i = b.octets.bit i) : Agree n (v4 a) (v4 b)
  | v6 {a b : V6} (hbits : ∀ i < n, a.octets.bit i = b.octets.bit i) : Agree n (v6 a) (v6 b)

theorem length_le_of_mask (h : a.mask n = .ok b) : n ≤ a.width := by
  by_contra hn
  rw [mask_of_width_lt (Nat.lt_of_not_le hn)] at h
  cases h

/-- A mask returns the address that is cut down to the length, if it is within the width. -/
theorem mask_eq_ok_iff : a.mask n = .ok b ↔ n ≤ a.width ∧ CutDown n a b := by
  constructor
  · intro h
    have hn := length_le_of_mask h
    obtain ⟨c, hc⟩ := exists_cutDown a n
    rw [mask_of_cutDown hc hn] at h
    exact ⟨hn, Except.ok.inj h ▸ hc⟩
  · rintro ⟨hn, h⟩
    exact mask_of_cutDown h hn

theorem cutDown_v4_iff {a b : V4} : CutDown n (v4 a) (v4 b) ↔ b.octets = a.octets.mask n := by
  rw [Octets.eq_mask_iff]
  constructor
  · rintro ⟨hbits⟩
    exact hbits
  · exact .v4

theorem cutDown_v6_iff {a b : V6} :
    CutDown n (v6 a) (v6 b) ↔ b.octets = a.octets.mask n ∧ b.zone = 0 := by
  rw [Octets.eq_mask_iff]
  constructor
  · rintro (⟨-⟩ | ⟨hbits, hzone⟩)
    exact ⟨hbits, hzone⟩
  · rintro ⟨hbits, hzone⟩
    exact .v6 hbits hzone

/-- What is cut down stays as it is when it is cut down again. -/
theorem CutDown.again (h : CutDown n a b) : CutDown n b b := by
  cases h with
  | v4 hbits =>
      refine .v4 fun i hi => ?_
      rw [hbits i hi, Bool.and_assoc, Bool.and_self]
  | v6 hbits hzone =>
      refine .v6 (fun i hi => ?_) hzone
      rw [hbits i hi, Bool.and_assoc, Bool.and_self]

/-- An address is cut down to one that is cut down already if it agrees with it. -/
theorem cutDown_iff_agree (hb : CutDown n b b) : CutDown n a b ↔ Agree n a b := by
  constructor
  · intro h
    cases h with
    | v4 hbits =>
        apply Agree.v4
        exact (Octets.eq_mask_iff_agree (cutDown_v4_iff.mp hb)).mp (Octets.eq_mask_iff.mpr hbits)
    | v6 hbits hzone =>
        apply Agree.v6
        exact (Octets.eq_mask_iff_agree (cutDown_v6_iff.mp hb).1).mp (Octets.eq_mask_iff.mpr hbits)
  · intro h
    cases h with
    | v4 hagree =>
        have hself := cutDown_v4_iff.mp hb
        exact cutDown_v4_iff.mpr ((Octets.eq_mask_iff_agree hself).mpr hagree)
    | v6 hagree =>
        obtain ⟨hself, hzone⟩ := cutDown_v6_iff.mp hb
        exact cutDown_v6_iff.mpr ⟨(Octets.eq_mask_iff_agree hself).mpr hagree, hzone⟩

end Address

namespace Network

variable {cidr host : String} {length : Option String} {network : Network} {a : Address}
  {x y : V6} {n l m : Nat}

/-! ## Normal forms -/

/-- The base of a network and its length. -/
def text (network : Network) : String :=
  V6.withLength network.base.text network.length

/-- A network whose base is masked to its length. -/
def IsNormal (network : Network) : Prop :=
  network.base.mask network.length = .ok network.base

theorem isNormal_iff :
    IsNormal network ↔ network.length ≤ network.base.width ∧
      Address.CutDown network.length network.base network.base :=
  Address.mask_eq_ok_iff

theorem isNormal_of_parse (h : parse cidr = .ok network) : IsNormal network := by
  cases parse_eq_iff_reads.mp h with
  | network _ _ _ hn hbase => exact isNormal_iff.mpr ⟨hbase.width_eq ▸ hn, hbase.again⟩

/-- An address and a length are read as the address masked to the length. -/
theorem parse_withLength {base : Address} (hslash : '/' ∉ host.toList)
    (hhost : Address.parse host = .ok a) (hbase : a.mask n = .ok base) :
    parse (V6.withLength host n) = .ok ⟨base, n⟩ := by
  obtain ⟨hn, hcut⟩ := Address.mask_eq_ok_iff.mp hbase
  exact parse_of_reads (.network (.slash hslash) hhost (V6.asks_write _ n) hn hcut)

/-- What a normal form is written as is read as the same normal form. -/
theorem parse_text_of_isNormal (h : IsNormal network) : parse network.text = .ok network :=
  parse_withLength network.base.slash_not_mem_text network.base.parse_text h

/-! ## Members -/

/-- An IPv6 network in normal form is the hull of its members. -/
theorem isHull_of_isNormal (h : IsNormal ⟨.v6 x, n⟩) : V6.IsHull (V6.members x n) x n := by
  obtain ⟨hn, hbase⟩ := isNormal_iff.mp h
  obtain ⟨hoctets, hzone⟩ := Address.cutDown_v6_iff.mp hbase
  have hself : V6.ofOctets (x.octets.mask n) = x := by rw [V6.ofOctets, ← hoctets, ← hzone]
  have hhull := V6.isHull_members x hn
  rwa [hself] at hhull

theorem members_eq_iff (hx : IsNormal ⟨.v6 x, l⟩) (hy : IsNormal ⟨.v6 y, m⟩) :
    V6.members x l = V6.members y m ↔ x = y ∧ l = m := by
  constructor
  · intro h
    have hhull := isHull_of_isNormal hx
    rw [h] at hhull
    exact hhull.unique (isHull_of_isNormal hy)
  · rintro ⟨rfl, rfl⟩
    rfl

/-! ## Spellings -/

/-- The spellings of a normal form are the texts that ask for its length and have a host that agrees
with its base on so many bits. -/
theorem spells_iff (h : IsNormal network) (hcut : Cut cidr host length)
    (hhost : Address.parse host = .ok a) (hasks : Asks a.width length n) :
    parse cidr = .ok network ↔ n = network.length ∧ a.Agree n network.base := by
  obtain ⟨base, l⟩ := network
  obtain ⟨hl, hself⟩ := isNormal_iff.mp h
  constructor
  · intro hparse
    by_cases hn : n ≤ a.width
    · obtain ⟨c, hc⟩ := Address.exists_cutDown a n
      rw [parse_of_reads (.network hcut hhost hasks hn hc)] at hparse
      cases hparse
      exact ⟨rfl, (Address.cutDown_iff_agree hself).mp hc⟩
    · rw [parse_of_reads (.excess hcut hhost hasks (Nat.lt_of_not_le hn))] at hparse
      cases hparse
  · rintro ⟨rfl, hagree⟩
    have hbase := (Address.cutDown_iff_agree hself).mpr hagree
    exact parse_of_reads (.network hcut hhost hasks (hbase.width_eq ▸ hl) hbase)

/-- **However a network is spelled, it is read as one value**, and this is masked, without a zone,
and read again from what it is written as.  Two IPv6 networks have the same members just when
they are the same value.  The other spellings of a network are the texts with a host that agrees
with it on the leading bits and a number that is its length. -/
theorem parse_normalForm (cidr : String) (network : Network)
    (h : parse cidr = .ok network) :
    network.base.mask network.length = .ok network.base ∧
    parse network.text = .ok network ∧
    (∀ x, network.base = .v6 x → x.zone = 0 ∧
      ∀ other y m, parse other = .ok ⟨.v6 y, m⟩ →
        (V6.members x network.length = V6.members y m ↔ x = y ∧ network.length = m)) ∧
    ∀ other host length a n, Cut other host length → Address.parse host = .ok a →
      Asks a.width length n →
        (parse other = .ok network ↔ n = network.length ∧ a.Agree n network.base) := by
  have hnormal := isNormal_of_parse h
  refine ⟨hnormal, parse_text_of_isNormal hnormal, fun x hx => ?_,
    fun other host length a n => spells_iff hnormal⟩
  obtain ⟨base, l⟩ := network
  subst hx
  exact ⟨(isHull_of_isNormal hnormal).zone,
    fun other y m hother => members_eq_iff hnormal (isNormal_of_parse hother)⟩

/-- Brackets, capital letters, a zone, bits of the host and zeros before the length, and what is
left of them. -/
theorem one_value_of_bracketed_zoned :
    let network : Network :=
      ⟨.v6 (V6.ofOctets #v[0x20, 1, 0x0d, 0xb8, 0, 0, 0, 0, 0, 0, 0, 0, 0, 0, 0, 0]), 32⟩
    parse "[2001:DB8::FFFF%7]/0032" = .ok network ∧ network.text = "2001:db8::/32" ∧
      parse "2001:db8::/32" = .ok network := by
  intro network
  have hparse : parse "[2001:DB8::FFFF%7]/0032" = .ok network := by decide +kernel
  have htext : network.text = "2001:db8::/32" := by decide +kernel
  obtain ⟨-, hagain, -⟩ := parse_normalForm "[2001:DB8::FFFF%7]/0032" network hparse
  rw [htext] at hagain
  exact ⟨hparse, htext, hagain⟩

end Network

end InetAddress
