import InetAddress.Proofs.Octets.Order
import InetAddress.V6.Index

/-!
# Octets and bits of the number of an address

The octets of an address spell a number, and the four ways to ask for an octet or a bit are ways to
ask for a digit of it:

```text
highOctet i    digit 15 - i in base 256
lowOctet i     digit i in base 256
highBit i      digit 127 - i in base 2
lowBit i       digit i in base 2
```

An index is compared with its bound before anything is computed from it.  That matters where it is a
word, since a difference of words may wrap and a place may lie outside of the row.  So the answers
are found once more with operations that have no value in such a case, and it is shown that the
values are never missing (`highOctet?_eq`, `lowOctet?_eq`, `highBit?_eq`, `lowBit?_eq`).
-/

namespace InetAddress

/-- A digit in base 256 of the number that a row spells. -/
theorem Octets.toNat_octet {n k : Nat} (x : Octets n) (hk : k < n) :
    (x.octet k).toNat = x.value >>> (8 * (n - 1 - k)) % 256 := by
  have hspelled : (ofValue x.value : Octets n).octet k =
      UInt8.ofNat (x.value >>> (8 * (n - 1 - k))) := by
    rw [octet_eq_getElem hk, ofValue, Vector.getElem_ofFn]
  rw [← UInt8.toNat_ofNat', ← hspelled, ofValue_value]

/-! ## Operations that may have no value -/

namespace Word

/-- The difference of two words, unless it wraps. -/
def sub? (x y : UInt64) : Option UInt64 :=
  if y ≤ x then some (x - y) else none

/-- An octet moved to the right, by fewer places than it has. -/
def shiftRight? (octet : UInt8) (count : UInt64) : Option UInt8 :=
  if count < 8 then some (octet >>> count.toUInt8) else none

variable {x y count : UInt64}

theorem sub?_eq_some (h : y.toNat ≤ x.toNat) :
    ∃ difference, sub? x y = some difference ∧ difference.toNat = x.toNat - y.toNat := by
  have hle : y ≤ x := UInt64.le_iff_toNat_le.mpr h
  exact ⟨x - y, if_pos hle, UInt64.toNat_sub_of_le x y hle⟩

/-- The bit that is moved to the end of an octet. -/
theorem shiftRight?_eq_some (octet : UInt8) (h : count.toNat < 8) :
    ∃ shifted, shiftRight? octet count = some shifted ∧
      (shifted &&& 1 != 0) = octet.toNat.testBit count.toNat := by
  refine ⟨octet >>> count.toUInt8, if_pos (UInt64.lt_iff_toNat_lt.mpr h), ?_⟩
  have hcount : count.toUInt8.toNat % 8 = count.toNat := by
    rw [UInt64.toNat_toUInt8]
    omega
  rw [Bool.eq_iff_iff, bne_iff_ne, ne_eq, ← UInt8.toNat_inj, UInt8.toNat_and,
    UInt8.toNat_shiftRight, hcount, Nat.and_comm]
  exact bne_iff_ne.symm

end Word

/-- The octet at a place, unless the place is outside of the row. -/
def Octets.octet? {n : Nat} (x : Octets n) (place : UInt64) : Option UInt8 :=
  x[place.toNat]?

theorem Octets.octet?_eq_some {n : Nat} {x : Octets n} {place : UInt64} (h : place.toNat < n) :
    x.octet? place = some (x.octet place.toNat) := by
  rw [octet?, getElem?_eq_octet h]

namespace V6

variable {a b : V6} {i : Nat} {e : Error}

/-! ## Indices that are words -/

/-- An answer for an index below a bound.  The answer may have no value, which does not matter
beyond the bound. -/
def indexed? {α : Type} (bound index : UInt64) (answer : Option (Except Error α)) :
    Option (Except Error α) :=
  if index < bound then answer else some (.error (.noSuchIndex index.toNat bound.toNat))

/-- The octet at an index from the most significant. -/
def highOctet? (a : V6) (index : UInt64) : Option (Except Error UInt8) :=
  indexed? 16 index do
    let octet ← a.octets.octet? index
    return .ok octet

/-- The octet at an index from the least significant. -/
def lowOctet? (a : V6) (index : UInt64) : Option (Except Error UInt8) :=
  indexed? 16 index do
    let place ← Word.sub? 15 index
    let octet ← a.octets.octet? place
    return .ok octet

/-- The bit at an index from the most significant. -/
def highBit? (a : V6) (index : UInt64) : Option (Except Error Bool) :=
  indexed? 128 index do
    let octet ← a.octets.octet? (index / 8)
    let count ← Word.sub? 7 (index % 8)
    let shifted ← Word.shiftRight? octet count
    return .ok (shifted &&& 1 != 0)

/-- The bit at an index from the least significant. -/
def lowBit? (a : V6) (index : UInt64) : Option (Except Error Bool) :=
  indexed? 128 index do
    let place ← Word.sub? 127 index
    a.highBit? place

theorem indexed?_eq {α : Type} {bound index : UInt64} {answer : Option (Except Error α)} {x : α}
    (h : index.toNat < bound.toNat → answer = some (.ok x)) :
    indexed? bound index answer = some (if index.toNat < bound.toNat then .ok x
      else .error (.noSuchIndex index.toNat bound.toNat)) := by
  unfold indexed?
  rw [apply_ite some]
  exact if_ctx_congr UInt64.lt_iff_toNat_lt h fun _ => rfl

theorem highOctet?_eq (a : V6) (index : UInt64) :
    a.highOctet? index = some (a.highOctet index.toNat) := by
  apply indexed?_eq
  intro h
  rw [Octets.octet?_eq_some h]
  rfl

theorem lowOctet?_eq (a : V6) (index : UInt64) :
    a.lowOctet? index = some (a.lowOctet index.toNat) := by
  apply indexed?_eq
  intro h
  obtain ⟨place, hsub, hplace⟩ := Word.sub?_eq_some (x := 15) (Nat.le_of_lt_succ h)
  have hrow : place.toNat < 16 := hplace ▸ Nat.lt_succ_of_le (Nat.sub_le 15 _)
  rw [hsub, Option.bind_eq_bind, Option.bind_some, Octets.octet?_eq_some hrow, hplace]
  rfl

theorem highBit?_eq (a : V6) (index : UInt64) :
    a.highBit? index = some (a.highBit index.toNat) := by
  apply indexed?_eq
  intro h
  have hplace : (index / 8).toNat = index.toNat / 8 := UInt64.toNat_div index 8
  have hrest : (index % 8).toNat = index.toNat % 8 := UInt64.toNat_mod index 8
  have hrow : (index / 8).toNat < 16 := hplace ▸ Nat.div_lt_of_lt_mul h
  have hseven : (index % 8).toNat ≤ 7 :=
    hrest ▸ Nat.le_of_lt_succ (Nat.mod_lt index.toNat (by decide))
  obtain ⟨count, hsub, hcount⟩ := Word.sub?_eq_some (x := 7) hseven
  obtain ⟨shifted, hshift, hbit⟩ := Word.shiftRight?_eq_some
    (a.octets.octet (index / 8).toNat) (hcount ▸ Nat.lt_succ_of_le (Nat.sub_le 7 _))
  have hread : (shifted &&& 1 != 0) = a.octets.bit index.toNat := by
    rw [hbit, hcount, hplace, hrest]
    rfl
  simp only [Octets.octet?_eq_some hrow, hsub, hshift, hread, Option.bind_eq_bind,
    Option.bind_some]
  rfl

theorem lowBit?_eq (a : V6) (index : UInt64) :
    a.lowBit? index = some (a.lowBit index.toNat) := by
  apply indexed?_eq
  intro h
  obtain ⟨place, hsub, hplace⟩ := Word.sub?_eq_some (x := 127) (Nat.le_of_lt_succ h)
  have hrow : place.toNat < 128 := hplace ▸ Nat.lt_succ_of_le (Nat.sub_le 127 _)
  rw [hsub, Option.bind_eq_bind, Option.bind_some, highBit?_eq, highBit, if_pos hrow, hplace]
  rfl

/-! ## Digits -/

section Indexed

variable {α : Type} {bound : Nat} {x y : α}

theorem indexed_eq_ok_iff :
    (if i < bound then .ok x else .error (.noSuchIndex i bound) : Except Error α) = .ok y ↔
      i < bound ∧ y = x := by
  split
  · next h => simp [h, eq_comm]
  · next h => simp [h]

theorem indexed_eq_error_iff :
    (if i < bound then .ok x else .error (.noSuchIndex i bound) : Except Error α) = .error e ↔
      bound ≤ i ∧ e = .noSuchIndex i bound := by
  split
  · next h => simp [h]
  · next h => simp [Nat.le_of_not_lt h, eq_comm]

end Indexed

theorem highOctet_eq_ok_iff {octet : UInt8} : a.highOctet i = .ok octet ↔
    i < 16 ∧ octet.toNat = a.octets.value >>> (8 * (15 - i)) % 256 := by
  rw [highOctet, indexed_eq_ok_iff]
  refine and_congr_right fun hi => ?_
  rw [← UInt8.toNat_inj, Octets.toNat_octet a.octets hi]

theorem lowOctet_eq_ok_iff {octet : UInt8} : a.lowOctet i = .ok octet ↔
    i < 16 ∧ octet.toNat = a.octets.value >>> (8 * i) % 256 := by
  rw [lowOctet, indexed_eq_ok_iff]
  refine and_congr_right fun hi => ?_
  rw [← UInt8.toNat_inj, Octets.toNat_octet a.octets (by omega : 15 - i < 16),
    show 16 - 1 - (15 - i) = i by omega]

theorem highBit_eq_ok_iff {bit : Bool} : a.highBit i = .ok bit ↔
    i < 128 ∧ bit = a.octets.value.testBit (127 - i) := by
  rw [highBit, indexed_eq_ok_iff]
  refine and_congr_right fun hi => ?_
  rw [← Octets.testBit_value (x := a.octets) hi]

theorem lowBit_eq_ok_iff {bit : Bool} : a.lowBit i = .ok bit ↔
    i < 128 ∧ bit = a.octets.value.testBit i := by
  rw [lowBit, indexed_eq_ok_iff]
  refine and_congr_right fun hi => ?_
  rw [← Octets.testBit_value (x := a.octets) (by omega : 127 - i < 8 * 16),
    show 8 * 16 - 1 - (127 - i) = i by omega]

theorem octets_eq_iff_highBit : a.octets = b.octets ↔ ∀ i < 128, a.highBit i = b.highBit i := by
  refine ⟨fun h i _ => ?_, fun h => Octets.ext_of_bit fun i hi => ?_⟩
  · rw [highBit, highBit, h]
  · have hbit := h i hi
    rwa [highBit, highBit, if_pos hi, if_pos hi, Except.ok.injEq] at hbit

/-- **Octets and bits are digits of the number that an address spells.**  There are sixteen octets
and 128 bits, and for an index beyond them the error names the index and the bound.  No index that
fits into a word makes a difference wrap or a place lie outside of the row.  Addresses with the same
bits have the same octets. -/
theorem accessors_value :
    (∀ (a : V6) (i : Nat),
      (∀ octet, a.highOctet i = .ok octet ↔
        i < 16 ∧ octet.toNat = a.octets.value >>> (8 * (15 - i)) % 256) ∧
      (∀ octet, a.lowOctet i = .ok octet ↔
        i < 16 ∧ octet.toNat = a.octets.value >>> (8 * i) % 256) ∧
      (∀ bit, a.highBit i = .ok bit ↔ i < 128 ∧ bit = a.octets.value.testBit (127 - i)) ∧
      (∀ bit, a.lowBit i = .ok bit ↔ i < 128 ∧ bit = a.octets.value.testBit i) ∧
      ∀ e,
        (a.highOctet i = .error e ↔ 16 ≤ i ∧ e = .noSuchIndex i 16) ∧
        (a.lowOctet i = .error e ↔ 16 ≤ i ∧ e = .noSuchIndex i 16) ∧
        (a.highBit i = .error e ↔ 128 ≤ i ∧ e = .noSuchIndex i 128) ∧
        (a.lowBit i = .error e ↔ 128 ≤ i ∧ e = .noSuchIndex i 128)) ∧
    (∀ (a : V6) (index : UInt64),
      a.highOctet? index = some (a.highOctet index.toNat) ∧
      a.lowOctet? index = some (a.lowOctet index.toNat) ∧
      a.highBit? index = some (a.highBit index.toNat) ∧
      a.lowBit? index = some (a.lowBit index.toNat)) ∧
    ∀ a b : V6, a.octets = b.octets ↔ ∀ i < 128, a.highBit i = b.highBit i := by
  refine ⟨fun a i => ⟨fun _ => highOctet_eq_ok_iff, fun _ => lowOctet_eq_ok_iff,
    fun _ => highBit_eq_ok_iff, fun _ => lowBit_eq_ok_iff, fun e => ?_⟩, fun a index => ?_,
    fun a b => octets_eq_iff_highBit⟩
  · exact ⟨indexed_eq_error_iff, indexed_eq_error_iff, indexed_eq_error_iff, indexed_eq_error_iff⟩
  · exact ⟨highOctet?_eq a index, lowOctet?_eq a index, highBit?_eq a index, lowBit?_eq a index⟩

end V6

end InetAddress
