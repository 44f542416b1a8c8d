import InetAddress.Proofs.Octets.Leading
import InetAddress.V6.Mask
import Mathlib.Order.Bounds.Basic

/-!
# The scan for common bits

The bits that two rows share can be found with a place that moves along both of them:

```text
scan      go on while there is an octet, it begins before the limit, and it is equal in both
stop      eight bits for each octet behind, the limit at most
refine    if that is less than the limit: the high bits that the octets at the place share
mask      the table of masks has one for each length
```

Two steps rely on what the scan has found.  The refinement reads both rows at a place that
may be past their end, and the mask is looked up at a length that may be past the end of
the table.  So places and lengths are looked up here in a way that has no value outside.
Equal rows and a limit beyond their bits are all that can lead there
(`sharedWithin?_eq`), and no limit is beyond 128 bits, since lengths are cut down to that.
What is found is what `common` says (`common?_eq`).
-/

namespace InetAddress.Octets

variable {n : Nat} {x y : Octets n} {limit place : Nat}

/-! ## The scan -/

/-- The first place, from a given one on, at which the rows end, the limit has been reached or the
octets differ. -/
def scan? (x y : Octets n) (limit place : Nat) : Option Nat :=
  if h : place < n ∧ 8 * place < limit then do
    let octet ← x[place]?
    let other ← y[place]?
    if octet = other then scan? x y limit (place + 1) else return place
  else
    return place
termination_by n - place

/-- The number of leading bits that two rows share, up to a limit. -/
def sharedWithin? (x y : Octets n) (limit : Nat) : Option Nat := do
  let place ← scan? x y limit 0
  let whole := min (8 * place) limit
  if whole < limit then
    let octet ← x[place]?
    let other ← y[place]?
    return min (whole + leadingZeros (octet ^^^ other)) limit
  else
    return whole

/-- The bits that two rows share, and how many they are; lengths beyond 128 count as 128. -/
def common? (x : Octets 16) (xLength : UInt8) (y : Octets 16) (yLength : UInt8) :
    Option (Octets 16 × UInt8) := do
  let limit := min (min xLength yLength) 128
  let length ← sharedWithin? x y limit.toNat
  let netmask ← V6.netmasks[length]?
  return (x.and netmask, UInt8.ofNat length)

/-! ## What the scan has found -/

/-- What a scan knows at a place: the rows reach so far, and the octets behind it are equal. -/
structure Passed (x y : Octets n) (place : Nat) : Prop where
  within : place ≤ n
  equal : ∀ k < place, x.octet k = y.octet k

namespace Passed

theorem zero : Passed x y 0 :=
  ⟨Nat.zero_le n, fun k hk => absurd hk (Nat.not_lt_zero k)⟩

/-- One step of the scan. -/
theorem succ (h : Passed x y place) (hplace : place < n) (heq : x.octet place = y.octet place) :
    Passed x y (place + 1) := by
  refine ⟨hplace, fun k hk => ?_⟩
  rcases Nat.lt_succ_iff_lt_or_eq.mp hk with hlt | rfl
  · exact h.equal k hlt
  · exact heq

/-- Nothing is left of rows that have been passed to their end. -/
theorem rows_eq (h : Passed x y n) : x = y :=
  ext_of_octet h.equal

end Passed

/-- A scan never reads outside of the rows, and where it stops within the rows and the limit it
has found octets that differ. -/
theorem scan?_eq_some (limit : Nat) (h : Passed x y place) :
    ∃ last, scan? x y limit place = some last ∧ Passed x y last ∧
      (last < n → 8 * last < limit → x.octet last ≠ y.octet last) := by
  fun_induction scan? x y limit place with
  | case1 place hguard ih =>
      have hplace := hguard.1
      simp only [getElem?_eq_octet hplace, Option.bind_eq_bind, Option.bind_some]
      by_cases heq : x.octet place = y.octet place
      · rw [if_pos heq]
        exact ih (h.succ hplace heq)
      · rw [if_neg heq]
        exact ⟨place, rfl, h, fun _ _ => heq⟩
  | case2 place hguard =>
      exact ⟨place, rfl, h, fun hplace hlimit => absurd ⟨hplace, hlimit⟩ hguard⟩

/-! ## The bits that are shared -/

theorem sharedBits_append (zs xs ys : List UInt8) :
    sharedBits (zs ++ xs) (zs ++ ys) = 8 * zs.length + sharedBits xs ys := by
  induction zs with
  | nil => simp
  | cons z zs ih =>
      rw [List.cons_append, List.cons_append, sharedBits, if_pos rfl, ih, List.length_cons]
      omega

/-- Each octet behind the scan counts eight bits, and to these come the high bits that the octets
at which it stops have in common. -/
theorem Passed.sharedBits_eq (h : Passed x y place) (hplace : place < n)
    (hne : x.octet place ≠ y.octet place) :
    sharedBits x.toList y.toList = 8 * place + leadingZeros (x.octet place ^^^ y.octet place) := by
  have hsplit : ∀ z : Octets n, z.toList =
      z.toList.take place ++ z.octet place :: z.toList.drop (place + 1) := by
    intro z
    rw [octet_eq_getElem hplace, ← Vector.getElem_toList (by simpa using hplace),
      ← List.drop_eq_getElem_cons, List.take_append_drop]
  have hbehind : x.toList.take place = y.toList.take place :=
    (take_toList_eq_iff h.within).mpr h.equal
  have hlength : (y.toList.take place).length = place := by
    rw [List.length_take, Vector.length_toList, Nat.min_eq_left h.within]
  rw [hsplit x, hsplit y, hbehind, sharedBits_append, sharedBits, if_neg hne, hlength]

/-- All bits before a limit are shared if the scan has come to it. -/
theorem Passed.le_sharedBits (h : Passed x y place) (hlimit : limit ≤ 8 * place) :
    limit ≤ sharedBits x.toList y.toList := by
  have hwithin := h.within
  refine le_sharedBits_iff.mpr ⟨by omega, fun i hi => ?_⟩
  rw [bit, bit, h.equal (i / 8) (by omega)]

/-- The only way to read outside of the rows is to look for bits past the end of equal rows. -/
theorem sharedWithin?_eq (x y : Octets n) (limit : Nat) :
    sharedWithin? x y limit =
      if x = y ∧ 8 * n < limit then none else some (min limit (sharedBits x.toList y.toList)) := by
  obtain ⟨last, hscan, hpassed, hstop⟩ := scan?_eq_some limit (Passed.zero : Passed x y 0)
  have hwithin := hpassed.within
  rw [sharedWithin?, hscan]
  simp only [Option.bind_eq_bind, Option.bind_some]
  by_cases hlimit : limit ≤ 8 * last
  · -- the scan has come to the limit, so the limit is within the rows
    have hrows : ¬ (x = y ∧ 8 * n < limit) := fun h => by omega
    rw [Nat.min_eq_right hlimit, if_neg (Nat.lt_irrefl limit), if_neg hrows,
      Nat.min_eq_left (hpassed.le_sharedBits hlimit)]
    rfl
  · have hbefore : 8 * last < limit := Nat.lt_of_not_le hlimit
    rw [Nat.min_eq_left (Nat.le_of_lt hbefore), if_pos hbefore]
    rcases Nat.lt_or_eq_of_le hwithin with hlast | rfl
    · have hne := hstop hlast hbefore
      have hrows : ¬ (x = y ∧ 8 * n < limit) := fun h => hne (by rw [h.1])
      rw [if_neg hrows, getElem?_eq_octet hlast, getElem?_eq_octet hlast,
        hpassed.sharedBits_eq hlast hne, Nat.min_comm]
      rfl
    · -- the rows have ended before the limit, and there is no octet to refine with
      rw [if_pos ⟨hpassed.rows_eq, hbefore⟩, Vector.getElem?_eq_none (Nat.le_refl last)]
      rfl

/-- Without a bound on the limit there is such a way. -/
example : sharedWithin? (netmask 10 : Octets 2) (netmask 10) 17 = none := by
  rw [sharedWithin?_eq]
  decide

/-- A limit of 128 bits keeps all reads within the rows and the table. -/
theorem common?_eq (x : Octets 16) (xLength : UInt8) (y : Octets 16) (yLength : UInt8) :
    common? x xLength y yLength =
      some ((common x xLength.toNat y yLength.toNat).1,
        UInt8.ofNat (common x xLength.toNat y yLength.toNat).2) := by
  have hlimit : (min (min xLength yLength) 128).toNat =
      min (min xLength.toNat yLength.toNat) 128 := by
    rw [UInt8.toNat_min, UInt8.toNat_min]
    rfl
  have hshared : sharedBits x.toList y.toList ≤ 128 := by
    simpa using sharedBits_le x.toList y.toList
  have hlength : min (min (min xLength.toNat yLength.toNat) 128)
      (sharedBits x.toList y.toList) = (common x xLength.toNat y yLength.toNat).2 := by
    rw [Nat.min_assoc, Nat.min_eq_right hshared]
    rfl
  have hrows : ¬ (x = y ∧ 8 * 16 < min (min xLength.toNat yLength.toNat) 128) := fun h => by omega
  have htable : (common x xLength.toNat y yLength.toNat).2 ≤ 128 :=
    (Nat.min_le_right _ _).trans hshared
  simp only [common?, hlimit, sharedWithin?_eq, if_neg hrows, hlength, V6.getElem?_netmasks htable,
    Option.bind_eq_bind, Option.bind_some]
  rfl

/-- The number of common bits is the largest that the lengths and the rows allow. -/
theorem isGreatest_common (x : Octets n) (xLength : Nat) (y : Octets n) (yLength : Nat) :
    IsGreatest {m | m ≤ min (min xLength yLength) (8 * n) ∧ ∀ i < m, x.bit i = y.bit i}
      (common x xLength y yLength).2 := by
  have hle : ∀ m, m ≤ (common x xLength y yLength).2 ↔
      m ≤ min (min xLength yLength) (8 * n) ∧ ∀ i < m, x.bit i = y.bit i := by
    intro m
    simp only [le_common_iff, Nat.le_min, and_assoc]
  exact ⟨(hle _).mp (Nat.le_refl _), fun m hm => (hle m).mpr hm⟩

/-- **The scan finds the common bits of two rows, whatever the lengths, and reads neither outside
of the rows nor outside of the table of masks.**  There are as many of them as the largest number
of leading bits, within both lengths and 128, on which the rows agree; the others are clear.  It
does not matter which row comes first. -/
theorem common_scan_isGreatest (x y : Octets 16) (xLength yLength : UInt8) :
    ∃ z length, common? x xLength y yLength = some (z, length) ∧
      common x xLength.toNat y yLength.toNat = (z, length.toNat) ∧
      IsGreatest {m | m ≤ min (min xLength.toNat yLength.toNat) 128 ∧
        ∀ i < m, x.bit i = y.bit i} length.toNat ∧
      (∀ i < 128, z.bit i = (x.bit i && decide (i < length.toNat))) ∧
      (∀ i < 128, z.bit i = (y.bit i && decide (i < length.toNat))) ∧
      common? y yLength x xLength = some (z, length) := by
  have hgreatest := isGreatest_common x xLength.toNat y yLength.toNat
  obtain ⟨hwithin, hagree⟩ := hgreatest.1
  have hoctet : (common x xLength.toNat y yLength.toNat).2 < UInt8.size :=
    Nat.lt_of_le_of_lt (hwithin.trans (Nat.min_le_right _ _)) (by decide)
  have hlength : (UInt8.ofNat (common x xLength.toNat y yLength.toNat).2).toNat =
      (common x xLength.toNat y yLength.toNat).2 := UInt8.toNat_ofNat_of_lt' hoctet
  refine ⟨_, _, common?_eq x xLength y yLength, ?_, ?_, fun i _ => ?_, fun i _ => ?_, ?_⟩
  · rw [hlength]
  · rw [hlength]
    exact hgreatest
  · rw [hlength]
    exact bit_mask x _ i
  · rw [hlength, ← bit_mask]
    exact congrArg (fun row => bit row i) (mask_eq_mask_iff.mpr hagree)
  · rw [common?_eq, common_comm]

end InetAddress.Octets
