import InetAddress.Octets.Basic

/-!
# The number that a row spells

A row of octets spells a number in base 256. The binary digits of the number are the bits of the
row, counted from the other end (`testBit_value`), so a row is known by its number
(`ofValue_value`), and every number that fits is the number of a row (`value_ofValue`).
-/

namespace InetAddress.Octets

/-- The number that octets spell in base 256, the first of them counting the most. -/
def spell : List UInt8 → Nat
  | [] => 0
  | octet :: rest => octet.toNat <<< (8 * rest.length) + spell rest

variable {n : Nat}

/-- The number that a row spells in base 256. -/
def value (x : Octets n) : Nat :=
  spell x.toList

/-- The row that spells `number`, less what does not fit into `n` octets. -/
def ofValue (number : Nat) : Octets n :=
  Vector.ofFn fun k => UInt8.ofNat (number >>> (8 * (n - 1 - k)))

/-- Nothing is left of the number of an octet string beyond its bits. -/
theorem spell_shiftRight (octets : List UInt8) : spell octets >>> (8 * octets.length) = 0 := by
  rw [Nat.shiftRight_eq_div_pow]
  refine Nat.div_eq_of_lt ?_
  induction octets with
  | nil => decide
  | cons octet rest ih =>
      have hoctet : octet.toNat + 1 ≤ 2 ^ 8 := octet.toNat_lt
      have := Nat.mul_le_mul_right (2 ^ (8 * rest.length)) hoctet
      rw [spell, Nat.shiftLeft_eq, List.length_cons, Nat.mul_succ, Nat.add_comm (8 * _) 8,
        Nat.pow_add]
      rw [Nat.add_mul, Nat.one_mul] at this
      omega

theorem value_shiftRight (x : Octets n) : x.value >>> (8 * n) = 0 := by
  simpa [value] using spell_shiftRight x.toList

theorem testBit_spell {octets : List UInt8} {i : Nat} (h : i < 8 * octets.length) :
    (spell octets).testBit (8 * octets.length - 1 - i) = bitAt octets i := by
  induction octets generalizing i with
  | nil => simp at h
  | cons octet rest ih =>
      have hlow : spell rest < 2 ^ (8 * rest.length) := by
        have := spell_shiftRight rest
        rw [Nat.shiftRight_eq_div_pow] at this
        exact Nat.lt_of_div_eq_zero (Nat.pow_pos (by decide)) this
      rw [List.length_cons] at h ⊢
      rw [spell, Nat.shiftLeft_eq, Nat.mul_comm, Nat.testBit_two_pow_mul_add _ hlow]
      by_cases hi : i < 8
      · have hplace : 8 * (rest.length + 1) - 1 - i - 8 * rest.length = 7 - i := by omega
        rw [if_neg (by omega), hplace, bitAt_cons_of_lt octet rest hi]
      · obtain ⟨j, rfl⟩ : ∃ j, i = j + 8 := ⟨i - 8, by omega⟩
        have hplace : 8 * (rest.length + 1) - 1 - (j + 8) = 8 * rest.length - 1 - j := by omega
        rw [if_pos (by omega), hplace, ih (by omega), bitAt_cons_add]

/-- The binary digits of the number are the bits of the row, counted from the other end. -/
theorem testBit_value {x : Octets n} {i : Nat} (h : i < 8 * n) :
    x.value.testBit (8 * n - 1 - i) = x.bit i := by
  have hlist : i < 8 * x.toList.length := by simpa using h
  simpa [value, bitAt_toList] using testBit_spell hlist

theorem bit_ofValue {number i : Nat} (h : i < 8 * n) :
    (ofValue number : Octets n).bit i = number.testBit (8 * n - 1 - i) := by
  have hk : i / 8 < n := by omega
  rw [bit, octet_eq_getElem hk, ofValue, Vector.getElem_ofFn, UInt8.toNat_ofNat',
    Nat.testBit_mod_two_pow, Nat.testBit_shiftRight, decide_eq_true (by omega), Bool.true_and]
  congr 1
  dsimp only
  omega

@[simp] theorem ofValue_value (x : Octets n) : ofValue x.value = x :=
  ext_of_bit fun _ h => by rw [bit_ofValue h, testBit_value h]

theorem value_ofValue {number : Nat} (h : number >>> (8 * n) = 0) :
    (ofValue number : Octets n).value = number := by
  have hlarge : ∀ {m j : Nat}, m >>> (8 * n) = 0 → 8 * n ≤ j → m.testBit j = false := by
    intro m j hm hj
    have := Nat.testBit_shiftRight (i := 8 * n) (j := j - 8 * n) m
    rw [hm, Nat.zero_testBit, Nat.add_sub_cancel' hj] at this
    exact this.symm
  refine Nat.eq_of_testBit_eq fun j => ?_
  by_cases hj : j < 8 * n
  · have hplace : 8 * n - 1 - j < 8 * n := by omega
    have := testBit_value (x := (ofValue number : Octets n)) hplace
    rw [bit_ofValue hplace] at this
    simpa only [show 8 * n - 1 - (8 * n - 1 - j) = j by omega] using this
  · rw [hlarge (value_shiftRight _) (Nat.le_of_not_lt hj), hlarge h (Nat.le_of_not_lt hj)]

theorem value_inj {x y : Octets n} : x.value = y.value ↔ x = y :=
  ⟨fun h => by rw [← ofValue_value x, h, ofValue_value], fun h => h ▸ rfl⟩

end InetAddress.Octets
