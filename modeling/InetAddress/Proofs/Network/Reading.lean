import InetAddress.Network
import InetAddress.Proofs.Literal.Acceptance

/-!
# How a network is read

A text is cut at its first slash.  What stands before is a host, what stands after
it a length, and there are four outcomes, tried in this order:

```text
the host is no address              the fault of the host
the length is no decimal number     named, with the whole text
the length exceeds the width        named, up to the largest 64-bit number
otherwise                           the host cut down to the length
```

`Reads` says so without the reader: one rule for each outcome, each with all that it
needs to hold.  `parse` and `Reads` are the same relation, so every text has an
outcome and no text has two.  A length is any row of digits, as long as it likes, and
is compared as the number it spells; there is nothing in between that could wrap.
-/

namespace InetAddress

/-! ## What a mask leaves -/

namespace Octets

variable {n : Nat}

/-- Which bits are left of a row says which row is left. -/
theorem eq_mask_iff {x y : Octets n} {length : Nat} :
    y = x.mask length ↔ ∀ i < 8 * n, y.bit i = (x.bit i && decide (i < length)) := by
  constructor
  · rintro rfl i -
    exact bit_mask x length i
  · intro h
    refine ext_of_bit fun i hi => ?_
    rw [bit_mask, h i hi]

end Octets

namespace Address

variable {a b : Address} {n : Nat}

theorem width_le (a : Address) : a.width ≤ 128 := by
  cases a with
  | v4 => exact (by decide : Family.v4.width ≤ 128)
  | v6 => exact Nat.le_refl 128

/-- An address of the same family with the first `n` bits and no others, and without a zone. -/
inductive CutDown (n : Nat) : Address → Address → Prop
  | v4 {a b : V4} (hbits : ∀ i < 32, b.octets.bit i = (a.octets.bit i && decide (i < n))) :
      CutDown n (v4 a) (v4 b)
  | v6 {a b : V6} (hbits : ∀ i < 128, b.octets.bit i = (a.octets.bit i && decide (i < n)))
      (hzone : b.zone = 0) : CutDown n (v6 a) (v6 b)

theorem CutDown.width_eq (h : CutDown n a b) : b.width = a.width := by
  cases h <;> rfl

/-- What a mask returns has the bits that it is to have. -/
theorem mask_of_cutDown (h : CutDown n a b) (hn : n ≤ a.width) : a.mask n = .ok b := by
  cases h with
  | @v4 a b hbits =>
      have hoctets : b.octets = a.octets.mask n := Octets.eq_mask_iff.mpr hbits
      rw [mask, V4.mask_eq_ok hn, ← hoctets]
      rfl
  | @v6 a b hbits hzone =>
      have hoctets : b.octets = a.octets.mask n := Octets.eq_mask_iff.mpr hbits
      rw [mask, V6.mask_eq_ok hn, ← hoctets, V6.ofOctets, ← hzone]
      rfl

/-- A mask has no more bits than an address has. -/
theorem mask_of_width_lt (hn : a.width < n) : a.mask n = .error (.tooLong n a.width) := by
  cases a with
  | v4 a =>
      rw [mask, V4.mask, if_neg (show ¬ n ≤ 32 from Nat.not_le.mpr hn)]
      rfl
  | v6 a =>
      rw [mask, V6.mask, if_neg (show ¬ n ≤ 128 from Nat.not_le.mpr hn)]
      rfl

theorem exists_cutDown (a : Address) (n : Nat) : ∃ b, CutDown n a b := by
  cases a with
  | v4 a => exact ⟨v4 ⟨a.octets.mask n⟩, .v4 fun i _ => Octets.bit_mask a.octets n i⟩
  | v6 a =>
      exact ⟨v6 (V6.ofOctets (a.octets.mask n)), .v6 (fun i _ => Octets.bit_mask a.octets n i) rfl⟩

theorem kind_of_parse_error {text : String} {e : Error} (h : parse text = .error e) :
    e.kind = .addressFormat := by
  unfold parse read at h
  split at h
  · rw [Reading.result_andThen] at h
    cases hread : (V6.read text).result with
    | ok a =>
        rw [hread] at h
        cases h
    | error fault =>
        rw [hread] at h
        cases h
        exact V6.Grammar.kind_of_parse_error hread
  · rw [Reading.result_silent, V4.parse] at h
    cases hquad : V4.ofText? text with
    | some a =>
        rw [hquad] at h
        cases h
    | none =>
        rw [hquad] at h
        cases h
        rfl

end Address

namespace Network

open V6.Grammar (Number decimal_read?_eq_some_iff)

variable {text host : String} {length : Option String} {e : Error} {a base : Address} {n : Nat}

/-! ## Outcomes -/

/-- A text without a slash is a host; otherwise the host ends at the first slash, and a length
follows. -/
inductive Cut : String → String → Option String → Prop
  | host {host : String} (hslash : '/' ∉ host.toList) : Cut host host none
  | slash {host digits : String} (hslash : '/' ∉ host.toList) :
      Cut (host ++ "/" ++ digits) host (some digits)

/-- The number of bits that a length asks for: all of them if there is none. -/
inductive Asks (width : Nat) : Option String → Nat → Prop
  | all : Asks width none width
  | digits {digits : String} {n : Nat} (hnumber : Number digits.toList n) :
      Asks width (some digits) n

/-- What becomes of a text that is read as a network. -/
inductive Reads (text : String) : Except Error Network → Prop
  | host {host : String} {length : Option String} {e : Error} (hcut : Cut text host length)
      (hhost : Address.parse host = .error e) : Reads text (.error e)
  | digits {host digits : String} {a : Address} (hcut : Cut text host (some digits))
      (hhost : Address.parse host = .ok a)
      (hdigits : digits = "" ∨ ∃ c ∈ digits.toList, ¬ c.isDigit) :
      Reads text (.error (.notLength digits text))
  | excess {host : String} {length : Option String} {a : Address} {n : Nat}
      (hcut : Cut text host length) (hhost : Address.parse host = .ok a)
      (hasks : Asks a.width length n) (hn : a.width < n) :
      Reads text (.error (.tooLong (min n (UInt64.size - 1)) a.width))
  | network {host : String} {length : Option String} {a base : Address} {n : Nat}
      (hcut : Cut text host length) (hhost : Address.parse host = .ok a)
      (hasks : Asks a.width length n) (hn : n ≤ a.width)
      (hbase : Address.CutDown n a base) : Reads text (.ok ⟨base, n⟩)

/-! ## Cutting a text -/

theorem exists_cut (text : String) : ∃ host length, Cut text host length := by
  by_cases hslash : '/' ∈ text.toList
  · obtain ⟨front, digits, htext, hfront⟩ := List.eq_append_cons_of_mem hslash
    have hjoin : text = String.ofList front ++ "/" ++ String.ofList digits := by
      apply String.toList_injective
      simp [String.toList_append, htext]
    refine ⟨String.ofList front, some (String.ofList digits), ?_⟩
    rw [hjoin]
    exact .slash (by rwa [String.toList_ofList])
  · exact ⟨text, none, .host hslash⟩

/-- The characters of a text after its host. -/
def afterHost : Option String → List Char
  | none => []
  | some digits => '/' :: digits.toList

theorem toList_of_cut (h : Cut text host length) :
    text.toList = host.toList ++ afterHost length ∧ '/' ∉ host.toList := by
  cases h with
  | host hslash => exact ⟨(List.append_nil _).symm, hslash⟩
  | slash hslash => exact ⟨by simp [String.toList_append, afterHost], hslash⟩

theorem takeWhile_of_cut (h : Cut text host length) :
    text.toList.takeWhile (· != '/') = host.toList ∧
      text.toList.dropWhile (· != '/') = afterHost length := by
  obtain ⟨htext, hslash⟩ := toList_of_cut h
  have hfront : ∀ c ∈ host.toList, (c != '/') = true := by
    intro c hc
    rw [bne_iff_ne]
    rintro rfl
    exact hslash hc
  have htake : (afterHost length).takeWhile (· != '/') = [] := by cases length <;> rfl
  have hdrop : (afterHost length).dropWhile (· != '/') = afterHost length := by
    cases length <;> rfl
  rw [htext, List.takeWhile_append_of_pos hfront, List.dropWhile_append_of_pos hfront, htake,
    hdrop, List.append_nil]
  exact ⟨rfl, rfl⟩

/-- A text is cut in one way only. -/
theorem host_eq_of_cut {other : String} {rest : Option String} (h : Cut text host length)
    (hother : Cut text other rest) : other = host :=
  String.toList_injective ((takeWhile_of_cut hother).1.symm.trans (takeWhile_of_cut h).1)

theorem read_of_cut (h : Cut text host length) :
    read text = (Address.read host).andThen fun a => do
      let n ← readLength text a.width (afterHost length)
      let base ← a.mask n
      return ⟨base, n⟩ := by
  obtain ⟨hfront, hrest⟩ := takeWhile_of_cut h
  simp only [read, hfront, hrest, String.ofList_toList]

theorem parse_of_cut (h : Cut text host length) :
    parse text = (Address.parse host).bind fun a => do
      let n ← readLength text a.width (afterHost length)
      let base ← a.mask n
      return ⟨base, n⟩ := by
  rw [parse, read_of_cut h]
  rfl

/-! ## Reading a length -/

theorem readLength_of_asks {width : Nat} (h : Asks width length n) :
    readLength text width (afterHost length) =
      if n ≤ width then .ok n else .error (.tooLong (min n lengthCap) width) := by
  cases h with
  | all => exact (if_pos (Nat.le_refl _)).symm
  | digits hnumber => simp only [afterHost, readLength, decimal_read?_eq_some_iff.mpr hnumber]

/-- Digits that spell no number are none at all or have another character among them. -/
theorem read?_eq_none_iff {digits : String} :
    Decimal.read? digits.toList = none ↔ digits = "" ∨ ∃ c ∈ digits.toList, ¬ c.isDigit := by
  unfold Decimal.read?
  rw [ite_eq_right_iff]
  simp only [reduceCtorEq, imp_false, not_and_or, not_not, ne_eq, String.toList_eq_nil_iff,
    List.all_eq_true, not_forall, exists_prop]

theorem readLength_eq_notLength {width : Nat} {digits : String}
    (h : digits = "" ∨ ∃ c ∈ digits.toList, ¬ c.isDigit) :
    readLength text width (afterHost (some digits)) = .error (.notLength digits text) := by
  simp only [afterHost, readLength, read?_eq_none_iff.mpr h, String.ofList_toList]

/-- A length asks for a number of bits, or it is no number. -/
theorem exists_asks_or (width : Nat) (length : Option String) :
    (∃ n, Asks width length n) ∨
      ∃ digits, length = some digits ∧ (digits = "" ∨ ∃ c ∈ digits.toList, ¬ c.isDigit) := by
  cases length with
  | none => exact .inl ⟨width, .all⟩
  | some digits =>
      cases hread : Decimal.read? digits.toList with
      | none => exact .inr ⟨digits, rfl, read?_eq_none_iff.mp hread⟩
      | some n => exact .inl ⟨n, .digits (decimal_read?_eq_some_iff.mp hread)⟩

/-! ## Reading a network -/

theorem parse_of_reads {r : Except Error Network} (h : Reads text r) : parse text = r := by
  cases h with
  | host hcut hhost =>
      rw [parse_of_cut hcut, hhost]
      rfl
  | digits hcut hhost hdigits =>
      rw [parse_of_cut hcut, hhost]
      simp only [Except.bind, readLength_eq_notLength hdigits]
      rfl
  | excess hcut hhost hasks hn =>
      rw [parse_of_cut hcut, hhost]
      simp only [Except.bind, readLength_of_asks hasks, if_neg (Nat.not_le.mpr hn)]
      rfl
  | network hcut hhost hasks hn hbase =>
      rw [parse_of_cut hcut, hhost]
      simp only [Except.bind, readLength_of_asks hasks, if_pos hn]
      simp only [bind, Except.bind, Address.mask_of_cutDown hbase hn]
      rfl

theorem exists_reads (text : String) : ∃ r, Reads text r := by
  obtain ⟨host, length, hcut⟩ := exists_cut text
  cases hhost : Address.parse host with
  | error e => exact ⟨_, .host hcut hhost⟩
  | ok a =>
      obtain ⟨n, hasks⟩ | ⟨digits, rfl, hdigits⟩ := exists_asks_or a.width length
      · by_cases hn : n ≤ a.width
        · obtain ⟨base, hbase⟩ := Address.exists_cutDown a n
          exact ⟨_, .network hcut hhost hasks hn hbase⟩
        · exact ⟨_, .excess hcut hhost hasks (Nat.lt_of_not_le hn)⟩
      · exact ⟨_, .digits hcut hhost hdigits⟩

/-- What a text is read as is what becomes of it by the rules. -/
theorem parse_eq_iff_reads {r : Except Error Network} : parse text = r ↔ Reads text r := by
  constructor
  · rintro rfl
    obtain ⟨r, hr⟩ := exists_reads text
    rwa [parse_of_reads hr]
  · exact parse_of_reads

theorem length_le_width_of_parse {network : Network} (h : parse text = .ok network) :
    network.length ≤ network.base.width := by
  cases parse_eq_iff_reads.mp h with
  | network _ _ _ hn hbase => rwa [hbase.width_eq]

/-- An excessive length stays excessive where the report of it stops counting. -/
theorem width_lt_min {width : Nat} (hwidth : width ≤ 128) (hn : width < n) :
    width < min n (UInt64.size - 1) := by
  have hcap : 128 < UInt64.size - 1 := by decide
  exact Nat.lt_min.mpr ⟨hn, Nat.lt_of_le_of_lt hwidth hcap⟩

/-- **What becomes of a text is what the rules say, and nothing else.**  All failures are of one
kind, but for lengths beyond the width, which are reported with a number that is beyond it too.
A length that is accepted is within the width of the base, so it fits into an octet. -/
theorem parse_reads (text : String) :
    (∀ r, parse text = r ↔ Reads text r) ∧
    (∀ e, parse text = .error e →
      e.kind = .addressFormat ∨ ∃ n width, width < n ∧ e = .tooLong n width) ∧
    ∀ network, parse text = .ok network →
      network.length ≤ network.base.width ∧ network.length < UInt8.size := by
  refine ⟨fun r => parse_eq_iff_reads, fun e h => ?_, fun network h => ?_⟩
  · cases parse_eq_iff_reads.mp h with
    | host _ hhost => exact .inl (Address.kind_of_parse_error hhost)
    | digits => exact .inl rfl
    | excess _ _ _ hn => exact .inr ⟨_, _, width_lt_min (Address.width_le _) hn, rfl⟩
  · have hle := length_le_width_of_parse h
    have hoctet : network.base.width < UInt8.size :=
      Nat.lt_of_le_of_lt (Address.width_le _) (by decide)
    exact ⟨hle, Nat.lt_of_le_of_lt hle hoctet⟩

/-- Brackets and a zone belong to the host, and zeros before a length say nothing. -/
theorem reads_bracketed_zoned :
    let base := V6.ofOctets #v[0x20, 1, 0x0d, 0xb8, 0, 0, 0, 0, 0, 0, 0, 0, 0, 0, 0, 0]
    Reads "[2001:db8::ffff%7]/0032" (.ok ⟨.v6 base, 32⟩) ∧
      32 ≤ (Address.v6 base).width ∧ 32 < UInt8.size := by
  intro base
  obtain ⟨hrules, -, hlength⟩ := parse_reads "[2001:db8::ffff%7]/0032"
  have hparse : parse "[2001:db8::ffff%7]/0032" = .ok ⟨.v6 base, 32⟩ := by decide +kernel
  exact ⟨(hrules _).mp hparse, hlength _ hparse⟩

/-- A length that is 0 in the last eight bits is not taken for 0. -/
example : parse "10.0.0.1/0256" = .error (.tooLong 256 32) := by
  decide +kernel

end Network

end InetAddress
