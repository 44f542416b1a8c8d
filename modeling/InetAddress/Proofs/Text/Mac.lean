import InetAddress.Proofs.Languages
import InetAddress.Proofs.Text.Separated

/-!
# MAC addresses, pair by pair

The texts of MAC addresses are six pairs of hexadecimal digits with colons and hyphens
between them.  An address has many texts and is written as one of them, so there are two
ways round:

```text
address → text → address     the address again
text → address → text        lower case, and a colon for each hyphen
```

The second needs no second look at the text: characters that are exchanged one by one leave
the pairs where they are (`Separated.map`), and of a pair nothing but its case is lost
(`Pair.map_lowered`).
-/

namespace InetAddress.Mac

open List (Forall₂)
open V6.Grammar

/-- Two hexadecimal digits, and the octet that they spell. -/
inductive Pair : List Char → UInt8 → Prop
  | digits {c d : Char} {high low : Nat} {octet : UInt8} (hhigh : HexDigit c high)
      (hlow : HexDigit d low) (hvalue : octet.toNat = 16 * high + low) : Pair [c, d] octet

/-- Six pairs of hexadecimal digits with colons and hyphens between them. -/
def WellFormed (text : List Char) : Prop :=
  ∃ pairs, Separated [':', '-'] text pairs ∧ pairs.length = 6 ∧
    ∀ pair ∈ pairs, pair.length = 2 ∧ ∀ c ∈ pair, c ∈ hexDigits

variable {text : String} {pair : List Char} {octet : UInt8} {c : Char} {digit : Nat} {m : Mac}
  {e : Error}

/-! ## Pairs -/

theorem exists_hexDigit_iff : (∃ digit, HexDigit c digit) ↔ c ∈ hexDigits := by
  constructor
  · rintro ⟨digit, hdigit⟩
    exact hdigit.mem
  · intro hc
    have hall : hexDigits.all (fun c => (Hex.digit? c).isSome) := by decide
    obtain ⟨digit, hdigit⟩ := Option.isSome_iff_exists.mp (List.all_eq_true.mp hall c hc)
    exact ⟨digit, digit?_eq_some_iff.mp hdigit⟩

theorem Pair.mem (h : Pair pair octet) : ∀ c ∈ pair, c ∈ hexDigits := by
  obtain ⟨hhigh, hlow, -⟩ := h
  simpa using ⟨hhigh.mem, hlow.mem⟩

theorem Pair.not_mem_seps (h : Pair pair octet) : ∀ c ∈ pair, c ∉ [':', '-'] := by
  intro c hc hsep
  have hnone : ':' ∉ hexDigits ∧ '-' ∉ hexDigits := by decide
  obtain rfl | rfl := List.mem_pair.mp hsep
  · exact hnone.1 (h.mem _ hc)
  · exact hnone.2 (h.mem _ hc)

theorem exists_pair_iff :
    (∃ octet, Pair pair octet) ↔ pair.length = 2 ∧ ∀ c ∈ pair, c ∈ hexDigits := by
  constructor
  · rintro ⟨octet, h⟩
    refine ⟨?_, h.mem⟩
    obtain ⟨-, -, -⟩ := h
    rfl
  · rintro ⟨hlength, hdigits⟩
    obtain ⟨c, d, rfl⟩ := List.length_eq_two.mp hlength
    obtain ⟨high, hhigh⟩ := exists_hexDigit_iff.mpr (hdigits c (by simp))
    obtain ⟨low, hlow⟩ := exists_hexDigit_iff.mpr (hdigits d (by simp))
    have hhighLt := hhigh.lt
    have hlowLt := hlow.lt
    refine ⟨UInt8.ofNat (16 * high + low), .digits hhigh hlow ?_⟩
    rw [UInt8.toNat_ofNat', Nat.mod_eq_of_lt (by omega)]

theorem ofDigits_pair (high low : Nat) :
    Nat.ofDigits 16 [high, low].reverse = 16 * high + low := by
  simp only [List.reverse_cons, List.reverse_nil, List.nil_append, List.cons_append,
    Nat.ofDigits_cons, Nat.ofDigits_nil]
  omega

theorem readPair?_eq_some_iff : readPair? pair = some octet ↔ Pair pair octet := by
  constructor
  · intro h
    obtain ⟨hlength, -⟩ := Option.ite_none_right_eq_some.mp h
    obtain ⟨digits, hdigits, -, -, hvalue⟩ := group_of_readPair? h
    obtain ⟨c, d, rfl⟩ := List.length_eq_two.mp hlength
    obtain _ | ⟨hhigh, _ | ⟨hlow, _ | _⟩⟩ := hdigits
    exact .digits hhigh hlow (hvalue.trans (ofDigits_pair _ _))
  · rintro ⟨hhigh, hlow, hvalue⟩
    have hread := hex_read?_eq_some_iff.mpr ⟨_, .cons hhigh (.cons hlow .nil), rfl⟩
    rw [ofDigits_pair, ← hvalue] at hread
    rw [readPair?, if_pos (by rfl), hread, Option.map_some, UInt8.ofNat_toNat]

theorem pair_writeOctet (octet : UInt8) : Pair (Hex.writeOctet octet) octet :=
  readPair?_eq_some_iff.mp (readPair?_writeOctet octet)

/-! ## Texts -/

/-- A text is read as an address when each of its pairs spells an octet of the address. -/
theorem parse_eq_ok_iff_pairs : parse text = .ok m ↔
    ∃ pairs, Separated [':', '-'] text.toList pairs ∧ Forall₂ Pair pairs m.octets.toList := by
  have hsep : ∀ c, isSeparator c ↔ c ∈ [':', '-'] := by
    intro c
    simp [isSeparator]
  rw [parse_eq_ok_iff, ← readParts_eq_some_iff hsep (fun _ _ => readPair?_eq_some_iff)
    (fun _ _ => Pair.not_mem_seps), ofText?, Option.map_eq_some_iff]
  refine ⟨fun h => ?_, fun h => ⟨_, h, rfl⟩⟩
  obtain ⟨x, hx, rfl⟩ := h
  exact hx

theorem exists_parse_iff : (∃ m, parse text = .ok m) ↔ WellFormed text.toList := by
  unfold WellFormed
  simp only [parse_eq_ok_iff_pairs, ← exists_pair_iff]
  exact exists_parts_iff fun x => ⟨⟨x⟩, rfl⟩

theorem parse_eq_error_iff :
    parse text = .error e ↔ ¬ WellFormed text.toList ∧ e = .notMac text := by
  rw [← exists_parse_iff]
  unfold parse
  cases ofText? text <;> simp [eq_comm]

theorem parse_text (m : Mac) : parse m.text = .ok m := by
  have hne : m.octets.toList.map Hex.writeOctet ≠ [] := by
    refine List.ne_nil_of_length_pos ?_
    rw [List.length_map, Vector.length_toList]
    exact Nat.succ_pos 5
  rw [parse_eq_ok_iff_pairs, Mac.text, String.toList_ofList]
  refine ⟨_, separated_intercalate List.mem_cons_self hne, ?_⟩
  rw [List.forall₂_map_left_iff, List.forall₂_same]
  exact fun octet _ => pair_writeOctet octet

/-! ## The written form -/

/-- Lower case, and a colon for each hyphen. -/
def lowered (text : String) : String :=
  text.toLower.map fun c => if c = '-' then ':' else c

/-- What becomes of a character in the written form. -/
def loweredChar (c : Char) : Char :=
  if c.toLower = '-' then ':' else c.toLower

theorem toList_lowered (text : String) : (lowered text).toList = text.toList.map loweredChar := by
  have hcase : text.toLower = text.map Char.toLower := rfl
  rw [lowered, hcase, String.toList_map, String.toList_map, List.map_map]
  rfl

theorem loweredChar_of_hexDigit (h : HexDigit c digit) : loweredChar c = Nat.digitChar digit := by
  have hall : ∀ digit < 16,
      "0123456789abcdef".toList[digit]?.map loweredChar = some (Nat.digitChar digit) ∧
        "0123456789ABCDEF".toList[digit]?.map loweredChar = some (Nat.digitChar digit) := by
    decide
  obtain ⟨hlower, hupper⟩ := hall digit h.lt
  rcases h with h | h
  · rw [h] at hlower
    exact Option.some.inj hlower
  · rw [h] at hupper
    exact Option.some.inj hupper

/-- Of a pair nothing but its case is lost. -/
theorem Pair.map_lowered (h : Pair pair octet) : pair.map loweredChar = Hex.writeOctet octet := by
  obtain @⟨c, d, high, low, octet, hhigh, hlow, hvalue⟩ := h
  have hlt := hlow.lt
  have hdiv : octet.toNat / 16 = high := by omega
  have hmod : octet.toNat % 16 = low := by omega
  rw [List.map_cons, List.map_singleton, loweredChar_of_hexDigit hhigh,
    loweredChar_of_hexDigit hlow, Hex.writeOctet, hdiv, hmod]

theorem text_eq_lowered (h : parse text = .ok m) : m.text = lowered text := by
  obtain ⟨pairs, hsep, hpairs⟩ := parse_eq_ok_iff_pairs.mp h
  have hcolons : ∀ c ∈ [':', '-'], loweredChar c ∈ [':'] := by
    intro c hc
    obtain rfl | rfl := List.mem_pair.mp hc <;> decide
  have hwritten : pairs.map (List.map loweredChar) = m.octets.toList.map Hex.writeOctet := by
    rw [← List.forall₂_eq_eq_eq, List.forall₂_map_left_iff, List.forall₂_map_right_iff]
    exact hpairs.imp fun pair octet => Pair.map_lowered
  rw [← String.toList_inj, toList_lowered, (hsep.map hcolons).eq_intercalate, hwritten, Mac.text,
    String.toList_ofList]

/-- **A text is a MAC address just when it is six pairs of hexadecimal digits with colons and
hyphens between them**, and then the pairs spell the octets of the address, one after the other.
Every other text is refused.  The text of an address is read as the address, and whatever text is
read as an address, the address is written in lower case and with a colon for each hyphen. -/
theorem parse_mac_pairs (text : String) :
    ((∃ m, parse text = .ok m) ↔ WellFormed text.toList) ∧
    (∀ m, parse text = .ok m ↔
      ∃ pairs, Separated [':', '-'] text.toList pairs ∧ Forall₂ Pair pairs m.octets.toList) ∧
    (∀ e, parse text = .error e ↔ ¬ WellFormed text.toList ∧ e = .notMac text) ∧
    (Error.notMac text).kind = .addressFormat ∧
    (∀ m : Mac, parse m.text = .ok m) ∧
    ∀ m, parse text = .ok m → m.text = lowered text :=
  ⟨exists_parse_iff, fun _ => parse_eq_ok_iff_pairs, fun _ => parse_eq_error_iff, rfl,
    parse_text, fun _ => text_eq_lowered⟩

/-- Both separators and both cases in one text. -/
theorem mac_with_mixed_separators :
    let m : Mac := ⟨#v[0x02, 0x42, 0xac, 0x11, 0x0f, 0xfa]⟩
    parse "02-42:AC-11:0F-fA" = .ok m ∧ m.text = "02:42:ac:11:0f:fa" := by
  intro m
  have hparse : parse "02-42:AC-11:0F-fA" = .ok m := by decide +kernel
  obtain ⟨-, -, -, -, -, hwritten⟩ := parse_mac_pairs "02-42:AC-11:0F-fA"
  refine ⟨hparse, (hwritten m hparse).trans ?_⟩
  decide +kernel

end InetAddress.Mac
