import InetAddress.V6.Parse
import InetAddress.V6.Text
import Mathlib.Data.List.Forall2
import Mathlib.Data.Nat.Digits.Defs

/-!
# The grammar of IPv6 texts

What an IPv6 text is, said without the reader: derivations that build a text
from its pieces, each with the 16-bit groups it denotes.

```text
literal   eight groups, or fewer with one gap
group     one to four hexadecimal digits
tail      groups, the last two of which may be a dotted quad
gap       two colons, for at least one zero group
host      a literal, then a percent sign and a number, or nothing
text      a host, with a pair of brackets around it or without
```

The reader cuts a text at its first gap and at every colon and looks at the
pieces.  The derivations go the other way: no text is cut, nothing is tried, and
a second gap, a lone colon or a stray bracket has no rule.

`octetsOf` and `groups` go back and forth between groups and octets; a group
that a derivation denotes fits into two octets (`Literal.lt`), so nothing is lost.
-/

namespace InetAddress.V6.Grammar

open List (Forall₂)

/-! ## Numbers -/

/-- A hexadecimal digit of either case, and what it is worth. -/
def HexDigit (c : Char) (digit : Nat) : Prop :=
  "0123456789abcdef".toList[digit]? = some c ∨ "0123456789ABCDEF".toList[digit]? = some c

/-- One to four hexadecimal digits, and the number that they spell. -/
def Group (piece : List Char) (group : Nat) : Prop :=
  ∃ digits, Forall₂ HexDigit piece digits ∧ 1 ≤ piece.length ∧ piece.length ≤ 4 ∧
    group = Nat.ofDigits 16 digits.reverse

/-- At least one decimal digit, and the number that the digits spell. -/
def Number (piece : List Char) (number : Nat) : Prop :=
  piece ≠ [] ∧ (∀ c ∈ piece, c.isDigit) ∧ number = Nat.ofDigitChars 10 piece 0

/-- A decimal number that fits into an octet, without leading zeros. -/
def QuadOctet (piece : List Char) (octet : UInt8) : Prop :=
  Number piece octet.toNat ∧ (piece.head? = some '0' → piece = ['0'])

/-! ## Literals -/

/-- A dotted quad, which denotes two groups. -/
inductive DottedQuad : List Char → List Nat → Prop
  | parts {p q r s : List Char} {a b c d : UInt8} (hp : QuadOctet p a) (hq : QuadOctet q b)
      (hr : QuadOctet r c) (hs : QuadOctet s d) :
      DottedQuad (p ++ '.' :: (q ++ '.' :: (r ++ '.' :: s)))
        [256 * a.toNat + b.toNat, 256 * c.toNat + d.toNat]

/-- Groups with colons between them. -/
inductive Row : List Char → List Nat → Prop
  | single {piece : List Char} {group : Nat} (hgroup : Group piece group) : Row piece [group]
  | cons {piece rest : List Char} {group : Nat} {gs : List Nat} (hgroup : Group piece group)
      (hrest : Row rest gs) : Row (piece ++ ':' :: rest) (group :: gs)

/-- Groups with colons between them, the last two of which may be a dotted quad. -/
inductive Tail : List Char → List Nat → Prop
  | row {text : List Char} {gs : List Nat} (hrow : Row text gs) : Tail text gs
  | quad {text : List Char} {gs : List Nat} (hquad : DottedQuad text gs) : Tail text gs
  | rowQuad {text quad : List Char} {gs last : List Nat} (hrow : Row text gs)
      (hquad : DottedQuad quad last) : Tail (text ++ ':' :: quad) (gs ++ last)

/-- One side of a gap, where nothing at all may stand. -/
def Side (Pieces : List Char → List Nat → Prop) (text : List Char) (gs : List Nat) : Prop :=
  text = [] ∧ gs = [] ∨ Pieces text gs

/-- Eight groups, or fewer with a gap for the missing ones. -/
inductive Literal : List Char → List Nat → Prop
  | full {text : List Char} {gs : List Nat} (htail : Tail text gs) (hlength : gs.length = 8) :
      Literal text gs
  | gap {left right : List Char} {before after : List Nat} (hleft : Side Row left before)
      (hright : Side Tail right after) (hlength : before.length + after.length < 8) :
      Literal (left ++ ':' :: ':' :: right)
        (before ++ List.replicate (8 - (before.length + after.length)) 0 ++ after)

/-! ## Texts -/

/-- The zone after a literal: none, which is zone 0, or a number of 32 bits. -/
inductive Zone : List Char → Nat → Prop
  | none : Zone [] 0
  | number {digits : List Char} {number : Nat} (hnumber : Number digits number)
      (hfits : number ≤ 4294967295) : Zone ('%' :: digits) number

/-- A text without the pair of brackets around it, if it has one. -/
def Host (text host : List Char) : Prop :=
  text = '[' :: (host ++ [']']) ∨ host = text ∧ ∀ inner, text ≠ '[' :: (inner ++ [']'])

/-- A text that is written as eight groups and a zone. -/
def Written (text : String) (gs : List Nat) (zone : Nat) : Prop :=
  ∃ literal zoneText, Host text.toList (literal ++ zoneText) ∧ Literal literal gs ∧
    Zone zoneText zone

variable {piece text left right : List Char} {group digit : Nat} {gs : List Nat} {c : Char}

/-! ## Which characters occur -/

/-- What one side of related pieces has by the relation, all pieces on that side have. -/
theorem forall_of_forall₂ {α β : Type} {R : α → β → Prop} {P : α → Prop} {xs : List α}
    {ys : List β} (h : Forall₂ R xs ys) (hP : ∀ x y, R x y → P x) : ∀ x ∈ xs, P x := by
  have hboth := h.imp fun x y hxy => And.intro (hP x y hxy) hxy
  exact ((List.forall₂_and_left _ _).mp hboth).1

/-- The hexadecimal digits of both cases. -/
def hexDigits : List Char :=
  "0123456789abcdefABCDEF".toList

/-- The hexadecimal digits that numbers are written with. -/
def lowerDigits : List Char :=
  "0123456789abcdef".toList

theorem lowerDigits_subset : lowerDigits ⊆ hexDigits := by
  decide

theorem HexDigit.mem (h : HexDigit c digit) : c ∈ hexDigits := by
  rcases h with hlower | hupper
  · exact lowerDigits_subset (List.mem_of_getElem? hlower)
  · have hmem := List.mem_of_getElem? hupper
    exact (show "0123456789ABCDEF".toList ⊆ hexDigits by decide) hmem

theorem HexDigit.lt (h : HexDigit c digit) : digit < 16 := by
  rcases h with hlower | hupper
  · exact (List.getElem?_eq_some_iff.mp hlower).1
  · exact (List.getElem?_eq_some_iff.mp hupper).1

theorem mem_lowerDigits_of_isDigit (h : c.isDigit) : c ∈ lowerDigits := by
  have hascii : ∀ n < 58, 48 ≤ n → Char.ofNat n ∈ lowerDigits := by decide
  have hrange : 48 ≤ c.toNat ∧ c.toNat ≤ 57 := by
    simpa [Char.isDigit, UInt32.le_iff_toNat_le] using h
  rw [← Char.ofNat_toNat c]
  exact hascii c.toNat (by omega) hrange.1

theorem mem_hexDigits_of_isDigit (h : c.isDigit) : c ∈ hexDigits :=
  lowerDigits_subset (mem_lowerDigits_of_isDigit h)

theorem Number.not_mem {number : Nat} (h : Number piece number) (hc : c.isDigit = false) :
    c ∉ piece := by
  intro hmem
  have hdigit := h.2.1 c hmem
  rw [hc] at hdigit
  cases hdigit

theorem Group.mem (h : Group piece group) (hc : c ∈ piece) : c ∈ hexDigits := by
  obtain ⟨digits, hdigits, -⟩ := h
  exact forall_of_forall₂ hdigits (fun _ _ hdigit => hdigit.mem) c hc

theorem QuadOctet.isDigit {octet : UInt8} (h : QuadOctet piece octet) (hc : c ∈ piece) :
    c.isDigit :=
  h.1.2.1 c hc

theorem DottedQuad.isDigit_or (h : DottedQuad text gs) (hc : c ∈ text) :
    c.isDigit ∨ c = '.' := by
  obtain ⟨hp, hq, hr, hs⟩ := h
  simp only [List.mem_append, List.mem_cons] at hc
  rcases hc with hc | rfl | hc | rfl | hc | rfl | hc
  · exact Or.inl (hp.isDigit hc)
  · exact Or.inr rfl
  · exact Or.inl (hq.isDigit hc)
  · exact Or.inr rfl
  · exact Or.inl (hr.isDigit hc)
  · exact Or.inr rfl
  · exact Or.inl (hs.isDigit hc)

theorem DottedQuad.dot_mem (h : DottedQuad text gs) : '.' ∈ text := by
  obtain ⟨-, -, -, -⟩ := h
  simp

theorem DottedQuad.mem (h : DottedQuad text gs) (hc : c ∈ text) : c ∈ hexDigits ∨ c = '.' :=
  (h.isDigit_or hc).imp_left mem_hexDigits_of_isDigit

theorem Row.mem (h : Row text gs) (hc : c ∈ text) : c ∈ hexDigits ∨ c = ':' := by
  induction h with
  | single hgroup => exact Or.inl (hgroup.mem hc)
  | cons hgroup _ ih =>
      simp only [List.mem_append, List.mem_cons] at hc
      rcases hc with hc | rfl | hc
      · exact Or.inl (hgroup.mem hc)
      · exact Or.inr rfl
      · exact ih hc

theorem Tail.mem (h : Tail text gs) (hc : c ∈ text) : c ∈ hexDigits ∨ c = ':' ∨ c = '.' := by
  cases h with
  | row hrow => exact (hrow.mem hc).imp_right Or.inl
  | quad hquad => exact (hquad.mem hc).imp_right Or.inr
  | rowQuad hrow hquad =>
      simp only [List.mem_append, List.mem_cons] at hc
      rcases hc with hc | rfl | hc
      · exact (hrow.mem hc).imp_right Or.inl
      · exact Or.inr (Or.inl rfl)
      · exact (hquad.mem hc).imp_right Or.inr

/-- A literal is made of hexadecimal digits, colons and dots. -/
theorem Literal.mem (h : Literal text gs) (hc : c ∈ text) :
    c ∈ hexDigits ∨ c = ':' ∨ c = '.' := by
  cases h with
  | full htail => exact htail.mem hc
  | gap hleft hright =>
      simp only [List.mem_append, List.mem_cons] at hc
      rcases hc with hc | rfl | rfl | hc
      · rcases hleft with ⟨rfl, -⟩ | hrow
        · exact absurd hc List.not_mem_nil
        · exact (hrow.mem hc).imp_right Or.inl
      · exact Or.inr (Or.inl rfl)
      · exact Or.inr (Or.inl rfl)
      · rcases hright with ⟨rfl, -⟩ | htail
        · exact absurd hc List.not_mem_nil
        · exact htail.mem hc

theorem Literal.percent_not_mem (h : Literal text gs) : '%' ∉ text := by
  intro hpercent
  rcases h.mem hpercent with hdigit | hmark
  · exact absurd hdigit (by decide)
  · exact absurd hmark (by decide)

/-! ## How many groups, and how large -/

theorem Group.ne_nil (h : Group piece group) : piece ≠ [] := by
  obtain ⟨digits, -, hpos, -⟩ := h
  exact List.ne_nil_of_length_pos hpos

/-- A row of digits spells a number of no more digits. -/
theorem ofDigits_lt {digits : List Nat} (h : Forall₂ HexDigit piece digits) :
    Nat.ofDigits 16 digits.reverse < 16 ^ piece.length := by
  have hsmall : ∀ digit ∈ digits.reverse, digit < 16 := by
    intro digit hdigit
    exact forall_of_forall₂ h.flip (fun _ _ hpair => HexDigit.lt hpair) digit
      (List.mem_reverse.mp hdigit)
  have hlt := Nat.ofDigits_lt_base_pow_length (by decide) hsmall
  rwa [List.length_reverse, ← h.length_eq] at hlt

theorem Group.lt (h : Group piece group) : group < 65536 := by
  obtain ⟨digits, hdigits, -, hshort, rfl⟩ := h
  calc Nat.ofDigits 16 digits.reverse
      < 16 ^ piece.length := ofDigits_lt hdigits
    _ ≤ 16 ^ 4 := Nat.pow_le_pow_right (by decide) hshort

theorem DottedQuad.lt (h : DottedQuad text gs) : ∀ g ∈ gs, g < 65536 := by
  obtain @⟨p, q, r, s, a, b, c, d, -, -, -, -⟩ := h
  have ha := a.toNat_lt
  have hb := b.toNat_lt
  have hc := c.toNat_lt
  have hd := d.toNat_lt
  simp only [List.mem_cons, List.not_mem_nil, or_false]
  rintro g (rfl | rfl) <;> omega

theorem Row.lt (h : Row text gs) : ∀ g ∈ gs, g < 65536 := by
  induction h with
  | single hgroup => simpa using hgroup.lt
  | cons hgroup _ ih => simpa using ⟨hgroup.lt, ih⟩

theorem Tail.lt (h : Tail text gs) : ∀ g ∈ gs, g < 65536 := by
  cases h with
  | row hrow => exact hrow.lt
  | quad hquad => exact hquad.lt
  | rowQuad hrow hquad =>
      intro g hg
      rcases List.mem_append.mp hg with hg | hg
      · exact hrow.lt g hg
      · exact hquad.lt g hg

theorem Side.lt {Pieces : List Char → List Nat → Prop} (h : Side Pieces text gs)
    (hpieces : Pieces text gs → ∀ g ∈ gs, g < 65536) : ∀ g ∈ gs, g < 65536 := by
  rcases h with ⟨-, rfl⟩ | h
  · simp
  · exact hpieces h

/-- What a literal denotes fits into two octets to the group. -/
theorem Literal.lt (h : Literal text gs) : ∀ g ∈ gs, g < 65536 := by
  cases h with
  | full htail => exact htail.lt
  | gap hleft hright =>
      intro g hg
      simp only [List.mem_append, List.mem_replicate] at hg
      rcases hg with (hg | ⟨-, rfl⟩) | hg
      · exact hleft.lt Row.lt g hg
      · decide
      · exact hright.lt Tail.lt g hg

theorem Literal.length_eq (h : Literal text gs) : gs.length = 8 := by
  cases h with
  | full _ hlength => exact hlength
  | gap _ _ hlength =>
      simp only [List.length_append, List.length_replicate]
      omega

theorem Row.length_le (h : Row text gs) : gs.length ≤ text.length := by
  induction h with
  | single hgroup => exact List.length_pos_of_ne_nil hgroup.ne_nil
  | cons _ _ ih =>
      simp only [List.length_append, List.length_cons]
      omega

/-- A group has four digits at most, and there are no more colons than groups. -/
theorem Row.length_lt (h : Row text gs) : text.length < 5 * gs.length := by
  induction h with
  | single hgroup =>
      obtain ⟨digits, -, -, hshort, -⟩ := hgroup
      rw [List.length_singleton]
      omega
  | cons hgroup _ ih =>
      obtain ⟨digits, -, -, hshort, -⟩ := hgroup
      simp only [List.length_append, List.length_cons]
      omega

theorem Tail.length_le (h : Tail text gs) : gs.length ≤ text.length := by
  cases h with
  | row hrow => exact hrow.length_le
  | quad hquad =>
      obtain ⟨-, -, -, -⟩ := hquad
      simp only [List.length_append, List.length_cons, List.length_nil]
      omega
  | rowQuad hrow hquad =>
      obtain ⟨-, -, -, -⟩ := hquad
      have hle := hrow.length_le
      simp only [List.length_append, List.length_cons, List.length_nil]
      omega

/-- A literal is too long for the reader to turn it down for its length. -/
theorem Literal.two_le_length (h : Literal text gs) : 2 ≤ text.length := by
  cases h with
  | full htail hlength =>
      have hle := htail.length_le
      omega
  | gap =>
      simp only [List.length_append, List.length_cons]
      omega

end InetAddress.V6.Grammar
