import InetAddress.Proofs.Embedding
import InetAddress.Proofs.Text.Canonical

/-!
# The text of an address

What precedes the zone in the text of an address is the short form of its octets, and so a
canonical text for its groups.  The quad is what is left to explain:

```text
::1.2.3.4            96 clear bits, and not all of the next 16
::ffff:1.2.3.4       mapped
```

The first is a statement on groups turned into one on bits (`isGap_six_iff`).  The second says
more, since the text after `::ffff:` is that of the IPv4 address that the address carries.  One
direction is the layout (`writeShort_of_isMapped`).  The other needs no layout at all: the text
is read back as the address, and `::ffff:` with a quad is read as a mapped address
(`toV4_iff_writeShort`).
-/

namespace InetAddress.V6

open Grammar

variable {a : V6} {v : V4} {x : Octets 16} {gs : List Nat} {quad text : List Char}

/-! ## A text without its zone -/

/-- What precedes the zone in a text. -/
def beforeZone (text : String) : List Char :=
  text.toList.takeWhile (· != '%')

/-- The zone in a text, with its percent sign, or nothing. -/
def zonePart (text : String) : List Char :=
  text.toList.dropWhile (· != '%')

theorem ne_percent_of_mem {c : Char} (h : c ∈ writeShort x) : (c != '%') = true :=
  bne_iff_ne.mpr fun heq => (literal_writeShort x).percent_not_mem (heq ▸ h)

theorem beforeZone_text (a : V6) : beforeZone a.text = writeShort a.octets := by
  have hzone : (writeZone a.zone).takeWhile (· != '%') = [] := by
    unfold writeZone
    split <;> rfl
  rw [beforeZone, toList_text, List.takeWhile_append_of_pos fun _ => ne_percent_of_mem, hzone,
    List.append_nil]

theorem zonePart_text (a : V6) : zonePart a.text = writeZone a.zone := by
  have hzone : (writeZone a.zone).dropWhile (· != '%') = writeZone a.zone := by
    unfold writeZone
    split <;> rfl
  rw [zonePart, toList_text, List.dropWhile_append_of_pos fun _ => ne_percent_of_mem, hzone]

/-! ## Canonical texts -/

theorem canonical_writeShort (x : Octets 16) : Canonical (writeShort x) (groups x.toList) :=
  canonical_of_layout (layout_writeShort x) (length_groups_toList x) (fun _ => lt_of_mem_groups)
    (quad_lastQuad x)

/-! ## Quads -/

/-- Six zero groups are a gap when the next one is not zero. -/
theorem isGap_six_iff : IsGap (groups x.toList) 0 6 ↔
    (∀ i < 96, x.bit i = false) ∧ ∃ i, 96 ≤ i ∧ i < 112 ∧ x.bit i = true := by
  rw [isGap_front_iff (by decide) (by rw [length_groups_toList]; decide),
    isZeroRun_groups_iff (by decide), Ne, getElem?_groups_eq_zero_iff (by decide)]
  push Not
  simp only [Bool.not_eq_false]

theorem getElem?_groups_five_iff : (groups x.toList)[5]? = some 0xffff ↔
    ∀ i, 80 ≤ i → i < 96 → x.bit i = true := by
  rw [getElem?_groups_eq_iff (by decide) (by decide)]
  refine forall₃_congr fun i hfirst hlast => ?_
  rw [show 0xffff = 2 ^ 16 - 1 from rfl, Nat.testBit_two_pow_sub_one, decide_eq_true (by omega)]

theorem isMapped_iff_gap : a.isMapped ↔
    IsGap (groups a.octets.toList) 0 5 ∧ (groups a.octets.toList)[5]? = some 0xffff := by
  rw [isMapped_iff_bit, isGap_front_iff (by decide) (by rw [length_groups_toList]; decide),
    isZeroRun_groups_iff (by decide), ← getElem?_groups_five_iff, and_assoc]
  refine and_congr_right fun _ => (and_iff_right_of_imp fun hmark => ?_).symm
  rw [hmark]
  decide

theorem exists_quad_iff (a : V6) :
    (∃ piece ∈ (writeShort a.octets).splitOn ':', ∃ pair, DottedQuad piece pair) ↔
      a.isMapped ∨ (∀ i < 96, a.octets.bit i = false) ∧
        ∃ i, 96 ≤ i ∧ i < 112 ∧ a.octets.bit i = true := by
  rw [(layout_writeShort a.octets).exists_quad_iff (fun _ => lt_of_mem_groups)
    (quad_lastQuad a.octets), EndsInQuad, isGap_six_iff, ← isMapped_iff_gap, or_comm]

/-! ## Mapped addresses -/

/-- A gap for five groups and `ffff` after it leave one layout. -/
theorem Layout.eq_of_mapped (h : Layout gs quad text) (hgap : IsGap gs 0 5)
    (hmark : gs[5]? = some 0xffff) : text = "::ffff:".toList ++ quad := by
  cases h with
  | full hshort => exact absurd (hshort 0 5 hgap.zeros) (by decide)
  | gap hother hright =>
      obtain ⟨rfl, rfl⟩ := hgap.eq hother
      cases hright with
      | mapped => rfl
      | groups _ hfive => exact absurd ⟨rfl, rfl, hmark⟩ hfive

theorem writeShort_of_isMapped (h : a.isMapped) :
    writeShort a.octets = "::ffff:".toList ++ lastQuad a.octets := by
  obtain ⟨hgap, hmark⟩ := isMapped_iff_gap.mp h
  exact (layout_writeShort a.octets).eq_of_mapped hgap hmark

theorem toList_mapped_text (v : V4) :
    ("::ffff:" ++ v.text).toList = "::ffff:".toList ++ Quad.write v.octets := by
  have hquad : v.text.toList = Quad.write v.octets := String.toList_ofList
  rw [String.toList_append, hquad]

/-- An address is written as `::ffff:` and an IPv4 address just when that is what it carries. -/
theorem toV4_iff_writeShort :
    a.toV4 = .ok v ↔ writeShort a.octets = ("::ffff:" ++ v.text).toList := by
  constructor
  · intro h
    have hmapped : a.isMapped := exists_toV4_iff.mp ⟨v, h⟩
    have hcarried := mapped?_eq_some_iff.mpr (toV4_eq_ok_iff.mp h)
    rw [mapped?, if_pos hmapped, Option.some.injEq] at hcarried
    rw [writeShort_of_isMapped hmapped, toList_mapped_text, ← hcarried]
    rfl
  · intro h
    have htext : (a.withZone 0).text = "::ffff:" ++ v.text := by
      rw [← String.toList_inj, toList_text, ← h]
      exact List.append_nil _
    have hread := parse_text (a.withZone 0)
    rw [htext, parse_mapped_text, Except.ok.injEq] at hread
    exact toV4_eq_ok_iff.mpr (congrArg octets hread).symm

theorem isMapped_iff_writeShort : a.isMapped ↔
    writeShort a.octets = ("::ffff:" ++ (V4.mk (a.octets.drop 12)).text).toList := by
  rw [← toV4_iff_writeShort]
  refine ⟨fun h => ?_, fun h => exists_toV4_iff.mp ⟨_, h⟩⟩
  rw [toV4, mapped?, if_pos h]

/-- **The text of an address is canonical.**  Before the zone it is a canonical text for the groups
of the address, and the zone follows after a percent sign unless it is 0.  One of the pieces
between colons is a dotted quad just when the address is mapped or has 96 clear bits in front that
are not followed by a zero group.  The address is mapped just when the text before the zone is
`::ffff:` and the text of its last four octets, and that of no other IPv4 address than the one that
it carries.  A text has from 2 to 45 bytes, so there is room for it in a buffer of 1025, and it is
what is written there. -/
theorem text_canonical_size (a : V6) :
    a.canonicalText = .ok a.text ∧
    Canonical (beforeZone a.text) (groups a.octets.toList) ∧
    zonePart a.text = (if a.zone = 0 then [] else '%' :: Decimal.write a.zone.toNat) ∧
    ((∃ piece ∈ (beforeZone a.text).splitOn ':', ∃ pair, DottedQuad piece pair) ↔
      a.isMapped ∨ (∀ i < 96, a.octets.bit i = false) ∧
        ∃ i, 96 ≤ i ∧ i < 112 ∧ a.octets.bit i = true) ∧
    (a.isMapped ↔
      beforeZone a.text = ("::ffff:" ++ (V4.mk (a.octets.drop 12)).text).toList) ∧
    (∀ v, a.toV4 = .ok v ↔ beforeZone a.text = ("::ffff:" ++ v.text).toList) ∧
    2 ≤ a.text.utf8ByteSize ∧ a.text.utf8ByteSize ≤ 45 ∧ a.text.utf8ByteSize < 1025 := by
  have hle := utf8ByteSize_text_le a
  have htwo : 2 ≤ a.text.utf8ByteSize := by
    rw [text_eq_shortText, utf8ByteSize_shortText]
    exact Nat.le_add_right_of_le (literal_writeShort a.octets).two_le_length
  rw [beforeZone_text]
  exact ⟨canonicalText_eq_ok a, canonical_writeShort a.octets, zonePart_text a, exists_quad_iff a,
    isMapped_iff_writeShort, fun v => toV4_iff_writeShort, htwo, hle, by omega⟩

/-- Of two runs of the same length the first is the gap, and one group alone is none. -/
example : (ofOctets #v[0, 1, 0, 0, 0, 0, 0, 2, 0, 0, 0, 0, 0, 3, 0, 0]).text = "1::2:0:0:3:0" := by
  decide +kernel

end InetAddress.V6
