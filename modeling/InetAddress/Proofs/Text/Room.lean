import InetAddress.Proofs.Text.Derivation

/-!
# There is room for every text

A group has four digits at most and an octet of a quad three.  Eight groups in a row are the
longest layout, of 39 characters: a gap takes the place of two groups or more, and a quad is
written only after a gap for five.  A zone adds a percent sign and five digits at most.

```text
39 + 6 = 45 bytes          the longest short form
1025 bytes                 the buffer for it
```

So every address has its canonical text (`canonicalText_eq_ok`), and the full form is never
shown in its place (`text_eq_shortText`).
-/

namespace InetAddress.V6

open Grammar

variable {gs : List Nat} {text quad right : List Char} {start length : Nat}

/-! ## How long a layout is -/

theorem length_writeGroups_le (hlt : ∀ g ∈ gs, g < 65536) :
    (writeGroups gs).length ≤ 5 * gs.length - 1 := by
  rcases side_writeGroups hlt with ⟨htext, -⟩ | hrow
  · rw [htext]
    exact Nat.zero_le _
  · exact Nat.le_sub_one_of_lt hrow.length_lt

theorem AfterGap.length_le (h : AfterGap gs quad start length right)
    (hgap : IsGap gs start length) (hlength : gs.length = 8) (hlt : ∀ g ∈ gs, g < 65536)
    (hquad : quad.length ≤ 15) : 5 * start + right.length ≤ 30 := by
  cases h with
  | compatible => omega
  | mapped =>
      have hmark : (writeGroups [0xffff]).length = 4 := by decide
      rw [List.length_append, List.length_cons, hmark]
      omega
  | groups =>
      have htwo := hgap.two_le
      -- the run ends within the eight groups
      have hlast := (List.getElem?_eq_some_iff.mp (hgap.zeros (length - 1) (by omega))).1
      have hle := length_writeGroups_le (lt_drop hlt (start + length))
      rw [List.length_drop] at hle
      omega

theorem Layout.length_le (h : Layout gs quad text) (hlength : gs.length = 8)
    (hlt : ∀ g ∈ gs, g < 65536) (hquad : quad.length ≤ 15) : text.length ≤ 39 := by
  cases h with
  | full =>
      have hle := length_writeGroups_le hlt
      omega
  | @gap start length _ hgap hright =>
      have hleft := length_writeGroups_le (lt_take hlt start)
      have hrest := hright.length_le hgap hlength hlt hquad
      have hgapLength : V6.gap.length = 2 := rfl
      rw [List.length_take] at hleft
      rw [List.length_append, List.length_append, hgapLength]
      omega

/-! ## How long a text is -/

theorem length_writeZone_le (zone : UInt16) : (writeZone zone).length ≤ 6 := by
  have hlt := zone.toNat_lt
  have hdigits : (Decimal.write zone.toNat).length ≤ 5 :=
    (Nat.length_toDigits_le_iff (by decide) (by decide)).mpr (by omega)
  unfold writeZone
  split
  · exact Nat.zero_le _
  · exact Nat.succ_le_succ hdigits

theorem utf8ByteSize_shortText (a : V6) :
    a.shortText.utf8ByteSize = (writeShort a.octets).length + (writeZone a.zone).length := by
  have hhost : ∀ c ∈ writeShort a.octets ++ writeZone a.zone, c ∈ hostChars := fun _ =>
    mem_host (literal_writeShort a.octets) (zone_writeZone a.zone)
  rw [shortText, utf8ByteSize_ofList hhost, List.length_append]

theorem utf8ByteSize_shortText_le (a : V6) : a.shortText.utf8ByteSize ≤ 45 := by
  have hshort : (writeShort a.octets).length ≤ 39 :=
    (layout_writeShort a.octets).length_le (length_groups_toList a.octets)
      (fun _ => lt_of_mem_groups) (quad_lastQuad a.octets).length_le
  calc a.shortText.utf8ByteSize
      _ = (writeShort a.octets).length + (writeZone a.zone).length := utf8ByteSize_shortText a
      _ ≤ 39 + 6 := Nat.add_le_add hshort (length_writeZone_le a.zone)

/-- The text of every address fits the buffer. -/
theorem canonicalText_eq_shortText (a : V6) : a.canonicalText = .ok a.shortText :=
  if_pos (Nat.lt_of_le_of_lt a.utf8ByteSize_shortText_le (by decide))

theorem text_eq_shortText (a : V6) : a.text = a.shortText := by
  rw [text, canonicalText_eq_shortText]

theorem canonicalText_eq_ok (a : V6) : a.canonicalText = .ok a.text := by
  rw [canonicalText_eq_shortText, text_eq_shortText]

theorem toList_text (a : V6) : a.text.toList = writeShort a.octets ++ writeZone a.zone := by
  rw [text_eq_shortText]
  exact String.toList_ofList

theorem utf8ByteSize_text_le (a : V6) : a.text.utf8ByteSize ≤ 45 := by
  rw [text_eq_shortText]
  exact a.utf8ByteSize_shortText_le

end InetAddress.V6
