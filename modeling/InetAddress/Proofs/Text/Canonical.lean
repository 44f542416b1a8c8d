import InetAddress.Proofs.Literal.Gap
import InetAddress.Proofs.Text.Groups

/-!
# Layouts are canonical texts

Of the many literals for eight groups, the short form of an address is the one that is
recommended: small letters, no leading zeros, one gap where the first of the longest runs of
zero groups is, and no gap for a single group.  `Canonical` says this of a text, whatever wrote
it, and `canonical_of_layout` that all layouts are such texts.

Which layouts have a quad is decided by the groups (`EndsInQuad`), and either all pieces of a
layout are plain or the quad is the one piece that is not (`Layout.quadOrPlain`).
-/

namespace InetAddress.V6

open Grammar

variable {gs : List Nat} {text quad right piece : List Char} {start length : Nat}

/-! ## Canonical texts -/

/-- A text for eight groups that is written as is recommended. -/
structure Canonical (text : List Char) (gs : List Nat) : Prop where
  literal : Literal text gs
  chars : ∀ c ∈ text, c ∈ lowerDigits ∨ c = ':' ∨ c = '.'
  pieces : ∀ piece ∈ text.splitOn ':',
    piece = [] ∨ (∃ group, ShortGroup piece group) ∨ DottedQuad piece (gs.drop 6)
  /-- There is one gap at most. -/
  gap_unique : ∀ left right l r, text = left ++ gap ++ right → text = l ++ gap ++ r →
    l = left ∧ r = right
  /-- A gap stands for the first of the longest runs of zero groups. -/
  gap_stands : ∀ left right, text = left ++ gap ++ right → ∃ start length,
    IsGap gs start length ∧ Side Row left (gs.take start) ∧
      Side Tail right (gs.drop (start + length))
  gap_iff : (∃ left right, text = left ++ gap ++ right) ↔
    ∃ start length, 2 ≤ length ∧ IsZeroRun gs start length

/-! ## The pieces of a layout -/

/-- A piece that is no quad. -/
def Plain (piece : List Char) : Prop :=
  piece = [] ∨ ∃ group, ShortGroup piece group

theorem Plain.not_quad {last : List Nat} (h : Plain piece) : ¬ DottedQuad piece last := by
  intro hquad
  have hdot := hquad.dot_mem
  rcases h with rfl | ⟨group, hgroup, -⟩
  · exact absurd hdot List.not_mem_nil
  · exact absurd (hgroup.mem hdot) (by decide)

theorem plain_of_mem (hlt : ∀ g ∈ gs, g < 65536) (h : piece ∈ (writeGroups gs).splitOn ':') :
    Plain piece := by
  by_cases hne : gs = []
  · subst hne
    exact Or.inl (List.mem_singleton.mp h)
  · have hcolon : ∀ digits ∈ gs.map Hex.write, ':' ∉ digits := by
      intro digits hdigits
      obtain ⟨g, hg, rfl⟩ := List.mem_map.mp hdigits
      exact (group_write (hlt g hg)).colon_not_mem
    rw [writeGroups, List.splitOn_intercalate ':' hcolon (by simpa using hne)] at h
    obtain ⟨g, hg, rfl⟩ := List.mem_map.mp h
    exact Or.inr ⟨g, shortGroup_write (hlt g hg)⟩

/-- The groups that are written with a quad: a gap in front stands for six of them, or for five
and `ffff` follows. -/
def EndsInQuad (gs : List Nat) : Prop :=
  IsGap gs 0 6 ∨ IsGap gs 0 5 ∧ gs[5]? = some 0xffff

/-- With or without a quad: all pieces are plain, or the quad is the one that is not. -/
def QuadOrPlain (gs : List Nat) (quad text : List Char) : Prop :=
  ¬ EndsInQuad gs ∧ (∀ piece ∈ text.splitOn ':', Plain piece) ∨
    EndsInQuad gs ∧ quad ∈ text.splitOn ':' ∧
      ∀ piece ∈ text.splitOn ':', Plain piece ∨ piece = quad

theorem AfterGap.quadOrPlain (h : AfterGap gs quad start length right)
    (hgap : IsGap gs start length) (hlt : ∀ g ∈ gs, g < 65536) (hcolon : ':' ∉ quad) :
    QuadOrPlain gs quad right := by
  cases h with
  | compatible =>
      refine Or.inr ⟨Or.inl hgap, ?_⟩
      rw [List.splitOn_eq_singleton hcolon]
      simp
  | mapped hmark =>
      refine Or.inr ⟨Or.inr ⟨hgap, hmark⟩, ?_⟩
      rw [List.splitOn_append_cons_self, List.splitOn_eq_singleton hcolon]
      refine ⟨by simp, fun piece hpiece => ?_⟩
      rw [List.mem_append, List.mem_singleton] at hpiece
      exact hpiece.imp_left (plain_of_mem (by simp))
  | groups hsix hfive =>
      refine Or.inl ⟨fun hends => ?_, fun piece hpiece => ?_⟩
      · -- there is one gap only, and it is neither of the two
        rcases hends with hother | ⟨hother, hmark⟩
        · exact hsix (hother.eq hgap)
        · obtain ⟨hstart, hlength⟩ := hother.eq hgap
          exact hfive ⟨hstart, hlength, hmark⟩
      · exact plain_of_mem (lt_drop hlt _) hpiece

theorem Layout.quadOrPlain (h : Layout gs quad text) (hlt : ∀ g ∈ gs, g < 65536)
    (hcolon : ':' ∉ quad) : QuadOrPlain gs quad text := by
  cases h with
  | full hshort =>
      refine Or.inl ⟨fun hends => ?_, fun piece hpiece => plain_of_mem hlt hpiece⟩
      rcases hends with hgap | ⟨hgap, -⟩
      · exact absurd (hshort 0 6 hgap.zeros) (by decide)
      · exact absurd (hshort 0 5 hgap.zeros) (by decide)
  | @gap start _ _ hgap hright =>
      have hleft : ∀ piece ∈ (writeGroups (gs.take start)).splitOn ':', Plain piece :=
        fun piece => plain_of_mem (lt_take hlt start)
      have hnil : Plain [] := Or.inl rfl
      unfold QuadOrPlain
      rw [splitOn_gap]
      simp only [List.forall_mem_append, List.forall_mem_cons]
      rcases hright.quadOrPlain hgap hlt hcolon with ⟨hends, hplain⟩ | ⟨hends, hmem, hall⟩
      · exact Or.inl ⟨hends, hleft, hnil, hplain⟩
      · exact Or.inr ⟨hends, List.mem_append_right _ (List.mem_cons_of_mem _ hmem),
          fun piece hpiece => Or.inl (hleft piece hpiece), Or.inl hnil, hall⟩

/-- A layout has a quad if its groups are written with one. -/
theorem Layout.exists_quad_iff {last : List Nat} (h : Layout gs quad text)
    (hlt : ∀ g ∈ gs, g < 65536) (hquad : DottedQuad quad last) :
    (∃ piece ∈ text.splitOn ':', ∃ pair, DottedQuad piece pair) ↔ EndsInQuad gs := by
  rcases h.quadOrPlain hlt hquad.colon_not_mem with ⟨hends, hplain⟩ | ⟨hends, hmem, -⟩
  · refine iff_of_false (fun h => ?_) hends
    obtain ⟨piece, hpiece, pair, hpair⟩ := h
    exact (hplain piece hpiece).not_quad hpair
  · exact iff_of_true ⟨quad, hmem, last, hquad⟩ hends

/-- The quad of a layout is the only piece that is not plain. -/
theorem Layout.piece_of_mem {last : List Nat} (h : Layout gs quad text)
    (hlt : ∀ g ∈ gs, g < 65536) (hquad : DottedQuad quad last) (hpiece : piece ∈ text.splitOn ':') :
    Plain piece ∨ DottedQuad piece last := by
  rcases h.quadOrPlain hlt hquad.colon_not_mem with ⟨-, hplain⟩ | ⟨-, -, hall⟩
  · exact Or.inl (hplain piece hpiece)
  · rcases hall piece hpiece with hplain | rfl
    · exact Or.inl hplain
    · exact Or.inr hquad

theorem Layout.char_of_mem {last : List Nat} {c : Char} (h : Layout gs quad text)
    (hlt : ∀ g ∈ gs, g < 65536) (hquad : DottedQuad quad last) (hc : c ∈ text) :
    c ∈ lowerDigits ∨ c = ':' ∨ c = '.' := by
  -- a character of the text is a colon or in a piece
  have htext : [':'].intercalate (text.splitOn ':') = text := List.intercalate_splitOn ':'
  rw [← htext] at hc
  rcases eq_or_mem_of_mem_intercalate hc with hcolon | ⟨piece, hpiece, hc⟩
  · exact Or.inr (Or.inl hcolon)
  · rcases h.piece_of_mem hlt hquad hpiece with (rfl | ⟨group, -, -, hlower⟩) | hpieceQuad
    · exact absurd hc List.not_mem_nil
    · exact Or.inl (hlower c hc)
    · exact (hpieceQuad.isDigit_or hc).imp mem_lowerDigits_of_isDigit Or.inr

/-! ## The gap of a layout -/

theorem writeGroups_ne_gap {left : List Char} (hpos : 0 < gs.length) (hlt : ∀ g ∈ gs, g < 65536) :
    writeGroups gs ≠ left ++ gap ++ right :=
  (Tail.row (row_writeGroups (List.ne_nil_of_length_pos hpos) hlt)).ne_gap

theorem Layout.exists_gap_iff (h : Layout gs quad text) (hpos : 0 < gs.length)
    (hlt : ∀ g ∈ gs, g < 65536) :
    (∃ left right, text = left ++ V6.gap ++ right) ↔
      ∃ start length, 2 ≤ length ∧ IsZeroRun gs start length := by
  rw [← exists_isGap_iff]
  cases h with
  | full hshort =>
      refine iff_of_false (fun h => ?_) fun h => ?_
      · obtain ⟨left, right, htext⟩ := h
        exact writeGroups_ne_gap hpos hlt htext
      · obtain ⟨start, length, hgap⟩ := h
        exact absurd hgap.two_le (Nat.not_le.mpr (hshort start length hgap.zeros))
  | gap hgap => exact iff_of_true ⟨_, _, rfl⟩ ⟨_, _, hgap⟩

/-- There is one gap to find in a layout, and it is the one that was written. -/
theorem Layout.gap_stands {left : List Char} (h : Layout gs quad text)
    (hliteral : Literal text gs) (hpos : 0 < gs.length) (hlt : ∀ g ∈ gs, g < 65536)
    (hquad : DottedQuad quad (gs.drop 6)) (htext : text = left ++ V6.gap ++ right) :
    ∃ start length, IsGap gs start length ∧ Side Row left (gs.take start) ∧
      Side Tail right (gs.drop (start + length)) := by
  cases h with
  | full => exact absurd htext (writeGroups_ne_gap hpos hlt)
  | @gap start length after hgap hright =>
      obtain ⟨rfl, rfl⟩ := hliteral.gap_unique rfl htext
      exact ⟨start, length, hgap, side_writeGroups (lt_take hlt start),
        side_of_afterGap hright hlt hquad⟩

theorem canonical_of_layout (h : Layout gs quad text) (hlength : gs.length = 8)
    (hlt : ∀ g ∈ gs, g < 65536) (hquad : DottedQuad quad (gs.drop 6)) : Canonical text gs := by
  have hliteral : Literal text gs := literal_of_layout h hlength hlt hquad
  have hpos : 0 < gs.length := by omega
  exact {
    literal := hliteral
    chars := fun c => h.char_of_mem hlt hquad
    pieces := fun piece hpiece => or_assoc.mp (h.piece_of_mem hlt hquad hpiece)
    gap_unique := fun left right l r => hliteral.gap_unique
    gap_stands := fun left right => h.gap_stands hliteral hpos hlt hquad
    gap_iff := h.exists_gap_iff hpos hlt }

end InetAddress.V6
