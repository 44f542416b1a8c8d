import InetAddress.Proofs.Literal.Acceptance
import InetAddress.Proofs.Text.Layout

/-!
# What is written is in the grammar

Both forms of an address are derived from the grammar, as texts for the groups of
its octets.  No reader is run here: a text of the grammar is read as what it
denotes (`parse_eq_ok_iff_written`), so the derivation is all there is to a round
trip.

In each layout of the short form the gap has to be worth what was left out.  That is
the one fact about the run that matters: it is a run of zero groups
(`eq_take_append_drop`).  That it is the longest one plays no part.
-/

namespace InetAddress.V6.Grammar

variable {gs : List Nat} {group start length : Nat} {octets : List UInt8} {x : Octets 16}

/-! ## The groups of octets -/

theorem length_groups (octets : List UInt8) : (groups octets).length = octets.length / 2 := by
  fun_induction groups octets with
  | case1 high low rest ih =>
      simp only [List.length_cons, ih]
      omega
  | case2 octets hshort =>
      have hlength := length_le_one_of_no_pair hshort
      simp only [List.length_nil]
      omega

theorem length_groups_toList (x : Octets 16) : (groups x.toList).length = 8 := by
  rw [length_groups, Vector.length_toList]

theorem lt_of_mem_groups (h : group ∈ groups octets) : group < 65536 := by
  fun_induction groups octets with
  | case1 high low rest ih =>
      rcases List.mem_cons.mp h with rfl | h
      · have hhigh := high.toNat_lt
        have hlow := low.toNat_lt
        omega
      · exact ih h
  | case2 => exact absurd h List.not_mem_nil

theorem lt_take (hlt : ∀ g ∈ gs, g < 65536) (count : Nat) : ∀ g ∈ gs.take count, g < 65536 :=
  fun g hg => hlt g (List.mem_of_mem_take hg)

theorem lt_drop (hlt : ∀ g ∈ gs, g < 65536) (count : Nat) : ∀ g ∈ gs.drop count, g < 65536 :=
  fun g hg => hlt g (List.mem_of_mem_drop hg)

theorem groups_drop (octets : List UInt8) (count : Nat) :
    groups (octets.drop (2 * count)) = (groups octets).drop count := by
  induction count generalizing octets with
  | zero => rfl
  | succ count ih =>
      match octets with
      | [] => rfl
      | [_] => simp [groups, Nat.mul_succ]
      | high :: low :: rest => exact ih rest

/-! ## Rows -/

theorem group_write (h : group < 65536) : Group (Hex.write group) group := by
  obtain ⟨digits, hdigits, hvalue⟩ := hex_read?_eq_some_iff.mp (Hex.read?_write group)
  have hshort : (Hex.write group).length ≤ 4 :=
    (Nat.length_toDigits_le_iff (by decide) (by decide)).mpr h
  exact ⟨digits, hdigits, Nat.length_toDigits_pos, hshort, hvalue⟩

theorem side_writeGroups (h : ∀ g ∈ gs, g < 65536) : Side Row (writeGroups gs) gs := by
  induction gs with
  | nil => exact Or.inl ⟨rfl, rfl⟩
  | cons g gs ih =>
      right
      have hgroup := group_write (h g List.mem_cons_self)
      cases gs with
      | nil =>
          rw [writeGroups, List.map_singleton, List.intercalate_singleton]
          exact Row.single hgroup
      | cons next gs =>
          rw [writeGroups, List.map_cons, List.map_cons, intercalate_colon]
          rcases ih fun g hg => h g (List.mem_cons_of_mem _ hg) with ⟨-, hnil⟩ | hrow
          · cases hnil
          · exact Row.cons hgroup hrow

theorem row_writeGroups (hne : gs ≠ []) (h : ∀ g ∈ gs, g < 65536) : Row (writeGroups gs) gs := by
  rcases side_writeGroups h with ⟨-, hnil⟩ | hrow
  · exact absurd hnil hne
  · exact hrow

theorem quad_write (y : Octets 4) : DottedQuad (Quad.write y) (groups y.toList) := by
  have hlength : y.toList.length = 4 := Vector.length_toList
  unfold Quad.write
  match y.toList, hlength with
  | [a, b, c, d], _ =>
      have hquad := DottedQuad.parts (quadOctet_iff_eq_write.mpr (Eq.refl (Decimal.write a.toNat)))
        (quadOctet_iff_eq_write.mpr (Eq.refl (Decimal.write b.toNat)))
        (quadOctet_iff_eq_write.mpr (Eq.refl (Decimal.write c.toNat)))
        (quadOctet_iff_eq_write.mpr (Eq.refl (Decimal.write d.toNat)))
      simpa [List.intercalate, List.intersperse, groups] using hquad

theorem quad_lastQuad (x : Octets 16) :
    DottedQuad (lastQuad x) ((groups x.toList).drop 6) := by
  have hquad := quad_write (x.drop 12)
  rwa [Vector.toList_drop, groups_drop x.toList 6] at hquad

/-! ## Gaps -/

/-- A run of zero groups is what a gap of its length puts back. -/
theorem eq_take_append_drop (h : IsZeroRun gs start length) :
    gs.take start ++ List.replicate length 0 ++ gs.drop (start + length) = gs := by
  have hzeros : (gs.drop start).take length = List.replicate length 0 := by
    refine List.ext_getElem? fun k => ?_
    rw [List.getElem?_take, List.getElem?_drop, List.getElem?_replicate]
    split
    · rename_i hk
      exact h k hk
    · rfl
  rw [← hzeros, ← List.drop_drop, List.append_assoc, List.take_append_drop,
    List.take_append_drop]

/-- A gap between what is left of eight groups when a run is left out. -/
theorem literal_gap {left right : List Char} {before after : List Nat} (hlength : gs.length = 8)
    (hpos : 0 < length) (hleft : Side Row left before) (hright : Side Tail right after)
    (hparts : before ++ List.replicate length 0 ++ after = gs) :
    Literal (left ++ gap ++ right) gs := by
  have htotal := congrArg List.length hparts
  rw [List.length_append, List.length_append, List.length_replicate, hlength] at htotal
  have hcount : 8 - (before.length + after.length) = length := by omega
  have hliteral := Literal.gap hleft hright (by omega)
  rw [hcount, hparts] at hliteral
  rwa [gap, List.append_assoc]

/-! ## The two forms -/

/-- What follows the gap is written for the groups that follow the run. -/
theorem side_of_afterGap {quad right : List Char} (h : AfterGap gs quad start length right)
    (hlt : ∀ g ∈ gs, g < 65536) (hquad : DottedQuad quad (gs.drop 6)) :
    Side Tail right (gs.drop (start + length)) := by
  cases h with
  | compatible => exact Or.inr (Tail.quad hquad)
  | mapped hmark =>
      -- one more group than the quad stands for
      have hdrop : gs.drop 5 = [0xffff] ++ gs.drop 6 := by
        rw [List.drop_eq_getElem?_toList_append, hmark]
        rfl
      have htail := Tail.rowQuad (row_writeGroups (List.cons_ne_nil 0xffff []) (by simp)) hquad
      rw [← hdrop] at htail
      exact Or.inr htail
  | groups =>
      have hrow := side_writeGroups (lt_drop hlt (start + length))
      exact hrow.imp_right Tail.row

/-- A layout of eight groups is a literal for them. -/
theorem literal_of_layout {quad text : List Char} (h : Layout gs quad text)
    (hlength : gs.length = 8) (hlt : ∀ g ∈ gs, g < 65536) (hquad : DottedQuad quad (gs.drop 6)) :
    Literal text gs := by
  cases h with
  | full =>
      have hne : gs ≠ [] := List.ne_nil_of_length_pos (by omega)
      exact Literal.full (Tail.row (row_writeGroups hne hlt)) hlength
  | gap hgap hright =>
      have htwo := hgap.two_le
      exact literal_gap hlength (by omega)
        (side_writeGroups (lt_take hlt _))
        (side_of_afterGap hright hlt hquad) (eq_take_append_drop hgap.zeros)

/-- The short form is a literal for the groups of the octets. -/
theorem literal_writeShort (x : Octets 16) : Literal (writeShort x) (groups x.toList) :=
  literal_of_layout (layout_writeShort x) (length_groups_toList x) (fun _ => lt_of_mem_groups)
    (quad_lastQuad x)

theorem group_writeOctet (high low : UInt8) :
    Group (Hex.writeOctet high ++ Hex.writeOctet low) (256 * high.toNat + low.toNat) := by
  have hhigh := high.toNat_lt
  have hlow := low.toNat_lt
  have hread : Hex.read? (Hex.writeOctet high ++ Hex.writeOctet low) =
      some (256 * high.toNat + low.toNat) := by
    have hthree := Hex.read?_append_digitChar (Hex.read?_writeOctet high)
      (show low.toNat / 16 < 16 by omega)
    have hfour := Hex.read?_append_digitChar hthree (show low.toNat % 16 < 16 by omega)
    rw [List.append_assoc, List.singleton_append] at hfour
    refine hfour.trans (congrArg some ?_)
    omega
  obtain ⟨digits, hdigits, hvalue⟩ := hex_read?_eq_some_iff.mp hread
  exact ⟨digits, hdigits, by simp [Hex.writeOctet], by simp [Hex.writeOctet], hvalue⟩

theorem groups_of_fullGroups (octets : List UInt8) :
    List.Forall₂ Group (fullGroups octets) (groups octets) := by
  fun_induction groups octets with
  | case1 high low rest ih => exact .cons (group_writeOctet high low) ih
  | case2 octets hshort =>
      unfold fullGroups
      split
      · exact (hshort _ _ _ rfl).elim
      · exact .nil

/-- The full form is a literal for the groups of the octets. -/
theorem literal_fullText (a : V6) : Literal a.fullText.toList (groups a.octets.toList) := by
  have hlength := length_groups_toList a.octets
  have hgroups := groups_of_fullGroups a.octets.toList
  rw [fullText, String.toList_ofList]
  obtain ⟨piece, pieces, hpieces⟩ := List.exists_cons_of_length_pos
    (show 0 < (fullGroups a.octets.toList).length by rw [hgroups.length_eq]; omega)
  rw [hpieces] at hgroups ⊢
  exact Literal.full (Tail.row (row_intercalate hgroups)) hlength

/-! ## Texts -/

theorem zone_writeZone (zone : UInt16) : Zone (writeZone zone) zone.toNat := by
  unfold writeZone
  split
  · rename_i hzero
    subst hzero
    exact Zone.none
  · have hlt := zone.toNat_lt
    exact Zone.number (decimal_read?_eq_some_iff.mp (Decimal.read?_write _)) (by omega)

/-- A host stands for itself, and so does a pair of brackets around it. -/
theorem written_of_host {literal zoneText : List Char} {zone : Nat} {text : String}
    (hliteral : Literal literal gs) (hzone : Zone zoneText zone)
    (htext : text.toList = literal ++ zoneText) :
    Written text gs zone ∧ Written ("[" ++ text ++ "]") gs zone := by
  constructor
  · refine ⟨literal, zoneText, Or.inr ⟨htext.symm, fun inner heq => ?_⟩, hliteral, hzone⟩
    have hopen : '[' ∈ literal ++ zoneText := by
      rw [← htext, heq]
      exact List.mem_cons_self
    exact absurd (mem_host hliteral hzone hopen) (by decide)
  · refine ⟨literal, zoneText, Or.inl ?_, hliteral, hzone⟩
    simp [String.toList_append, htext]

/-- Without brackets and without a zone a text is an address if it is a literal. -/
theorem parse_bare_eq_ok_iff {text : String} {a : V6} (hopen : text.toList.head? ≠ some '[')
    (hpercent : '%' ∉ text.toList) :
    parse text = .ok a ↔ readLiteral? text.toList = some a.octets ∧ a.zone = 0 := by
  rw [parse_eq_ok_iff_written, ← literal_groups_iff]
  constructor
  · rintro ⟨zone, ⟨literal, zoneText, hhost, hliteral, hzone⟩, hkept⟩
    have htext : literal ++ zoneText = text.toList := by
      rcases hhost with heq | ⟨heq, -⟩
      · exact absurd (congrArg List.head? heq) hopen
      · exact heq
    cases hzone with
    | none =>
        rw [List.append_nil] at htext
        exact ⟨htext ▸ hliteral, hkept⟩
    | number =>
        refine absurd ?_ hpercent
        rw [← htext]
        simp
  · rintro ⟨hliteral, hkept⟩
    exact ⟨0, (written_of_host hliteral .none (List.append_nil _).symm).1, hkept⟩

theorem parse_of_written {text : String} {a : V6}
    (h : Written text (groups a.octets.toList) a.zone.toNat) : parse text = .ok a :=
  parse_eq_ok_iff_written.mpr ⟨_, h, UInt16.ofNat_toNat.symm⟩

theorem written_shortText (a : V6) :
    Written a.shortText (groups a.octets.toList) a.zone.toNat ∧
      Written ("[" ++ a.shortText ++ "]") (groups a.octets.toList) a.zone.toNat :=
  written_of_host (literal_writeShort a.octets) (zone_writeZone a.zone) String.toList_ofList

theorem written_fullText (a : V6) :
    Written a.fullText (groups a.octets.toList) 0 ∧
      Written ("[" ++ a.fullText ++ "]") (groups a.octets.toList) 0 :=
  written_of_host (literal_fullText a) Zone.none (List.append_nil _).symm

end InetAddress.V6.Grammar
