import InetAddress.V6.Text

/-!
# The layouts of the short form

A gap stands for the first of the longest runs of zero groups, if that is two groups long
or longer (`IsGap`).  What precedes the run is written as groups.  What follows it is
written as groups too, but for the two layouts that end in a dotted quad:

```text
no run of two zero groups          eight groups in a row
six zero groups in front           nothing, gap, quad
five in front, then ffff           nothing, gap, ffff and a quad
any other run                      row or nothing, gap, row or nothing
```

The short form compares numbers to choose among these, and `layout_writeShort` is where it
is taken apart.  All that is shown of short forms is shown of layouts.
-/

namespace InetAddress.V6

variable {gs : List Nat} {start length s l : Nat}

/-! ## Gaps -/

/-- The run of zero groups that a gap stands for. -/
structure IsGap (gs : List Nat) (start length : Nat) : Prop where
  zeros : IsZeroRun gs start length
  two_le : 2 ≤ length
  /-- No other run is longer. -/
  longest : ∀ s l, IsZeroRun gs s l → l ≤ length
  /-- No other run of the same length starts earlier. -/
  leftmost : ∀ s, IsZeroRun gs s length → start ≤ s

/-- There is one run at most that a gap stands for, the one that is searched for. -/
theorem isGap_iff : IsGap gs start length ↔ longestZeroRun gs = (start, length) ∧ 2 ≤ length := by
  constructor
  · intro h
    have hfound := isZeroRun_longest gs
    have hlength : (longestZeroRun gs).2 = length :=
      Nat.le_antisymm (h.longest _ _ hfound) (le_longest h.zeros)
    rw [hlength] at hfound
    have hstart : (longestZeroRun gs).1 = start :=
      Nat.le_antisymm (longest_start_le (hlength.symm ▸ h.zeros)) (h.leftmost _ hfound)
    exact ⟨Prod.ext hstart hlength, h.two_le⟩
  · rintro ⟨hrun, htwo⟩
    have hzeros := isZeroRun_longest gs
    have hlongest : ∀ s l, IsZeroRun gs s l → l ≤ (longestZeroRun gs).2 := fun _ _ => le_longest
    have hleftmost : ∀ s, IsZeroRun gs s (longestZeroRun gs).2 → (longestZeroRun gs).1 ≤ s :=
      fun _ => longest_start_le
    rw [hrun] at hzeros hlongest hleftmost
    exact ⟨hzeros, htwo, hlongest, hleftmost⟩

theorem IsGap.eq (h : IsGap gs start length) (hother : IsGap gs s l) : s = start ∧ l = length :=
  Prod.mk.inj ((isGap_iff.mp hother).1.symm.trans (isGap_iff.mp h).1)

theorem exists_isGap_iff :
    (∃ start length, IsGap gs start length) ↔
      ∃ start length, 2 ≤ length ∧ IsZeroRun gs start length := by
  constructor
  · rintro ⟨start, length, h⟩
    exact ⟨start, length, h.two_le, h.zeros⟩
  · rintro ⟨start, length, htwo, hzeros⟩
    exact ⟨_, _, isGap_iff.mpr ⟨rfl, Nat.le_trans htwo (le_longest hzeros)⟩⟩

/-- A run in front that fills half of the groups is longer than any other, unless it can be
prolonged. -/
theorem isGap_front_iff (htwo : 2 ≤ length) (hhalf : gs.length ≤ 2 * length + 1) :
    IsGap gs 0 length ↔ IsZeroRun gs 0 length ∧ gs[length]? ≠ some 0 := by
  constructor
  · intro h
    refine ⟨h.zeros, fun hzero => ?_⟩
    have hlonger : IsZeroRun gs 0 (length + 1) := by
      intro k hk
      rcases Nat.lt_succ_iff_lt_or_eq.mp hk with hlt | rfl
      · exact h.zeros k hlt
      · rwa [Nat.zero_add]
    exact Nat.not_succ_le_self length (h.longest 0 _ hlonger)
  · rintro ⟨hzeros, hnext⟩
    refine ⟨hzeros, htwo, fun s l hrun => ?_, fun s _ => Nat.zero_le s⟩
    refine Nat.le_of_not_lt fun hlong => hnext ?_
    -- a longer run starts before the group at `length` and ends after it
    have hlast := hrun (l - 1) (by omega)
    have hbound := (List.getElem?_eq_some_iff.mp hlast).1
    have hinside := hrun (length - s) (by omega)
    rwa [Nat.add_sub_cancel' (by omega)] at hinside

/-! ## Layouts -/

/-- What follows a gap for `length` groups from `start` on. -/
inductive AfterGap (gs : List Nat) (quad : List Char) : Nat → Nat → List Char → Prop
  | compatible : AfterGap gs quad 0 6 quad
  | mapped (hmark : gs[5]? = some 0xffff) :
      AfterGap gs quad 0 5 (writeGroups [0xffff] ++ ':' :: quad)
  | groups {start length : Nat} (hsix : ¬ (start = 0 ∧ length = 6))
      (hfive : ¬ (start = 0 ∧ length = 5 ∧ gs[5]? = some 0xffff)) :
      AfterGap gs quad start length (writeGroups (gs.drop (start + length)))

/-- Groups as the short form lays them out, with `quad` for the last two of them where it has a
quad. -/
inductive Layout (gs : List Nat) (quad : List Char) : List Char → Prop
  | full (hshort : ∀ start length, IsZeroRun gs start length → length < 2) :
      Layout gs quad (writeGroups gs)
  | gap {start length : Nat} {right : List Char} (hgap : IsGap gs start length)
      (hright : AfterGap gs quad start length right) :
      Layout gs quad (writeGroups (gs.take start) ++ V6.gap ++ right)

theorem layout_writeShort (x : Octets 16) :
    Layout (groups x.toList) (lastQuad x) (writeShort x) := by
  unfold writeShort
  dsimp only
  generalize groups x.toList = gs
  -- from here on the run is any that these facts hold of
  have hmost : ∀ s l, IsZeroRun gs s l → l ≤ (longestZeroRun gs).2 := fun _ _ => le_longest
  have hgap : 2 ≤ (longestZeroRun gs).2 → IsGap gs (longestZeroRun gs).1 (longestZeroRun gs).2 :=
    fun htwo => isGap_iff.mpr ⟨rfl, htwo⟩
  generalize longestZeroRun gs = run at hmost hgap ⊢
  obtain ⟨start, length⟩ := run
  dsimp only at hmost hgap ⊢
  split
  · rename_i hshort
    exact Layout.full fun s l hzeros => Nat.lt_of_le_of_lt (hmost s l hzeros) hshort
  · rename_i hlong
    have hgap := hgap (Nat.le_of_not_lt hlong)
    split
    · rename_i hsix
      obtain ⟨rfl, rfl⟩ := hsix
      exact Layout.gap hgap .compatible
    · split
      · rename_i hfive
        obtain ⟨rfl, rfl, hmark⟩ := hfive
        rw [List.append_assoc]
        exact Layout.gap hgap (.mapped hmark)
      · rename_i hsix hfive
        exact Layout.gap hgap (.groups hsix hfive)

end InetAddress.V6
