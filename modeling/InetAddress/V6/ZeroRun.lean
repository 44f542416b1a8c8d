/-!
# Runs of zero groups

A short text leaves out one run of zero groups: the longest, and of equally long ones the first.
`isZeroRun_longest` says that what is found is a run of zero groups, `le_longest` that no run is
longer, and `longest_start_le` that no run of the same length starts earlier.
-/

namespace InetAddress.V6

/-- From `start` on there are `length` zero groups in a row. -/
def IsZeroRun (groups : List Nat) (start length : Nat) : Prop :=
  ∀ k < length, groups[start + k]? = some 0

/-- The number of zero groups at the front. -/
def zerosAhead : List Nat → Nat
  | 0 :: groups => zerosAhead groups + 1
  | _ => 0

/-- The start and the length of the first of the longest runs of zero groups. -/
def longestZeroRun : List Nat → Nat × Nat
  | [] => (0, 0)
  | group :: groups =>
      let ahead := zerosAhead (group :: groups)
      let later := longestZeroRun groups
      if later.2 ≤ ahead then (0, ahead) else (later.1 + 1, later.2)

theorem isZeroRun_succ {group : Nat} {groups : List Nat} {start length : Nat} :
    IsZeroRun (group :: groups) (start + 1) length ↔ IsZeroRun groups start length := by
  refine forall_congr' fun k => imp_congr_right fun _ => ?_
  rw [show start + 1 + k = start + k + 1 by omega, List.getElem?_cons_succ]

/-- Runs at the front are no longer than the zero groups there. -/
theorem isZeroRun_zero_iff {groups : List Nat} {length : Nat} :
    IsZeroRun groups 0 length ↔ length ≤ zerosAhead groups := by
  fun_induction zerosAhead groups generalizing length with
  | case1 groups ih =>
      cases length with
      | zero => exact ⟨fun _ => Nat.zero_le _, fun _ k hk => absurd hk (Nat.not_lt_zero k)⟩
      | succ length =>
          rw [Nat.add_le_add_iff_right, ← ih]
          constructor
          · intro h k hk
            simpa using h (k + 1) (by omega)
          · intro h k hk
            cases k with
            | zero => rfl
            | succ k => simpa using h k (by omega)
  | case2 groups hgroups =>
      constructor
      · intro h
        refine Nat.le_of_not_lt fun hpos => ?_
        have hhead := h 0 hpos
        cases groups with
        | nil => simp at hhead
        | cons group groups =>
            simp only [Nat.add_zero, List.getElem?_cons_zero, Option.some.injEq] at hhead
            exact hgroups groups (hhead ▸ rfl)
      · intro h k hk
        omega

theorem longestZeroRun_cons (group : Nat) (groups : List Nat) :
    longestZeroRun (group :: groups) =
      if (longestZeroRun groups).2 ≤ zerosAhead (group :: groups) then
        (0, zerosAhead (group :: groups))
      else ((longestZeroRun groups).1 + 1, (longestZeroRun groups).2) := rfl

theorem isZeroRun_longest (groups : List Nat) :
    IsZeroRun groups (longestZeroRun groups).1 (longestZeroRun groups).2 := by
  induction groups with
  | nil => exact fun k hk => absurd hk (Nat.not_lt_zero k)
  | cons group groups ih =>
      rw [longestZeroRun_cons]
      split
      · exact isZeroRun_zero_iff.mpr (Nat.le_refl _)
      · exact isZeroRun_succ.mpr ih

/-- No run of zero groups is longer. -/
theorem le_longest {groups : List Nat} {start length : Nat} (h : IsZeroRun groups start length) :
    length ≤ (longestZeroRun groups).2 := by
  induction groups generalizing start with
  | nil =>
      refine Nat.le_of_not_lt fun hpos => ?_
      simpa using h 0 (Nat.lt_of_le_of_lt (Nat.zero_le _) hpos)
  | cons group groups ih =>
      have hle : length ≤ max (zerosAhead (group :: groups)) (longestZeroRun groups).2 := by
        cases start with
        | zero => exact Nat.le_trans (isZeroRun_zero_iff.mp h) (Nat.le_max_left _ _)
        | succ start => exact Nat.le_trans (ih (isZeroRun_succ.mp h)) (Nat.le_max_right _ _)
      rw [longestZeroRun_cons]
      split <;> simp only <;> omega

/-- No run of zero groups as long as the longest starts earlier. -/
theorem longest_start_le {groups : List Nat} {start : Nat}
    (h : IsZeroRun groups start (longestZeroRun groups).2) :
    (longestZeroRun groups).1 ≤ start := by
  induction groups generalizing start with
  | nil => exact Nat.zero_le _
  | cons group groups ih =>
      rw [longestZeroRun_cons] at h ⊢
      split at h
      · simp_all
      · rename_i hshort
        rw [if_neg hshort]
        cases start with
        | zero => exact absurd (isZeroRun_zero_iff.mp h) hshort
        | succ start => exact Nat.succ_le_succ (ih (isZeroRun_succ.mp h))

end InetAddress.V6
