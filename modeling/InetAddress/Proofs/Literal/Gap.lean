import InetAddress.Proofs.Literal.Reading

/-!
# A literal has one gap at most

Cut at its colons, a text with a gap has a piece with nothing in it where the gap is, and
pieces before and after that one (`splitOn_gap`).  The groups and the quad of a literal are
pieces with something in them.  So where nothing stands, there is the gap, or there is one of
its sides, and then that side is nothing at all (`eq_of_append_gap`).
-/

namespace InetAddress.V6.Grammar

variable {text left right l r : List Char} {gs : List Nat}

theorem splitOn_gap (left right : List Char) :
    (left ++ gap ++ right).splitOn ':' = left.splitOn ':' ++ [] :: right.splitOn ':' := by
  calc (left ++ gap ++ right).splitOn ':'
      _ = (left ++ ':' :: ([] ++ ':' :: right)).splitOn ':' := by
          rw [List.append_assoc]
          rfl
      _ = left.splitOn ':' ++ [] :: right.splitOn ':' := by
          rw [List.splitOn_append_cons_self, List.splitOn_append_cons_self]
          rfl

/-- Nothing can stand before or after an empty piece, if only the empty text has one. -/
theorem nil_of_splitOn_eq {before after : List (List Char)}
    (hnil : [] ∈ text.splitOn ':' → text = []) (h : text.splitOn ':' = before ++ [] :: after) :
    before = [] ∧ after = [] := by
  have htext : text = [] := hnil (by simp [h])
  subst htext
  have hlength := congrArg List.length h
  rw [List.splitOn_nil, List.length_singleton, List.length_append, List.length_cons] at hlength
  exact ⟨List.eq_nil_of_length_eq_zero (by omega), List.eq_nil_of_length_eq_zero (by omega)⟩

/-- Between two sides without empty pieces there is one gap and no other. -/
theorem eq_of_append_gap (hleft : [] ∈ left.splitOn ':' → left = [])
    (hright : [] ∈ right.splitOn ':' → right = []) (h : left ++ gap ++ right = l ++ gap ++ r) :
    l = left ∧ r = right := by
  have hpieces : left.splitOn ':' ++ [] :: right.splitOn ':' =
      l.splitOn ':' ++ [] :: r.splitOn ':' := by
    rw [← splitOn_gap, ← splitOn_gap, h]
  have hsplit : l.splitOn ':' = left.splitOn ':' := by
    rcases List.append_eq_append_iff.mp hpieces with ⟨m, hl, hrest⟩ | ⟨m, hl, hrest⟩
    · -- the other gap would be in what follows
      cases m with
      | nil => rw [hl, List.append_nil]
      | cons piece m =>
          obtain ⟨rfl, hafter⟩ := List.cons.inj hrest
          have hnone := (nil_of_splitOn_eq hright hafter).2
          exact absurd hnone (List.splitOn_ne_nil ':' r)
    · -- the other gap would be in what precedes
      cases m with
      | nil => rw [hl, List.append_nil]
      | cons piece m =>
          obtain ⟨rfl, -⟩ := List.cons.inj hrest
          have hnone := (nil_of_splitOn_eq hleft hl).1
          exact absurd hnone (List.splitOn_ne_nil ':' l)
  have hl : l = left := by
    calc l
        _ = [':'].intercalate (l.splitOn ':') := (List.intercalate_splitOn ':').symm
        _ = left := by rw [hsplit, List.intercalate_splitOn]
  subst hl
  rw [List.append_assoc, List.append_assoc] at h
  exact ⟨rfl, (List.append_cancel_left (List.append_cancel_left h)).symm⟩

/-! ## Literals -/

theorem Row.nil_not_mem (h : Row text gs) : [] ∉ text.splitOn ':' := fun hnil =>
  forall_of_forall₂ (row_iff.mp h) (fun _ _ hgroup => hgroup.ne_nil) [] hnil rfl

theorem DottedQuad.nil_not_mem (h : DottedQuad text gs) : [] ∉ text.splitOn ':' := by
  rw [List.splitOn_eq_singleton h.colon_not_mem, List.mem_singleton]
  intro hnil
  have hdot := h.dot_mem
  rw [← hnil] at hdot
  exact absurd hdot List.not_mem_nil

theorem Tail.nil_not_mem (h : Tail text gs) : [] ∉ text.splitOn ':' := by
  cases h with
  | row hrow => exact hrow.nil_not_mem
  | quad hquad => exact hquad.nil_not_mem
  | rowQuad hrow hquad =>
      rw [List.splitOn_append_cons_self, List.mem_append, not_or]
      exact ⟨hrow.nil_not_mem, hquad.nil_not_mem⟩

theorem Side.eq_nil_of_mem {Pieces : List Char → List Nat → Prop} (h : Side Pieces text gs)
    (hpieces : Pieces text gs → [] ∉ text.splitOn ':') (hnil : [] ∈ text.splitOn ':') :
    text = [] := by
  rcases h with ⟨htext, -⟩ | h
  · exact htext
  · exact absurd hnil (hpieces h)

/-- Groups and a quad have no gap. -/
theorem Tail.ne_gap (h : Tail text gs) : text ≠ left ++ gap ++ right := by
  intro htext
  have hnone := h.nil_not_mem
  rw [htext, splitOn_gap] at hnone
  exact hnone (by simp)

/-- A literal is cut in two by a gap in one way at most. -/
theorem Literal.gap_unique (h : Literal text gs) (hone : text = left ++ V6.gap ++ right)
    (hother : text = l ++ V6.gap ++ r) : l = left ∧ r = right := by
  cases h with
  | full htail => exact absurd hone htail.ne_gap
  | @gap before after _ _ hbefore hafter =>
      have hsides : before ++ ':' :: ':' :: after = before ++ V6.gap ++ after := by
        rw [List.append_assoc]
        rfl
      have hnilBefore := hbefore.eq_nil_of_mem Row.nil_not_mem
      have hnilAfter := hafter.eq_nil_of_mem Tail.nil_not_mem
      obtain ⟨rfl, rfl⟩ := eq_of_append_gap hnilBefore hnilAfter (hsides.symm.trans hone)
      exact eq_of_append_gap hnilBefore hnilAfter (hsides.symm.trans hother)

end InetAddress.V6.Grammar
