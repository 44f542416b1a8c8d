import InetAddress.Proofs.Text.Room

/-!
# Writing loses nothing

An address is read back from its short form, octets and zone, with brackets or
without, and from its full form but for the zone, which the full form leaves out.
So no two addresses share a short form.  The full form is the octets in
hexadecimal, with colons put in.
-/

namespace InetAddress.V6

open Grammar

/-! ## The full form without its colons -/

theorem filter_intercalate {α : Type} [DecidableEq α] {sep : α} {pieces : List (List α)}
    (h : ∀ piece ∈ pieces, sep ∉ piece) :
    ([sep].intercalate pieces).filter (· ≠ sep) = pieces.flatten := by
  have hself : ∀ piece ∈ pieces, piece.filter (· ≠ sep) = piece := by
    intro piece hpiece
    rw [List.filter_eq_self]
    intro x hx
    exact decide_eq_true fun heq => h piece hpiece (heq ▸ hx)
  induction pieces with
  | nil => rfl
  | cons piece pieces ih =>
      have hfirst := hself piece List.mem_cons_self
      have hrest := ih (fun piece hpiece => h piece (List.mem_cons_of_mem _ hpiece))
        fun piece hpiece => hself piece (List.mem_cons_of_mem _ hpiece)
      cases pieces with
      | nil => rw [List.intercalate_singleton, hfirst, List.flatten_singleton]
      | cons next pieces =>
          rw [List.intercalate_cons_cons, List.filter_append, List.filter_append, hfirst, hrest,
            List.flatten_cons]
          simp

theorem flatten_fullGroups {octets : List UInt8} (heven : 2 ∣ octets.length) :
    (fullGroups octets).flatten = Hex.encode octets := by
  fun_induction fullGroups octets with
  | case1 high low rest ih =>
      simp only [List.length_cons] at heven
      rw [List.flatten_cons, ih (by omega), List.append_assoc]
      rfl
  | case2 octets hshort =>
      have hlength := length_le_one_of_no_pair hshort
      have hnil : octets = [] := List.eq_nil_of_length_eq_zero (by omega)
      subst hnil
      rfl

theorem filter_fullText (a : V6) :
    a.fullText.toList.filter (· ≠ ':') = Hex.encode a.octets.toList := by
  have hcolon : ∀ piece ∈ fullGroups a.octets.toList, ':' ∉ piece :=
    forall_of_forall₂ (groups_of_fullGroups a.octets.toList)
      fun _ _ hgroup => hgroup.colon_not_mem
  rw [fullText, String.toList_ofList, filter_intercalate hcolon,
    flatten_fullGroups (by rw [Vector.length_toList]; decide)]

/-! ## Reading back -/

theorem parse_text (a : V6) : parse a.text = .ok a := by
  rw [text_eq_shortText]
  exact parse_of_written (written_shortText a).1

theorem parse_bracketed_text (a : V6) : parse ("[" ++ a.text ++ "]") = .ok a := by
  rw [text_eq_shortText]
  exact parse_of_written (written_shortText a).2

theorem parse_fullText (a : V6) : parse a.fullText = .ok (a.withZone 0) :=
  parse_of_written (a := a.withZone 0) (written_fullText a).1

/-- **An address is read back from what it is written as**: from the short form, which is always to
be had, with octets and zone, in brackets or not, and from the full form without the zone.  Hence
short forms tell addresses apart, both forms denote the same octets, and the full form is the
octets in hexadecimal but for its colons. -/
theorem parse_text_fullText :
    (∀ a : V6, a.canonicalText = .ok a.text) ∧
    (∀ a : V6, parse a.text = .ok a ∧ parse ("[" ++ a.text ++ "]") = .ok a ∧
      parse a.fullText = .ok (a.withZone 0)) ∧
    Function.Injective text ∧
    (∀ a : V6, (parse a.text).map octets = .ok a.octets ∧
      (parse a.fullText).map octets = .ok a.octets) ∧
    ∀ a : V6, a.fullText.toList.filter (· ≠ ':') = Hex.encode a.octets.toList := by
  refine ⟨canonicalText_eq_ok,
    fun a => ⟨parse_text a, parse_bracketed_text a, parse_fullText a⟩, fun a b h => ?_,
    fun a => ⟨?_, ?_⟩, filter_fullText⟩
  · have hread := parse_text a
    rw [h, parse_text b] at hread
    exact (Except.ok.inj hread).symm
  · rw [parse_text]
    rfl
  · rw [parse_fullText]
    rfl

end InetAddress.V6
