import InetAddress.Proofs.Literal.Pieces

/-!
# Parts between separators

A dotted quad is cut at its dots, and a MAC address at its colons and hyphens.  The
relation `Separated` takes no text apart: it puts parts together, with one separator
between any two neighbours.

A text may be put together in several ways, for a part may have separators in it.  Where
no part does there is one way only, and the cut finds it (`splitOnP_eq_of_separated`).
So the readers that cut a text into `n` parts and read an octet from each succeed just
on the texts that are put together from `n` parts which denote octets
(`readParts_eq_some_iff`).
-/

namespace InetAddress

open List (Forall₂)
open V6.Grammar

/-- Parts with one separator between any two neighbours. -/
inductive Separated (seps : List Char) : List Char → List (List Char) → Prop
  | last (part : List Char) : Separated seps part [part]
  | cons {sep : Char} {part rest : List Char} {parts : List (List Char)} (hsep : sep ∈ seps)
      (hrest : Separated seps rest parts) : Separated seps (part ++ sep :: rest) (part :: parts)

variable {seps : List Char} {text : List Char} {parts : List (List Char)} {sep : Char}

/-! ## Putting together -/

/-- One and the same separator will do everywhere. -/
theorem separated_intercalate (hsep : sep ∈ seps) (hne : parts ≠ []) :
    Separated seps ([sep].intercalate parts) parts := by
  induction parts with
  | nil => exact absurd rfl hne
  | cons part parts ih =>
      cases parts with
      | nil =>
          rw [List.intercalate_singleton]
          exact .last part
      | cons next parts =>
          rw [List.intercalate_cons_cons, List.append_assoc, List.singleton_append]
          exact .cons hsep (ih (List.cons_ne_nil next parts))

namespace Separated

theorem eq_intercalate (h : Separated [sep] text parts) : text = [sep].intercalate parts := by
  induction h with
  | last part => rw [List.intercalate_singleton]
  | @cons c part rest parts hsep hrest ih =>
      have hne : parts ≠ [] := by cases hrest <;> exact List.cons_ne_nil _ _
      rw [List.mem_singleton.mp hsep, List.intercalate_cons_of_ne_nil hne, ← ih,
        List.append_assoc, List.singleton_append]

/-- Characters that are exchanged one by one leave the parts where they are. -/
theorem map {others : List Char} {f : Char → Char} (h : Separated seps text parts)
    (hf : ∀ c ∈ seps, f c ∈ others) : Separated others (text.map f) (parts.map (List.map f)) := by
  induction h with
  | last part => exact .last (part.map f)
  | cons hsep _ ih =>
      rw [List.map_append, List.map_cons, List.map_cons]
      exact .cons (hf _ hsep) ih

end Separated

/-! ## Taking apart -/

variable {p : Char → Bool}

theorem separated_splitOnP (hp : ∀ c, p c ↔ c ∈ seps) (text : List Char) :
    Separated seps text (text.splitOnP p) := by
  induction text with
  | nil => exact .last []
  | cons c text ih =>
      rw [List.splitOnP_cons_eq_if_modifyHead]
      split
      · next hsep =>
          change Separated seps ([] ++ c :: text) ([] :: text.splitOnP p)
          exact .cons ((hp c).mp hsep) ih
      · -- the character goes to the front of the first part
        generalize text.splitOnP p = parts at ih
        cases ih with
        | last => exact .last (c :: text)
        | @cons sep part rest parts hsep hrest =>
            change Separated seps ((c :: part) ++ sep :: rest) ((c :: part) :: parts)
            exact .cons hsep hrest

theorem splitOnP_eq_of_separated (hp : ∀ c, p c ↔ c ∈ seps) (h : Separated seps text parts)
    (hparts : ∀ part ∈ parts, ∀ c ∈ part, c ∉ seps) : text.splitOnP p = parts := by
  have hfree : ∀ part ∈ parts, ∀ c ∈ part, p c = false := fun part hpart c hc =>
    Bool.eq_false_iff.mpr fun hsep => hparts part hpart c hc ((hp c).mp hsep)
  clear hparts
  induction h with
  | last part => exact List.splitOnP_eq_singleton (hfree part List.mem_cons_self)
  | @cons sep part rest parts hsep _ ih =>
      rw [List.splitOnP_append_cons_of_forall_mem (hfree part List.mem_cons_self) sep
        ((hp sep).mpr hsep), ih fun next hnext => hfree next (List.mem_cons_of_mem part hnext)]

/-! ## Reading an octet from each part -/

variable {octet? : List Char → Option UInt8} {R : List Char → UInt8 → Prop} {n : Nat}
  {x : Octets n}

/-- The parts of a text that denote the octets of a row. -/
theorem readParts_eq_some_iff (hp : ∀ c, p c ↔ c ∈ seps)
    (hread : ∀ part octet, octet? part = some octet ↔ R part octet)
    (hR : ∀ part octet, R part octet → ∀ c ∈ part, c ∉ seps) :
    ((text.splitOnP p).mapM octet?).bind Octets.ofList? = some x ↔
      ∃ parts, Separated seps text parts ∧ Forall₂ R parts x.toList := by
  rw [mapM_bind_ofList?_eq_some_iff]
  simp only [hread]
  constructor
  · intro h
    exact ⟨text.splitOnP p, separated_splitOnP hp text, h⟩
  · rintro ⟨parts, hparts, h⟩
    rwa [splitOnP_eq_of_separated hp hparts (forall_of_forall₂ h hR)]

/-- Parts that each denote an octet denote the octets of a row. -/
theorem exists_forall₂ (h : ∀ part ∈ parts, ∃ octet, R part octet) :
    ∃ octets, Forall₂ R parts octets := by
  induction parts with
  | nil => exact ⟨[], .nil⟩
  | cons part parts ih =>
      obtain ⟨octet, hoctet⟩ := h part List.mem_cons_self
      obtain ⟨octets, hoctets⟩ := ih fun next hnext => h next (List.mem_cons_of_mem part hnext)
      exact ⟨octet :: octets, .cons hoctet hoctets⟩

/-- Some value is denoted when there are as many parts as octets and each of them denotes one. -/
theorem exists_parts_iff {α : Type} {octetsOf : α → Octets n}
    (hsurjective : Function.Surjective octetsOf) :
    (∃ a, ∃ parts, Separated seps text parts ∧ Forall₂ R parts (octetsOf a).toList) ↔
      ∃ parts, Separated seps text parts ∧ parts.length = n ∧
        ∀ part ∈ parts, ∃ octet, R part octet := by
  constructor
  · rintro ⟨a, parts, hparts, h⟩
    refine ⟨parts, hparts, h.length_eq.trans Vector.length_toList, ?_⟩
    exact forall_of_forall₂ h fun part octet hoctet => ⟨octet, hoctet⟩
  · rintro ⟨parts, hparts, hlength, h⟩
    obtain ⟨octets, hoctets⟩ := exists_forall₂ h
    obtain ⟨a, ha⟩ := hsurjective ⟨octets.toArray, hoctets.length_eq.symm.trans hlength⟩
    refine ⟨a, parts, hparts, ?_⟩
    rw [ha]
    exact hoctets

end InetAddress
