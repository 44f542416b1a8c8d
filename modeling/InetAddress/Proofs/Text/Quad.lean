import InetAddress.Error.Message
import InetAddress.Proofs.Quads
import InetAddress.Proofs.Text.Separated

/-!
# Dotted quads, part by part

The texts of IPv4 addresses are four numbers with dots between them, of one to three
digits each and of 255 at most.  Within its three digits a number may have leading zeros:

```text
1.2.3.4    01.2.3.004                              two texts of one address
1.2.3      1..3.4     1.2.3.4.5                    too few parts, an empty one, too many
256.2.3.4  0001.2.3.4  +1.2.3.4                    no numbers that fit
```

That a number fits can be put in two ways: there is an octet that the digits spell
(`Quad.Part`), or the number is at most 255.  The first says what is read, the second when
anything is read, and `Quad.exists_part_iff` joins them.
-/

namespace InetAddress

open List (Forall₂)
open V6.Grammar

namespace Quad

/-- A part of one to three digits, and the octet that the digits spell. -/
def Part (part : List Char) (octet : UInt8) : Prop :=
  Number part octet.toNat ∧ part.length ≤ 3

/-- Four parts with dots between them, each a number of one to three digits and of 255 at most. -/
def WellFormed (text : List Char) : Prop :=
  ∃ parts, Separated ['.'] text parts ∧ parts.length = 4 ∧
    ∀ part ∈ parts, part.length ≤ 3 ∧ ∃ number, Number part number ∧ number ≤ 255

variable {part : List Char} {octet : UInt8}

theorem Part.not_mem_dot (h : Part part octet) : ∀ c ∈ part, c ∉ ['.'] := by
  intro c hc hdot
  exact absurd (List.mem_singleton.mp hdot ▸ hc) (h.1.not_mem (by decide))

/-- The numbers that fit into an octet are those of octets. -/
theorem exists_part_iff : (∃ octet, Part part octet) ↔
    part.length ≤ 3 ∧ ∃ number, Number part number ∧ number ≤ 255 := by
  constructor
  · rintro ⟨octet, hnumber, hshort⟩
    have hlt := octet.toNat_lt
    exact ⟨hshort, octet.toNat, hnumber, by omega⟩
  · rintro ⟨hshort, number, hnumber, hfits⟩
    refine ⟨UInt8.ofNat number, ?_, hshort⟩
    rwa [UInt8.toNat_ofNat', Nat.mod_eq_of_lt (by omega)]

end Quad

namespace V4

variable {text : String} {a : V4} {e : Error}

/-- A text is read as an address when each of its parts spells an octet of the address. -/
theorem parse_eq_ok_iff_parts : parse text = .ok a ↔
    ∃ parts, Separated ['.'] text.toList parts ∧ Forall₂ Quad.Part parts a.octets.toList := by
  rw [parse_iff_read?, Quad.read?, List.splitOn_eq_splitOnP]
  refine readParts_eq_some_iff (fun c => ?_) (fun _ _ => readOctet?_eq_some_iff)
    (fun _ _ => Quad.Part.not_mem_dot)
  rw [beq_iff_eq, List.mem_singleton]

theorem exists_parse_iff : (∃ a, parse text = .ok a) ↔ Quad.WellFormed text.toList := by
  unfold Quad.WellFormed
  simp only [parse_eq_ok_iff_parts, ← Quad.exists_part_iff]
  exact exists_parts_iff fun x => ⟨⟨x⟩, rfl⟩

theorem parse_eq_error_iff :
    parse text = .error e ↔ ¬ Quad.WellFormed text.toList ∧ e = .notV4 text := by
  rw [← exists_parse_iff]
  unfold parse
  cases ofText? text <;> simp [eq_comm]

/-- **A text is an IPv4 address just when it is four numbers with dots between them**, each of one
to three digits and of 255 at most, and then these are the octets of the address, one after the
other.  Every other text is refused with an error that quotes it.  The text of an address is read
as the address, and as a number an address is the same again. -/
theorem parse_quad_parts (text : String) :
    ((∃ a, parse text = .ok a) ↔ Quad.WellFormed text.toList) ∧
    (∀ a, parse text = .ok a ↔
      ∃ parts, Separated ['.'] text.toList parts ∧ Forall₂ Quad.Part parts a.octets.toList) ∧
    (∀ e, parse text = .error e ↔ ¬ Quad.WellFormed text.toList ∧ e = .notV4 text) ∧
    (Error.notV4 text).kind = .addressFormat ∧
    (Error.notV4 text).message = "Invalid address: " ++ s!"Invalid IPv4 address '{text}'" ∧
    ∀ a : V4, parse a.text = .ok a ∧ ofUInt32 a.toUInt32 = a :=
  ⟨exists_parse_iff, fun _ => parse_eq_ok_iff_parts, fun _ => parse_eq_error_iff, rfl,
    rfl, fun a => ⟨a.parse_text, a.ofUInt32_toUInt32⟩⟩

end V4

end InetAddress
