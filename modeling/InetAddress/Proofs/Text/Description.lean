import InetAddress.Proofs.Text.Display

/-!
# Descriptions

A description is a text for machines, and quotes the text of an address between quotation marks.
What may not stand there as it is would be escaped (`Descriptor.Reserved`), but addresses are
spelled with few characters and none of these is among them.  So the text of the address is in the
description as it stands, and it can be read back.

Nothing else is needed to tell descriptions apart.  Where no member holds a quotation mark, the cuts
at the quotation marks are those between the members (`Descriptor.splitOn_object`):

```text
{"family":"IPv6","addr":"::1","hash":42}
  ------   ----   ----   ---   ----
```
-/

namespace InetAddress

namespace Descriptor

variable {c : Char} {text family address : String} {digest : Nat}

/-! ## Characters that are escaped -/

/-- Quotation marks, backslashes and control characters have to be escaped. -/
def Reserved (c : Char) : Prop :=
  c = '"' ∨ c = '\\' ∨ c < ' '

instance (c : Char) : Decidable (Reserved c) :=
  inferInstanceAs (Decidable (c = '"' ∨ c = '\\' ∨ c < ' '))

theorem not_reserved_of_mem {chars : List Char} (hall : chars.all fun c => !decide (Reserved c))
    (hc : c ∈ chars) : ¬ Reserved c := by
  have hone := List.all_eq_true.mp hall c hc
  simpa using hone

theorem escape_of_not_reserved (h : ¬ Reserved c) : escape c = [c] := by
  obtain ⟨hquote, hbackslash, hcontrol⟩ : c ≠ '"' ∧ c ≠ '\\' ∧ ¬ c < ' ' := by
    simpa only [Reserved, not_or] using h
  have hne : ∀ d, d < ' ' → c ≠ d := fun d hd heq => hcontrol (heq ▸ hd)
  rw [escape, if_neg (not_or.mpr ⟨hquote, hbackslash⟩), if_neg (hne _ (by decide)),
    if_neg (hne _ (by decide)), if_neg (hne _ (by decide)), if_neg (hne _ (by decide)),
    if_neg (hne _ (by decide)), if_neg hcontrol]

theorem quote_of_not_reserved (h : ∀ c ∈ text.toList, ¬ Reserved c) :
    quote text = "\"" ++ text ++ "\"" := by
  rw [quote, Quoted.write_eq_of_plain fun c hc => escape_of_not_reserved (h c hc),
    ← String.toList_inj, String.toList_ofList, String.toList_append, String.toList_append]
  rfl

/-! ## Objects -/

/-- The object with the three members of a description, nothing of it escaped. -/
def object (family address : String) (digest : Nat) : String :=
  "\x7b\"family\":\"" ++ family ++ "\",\"addr\":\"" ++ address ++ "\",\"hash\":" ++
    String.ofList (Decimal.write digest) ++ "\x7d"

theorem json_eq_object {d : Descriptor} (hfamily : ∀ c ∈ d.family.name.toList, ¬ Reserved c)
    (haddress : ∀ c ∈ d.address.toList, ¬ Reserved c) :
    d.json = object d.family.name d.address d.digest.toNat := by
  unfold json object
  rw [quote_of_not_reserved hfamily, quote_of_not_reserved haddress]
  simp only [← String.toList_inj, String.toList_append, List.append_assoc]
  rfl

/-- What is between the quotation marks of an object, before the first one and after the last. -/
def pieces (family address : String) (digest : Nat) : List (List Char) :=
  ["\x7b".toList, "family".toList, ":".toList, family.toList, ",".toList, "addr".toList,
    ":".toList, address.toList, ",".toList, "hash".toList,
    ':' :: (Decimal.write digest ++ ['\x7d'])]

/-- Cut at its quotation marks, an object falls into its members and what stands around them. -/
theorem splitOn_object (hfamily : '"' ∉ family.toList) (haddress : '"' ∉ address.toList) :
    (object family address digest).toList.splitOn '"' = pieces family address digest := by
  have hdigits : '"' ∉ Decimal.write digest :=
    fun hquote => absurd (Decimal.isDigit_of_mem_write hquote) (by decide)
  have hpieces : ∀ piece ∈ pieces family address digest, '"' ∉ piece := by
    simp [pieces, hfamily, haddress, hdigits]
  have hobject : (object family address digest).toList =
      ['"'].intercalate (pieces family address digest) := by
    unfold object pieces
    simp only [List.intercalate_cons_cons, List.intercalate_singleton, String.toList_append,
      String.toList_ofList, List.append_assoc]
    rfl
  rw [hobject]
  exact List.splitOn_intercalate '"' hpieces (List.cons_ne_nil _ _)

/-- An object without quotation marks in its members has no other members. -/
theorem object_inj {family' address' : String} {digest' : Nat} (hfamily : '"' ∉ family.toList)
    (haddress : '"' ∉ address.toList) (hfamily' : '"' ∉ family'.toList)
    (haddress' : '"' ∉ address'.toList)
    (h : object family address digest = object family' address' digest') :
    family = family' ∧ address = address' ∧ digest = digest' := by
  have hpieces : pieces family address digest = pieces family' address' digest' := by
    rw [← splitOn_object hfamily haddress, h, splitOn_object hfamily' haddress']
  simp only [pieces, List.cons.injEq, List.append_cancel_right_eq, true_and, and_true,
    String.toList_inj] at hpieces
  obtain ⟨hfam, haddr, hdigits⟩ := hpieces
  refine ⟨hfam, haddr, ?_⟩
  have hread := congrArg Decimal.read? hdigits
  rwa [Decimal.read?_write, Decimal.read?_write, Option.some.injEq] at hread

theorem not_reserved_of_mem_name {f : Family} (hc : c ∈ f.name.toList) : ¬ Reserved c :=
  not_reserved_of_mem (by cases f <;> decide) hc

end Descriptor

namespace Address

open Descriptor

variable {x y : Address} {c : Char}

/-! ## Descriptions of addresses -/

/-- No text of an address has a character in it that would have to be escaped. -/
theorem not_reserved_of_mem_text (hc : c ∈ x.text.toList) : ¬ Reserved c := by
  intro hreserved
  refine not_mem_of_parse x.parse_text (fun hmem => ?_) hc
  exact not_reserved_of_mem (by decide) hmem hreserved

theorem json_describe (x : Address) :
    x.describe.json = object x.family.name x.text x.digest.toNat :=
  json_eq_object (fun _ => not_reserved_of_mem_name) fun _ => not_reserved_of_mem_text

/-- Every address has its description in JSON, for every address has its text. -/
theorem toJson_eq_json (x : Address) : x.toJson = .ok x.describe.json := by
  cases x with
  | v4 a => rfl
  | v6 a =>
      rw [toJson, a.canonicalText_eq_ok]
      rfl

theorem toJson_eq_ok (x : Address) :
    x.toJson = .ok (object x.family.name x.text x.digest.toNat) := by
  rw [toJson_eq_json, json_describe]

/-- The text in a description is that of one address. -/
theorem toJson_injective : Function.Injective toJson := by
  intro x y h
  have hquote : Reserved '"' := .inl rfl
  have hname : ∀ f : Family, '"' ∉ f.name.toList :=
    fun _ hmem => not_reserved_of_mem_name hmem hquote
  have htext : ∀ z : Address, '"' ∉ z.text.toList :=
    fun _ hmem => not_reserved_of_mem_text hmem hquote
  rw [toJson_eq_ok, toJson_eq_ok, Except.ok.injEq] at h
  obtain ⟨-, haddress, -⟩ := object_inj (hname _) (htext x) (hname _) (htext y) h
  have hread := parse_text x
  rw [haddress, parse_text y] at hread
  exact (Except.ok.inj hread).symm

/-- **A description loses nothing of an address.**  Every address has one.  It is an object with the
name of the family, the text of the address as it is, and the digest in decimal.  No character of
the text has to be escaped, and there is room for the text of an IPv6 address in a buffer of 1025
bytes.  The text is read back as the address, family, octets and zone, so descriptions tell
addresses apart; but the digest in it is the same for addresses that are the same. -/
theorem toJson_object_injective :
    (∀ x : Address,
      x.toJson = .ok (object x.family.name x.text x.digest.toNat) ∧
      x.toJson = .ok x.describe.json ∧
      (∀ c ∈ x.text.toList, ¬ Reserved c) ∧
      parse x.text = .ok x) ∧
    (∀ a : V6, a.text.utf8ByteSize < 1025) ∧
    Function.Injective toJson ∧
    ∀ x y : Address, x.same y → ∃ digest,
      x.toJson = .ok (object x.family.name x.text digest) ∧
      y.toJson = .ok (object y.family.name y.text digest) := by
  refine ⟨fun x =>
      ⟨toJson_eq_ok x, toJson_eq_json x, fun _ => not_reserved_of_mem_text, parse_text x⟩,
    fun a => ?_, toJson_injective, fun x y h => ⟨x.digest.toNat, toJson_eq_ok x, ?_⟩⟩
  · exact Nat.lt_of_le_of_lt a.utf8ByteSize_text_le (by decide)
  · rw [digest_eq_of_same h]
    exact toJson_eq_ok y

/-- An IPv4 address and its mapped form in a zone have descriptions that differ, with one digest. -/
theorem descriptions_of_mapped_address :
    let x := v4 (V4.ofParts 10 1 2 3)
    let y := v6 ((V6.ofV4 (V4.ofParts 10 1 2 3)).withZone 5)
    x.same y ∧ x.toJson ≠ y.toJson ∧ ∃ digest,
      x.toJson = .ok (object "IPv4" "10.1.2.3" digest) ∧
      y.toJson = .ok (object "IPv6" "::ffff:10.1.2.3%5" digest) := by
  intro x y
  obtain ⟨-, -, happart, hshared⟩ := toJson_object_injective
  have hsame : x.same y := by decide +kernel
  have hx : x.text = "10.1.2.3" := by decide +kernel
  have hy : y.text = "::ffff:10.1.2.3%5" := by decide +kernel
  have hne : x ≠ y := nofun
  refine ⟨hsame, fun hjson => hne (happart hjson), ?_⟩
  rw [← hx, ← hy]
  exact hshared x y hsame

end Address

end InetAddress
