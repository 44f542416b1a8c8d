import InetAddress.Proofs.Languages

/-!
# Two readings of a dotted quad

A dotted quad is an IPv4 address on its own, and the tail of an IPv6 literal.  Both
readings cut it at its dots and want four decimal octets.  The tail wants them
without leading zeros; on its own a quad may have them, up to three digits to the
octet:

```text
1.2.3.4       an address, and a tail
1.02.3.4      an address, and no tail
```

Where no octet has a leading zero the two readings agree, and then the quad is the
one that its address is written as (`read?_plain_eq_some_iff`).  After `::ffff:` a
text without colons can be nothing but such a tail (`readLiteral?_mapped`), so there
the readers of the two families can be held against each other.
-/

namespace InetAddress

open List (Forall₂)
open V6.Grammar

/-- What can fail fails where there is no value. -/
theorem exists_error_iff {α : Type} {r : Except Error α} :
    (∃ e, r = .error e) ↔ ¬ ∃ a, r = .ok a := by
  cases r <;> simp

/-! ## Quads, octet by octet -/

namespace Quad

variable {octet? : List Char → Option UInt8} {text part : List Char} {octet : UInt8}
  {x : Octets 4}

theorem read?_eq_some_iff : read? octet? text = some x ↔
    Forall₂ (fun part octet => octet? part = some octet) (text.splitOn '.') x.toList :=
  mapM_bind_ofList?_eq_some_iff

theorem dot_mem_of_read? (h : read? octet? text = some x) : '.' ∈ text := by
  by_contra hdot
  have hlength := (read?_eq_some_iff.mp h).length_eq
  rw [List.splitOn_eq_singleton hdot, Vector.length_toList] at hlength
  cases hlength

/-- No octet of a quad has a zero in front of its other digits. -/
def Plain (text : List Char) : Prop :=
  ∀ part ∈ text.splitOn '.', part.head? = some '0' → part = ['0']

instance (text : List Char) : Decidable (Plain text) :=
  inferInstanceAs (Decidable (∀ part ∈ text.splitOn '.', _))

theorem readPlainOctet?_iff : readPlainOctet? part = some octet ↔
    (part.head? = some '0' → part = ['0']) ∧ readOctet? part = some octet := by
  rw [readPlainOctet?, Option.ite_none_left_eq_some]
  refine and_congr_left fun _ => ?_
  rw [not_and_not_right]
  refine imp_congr_right fun hhead => ?_
  -- of texts that begin with a zero only that digit has length one
  rw [List.length_eq_one_iff]
  refine ⟨fun h => ?_, fun h => ⟨'0', h⟩⟩
  obtain ⟨c, rfl⟩ := h
  simpa using hhead

/-- Without leading zeros, the reading of a tail and that of an address are the same. -/
theorem read?_plain_iff :
    read? readPlainOctet? text = some x ↔ Plain text ∧ read? readOctet? text = some x := by
  simp only [read?_eq_some_iff, readPlainOctet?_iff, List.forall₂_and_left]
  rfl

/-- A tail is read from what the octets are written as, and from nothing else. -/
theorem read?_plain_eq_some_iff : read? readPlainOctet? text = some x ↔ text = write x := by
  refine ⟨fun h => ?_, fun h => h ▸ read?_write readPlainOctet?_write x⟩
  have hparts : Forall₂ Eq (text.splitOn '.')
      (x.toList.map fun octet => Decimal.write octet.toNat) := by
    rw [List.forall₂_map_right_iff]
    exact (read?_eq_some_iff.mp h).imp fun part octet hread =>
      quadOctet_iff_eq_write.mp (readPlainOctet?_eq_some_iff.mp hread)
  rw [List.forall₂_eq_eq_eq] at hparts
  calc text
      _ = ['.'].intercalate (text.splitOn '.') := (List.intercalate_splitOn '.').symm
      _ = write x := by rw [hparts, write]

end Quad

/-! ## Quads as addresses -/

namespace V4

variable {text : String} {v : V4}

theorem parse_iff_read? : V4.parse text = .ok v ↔
    Quad.read? Quad.readOctet? text.toList = some v.octets := by
  rw [parse_eq_ok_iff, ofText?, Option.map_eq_some_iff]
  refine ⟨fun h => ?_, fun h => ⟨_, h, rfl⟩⟩
  obtain ⟨x, hx, rfl⟩ := h
  exact hx

/-- Of the texts of an address, the one without leading zeros is what it is written as. -/
theorem parse_plain_iff :
    V4.parse text = .ok v ∧ Quad.Plain text.toList ↔ text = v.text := by
  rw [parse_iff_read?, and_comm, ← Quad.read?_plain_iff, Quad.read?_plain_eq_some_iff,
    V4.text, ← String.toList_inj, String.toList_ofList]

end V4

/-! ## Quads as tails -/

namespace V6

variable {text : List Char}

/-- Behind the group that marks a mapped address there is one more piece, and with a dot in it that
is no group. -/
theorem readSide?_mapped (hdot : '.' ∈ text) (hcolon : ':' ∉ text) :
    readSide? readRow? ("ffff:".toList ++ text) = (readQuad? text).map ([0xff, 0xff] ++ ·) := by
  have hpieces : ("ffff:".toList ++ text).splitOn ':' = ["ffff".toList, text] := by
    rw [show "ffff:".toList ++ text = "ffff".toList ++ ':' :: text from rfl,
      List.splitOn_append_cons_self_of_not_mem (by decide), List.splitOn_eq_singleton hcolon]
  have hmark : readGroup? "ffff".toList = some [0xff, 0xff] := by decide +kernel
  rw [readSide?, if_neg (by simp), hpieces, readRow?.eq_3 _ _ (by simp), hmark, readRow?,
    readGroup?_of_dot hdot, Option.none_or]
  cases readQuad? text <;> rfl

theorem fill?_mapped (x : Octets 4) :
    fill? [] ([0xff, 0xff] ++ x.toList) = some (mappedHead ++ x) := by
  have hlength : ([0xff, 0xff] ++ x.toList).length = 6 := by simp
  rw [fill?, hlength, if_pos (by decide), Octets.ofList?_eq_some_iff, Vector.toList_append]
  rfl

/-- What follows `::ffff:` and has a dot but no colon is read as a tail. -/
theorem readLiteral?_mapped (hdot : '.' ∈ text) (hcolon : ':' ∉ text) :
    readLiteral? ("::ffff:".toList ++ text) =
      (Quad.read? Quad.readPlainOctet? text).map fun x => mappedHead ++ x := by
  have hgap : splitGap ("::ffff:".toList ++ text) = some ([], "ffff:".toList ++ text) := rfl
  rw [readLiteral?, hgap]
  simp only [readSide?_mapped hdot hcolon, readQuad?]
  cases Quad.read? Quad.readPlainOctet? text with
  | none => rfl
  | some x => exact fill?_mapped x

/-- After `::ffff:` a text with a dot and without colon or percent sign is the text of an IPv4
address, or there is no address. -/
theorem parse_mapped_eq_ok_iff {text : String} {a : V6} (hdot : '.' ∈ text.toList)
    (hcolon : ':' ∉ text.toList) (hpercent : '%' ∉ text.toList) :
    parse ("::ffff:" ++ text) = .ok a ↔ ∃ v, a = ofV4 v ∧ text = v.text := by
  have htext : ("::ffff:" ++ text).toList = "::ffff:".toList ++ text.toList := String.toList_append
  have hbare : '%' ∉ "::ffff:".toList ++ text.toList := by
    rw [List.mem_append, not_or]
    exact ⟨by decide, hpercent⟩
  rw [← htext] at hbare
  have hopen : ("::ffff:" ++ text).toList.head? ≠ some '[' := by
    rw [htext]
    exact (by decide : some ':' ≠ some '[')
  rw [parse_bare_eq_ok_iff hopen hbare, htext, readLiteral?_mapped hdot hcolon,
    Option.map_eq_some_iff]
  simp only [Quad.read?_plain_eq_some_iff]
  refine ⟨fun h => ?_, fun h => ?_⟩
  · obtain ⟨⟨x, hx, hoctets⟩, hzone⟩ := h
    refine ⟨⟨x⟩, congrArg₂ mk hoctets.symm hzone, ?_⟩
    rw [V4.text, ← hx, String.ofList_toList]
  · obtain ⟨v, rfl, rfl⟩ := h
    exact ⟨⟨v.octets, String.toList_ofList, rfl⟩, rfl⟩

theorem parse_mapped_text (v : V4) : parse ("::ffff:" ++ v.text) = .ok (ofV4 v) := by
  have hdot := Quad.dot_mem_of_read? (V4.parse_iff_read?.mp v.parse_text)
  have habsent : ∀ c, c ∉ '.' :: hexDigits → c ∉ v.text.toList := fun c =>
    V4.not_mem_of_parse v.parse_text
  exact (parse_mapped_eq_ok_iff hdot (habsent ':' (by decide)) (habsent '%' (by decide))).mpr
    ⟨v, rfl, rfl⟩

end V6

/-- **After `::ffff:` a quad is read as on its own if no octet has a leading zero**, and else it is
not read at all.  So the two readings agree on a text just when it has no leading zeros or is no
quad in any case, and the one text of an address that both take is the one it is written as. -/
theorem parse_tail_plain (text : String) (hdot : '.' ∈ text.toList)
    (hcolon : ':' ∉ text.toList) (hpercent : '%' ∉ text.toList) :
    (∀ v, V6.parse ("::ffff:" ++ text) = .ok (.ofV4 v) ↔
      V4.parse text = .ok v ∧ Quad.Plain text.toList) ∧
    ((∃ e, V6.parse ("::ffff:" ++ text) = .error e) ↔
      (∃ e, V4.parse text = .error e) ∨ ¬ Quad.Plain text.toList) ∧
    (((∀ v, V4.parse text = .ok v ↔ V6.parse ("::ffff:" ++ text) = .ok (.ofV4 v)) ∧
        ((∃ e, V4.parse text = .error e) ↔ ∃ e, V6.parse ("::ffff:" ++ text) = .error e)) ↔
      ((∃ v, V4.parse text = .ok v) → Quad.Plain text.toList)) ∧
    ∀ v, V4.parse text = .ok v ∧ Quad.Plain text.toList ↔ text = v.text := by
  have hread : ∀ a, V6.parse ("::ffff:" ++ text) = .ok a ↔
      ∃ v, a = .ofV4 v ∧ V4.parse text = .ok v ∧ Quad.Plain text.toList := by
    intro a
    simp only [V6.parse_mapped_eq_ok_iff hdot hcolon hpercent, V4.parse_plain_iff]
  have hmapped : ∀ v, V6.parse ("::ffff:" ++ text) = .ok (.ofV4 v) ↔
      V4.parse text = .ok v ∧ Quad.Plain text.toList := by
    intro v
    rw [hread]
    refine ⟨fun h => ?_, fun h => ⟨v, rfl, h⟩⟩
    obtain ⟨w, heq, hw⟩ := h
    have hcarried := congrArg V6.mapped? heq
    rw [V6.mapped?_ofV4, V6.mapped?_ofV4] at hcarried
    rwa [Option.some.inj hcarried]
  have hfail : (∃ e, V6.parse ("::ffff:" ++ text) = .error e) ↔
      (∃ e, V4.parse text = .error e) ∨ ¬ Quad.Plain text.toList := by
    rw [exists_error_iff, exists_error_iff]
    simp only [hread]
    grind
  refine ⟨hmapped, hfail, ⟨fun h => ?_, fun hplain => ⟨fun v => ?_, ?_⟩⟩,
    fun v => V4.parse_plain_iff⟩
  · rintro ⟨v, hv⟩
    exact ((hmapped v).mp ((h.1 v).mp hv)).2
  · rw [hmapped]
    exact (and_iff_left_of_imp fun hv => hplain ⟨v, hv⟩).symm
  · rw [hfail]
    refine (or_iff_left_of_imp fun hzeros => ?_).symm
    exact exists_error_iff.mpr fun hv => hzeros (hplain hv)

/-- An octet may be zero, and then it is one digit long. -/
theorem quad_with_zeros_read_alike :
    let v := V4.ofParts 10 0 0 255
    '.' ∈ "10.0.0.255".toList ∧ ':' ∉ "10.0.0.255".toList ∧ '%' ∉ "10.0.0.255".toList ∧
      Quad.Plain "10.0.0.255".toList ∧ V4.parse "10.0.0.255" = .ok v ∧
      V6.parse ("::ffff:" ++ "10.0.0.255") = .ok (.ofV4 v) := by
  intro v
  have hdot : '.' ∈ "10.0.0.255".toList := by decide
  have hcolon : ':' ∉ "10.0.0.255".toList := by decide
  have hpercent : '%' ∉ "10.0.0.255".toList := by decide
  obtain ⟨hmapped, -, -, hwritten⟩ :=
    parse_tail_plain "10.0.0.255" hdot hcolon hpercent
  obtain ⟨hparse, hplain⟩ := (hwritten v).mpr (by decide +kernel)
  exact ⟨hdot, hcolon, hpercent, hplain, hparse, (hmapped v).mpr ⟨hparse, hplain⟩⟩

/-- With a leading zero a quad is an IPv4 address, and not the one text of it, but no tail. -/
theorem parse_tail_leading_zero :
    V4.parse "1.02.3.4" = .ok (.ofParts 1 2 3 4) ∧ ¬ Quad.Plain "1.02.3.4".toList ∧
      "1.02.3.4" ≠ (V4.ofParts 1 2 3 4).text ∧
      V6.parse "::ffff:1.02.3.4" = .error (.notV6 "::ffff:1.02.3.4") := by
  decide +kernel

end InetAddress
