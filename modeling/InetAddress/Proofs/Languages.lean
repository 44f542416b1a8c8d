import InetAddress.Proofs.Network.Agreement
import InetAddress.Report

/-!
# Every text has one family

Three readers take texts as addresses, and no text is taken by two of them.  What
tells the languages apart:

```text
dotted quad     digits and dots: no separator of a MAC address, no colon
MAC address     six pieces between separators
literal         no hyphen, and eight pieces between colons or a gap
```

A MAC address without hyphens is a row of six groups (`Mac.row_of_ofText?`), and so
are the first six groups of many a literal.  But a row that is a literal as it
stands denotes all the groups of the literal (`Row.eq_of_literal`), and these are
eight.

The reader of either family looks for a colon and asks one of the two readers.  By
the above this is as good as to ask both.
-/

namespace InetAddress

open List (Forall₂)

/-! ## Quads -/

namespace Quad

variable {octet? : List Char → Option UInt8}

theorem dot_not_mem_write (octet : UInt8) : '.' ∉ Decimal.write octet.toNat :=
  fun hdot => absurd (Decimal.isDigit_of_mem_write hdot) (by decide)

/-- A quad is read back by every reader of octets that reads back what octets are written as. -/
theorem read?_write (hoctet : ∀ octet, octet? (Decimal.write octet.toNat) = some octet)
    (x : Octets 4) : read? octet? (write x) = some x := by
  have hparts : (write x).splitOn '.' = x.toList.map fun octet => Decimal.write octet.toNat := by
    apply List.splitOn_intercalate
    · intro part hpart
      obtain ⟨octet, -, rfl⟩ := List.mem_map.mp hpart
      exact dot_not_mem_write octet
    · refine List.ne_nil_of_length_pos ?_
      rw [List.length_map, Vector.length_toList]
      decide
  have hread : (x.toList.map fun octet => Decimal.write octet.toNat).mapM octet? =
      some x.toList := by
    rw [V6.Grammar.mapM_eq_some_iff, List.forall₂_map_left_iff, List.forall₂_same]
    exact fun octet _ => hoctet octet
  rw [read?, hparts, hread, Option.bind_some, Octets.ofList?_toList]

theorem readOctet?_write (octet : UInt8) : readOctet? (Decimal.write octet.toNat) = some octet :=
  (Option.ite_none_left_eq_some.mp (readPlainOctet?_write octet)).2

end Quad

theorem V4.parse_text (a : V4) : V4.parse a.text = .ok a := by
  rw [parse_eq_ok_iff, ofText?, text, String.toList_ofList,
    Quad.read?_write Quad.readOctet?_write]
  rfl

theorem V4.not_mem_of_parse {text : String} {v : V4} {c : Char} (h : V4.parse text = .ok v)
    (hnot : c ∉ '.' :: V6.Grammar.hexDigits) : c ∉ text.toList :=
  fun hc => hnot (List.mem_cons.mpr (V6.Grammar.mem_of_v4 h hc))

/-! ## Rows that are literals -/

namespace V6.Grammar

variable {text : List Char} {gs hs : List Nat} {zone : Nat}

/-- A row that is a literal has no gap to fill: it denotes the same groups. -/
theorem Row.eq_of_literal (hrow : Row text gs) (h : Literal text hs) : gs = hs := by
  have hlength : (octetsOf hs).length = 16 := by rw [length_octetsOf, h.length_eq]
  obtain ⟨x, hx⟩ : ∃ x : Octets 16, x.toList = octetsOf hs :=
    ⟨⟨(octetsOf hs).toArray, hlength⟩, rfl⟩
  have hread := readLiteral?_eq_some_iff.mpr ⟨hs, h, hx⟩
  -- the reader finds no gap in a row, so it reads the row alone
  have hgap : splitGap text = none := (Tail.row hrow).splitGap
  rw [readLiteral?, hgap] at hread
  simp only [hrow.readRow?, Option.bind_some, Octets.ofList?_eq_some_iff] at hread
  calc gs
      _ = groups (octetsOf gs) := (groups_octetsOf hrow.lt).symm
      _ = groups (octetsOf hs) := by rw [hread, hx]
      _ = hs := groups_octetsOf h.lt

/-- A row that is an address is a literal: there is no room for brackets or a zone. -/
theorem Row.literal_of_written {text : String} (hrow : Row text.toList gs)
    (h : Written text hs zone) : Literal text.toList hs := by
  have habsent : ∀ c : Char, c ∉ hexDigits → c ≠ ':' → c ∉ text.toList := by
    intro c hdigit hcolon hc
    exact (hrow.mem hc).elim hdigit hcolon
  obtain ⟨literal, zoneText, hhost, hliteral, hzone⟩ := h
  rcases hhost with htext | ⟨htext, -⟩
  · exact absurd (htext ▸ List.mem_cons_self) (habsent '[' (by decide) (by decide))
  · cases hzone with
    | none => rwa [← htext, List.append_nil]
    | number =>
        refine absurd ?_ (habsent '%' (by decide) (by decide))
        rw [← htext]
        simp

end V6.Grammar

/-! ## MAC addresses -/

namespace Mac

open V6.Grammar

variable {text : String} {pair : List Char} {octet : UInt8} {m : Mac}

/-- The pieces of a MAC address are six pairs. -/
theorem ofText?_eq_some_iff : ofText? text = some m ↔
    Forall₂ (fun pair octet => readPair? pair = some octet) (text.toList.splitOnP isSeparator)
      m.octets.toList := by
  unfold ofText?
  rw [Option.map_eq_some_iff]
  simp only [mapM_bind_ofList?_eq_some_iff]
  constructor
  · intro h
    obtain ⟨octets, hoctets, rfl⟩ := h
    exact hoctets
  · intro h
    exact ⟨m.octets, h, rfl⟩

/-- A pair of digits is a group that fits into an octet. -/
theorem group_of_readPair? (h : readPair? pair = some octet) : Group pair octet.toNat := by
  obtain ⟨hlength, hread⟩ := Option.ite_none_right_eq_some.mp h
  obtain ⟨number, hnumber, rfl⟩ := Option.map_eq_some_iff.mp hread
  obtain ⟨digits, hdigits, rfl⟩ := hex_read?_eq_some_iff.mp hnumber
  have hlt := ofDigits_lt hdigits
  rw [hlength] at hlt
  refine ⟨digits, hdigits, by omega, by omega, ?_⟩
  exact UInt8.toNat_ofNat'.trans (Nat.mod_eq_of_lt hlt)

theorem splitOnP_isSeparator {chars : List Char} (h : '-' ∉ chars) :
    chars.splitOnP isSeparator = chars.splitOn ':' := by
  induction chars with
  | nil => rfl
  | cons c chars ih =>
      have hc : isSeparator c = (c == ':') := by
        have hne : c ≠ '-' := fun heq => h (heq ▸ List.mem_cons_self)
        rw [isSeparator, beq_eq_false_iff_ne.mpr hne, Bool.or_false]
      rw [List.splitOnP_cons_eq_if_modifyHead, List.splitOn_cons_eq_if_modifyHead, hc,
        ih fun hmem => h (List.mem_cons_of_mem c hmem)]

/-- Without hyphens a MAC address is a row of its octets, a group for each. -/
theorem row_of_ofText? (h : ofText? text = some m) (hhyphen : '-' ∉ text.toList) :
    Row text.toList (m.octets.toList.map UInt8.toNat) := by
  rw [row_iff, ← splitOnP_isSeparator hhyphen, List.forall₂_map_right_iff]
  exact (ofText?_eq_some_iff.mp h).imp fun pair octet => group_of_readPair?

/-- A text without separators is one piece, and a MAC address has six. -/
theorem ofText?_eq_none (h : ∀ c ∈ text.toList, isSeparator c = false) : ofText? text = none := by
  rw [Option.eq_none_iff_forall_ne_some]
  intro m hm
  have hlength := (ofText?_eq_some_iff.mp hm).length_eq
  rw [List.splitOnP_eq_singleton h, Vector.length_toList] at hlength
  cases hlength

theorem ofText?_eq_none_of_v4 {v : V4} (h : V4.parse text = .ok v) : ofText? text = none := by
  apply ofText?_eq_none
  intro c hc
  rw [isSeparator, Bool.or_eq_false_iff, beq_eq_false_iff_ne, beq_eq_false_iff_ne]
  refine ⟨?_, ?_⟩
  · rintro rfl
    exact V4.not_mem_of_parse h (by decide) hc
  · rintro rfl
    exact V4.not_mem_of_parse h (by decide) hc

theorem ofText?_eq_none_of_v6 {a : V6} (h : V6.parse text = .ok a) : ofText? text = none := by
  rw [Option.eq_none_iff_forall_ne_some]
  intro m hm
  have hrow := row_of_ofText? hm (not_mem_of_accepts (accepts_of_parse h) (by decide))
  obtain ⟨zone, hwritten, -⟩ := parse_eq_ok_iff_written.mp h
  have hliteral := hrow.literal_of_written hwritten
  -- six groups on the one hand and eight on the other
  have hlength := hliteral.length_eq
  rw [← hrow.eq_of_literal hliteral, List.length_map, Vector.length_toList] at hlength
  cases hlength

end Mac

/-! ## Addresses of either family -/

namespace Address

open V6.Grammar (exists_of_map_eq_ok)

variable {text : String} {v : V4} {a : V6}

theorem parse_of_colon (h : ':' ∈ text.toList) : parse text = (V6.parse text).map v6 := by
  rw [parse, read, if_pos h, Reading.result_andThen]
  change (V6.parse text).bind _ = _
  cases V6.parse text <;> rfl

theorem parse_of_no_colon (h : ':' ∉ text.toList) : parse text = (V4.parse text).map v4 := by
  rw [parse, read, if_neg h, Reading.result_silent]

theorem parse_of_v4 (h : V4.parse text = .ok v) : parse text = .ok (v4 v) := by
  rw [parse_of_no_colon (V4.not_mem_of_parse h (by decide)), h]
  rfl

/-- What is read as an address is read by the reader of one family. -/
theorem exists_of_parse {x : Address} (h : parse text = .ok x) :
    (∃ v, V4.parse text = .ok v ∧ v4 v = x) ∨ ∃ a, V6.parse text = .ok a ∧ v6 a = x := by
  by_cases hcolon : ':' ∈ text.toList
  · rw [parse_of_colon hcolon] at h
    exact .inr (exists_of_map_eq_ok h)
  · rw [parse_of_no_colon hcolon] at h
    exact .inl (exists_of_map_eq_ok h)

theorem parse_eq_v4_iff : parse text = .ok (v4 v) ↔ V4.parse text = .ok v := by
  refine ⟨fun h => ?_, parse_of_v4⟩
  obtain ⟨w, hw, hkind⟩ | ⟨b, -, hkind⟩ := exists_of_parse h
  · rwa [v4.inj hkind] at hw
  · cases hkind

theorem parse_eq_v6_iff : parse text = .ok (v6 a) ↔ V6.parse text = .ok a := by
  refine ⟨fun h => ?_, parse_of_v6⟩
  obtain ⟨w, -, hkind⟩ | ⟨b, hb, hkind⟩ := exists_of_parse h
  · cases hkind
  · rwa [v6.inj hkind] at hb

theorem parse_text (a : Address) : parse a.text = .ok a := by
  cases a with
  | v4 a => exact parse_of_v4 a.parse_text
  | v6 a => exact parse_of_v6 a.parse_text

/-- Addresses of both families are spelled with the characters of hosts, and may be in brackets. -/
theorem not_mem_of_parse {x : Address} {c : Char} (h : parse text = .ok x)
    (hnot : c ∉ '[' :: ']' :: V6.Grammar.hostChars) : c ∉ text.toList := by
  cases x with
  | v4 v =>
      refine V4.not_mem_of_parse (parse_eq_v4_iff.mp h) fun hc => hnot ?_
      apply List.mem_cons_of_mem
      apply List.mem_cons_of_mem
      rcases List.mem_cons.mp hc with rfl | hdigit
      · decide
      · exact List.mem_append_left _ hdigit
  | v6 a =>
      have haccepts := V6.Grammar.accepts_of_parse (parse_eq_v6_iff.mp h)
      exact V6.Grammar.not_mem_of_accepts haccepts hnot

end Address

/-- What the first argument of a report stands for: no text of an IPv6 address is taken for a MAC
address. -/
theorem Report.subject_eq_ok_iff {text : String} {a : V6} :
    subject text = .ok a ↔
      (∃ m, Mac.parse text = .ok m ∧ a = V6.ofMac m) ∨ V6.parse text = .ok a := by
  unfold subject
  constructor
  · intro h
    cases hmac : Mac.ofText? text with
    | some m =>
        rw [hmac] at h
        exact .inl ⟨m, Mac.parse_eq_ok_iff.mpr hmac, (Except.ok.inj h).symm⟩
    | none =>
        rw [hmac] at h
        exact .inr h
  · rintro (⟨m, hmac, rfl⟩ | h)
    · rw [Mac.parse_eq_ok_iff.mp hmac]
    · rw [Mac.ofText?_eq_none_of_v6 h]
      exact h

/-- **No text is an address of two kinds, and the family of an address is not lost on the way
through its text.**  A reader that looks for a colon, or tries one kind before another, returns
what the reader of the right kind returns, so nothing is hidden by the order of the tests.  What an
address is written as is read as that address: a mapped address does not come back as the IPv4
address that it carries. -/
theorem Address.parse_families :
    (∀ text m v, ¬ (Mac.parse text = .ok m ∧ V4.parse text = .ok v)) ∧
    (∀ text m a, ¬ (Mac.parse text = .ok m ∧ V6.parse text = .ok a)) ∧
    (∀ text v a, ¬ (V4.parse text = .ok v ∧ V6.parse text = .ok a)) ∧
    (∀ text v, Address.parse text = .ok (.v4 v) ↔ V4.parse text = .ok v) ∧
    (∀ text a, Address.parse text = .ok (.v6 a) ↔ V6.parse text = .ok a) ∧
    (∀ text a, Report.subject text = .ok a ↔
      (∃ m, Mac.parse text = .ok m ∧ a = V6.ofMac m) ∨ V6.parse text = .ok a) ∧
    ∀ x : Address, Address.parse x.text = .ok x := by
  refine ⟨?_, ?_, ?_, fun _ _ => parse_eq_v4_iff, fun _ _ => parse_eq_v6_iff,
    fun _ _ => Report.subject_eq_ok_iff, parse_text⟩
  · rintro text m v ⟨hmac, hv4⟩
    rw [Mac.parse_eq_ok_iff, Mac.ofText?_eq_none_of_v4 hv4] at hmac
    cases hmac
  · rintro text m a ⟨hmac, hv6⟩
    rw [Mac.parse_eq_ok_iff, Mac.ofText?_eq_none_of_v6 hv6] at hmac
    cases hmac
  · rintro text v a ⟨hv4, hv6⟩
    -- the reader of either family returns one address
    have hboth := (parse_of_v4 hv4).symm.trans (parse_of_v6 hv6)
    cases hboth

end InetAddress
