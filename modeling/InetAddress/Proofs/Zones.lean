import InetAddress.Endpoint
import InetAddress.Proofs.Text.Derivation

/-!
# How much of a zone is kept

The network layer has zones of 32 bits, and a text may name any of them.  An address
has room for sixteen, and takes the low sixteen bits of what it is given, from an
endpoint and from a text alike.  So a zone comes through just when it is below 65536,
and two zones are told apart just when they differ below that:

```text
endpoint → address → endpoint     the octets, and the zone modulo 65536
literal % number → address        the octets, and the number modulo 65536
```

A number beyond 65535 is taken without complaint.  `::1%65543` and `::1%7` are the same
address (`ofEndpoint_zone_high`).
-/

namespace InetAddress.V6

open Grammar

/-! ## Endpoints -/

theorem toNat_zone_of_endpoint (e : Endpoint) :
    (ofEndpoint e).toEndpoint.zone.toNat = e.zone.toNat % 65536 := by
  rw [toEndpoint, ofEndpoint, UInt16.toNat_toUInt32, UInt32.toNat_toUInt16]

/-- An endpoint has its zone back from the address that is made of it if the zone fits. -/
theorem zone_of_endpoint_eq_iff (e : Endpoint) :
    (ofEndpoint e).toEndpoint.zone = e.zone ↔ e.zone.toNat < 65536 := by
  rw [← UInt32.toNat_inj, toNat_zone_of_endpoint]
  exact Nat.mod_eq_iff_lt (by decide)

/-! ## Texts with a zone -/

variable {literal digits first second : String} {number n m : Nat} {a b : V6}

/-- A literal, a percent sign and the number of a zone. -/
def zoned (literal digits : String) : String :=
  literal ++ "%" ++ digits

theorem toList_zoned (literal digits : String) :
    (zoned literal digits).toList = literal.toList ++ '%' :: digits.toList := by
  simp [zoned, String.toList_append]

/-- A text that ends in a digit has no pair of brackets around it. -/
theorem host_zoned (h : Number digits.toList number) {host : List Char}
    (hhost : Host (zoned literal digits).toList host) :
    host = literal.toList ++ '%' :: digits.toList := by
  rw [toList_zoned] at hhost
  rcases hhost with heq | ⟨heq, -⟩
  · have hlast := congrArg List.getLast? heq
    rw [List.getLast?_append_of_ne_nil _ (List.cons_ne_nil _ _), List.getLast?_cons_of_ne_nil h.1,
      ← List.cons_append, List.getLast?_concat] at hlast
    exact absurd (List.mem_of_getLast? hlast) (h.not_mem (by decide))
  · exact heq

/-- There is one percent sign, and it parts the literal from the number. -/
theorem eq_of_host_zoned (h : Number digits.toList number) {front zoneText : List Char}
    {gs : List Nat} {zone : Nat} (hfront : Literal front gs) (hzone : Zone zoneText zone)
    (heq : front ++ zoneText = literal.toList ++ '%' :: digits.toList) :
    front = literal.toList ∧ number = zone ∧ number ≤ 4294967295 := by
  cases hzone with
  | none =>
      refine absurd ?_ hfront.percent_not_mem
      rw [List.append_nil] at heq
      simp [heq]
  | number hnumber hfits =>
      have hpercent := hnumber.not_mem (show '%'.isDigit = false by decide)
      obtain ⟨rfl, -, rfl⟩ :=
        (List.append_cons_inj_of_notMem hfront.percent_not_mem hpercent).mp heq
      have hnumbers : number = zone := h.2.2.trans hnumber.2.2.symm
      exact ⟨rfl, hnumbers, hnumbers ▸ hfits⟩

/-- What a literal with a zone is read as: the octets of the literal, and what an address keeps of
the number. -/
theorem parse_zoned_eq_ok_iff (h : Number digits.toList number) :
    parse (zoned literal digits) = .ok a ↔
      readLiteral? literal.toList = some a.octets ∧ number ≤ 4294967295 ∧
        a.zone = UInt16.ofNat number := by
  rw [parse_eq_ok_iff_written, ← literal_groups_iff]
  constructor
  · rintro ⟨zone, ⟨front, zoneText, hhost, hfront, hzone⟩, hkept⟩
    obtain ⟨rfl, rfl, hfits⟩ := eq_of_host_zoned h hfront hzone (host_zoned h hhost)
    exact ⟨hfront, hfits, hkept⟩
  · rintro ⟨hliteral, hfits, hkept⟩
    exact ⟨number, (written_of_host hliteral (.number h hfits) (toList_zoned literal digits)).1,
      hkept⟩

theorem exists_parse_zoned_iff (h : Number digits.toList number) :
    (∃ a, parse (zoned literal digits) = .ok a) ↔
      (∃ gs, Literal literal.toList gs) ∧ number ≤ 4294967295 := by
  simp only [parse_zoned_eq_ok_iff h]
  constructor
  · rintro ⟨a, hread, hfits, -⟩
    exact ⟨⟨_, literal_groups_iff.mpr hread⟩, hfits⟩
  · rintro ⟨⟨gs, hliteral⟩, hfits⟩
    have hlength : (octetsOf gs).length = 16 := by rw [length_octetsOf, hliteral.length_eq]
    have hread := readLiteral?_eq_some_iff.mpr
      ⟨gs, hliteral, (rfl : (⟨(octetsOf gs).toArray, hlength⟩ : Octets 16).toList = octetsOf gs)⟩
    exact ⟨⟨_, UInt16.ofNat number⟩, hread, hfits, rfl⟩

theorem zone_of_parse_zoned (h : Number digits.toList number)
    (hparse : parse (zoned literal digits) = .ok a) : a.zone.toNat = number % 65536 := by
  obtain ⟨-, -, hkept⟩ := (parse_zoned_eq_ok_iff h).mp hparse
  rw [hkept]
  exact UInt16.toNat_ofNat'

/-- With one literal, it is the low sixteen bits of the numbers that tell addresses apart. -/
theorem eq_iff_of_parse_zoned (hfirst : Number first.toList n) (hsecond : Number second.toList m)
    (ha : parse (zoned literal first) = .ok a) (hb : parse (zoned literal second) = .ok b) :
    a = b ↔ n % 65536 = m % 65536 := by
  rw [← zone_of_parse_zoned hfirst ha, ← zone_of_parse_zoned hsecond hb, UInt16.toNat_inj]
  constructor
  · rintro rfl
    rfl
  · intro hzone
    obtain ⟨hread, -⟩ := (parse_zoned_eq_ok_iff hfirst).mp ha
    obtain ⟨hreadAgain, -⟩ := (parse_zoned_eq_ok_iff hsecond).mp hb
    have hoctets := Option.some.inj (hread.symm.trans hreadAgain)
    cases a
    cases b
    exact congrArg₂ mk hoctets hzone

/-- **Zones are kept as far as sixteen bits go.**  An endpoint that is made into an address and
back has its octets, and its zone modulo 65536, so it has its zone just when that is below 65536.
A literal with a number after it is an address just when the number is below `2 ^ 32`, the zone of
the address is the number modulo 65536, and two such addresses are equal just when their numbers
are, modulo 65536. -/
theorem ofEndpoint_parse_zone (e : Endpoint) (literal first second : String) (n m : Nat)
    (hfirst : Number first.toList n) (hsecond : Number second.toList m) :
    ((ofEndpoint e).toEndpoint.octets = e.octets ∧
      (ofEndpoint e).toEndpoint.zone.toNat = e.zone.toNat % 65536 ∧
      ((ofEndpoint e).toEndpoint.zone = e.zone ↔ e.zone.toNat < 65536)) ∧
    ((∃ a, parse (zoned literal first) = .ok a) ↔
      (∃ gs, Literal literal.toList gs) ∧ n ≤ 4294967295) ∧
    (∀ a, parse (zoned literal first) = .ok a →
      a.zone.toNat = n % 65536 ∧ (a.zone.toNat = n ↔ n < 65536)) ∧
    ∀ a b, parse (zoned literal first) = .ok a → parse (zoned literal second) = .ok b →
      (a = b ↔ n % 65536 = m % 65536) := by
  refine ⟨⟨rfl, toNat_zone_of_endpoint e, zone_of_endpoint_eq_iff e⟩,
    exists_parse_zoned_iff hfirst, fun a ha => ?_,
    fun a b ha hb => eq_iff_of_parse_zoned hfirst hsecond ha hb⟩
  have hzone := zone_of_parse_zoned hfirst ha
  rw [hzone]
  exact ⟨rfl, Nat.mod_eq_iff_lt (by decide)⟩

/-- Leading zeros do not take a number beyond the limit. -/
theorem zones_written_with_zeros :
    let e : Endpoint := ⟨loopback.octets, 65535, 0, 0⟩
    let a := loopback.withZone 7
    Number "00007".toList 7 ∧ Number "8".toList 8 ∧ (ofEndpoint e).toEndpoint.zone = e.zone ∧
      parse (zoned "::1" "00007") = .ok a ∧ parse (zoned "::1" "8") = .ok (a.withZone 8) ∧
      a ≠ a.withZone 8 := by
  intro e a
  have hseven : Number "00007".toList 7 := decimal_read?_eq_some_iff.mp (by decide +kernel)
  have height : Number "8".toList 8 := decimal_read?_eq_some_iff.mp (by decide +kernel)
  have ha : parse (zoned "::1" "00007") = .ok a := by decide +kernel
  have hb : parse (zoned "::1" "8") = .ok (a.withZone 8) := by decide +kernel
  obtain ⟨⟨-, -, hkept⟩, -, -, happart⟩ :=
    ofEndpoint_parse_zone e "::1" "00007" "8" 7 8 hseven height
  refine ⟨hseven, height, hkept.mpr (by decide), ha, hb, fun heq => ?_⟩
  exact absurd ((happart _ _ ha hb).mp heq) (by decide)

/-- Zone 65543 does not come through: it passes for zone 7, from an endpoint and from a text. -/
theorem ofEndpoint_zone_high :
    let e : Endpoint := ⟨loopback.octets, 65543, 0, 0⟩
    (ofEndpoint e).toEndpoint.zone = 7 ∧ (ofEndpoint e).toEndpoint.zone ≠ e.zone ∧
      parse "::1%65543" = .ok (loopback.withZone 7) ∧
      parse "::1%7" = .ok (loopback.withZone 7) := by
  decide +kernel

end InetAddress.V6
