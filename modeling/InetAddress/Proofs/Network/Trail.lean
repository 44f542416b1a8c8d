import InetAddress.Proofs.Languages

/-!
# The trail of a reading

A text goes through three readers on its way to a network, and each of them may turn
it away before the next one sees it.  What this leaves behind depends on where the
way ends:

```text
there is no colon in the host              nothing, the host is left to the other family
the host has fewer than two bytes          nothing
there is a NUL in the host                 nothing
the host is an IPv6 address                accepted, with the zone of the address
otherwise                                  rejected
```

So the trail is a matter of the host alone (`Trail`), and of one event at most.  An
event names the host without its brackets, though the first two tests are made with
them.  The length is looked at after the host and in silence: when it is turned down,
a host that was accepted stays so on the trail.
-/

namespace InetAddress

open V6.Grammar (Host)

variable {text host bare : String} {length : Option String} {events : List Event}

/-! ## Trails -/

/-- A host that is held against the rules of IPv6 literals. -/
structure Examined (host : String) : Prop where
  colon : ':' ∈ host.toList
  size : 2 ≤ host.utf8ByteSize
  nul : '\x00' ∉ host.toList

theorem examined_iff : Examined host ↔
    ':' ∈ host.toList ∧ 2 ≤ host.utf8ByteSize ∧ '\x00' ∉ host.toList :=
  ⟨fun h => ⟨h.colon, h.size, h.nul⟩, fun h => ⟨h.1, h.2.1, h.2.2⟩⟩

/-- What a host leaves behind, where `bare` is the host without its brackets. -/
inductive Trail (host bare : String) : List Event → Prop
  | accepted {a : V6} (hhost : V6.parse host = .ok a) : Trail host bare [.accepted bare a.zone]
  | rejected (hexamined : Examined host) (hhost : ¬ V6.accepts host) :
      Trail host bare [.rejected bare]
  | nothing (hexamined : ¬ Examined host) : Trail host bare []

/-- An address passes all three tests. -/
theorem examined_of_parse {a : V6} (h : V6.parse host = .ok a) : Examined host := by
  have haccepts := V6.Grammar.accepts_of_parse h
  exact ⟨V6.Grammar.colon_mem_of_accepts haccepts, (V6.Grammar.guards_of_parse h).1,
    V6.Grammar.not_mem_of_accepts haccepts (by decide)⟩

/-- One case for each way out of the reader of IPv6 addresses. -/
theorem V6.trail_read (hbare : Host host.toList bare.toList) (hcolon : ':' ∈ host.toList) :
    Trail host bare (V6.read host).events := by
  have hhost : unbracket host.toList = bare.toList := Grammar.unbracket_of_host hbare
  have hnulIff : '\x00' ∈ bare.toList ↔ '\x00' ∈ host.toList :=
    hbare.mem_iff (by decide) (by decide)
  by_cases hsize : host.utf8ByteSize < 2
  · rw [V6.read, if_pos hsize, Reading.events_silent]
    exact .nothing fun h => absurd h.size (Nat.not_le.mpr hsize)
  rw [V6.read, if_neg hsize, hhost]
  by_cases hnul : '\x00' ∈ bare.toList
  · simp only [if_pos hnul, Reading.events_silent]
    exact .nothing fun h => h.nul (hnulIff.mp hnul)
  have hexamined : Examined host :=
    ⟨hcolon, Nat.le_of_not_lt hsize, fun h => hnul (hnulIff.mpr h)⟩
  have hparse : ∀ a, V6.parse host = .ok a ↔ ofHost? bare.toList = some a := by
    intro a
    rw [← hhost] at hnul ⊢
    exact Grammar.parse_eq_ok_iff_ofHost? hexamined.size hnul
  simp only [if_neg hnul, String.ofList_toList]
  cases hread : ofHost? bare.toList with
  | some a => exact .accepted ((hparse a).mpr hread)
  | none =>
      refine .rejected hexamined fun haccepts => ?_
      obtain ⟨a, ha⟩ := Grammar.accepts_iff_exists_parse.mp haccepts
      rw [hparse, hread] at ha
      cases ha

theorem Address.trail_read (hbare : Host host.toList bare.toList) :
    Trail host bare (Address.read host).events := by
  by_cases hcolon : ':' ∈ host.toList
  · rw [Address.read, if_pos hcolon, Reading.events_andThen]
    exact V6.trail_read hbare hcolon
  · rw [Address.read, if_neg hcolon, Reading.events_silent]
    exact .nothing fun h => hcolon h.colon

/-! ## What a trail tells -/

namespace Trail

theorem length_le (h : Trail host bare events) : events.length ≤ 1 := by
  cases h with
  | accepted => exact Nat.le_refl 1
  | rejected => exact Nat.le_refl 1
  | nothing => exact Nat.zero_le 1

/-- A host is on the trail as accepted just when it is an address, and then with its zone. -/
theorem accepted_mem_iff {zone : UInt16} (h : Trail host bare events) :
    .accepted bare zone ∈ events ↔ ∃ a, V6.parse host = .ok a ∧ zone = a.zone := by
  cases h with
  | @accepted a hhost => simp [hhost]
  | rejected _ hhost =>
      have hnone : ∀ a, V6.parse host ≠ .ok a := fun a ha =>
        hhost (V6.Grammar.accepts_of_parse ha)
      simp [hnone]
  | nothing hexamined =>
      have hnone : ∀ a, V6.parse host ≠ .ok a := fun a ha => hexamined (examined_of_parse ha)
      simp [hnone]

theorem rejected_mem_iff (h : Trail host bare events) :
    .rejected bare ∈ events ↔ Examined host ∧ ¬ V6.accepts host := by
  cases h with
  | accepted hhost => simp [V6.Grammar.accepts_of_parse hhost]
  | rejected hexamined hhost => simp [hexamined, hhost]
  | nothing hexamined => simp [hexamined]

theorem eq_nil_iff (h : Trail host bare events) : events = [] ↔ ¬ Examined host := by
  cases h with
  | accepted hhost => simp [examined_of_parse hhost]
  | rejected hexamined => simp [hexamined]
  | nothing hexamined => simp [hexamined]

/-- What an event shows is fixed by whether the host is an address. -/
theorem shows_of_mem {e : Event} (h : Trail host bare events) (he : e ∈ events) :
    e.host = bare ∧
      (V6.accepts host ∧ e.level = "TRACE" ∧ e.message = "parsed IPv6 address" ∨
        ¬ V6.accepts host ∧ e.level = "DEBUG" ∧ e.message = "numeric host rejected") := by
  cases h with
  | accepted hhost =>
      rw [List.mem_singleton.mp he]
      exact ⟨rfl, .inl ⟨V6.Grammar.accepts_of_parse hhost, rfl, rfl⟩⟩
  | rejected _ hhost =>
      rw [List.mem_singleton.mp he]
      exact ⟨rfl, .inr ⟨hhost, rfl, rfl⟩⟩
  | nothing => exact absurd he List.not_mem_nil

theorem eq_of_parse {a : V6} (h : Trail host bare events) (hhost : V6.parse host = .ok a) :
    events = [.accepted bare a.zone] := by
  obtain ⟨e, rfl⟩ : ∃ e, events = [e] := by
    rw [← List.length_eq_one_iff]
    have hne : events ≠ [] := fun hnil => h.eq_nil_iff.mp hnil (examined_of_parse hhost)
    exact Nat.le_antisymm h.length_le (List.length_pos_of_ne_nil hne)
  rw [List.mem_singleton.mp (h.accepted_mem_iff.mpr ⟨a, hhost, rfl⟩)]

end Trail

namespace Network

theorem trail_read (hcut : Cut text host length) (hbare : Host host.toList bare.toList) :
    Trail host bare (read text).events := by
  rw [read_of_cut hcut, Reading.events_andThen]
  exact Address.trail_read hbare

/-- An IPv6 network has an IPv6 address for a host. -/
theorem exists_parse_host {base : V6} {n : Nat} (hcut : Cut text host length)
    (h : parse text = .ok ⟨.v6 base, n⟩) : ∃ a, V6.parse host = .ok a := by
  cases parse_eq_iff_reads.mp h with
  | network hother hhost _ _ hbase =>
      rw [host_eq_of_cut hcut hother] at hhost
      cases hbase with
      | @v6 a => exact ⟨a, Address.parse_eq_v6_iff.mp hhost⟩

/-- **The host alone decides what is left of the reading of a network, and that is one event at
most.**  Every text is cut at its first slash, and an event names the host without its brackets.
A host that is an IPv6 address is on the trail with its zone, also when the length is turned down;
one that is examined and is none is on it as rejected; and the rest leaves nothing, be it an
IPv4 address or not.  So an IPv6 network never comes without the event of its host. -/
theorem read_events_of_cut (text : String) :
    (∃ host length, ∃ bare : String, Cut text host length ∧ Host host.toList bare.toList) ∧
    ∀ (host : String) (length : Option String) (bare : String),
      Cut text host length → Host host.toList bare.toList →
      (read text).events.length ≤ 1 ∧
      (∀ zone, .accepted bare zone ∈ (read text).events ↔
        ∃ a, V6.parse host = .ok a ∧ zone = a.zone) ∧
      (.rejected bare ∈ (read text).events ↔
        ':' ∈ host.toList ∧ 2 ≤ host.utf8ByteSize ∧ '\x00' ∉ host.toList ∧ ¬ V6.accepts host) ∧
      ((read text).events = [] ↔
        ':' ∉ host.toList ∨ host.utf8ByteSize < 2 ∨ '\x00' ∈ host.toList) ∧
      (∀ e ∈ (read text).events, e.host = bare ∧
        (V6.accepts host ∧ e.level = "TRACE" ∧ e.message = "parsed IPv6 address" ∨
          ¬ V6.accepts host ∧ e.level = "DEBUG" ∧ e.message = "numeric host rejected")) ∧
      ∀ base n, parse text = .ok ⟨.v6 base, n⟩ →
        ∃ a, V6.parse host = .ok a ∧ (read text).events = [.accepted bare a.zone] := by
  refine ⟨?_, fun host length bare hcut hbare => ?_⟩
  · obtain ⟨host, length, hcut⟩ := exists_cut text
    refine ⟨host, length, String.ofList (V6.unbracket host.toList), hcut, ?_⟩
    rw [String.toList_ofList]
    exact V6.Grammar.host_unbracket host.toList
  have htrail := trail_read hcut hbare
  refine ⟨htrail.length_le, fun _ => htrail.accepted_mem_iff, ?_, ?_,
    fun _ => htrail.shows_of_mem, fun base n h => ?_⟩
  · rw [htrail.rejected_mem_iff, examined_iff]
    simp only [and_assoc]
  · rw [htrail.eq_nil_iff, examined_iff, not_and_or, not_and_or, not_not, Nat.not_le]
  · obtain ⟨a, ha⟩ := exists_parse_host hcut h
    exact ⟨a, ha, htrail.eq_of_parse ha⟩

/-- A length that is turned down leaves the event of its host, with the zone and without the
brackets. -/
theorem trail_of_excessive_length :
    parse "[fe80::1%7]/200" = .error (.tooLong 200 128) ∧
      Event.accepted "fe80::1%7" 7 ∈ (read "[fe80::1%7]/200").events ∧
      (read "[fe80::1%7]/200").events.length ≤ 1 := by
  have hcut : Cut "[fe80::1%7]/200" "[fe80::1%7]" (some "200") :=
    @Cut.slash "[fe80::1%7]" "200" (by decide)
  have hbare : Host "[fe80::1%7]".toList "fe80::1%7".toList := .inl (by decide)
  obtain ⟨-, htrail⟩ := read_events_of_cut "[fe80::1%7]/200"
  obtain ⟨hlength, haccepted, -⟩ := htrail _ _ _ hcut hbare
  let a : V6 := ⟨#v[0xfe, 0x80, 0, 0, 0, 0, 0, 0, 0, 0, 0, 0, 0, 0, 0, 1], 7⟩
  have hparse : V6.parse "[fe80::1%7]" = .ok a := by decide +kernel
  exact ⟨by decide +kernel, (haccepted 7).mpr ⟨a, hparse, rfl⟩, hlength⟩

end Network

end InetAddress
