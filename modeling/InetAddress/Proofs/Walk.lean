import InetAddress.Proofs.Network.Agreement
import InetAddress.Proofs.Network.Common
import InetAddress.Walk

/-!
# Zones do not interfere

Two walks take the same steps from the same octets in two zones.  They go side by side:
at the same octets after every step, with the same verdicts and lengths, and where one
of them fails the other fails as well, for a cause of the same kind.

Most steps read the octets and nothing else.  The others differ in what they do with the
zone:

```text
solicited, carried, sixToFour    it is named where the step fails
endpoint, socket, reread         it is handed on
network                          it is written into a text that is read again
```

In the last case the zone stands at the end of the address, right before what follows it.
A digit there would be taken for one of its own, or for the end of the address where there
is no zone, so what follows has to keep apart (`Step.Apart`).  Then the text is cut where
the address ends, whatever the zone is (`parse_append_cases`).

`apply_alike` goes through the steps once; the walk is an induction on top of it, with
`Mirror` for the invariant.
-/

namespace InetAddress

open V6.Grammar (exists_of_map_eq_ok)

/-! ## Outcomes side by side -/

/-- Results on both sides, which are related, or failures of one kind on both sides. -/
inductive Alike {α β : Type} (R : α → β → Prop) : Except Error α → Except Error β → Prop
  | ok {x : α} {y : β} (h : R x y) : Alike R (.ok x) (.ok y)
  | error {e f : Error} (h : e.kind = f.kind) : Alike R (.error e) (.error f)

namespace Alike

variable {α β γ δ : Type} {R : α → β → Prop} {S : γ → δ → Prop} {r : Except Error α}
  {s : Except Error β}

theorem of_eq {r s : Except Error α} (h : r = s) : Alike Eq r s := by
  subst h
  cases r with
  | ok x => exact .ok rfl
  | error e => exact .error rfl

theorem map {f : α → γ} {g : β → δ} (h : Alike R r s) (hfg : ∀ x y, R x y → S (f x) (g y)) :
    Alike S (r.map f) (s.map g) := by
  cases h with
  | ok hxy => exact .ok (hfg _ _ hxy)
  | error hkind => exact .error hkind

theorem bind {f : α → Except Error γ} {g : β → Except Error δ} (h : Alike R r s)
    (hfg : ∀ x y, R x y → Alike S (f x) (g y)) : Alike S (r.bind f) (s.bind g) := by
  cases h with
  | ok hxy => exact hfg _ _ hxy
  | error hkind => exact .error hkind

end Alike

namespace V6

variable {a b : V6} {rest : String} {n : Nat}

/-- The canonical text is there, and it is read as the address. -/
theorem bind_parse_canonicalText (a : V6) : a.canonicalText.bind parse = .ok a := by
  rw [canonicalText_eq_ok, Except.bind, parse_text]

theorem exists_withZone (h : a.octets = b.octets) : ∃ zone, b = a.withZone zone := by
  refine ⟨b.zone, ?_⟩
  cases b
  rw [withZone, h]

/-! ## Faults that name the address -/

theorem solicitedNode_alike (a : V6) (zone : UInt16) :
    Alike Eq a.solicitedNode (a.withZone zone).solicitedNode := by
  have hmulticast : (a.withZone zone).isMulticast = a.isMulticast := rfl
  rw [solicitedNode, solicitedNode, hmulticast]
  split
  · exact .error rfl
  · exact .ok rfl

theorem toV4_alike (a : V6) (zone : UInt16) : Alike Eq a.toV4 (a.withZone zone).toV4 := by
  have hmapped : (a.withZone zone).mapped? = a.mapped? := rfl
  rw [toV4, toV4, hmapped]
  cases a.mapped? with
  | some carried => exact .ok rfl
  | none => exact .error rfl

theorem sixToFourV4_alike (a : V6) (zone : UInt16) :
    Alike Eq a.sixToFourV4 (a.withZone zone).sixToFourV4 := by
  have hcarried : (a.withZone zone).sixToFour? = a.sixToFour? := rfl
  rw [sixToFourV4, sixToFourV4, hcarried]
  cases a.sixToFour? with
  | some carried => exact .ok rfl
  | none => exact .error rfl

/-! ## The text and what follows -/

/-- What follows the text of an address and is not taken for a part of it. -/
def Follows (rest : String) : Prop :=
  rest = "" ∨ ∃ digits, rest = "/" ++ digits

theorem exists_cut_of_follows (h : Follows rest) :
    ∃ length, ∀ a : V6, Network.Cut (a.text ++ rest) a.text length := by
  rcases h with rfl | ⟨digits, rfl⟩
  · refine ⟨none, fun a => ?_⟩
    rw [String.append_empty]
    exact .host (slash_not_mem_of_parse a.parse_text)
  · refine ⟨some digits, fun a => ?_⟩
    rw [← String.append_assoc]
    exact .slash (slash_not_mem_of_parse a.parse_text)

/-- The text of an address is read as a network in one of two ways, and which of them depends on
what follows alone. -/
theorem parse_append_cases (h : Follows rest) :
    (∃ n, ∀ a : V6, Network.parse (a.text ++ rest) =
      if n ≤ 128 then .ok ⟨.v6 (ofOctets (a.octets.mask n)), n⟩
      else .error (.tooLong (min n (UInt64.size - 1)) 128)) ∨
    ∃ digits, ∀ a : V6, Network.parse (a.text ++ rest) =
      .error (.notLength digits (a.text ++ rest)) := by
  obtain ⟨length, hcut⟩ := exists_cut_of_follows h
  obtain ⟨n, hasks⟩ | ⟨digits, rfl, hdigits⟩ := Network.exists_asks_or 128 length
  · exact .inl ⟨n, fun a => parse_of_asks (hcut a) a.parse_text hasks⟩
  · refine .inr ⟨digits, fun a => ?_⟩
    apply Network.parse_of_reads
    exact .digits (hcut a) (Address.parse_of_v6 a.parse_text) hdigits

theorem parse_append_alike (h : Follows rest) (a : V6) (zone : UInt16) :
    Alike Eq (Network.parse (a.text ++ rest)) (Network.parse ((a.withZone zone).text ++ rest)) := by
  obtain ⟨n, hparse⟩ | ⟨digits, hparse⟩ := parse_append_cases h
  · rw [hparse a, hparse (a.withZone zone)]
    exact .of_eq rfl
  · rw [hparse a, hparse (a.withZone zone)]
    exact .error (Eq.refl Error.Kind.addressFormat)

/-! ## Where no zone is left -/

theorem zone_of_mask (h : a.mask n = .ok b) : b.zone = 0 := by
  unfold mask at h
  split at h
  · cases h
    rfl
  · cases h

theorem zone_of_solicitedNode (h : a.solicitedNode = .ok b) : b.zone = 0 := by
  unfold solicitedNode at h
  split at h
  · cases h
  · cases h
    rfl

end V6

theorem Network.zone_of_parse {cidr : String} {base : V6} {n : Nat}
    (h : parse cidr = .ok ⟨.v6 base, n⟩) : base.zone = 0 := by
  cases parse_eq_iff_reads.mp h with
  | network _ _ _ _ hbase =>
      obtain ⟨-⟩ | ⟨-, hzone⟩ := hbase
      exact hzone

namespace Step

variable {a b : V6} {step : Step} {outcome : V6 × Report}

/-! ## One step -/

/-- A step that keeps what it writes after an address apart from the address. -/
def Apart : Step → Prop
  | network rest => V6.Follows rest
  | _ => True

/-- The same octets and the same report. -/
def SameButZone (p q : V6 × Report) : Prop :=
  p.1.octets = q.1.octets ∧ p.2 = q.2

/-- A step does the same in every zone. -/
theorem apply_alike (hstep : step.Apart) (a : V6) (zone : UInt16) :
    Alike SameButZone (step.apply a) (step.apply (a.withZone zone)) := by
  -- where a step leads to what it has read, it leads to one address
  have hsame : ∀ (report : Report) (x y : V6), x = y → SameButZone (x, report) (y, report) := by
    rintro report x y rfl
    exact ⟨rfl, rfl⟩
  have hcarry : ∀ x y : V4, x = y → SameButZone (V6.ofV4 x, .nothing) (V6.ofV4 y, .nothing) :=
    fun x y hxy => hsame .nothing _ _ (congrArg V6.ofV4 hxy)
  cases step with
  | mask length => exact (Alike.of_eq rfl).map (hsame .nothing)
  | rezone other => exact .ok ⟨rfl, rfl⟩
  | solicited => exact (a.solicitedNode_alike zone).map (hsame .nothing)
  | endpoint =>
      apply Alike.ok
      rw [V6.ofEndpoint_toEndpoint, V6.ofEndpoint_toEndpoint]
      exact ⟨rfl, rfl⟩
  | socket =>
      apply Alike.ok
      rw [V6.ofSocket_toSocket, V6.ofSocket_toSocket]
      exact ⟨rfl, rfl⟩
  | bare =>
      apply Alike.ok
      rw [V6.ofBare_toBare, V6.ofBare_toBare]
      exact ⟨rfl, rfl⟩
  | octets => exact .ok ⟨rfl, rfl⟩
  | carried => exact (a.toV4_alike zone).map hcarry
  | maskedCarried length =>
      refine Alike.map ?_ hcarry
      refine (a.toV4_alike zone).bind fun x y hxy => ?_
      exact .of_eq (congrArg (V4.mask · length) hxy)
  | sixToFour => exact (a.sixToFourV4_alike zone).map hcarry
  | reread =>
      simp only [apply, V6.bind_parse_canonicalText]
      exact .ok ⟨rfl, rfl⟩
  | rereadFull =>
      simp only [apply, V6.parse_fullText]
      exact .ok ⟨rfl, rfl⟩
  | network rest =>
      rw [apply, apply]
      refine (V6.parse_append_alike hstep a zone).bind ?_
      rintro ⟨base | base, n⟩ _ rfl
      · exact .error rfl
      · exact .ok ⟨rfl, rfl⟩
  | common length other otherLength =>
      refine (Alike.of_eq rfl).map ?_
      rintro shared _ rfl
      exact ⟨rfl, rfl⟩
  | inNetwork cidr =>
      have hanswer : (a.withZone zone).inNetwork cidr = a.inNetwork cidr := rfl
      rw [apply, apply, hanswer]
      refine (Alike.of_eq rfl).map ?_
      rintro yes _ rfl
      exact ⟨rfl, rfl⟩
  | goto address => exact .ok ⟨rfl, rfl⟩

/-- The zone that a step leads to: there are few steps that do not end in zone 0. -/
def zoneAfter (a : V6) : Step → UInt16
  | rezone zone => zone
  | endpoint | socket | reread | inNetwork _ => a.zone
  | goto address => address.zone
  | _ => 0

theorem zone_of_apply (h : step.apply a = .ok outcome) : outcome.1.zone = step.zoneAfter a := by
  cases step with
  | mask length =>
      obtain ⟨b, hb, rfl⟩ := exists_of_map_eq_ok h
      exact V6.zone_of_mask hb
  | solicited =>
      obtain ⟨b, hb, rfl⟩ := exists_of_map_eq_ok h
      exact V6.zone_of_solicitedNode hb
  | rezone | bare | octets | goto =>
      cases h
      rfl
  | endpoint =>
      cases h
      rw [V6.ofEndpoint_toEndpoint]
      rfl
  | socket =>
      cases h
      rw [V6.ofSocket_toSocket]
      rfl
  | carried | maskedCarried | sixToFour =>
      obtain ⟨v, -, rfl⟩ := exists_of_map_eq_ok h
      rfl
  | reread =>
      simp only [apply, V6.bind_parse_canonicalText] at h
      cases h
      rfl
  | rereadFull =>
      simp only [apply, V6.parse_fullText] at h
      cases h
      rfl
  | network rest =>
      rw [apply] at h
      cases hparse : Network.parse (a.text ++ rest) with
      | error e =>
          rw [hparse] at h
          cases h
      | ok network =>
          obtain ⟨base | base, n⟩ := network
          · rw [hparse] at h
            cases h
          · rw [hparse] at h
            cases h
            exact Network.zone_of_parse hparse
  | common length other otherLength =>
      obtain ⟨shared, hshared, rfl⟩ := exists_of_map_eq_ok h
      exact (V6.commonNetwork_eq_ok_iff.mp hshared).2.2.zone
  | inNetwork cidr =>
      rw [apply] at h
      obtain ⟨yes, -, rfl⟩ := exists_of_map_eq_ok h
      rfl

/-! ## Steps taken one after the other -/

/-- Where two walks stand after the same step: at the same octets, and after reports that are the
same. -/
structure Mirror (p q : V6 × Except Error Report) : Prop where
  octets : p.1.octets = q.1.octets
  report : Alike Eq p.2 q.2

theorem mirror_settle {r s : Except Error (V6 × Report)} (h : a.octets = b.octets)
    (hrs : Alike SameButZone r s) : Mirror (settle a r) (settle b s) := by
  cases hrs with
  | ok hxy => exact ⟨hxy.1, .ok hxy.2⟩
  | error hkind => exact ⟨h, .error hkind⟩

theorem mirror_run (hstep : step.Apart) (h : a.octets = b.octets) :
    Mirror (step.run a) (step.run b) := by
  obtain ⟨zone, rfl⟩ := V6.exists_withZone h
  exact mirror_settle rfl (apply_alike hstep a zone)

theorem forall₂_mirror_walk {steps : List Step} (hsteps : ∀ step ∈ steps, step.Apart)
    (h : a.octets = b.octets) : List.Forall₂ Mirror (walk a steps) (walk b steps) := by
  induction steps generalizing a b with
  | nil => exact .nil
  | cons step steps ih =>
      have hstep := mirror_run (hsteps step List.mem_cons_self) h
      exact .cons hstep (ih (fun next hnext => hsteps next (List.mem_cons_of_mem step hnext))
        hstep.octets)

theorem run_endpoint (a : V6) : endpoint.run a = (a, .ok .nothing) := by
  rw [run, apply, V6.ofEndpoint_toEndpoint]
  rfl

theorem run_socket (a : V6) : socket.run a = (a, .ok .nothing) := by
  rw [run, apply, V6.ofSocket_toSocket]
  rfl

theorem run_reread (a : V6) : reread.run a = (a, .ok .nothing) := by
  rw [run, apply, V6.bind_parse_canonicalText]
  rfl

theorem zone_of_run {report : Report} (h : step.run a = (b, .ok report)) :
    b.zone = step.zoneAfter a := by
  rw [run] at h
  cases hstep : step.apply a with
  | ok outcome =>
      rw [hstep] at h
      cases h
      exact zone_of_apply hstep
  | error e =>
      rw [hstep] at h
      cases h

/-- **Zones do not interfere with octets.**  The same steps from the same octets lead two walks to
the same octets and the same reports, or to failures of one kind, at every step and in whatever
zones they go.  An endpoint, a socket and the canonical text hand an address on as it is.  Any other
step ends in a zone that it names itself, or in zone 0; a question of membership leaves the zone
alone. -/
theorem walk_mirror (a b : V6) (steps : List Step) (h : a.octets = b.octets)
    (hsteps : ∀ step ∈ steps, step.Apart) :
    List.Forall₂ Mirror (walk a steps) (walk b steps) ∧
    (∀ x, endpoint.run x = (x, .ok .nothing) ∧ socket.run x = (x, .ok .nothing) ∧
      reread.run x = (x, .ok .nothing)) ∧
    ∀ (step : Step) (x y : V6) (report : Report), step.run x = (y, .ok report) →
      y.zone = step.zoneAfter x :=
  ⟨forall₂_mirror_walk hsteps h, fun x => ⟨run_endpoint x, run_socket x, run_reread x⟩,
    fun _ _ _ _ => zone_of_run⟩

/-- Faults that name the address, zone and all, and answers on the way to `::ffff:10.0.0.0/120`,
from one zone and from none. -/
theorem mirror_from_zone :
    let a := (V6.ofV4 (V4.ofParts 10 1 2 3)).withZone 7
    let b := V6.ofV4 (V4.ofParts 10 1 2 3)
    let steps := [network "/104x", sixToFour, inNetwork "[::ffff:10.0.0.0%3]/0104",
      maskedCarried 8, network "/120"]
    a.octets = b.octets ∧ (∀ step ∈ steps, step.Apart) ∧
      List.Forall₂ Mirror (walk a steps) (walk b steps) ∧
      (walk a steps).getLast? = some (V6.ofV4 (V4.ofParts 10 0 0 0), .ok (.length 120)) := by
  intro a b steps
  have hsteps : ∀ step ∈ steps, step.Apart := by
    simp only [steps, List.forall_mem_cons]
    exact ⟨.inr ⟨"104x", rfl⟩, trivial, trivial, trivial, .inr ⟨"120", rfl⟩,
      List.forall_mem_nil _⟩
  obtain ⟨hwalk, -⟩ := walk_mirror a b steps rfl hsteps
  exact ⟨rfl, hsteps, hwalk, by decide +kernel⟩

end Step

end InetAddress
