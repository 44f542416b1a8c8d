import InetAddress.Registry
import InetAddress.Proofs.Sameness
import Mathlib.Data.List.Nodup
import Mathlib.Data.Set.Insert
import Mathlib.Logic.Function.Basic

/-!
# A registry is a table

A registry is asked with addresses, and looks through its members for one with the same
digest and then for one that is the same.  A table has a place for each key, empty or
with an address in it, and is asked at the key of an address.  The two give the same
answers for as long as they are asked (`forall₂_run`):

```text
insert      fills the place if it is empty, and says whether it was
replace     fills the place, and returns what was there
remove      empties the place, and says whether anything was there
contains    says whether anything is there
take        empties the place, and returns what was there
```

What carries over from one request to the next is `Represents`: at each key the registry
finds what the table has there, and what the table has there has that key.  All requests
come down to one change at one key (`Represents.update`).  With the keys of members
apart, that the registry finds an address says that the address is a member
(`find?_eq_some_self_iff`), so the members are what the table has and nothing else.
-/

namespace InetAddress.Registry

open Address (Carries)

variable {r : Registry} {a b : Address}

/-! ## Members -/

/-- No two members are the same. -/
theorem pairwise_not_same (r : Registry) : r.members.Pairwise fun a b => ¬ a.same b :=
  r.distinct.imp fun hkeys hsame => hkeys (Address.same_iff.mp hsame)

/-- Members with the same key are one member. -/
theorem eq_of_key_eq (ha : a ∈ r.members) (hb : b ∈ r.members) (h : a.key = b.key) : a = b :=
  List.inj_on_of_nodup_map (List.pairwise_map.mpr r.distinct) ha hb h

/-- A member is what its key finds. -/
theorem find?_eq_some_self_iff : r.find? a = some a ↔ a ∈ r.members := by
  constructor
  · exact List.mem_of_find?_eq_some
  · intro ha
    cases hfind : r.find? a with
    | none => exact absurd rfl (find?_eq_none_iff.mp hfind a ha)
    | some member =>
        have hmember : member ∈ r.members := List.mem_of_find?_eq_some hfind
        rw [eq_of_key_eq hmember ha (key_of_find? hfind)]

/-- An IPv4 address and an address that carries it are never both members. -/
theorem not_mem_of_carries {v : V4} {a : V6} (hcarries : Carries a v)
    (hv : .v4 v ∈ r.members) : .v6 a ∉ r.members := by
  intro ha
  cases eq_of_key_eq hv ha (Address.key_of_carries hcarries).symm

/-! ## Tables -/

/-- For each key, the address that is there, if there is one. -/
abbrev Table := Address → Option Address

namespace Table

/-- The table without addresses. -/
def empty : Table :=
  fun _ => none

/-- The answer to a request, and the table afterwards. -/
def perform (t : Table) : Request → Reply × Table
  | .insert a =>
      (.verdict (t a.key).isNone, Function.update t a.key ((t a.key).or (some a)))
  | .replace a => (.member (t a.key), Function.update t a.key (some a))
  | .remove a => (.verdict (t a.key).isSome, Function.update t a.key none)
  | .contains a => (.verdict (t a.key).isSome, t)
  | .take a => (.member (t a.key), Function.update t a.key none)

end Table

variable {t : Table}

/-- At each key, what the registry finds is what the table has there, and has that key. -/
structure Represents (r : Registry) (t : Table) : Prop where
  find : ∀ a, r.find? a = t a.key
  keyed : ∀ k member, t k = some member → member.key = k

theorem represents_empty : Represents empty Table.empty where
  find _ := rfl
  keyed _ _ h := nomatch h

/-- A change at one key, made on both sides. -/
theorem Represents.update (h : Represents r t) {r' : Registry} {value : Option Address}
    (hfind : ∀ b, r'.find? b = if a.key = b.key then value else r.find? b)
    (hvalue : ∀ member, value = some member → member.key = a.key) :
    Represents r' (Function.update t a.key value) where
  find b := by
    rw [hfind, h.find, Function.update_apply]
    simp only [eq_comm]
  keyed k member hmember := by
    rw [Function.update_apply] at hmember
    split at hmember
    · next hk => rw [hvalue member hmember, hk]
    · exact h.keyed k member hmember

theorem Represents.store (h : Represents r t) (absent : r.find? a = none) :
    Represents (r.store a absent) (Function.update t a.key (some a)) := by
  refine h.update (fun _ => find?_store) fun member hmember => ?_
  cases hmember
  rfl

theorem Represents.without (h : Represents r t) (a : Address) :
    Represents (r.without a) (Function.update t a.key none) :=
  h.update (fun _ => find?_without) nofun

/-- One request, answered alike on both sides. -/
theorem Represents.perform (h : Represents r t) (request : Request) :
    (r.perform request).1 = (t.perform request).1 ∧
      Represents (r.perform request).2 (t.perform request).2 := by
  cases request with
  | insert a =>
      simp only [Registry.perform, Table.perform]
      split
      · next member hmember =>
          have hplace := (h.find a).symm.trans hmember
          -- the table writes back what is there, the registry leaves it
          have hkeep : (t a.key).or (some a) = t a.key := by rw [hplace, Option.some_or]
          rw [hkeep, Function.update_eq_self, hplace]
          exact ⟨rfl, h⟩
      · next hnone =>
          have hplace := (h.find a).symm.trans hnone
          rw [hplace, Option.none_or]
          exact ⟨rfl, h.store hnone⟩
  | replace a =>
      have hstore := (h.without a).store (r.find?_without_self a)
      rw [Function.update_idem] at hstore
      exact ⟨congrArg Reply.member (h.find a), hstore⟩
  | remove a =>
      simp only [Registry.perform, Table.perform, h.find, true_and]
      exact h.without a
  | contains a =>
      simp only [Registry.perform, Table.perform, h.find, true_and]
      exact h
  | take a => exact ⟨congrArg Reply.member (h.find a), h.without a⟩

theorem Represents.mem_iff (h : Represents r t) : a ∈ r.members ↔ t a.key = some a := by
  rw [← h.find, find?_eq_some_self_iff]

/-! ## Runs -/

/-- The answers to requests made one after the other, each with the state after it. -/
def run {σ : Type} (perform : σ → Request → Reply × σ) : σ → List Request → List (Reply × σ)
  | _, [] => []
  | s, request :: requests =>
      let answered := perform s request
      answered :: run perform answered.2 requests

/-- A registry and a table that have answered alike and hold the same. -/
structure Tallies (answered : Reply × Registry) (expected : Reply × Table) : Prop where
  reply : answered.1 = expected.1
  members : ∀ a, a ∈ answered.2.members ↔ expected.2 a.key = some a
  keyed : ∀ k a, expected.2 k = some a → a.key = k
  distinct : answered.2.members.Pairwise fun a b => ¬ a.same b
  single : ∀ v a, Carries a v → .v4 v ∈ answered.2.members → .v6 a ∉ answered.2.members

theorem Represents.tallies (h : Represents r t) (request : Request) :
    Tallies (r.perform request) (t.perform request) where
  reply := (h.perform request).1
  members _ := (h.perform request).2.mem_iff
  keyed := (h.perform request).2.keyed
  distinct := pairwise_not_same _
  single _ _ := not_mem_of_carries

theorem forall₂_run (h : Represents r t) (requests : List Request) :
    List.Forall₂ Tallies (run perform r requests) (run Table.perform t requests) := by
  induction requests generalizing r t with
  | nil => exact .nil
  | cons request requests ih => exact .cons (h.tallies request) (ih (h.perform request).2)

/-! ## Insertion in any order -/

/-- The keys of the members. -/
def classes (r : Registry) : Set Address :=
  {k | ∃ member ∈ r.members, member.key = k}

/-- A registry after requests. -/
def after (r : Registry) (requests : List Request) : Registry :=
  requests.foldl (fun r request => (r.perform request).2) r

theorem classes_insert (r : Registry) (a : Address) :
    (r.perform (.insert a)).2.classes = insert a.key r.classes := by
  simp only [perform]
  split
  · next member hmember =>
      have hplace : a.key ∈ r.classes :=
        ⟨member, List.mem_of_find?_eq_some hmember, key_of_find? hmember⟩
      exact (Set.insert_eq_of_mem hplace).symm
  · ext k
    simp [classes, store, eq_comm]

theorem classes_after_insert (r : Registry) (as : List Address) :
    (r.after (as.map .insert)).classes = {k | ∃ a ∈ as, a.key = k} ∪ r.classes := by
  induction as generalizing r with
  | nil => simp [after]
  | cons a as ih =>
      have hstep : r.after ((a :: as).map .insert) =
          (r.perform (.insert a)).2.after (as.map .insert) := rfl
      rw [hstep, ih, classes_insert]
      ext k
      simp [or_assoc, eq_comm]

theorem classes_empty : empty.classes = ∅ := by
  simp [classes, empty]

/-- The classes after insertions are those of the addresses inserted, in whatever order. -/
theorem classes_inserted (as : List Address) :
    (empty.after (as.map .insert)).classes = {k | ∃ a ∈ as, a.key = k} := by
  rw [classes_after_insert, classes_empty, Set.union_empty]

/-- **A registry answers like a table, request after request.**  The keys of the table are the
IPv4 addresses, for themselves and for all that carries them, and the other IPv6 addresses with
their zones.  After each request the registry has given the answer of the table and holds what
the table holds, no two of its members the same.  What classes insertions fill does not depend
on their order. -/
theorem run_tallies :
    (∀ v, (Address.v4 v).key = .v4 v) ∧
    (∀ a v, Carries a v → (Address.v6 a).key = .v4 v) ∧
    (∀ a, (∀ v, ¬ Carries a v) → (Address.v6 a).key = .v6 a) ∧
    (∀ requests, List.Forall₂ Tallies (run perform empty requests)
      (run Table.perform Table.empty requests)) ∧
    (∀ as : List Address, (empty.after (as.map .insert)).classes = {k | ∃ a ∈ as, a.key = k}) ∧
    ∀ as bs : List Address, as.Perm bs →
      (empty.after (as.map .insert)).classes = (empty.after (bs.map .insert)).classes := by
  refine ⟨fun v => rfl, fun a v => Address.key_of_carries, fun a => Address.key_of_not_carries,
    forall₂_run represents_empty, classes_inserted, fun as bs hperm => ?_⟩
  rw [classes_inserted, classes_inserted]
  simp only [hperm.mem_iff]

/-- An address in a zone is found under the IPv4 address that it carries, until that takes its
place. -/
example :
    let plain := Address.v4 (V4.ofParts 10 0 0 1)
    let carrier := Address.v6 ((V6.ofV4 (V4.ofParts 10 0 0 1)).withZone 5)
    (run perform empty
        [.insert carrier, .insert plain, .replace plain, .take carrier]).map Prod.fst =
      [.verdict true, .verdict false, .member (some carrier), .member (some plain)] := by
  decide +kernel

end InetAddress.Registry
