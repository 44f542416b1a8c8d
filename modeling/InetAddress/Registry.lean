import InetAddress.Address

/-!
# A registry of addresses

A registry holds at most one member for each key. Members are found by their digests first and by
sameness second; since addresses that are the same have equal digests, the first test never hides
a member from the second (`answers_iff`). What a registry holds is seen through `find?`: storing
an address changes what its key finds and nothing else (`find?_store`), and so does removing it
(`find?_without`).
-/

namespace InetAddress

/-- The members of a registry, no two of them with the same key. The latest arrival comes first. -/
structure Registry where
  members : List Address
  distinct : members.Pairwise fun a b => a.key ≠ b.key

namespace Registry

/-- The registry without members. -/
def empty : Registry :=
  ⟨[], .nil⟩

/-- Whether a member answers to an address. -/
def answers (a member : Address) : Bool :=
  member.digest == a.digest && member.same a

theorem answers_iff {a member : Address} : answers a member ↔ member.key = a.key := by
  rw [answers, Bool.and_eq_true, Address.same_iff, beq_iff_eq]
  refine ⟨And.right, fun h => ⟨?_, h⟩⟩
  exact Address.digest_eq_of_same (Address.same_iff.mpr h)

/-- The member that answers to an address. -/
def find? (r : Registry) (a : Address) : Option Address :=
  r.members.find? (answers a)

/-- The registry without the member that answers to an address. -/
def without (r : Registry) (a : Address) : Registry where
  members := r.members.filter fun member => !answers a member
  distinct := r.distinct.filter _

theorem find?_eq_none_iff {r : Registry} {a : Address} :
    r.find? a = none ↔ ∀ member ∈ r.members, member.key ≠ a.key := by
  simp only [find?, List.find?_eq_none, answers_iff, ne_eq]

/-- The registry with one more member, to whose key none has answered. -/
def store (r : Registry) (a : Address) (absent : r.find? a = none) : Registry where
  members := a :: r.members
  distinct := List.pairwise_cons.mpr
    ⟨fun member hmember => (find?_eq_none_iff.mp absent member hmember).symm, r.distinct⟩

theorem key_of_find? {r : Registry} {a member : Address} (h : r.find? a = some member) :
    member.key = a.key :=
  answers_iff.mp (List.find?_some h)

/-! ## What a key finds -/

@[simp] theorem find?_empty (a : Address) : empty.find? a = none := rfl

theorem find?_store {r : Registry} {a b : Address} {absent : r.find? a = none} :
    (r.store a absent).find? b = if a.key = b.key then some a else r.find? b := by
  simp only [find?, store, List.find?_cons]
  by_cases h : a.key = b.key
  · rw [if_pos h, answers_iff.mpr h]
  · rw [if_neg h, Bool.eq_false_iff.mpr (mt answers_iff.mp h)]

theorem find?_without {r : Registry} {a b : Address} :
    (r.without a).find? b = if a.key = b.key then none else r.find? b := by
  simp only [find?, without, List.find?_filter]
  by_cases h : a.key = b.key
  · rw [if_pos h, List.find?_eq_none]
    intro member _ hmember
    obtain ⟨hgone, hb⟩ := of_decide_eq_true hmember
    rw [Bool.not_eq_true', Bool.eq_false_iff] at hgone
    exact hgone (answers_iff.mpr ((answers_iff.mp hb).trans h.symm))
  · rw [if_neg h]
    congr 1
    funext member
    by_cases hb : answers b member
    · have ha : ¬ answers a member := fun ha =>
        h ((answers_iff.mp ha).symm.trans (answers_iff.mp hb))
      simp [hb, ha]
    · simp [hb]

theorem find?_without_self (r : Registry) (a : Address) : (r.without a).find? a = none := by
  rw [find?_without, if_pos rfl]

/-! ## Requests -/

/-- What can be asked of a registry. -/
inductive Request where
  /-- Add an address, unless a member answers to it. -/
  | insert (a : Address)
  /-- Put an address in the place of the member that answers to it, if there is one. -/
  | replace (a : Address)
  /-- Remove the member that answers to an address. -/
  | remove (a : Address)
  /-- Ask whether a member answers to an address. -/
  | contains (a : Address)
  /-- Remove the member that answers to an address, and return it. -/
  | take (a : Address)

/-- What a registry answers. -/
inductive Reply where
  | verdict (yes : Bool)
  | member (found : Option Address)
deriving DecidableEq

/-- The answer to a request, and the registry afterwards. -/
def perform (r : Registry) : Request → Reply × Registry
  | .insert a =>
      match h : r.find? a with
      | some _ => (.verdict false, r)
      | none => (.verdict true, r.store a h)
  | .replace a => (.member (r.find? a), (r.without a).store a (r.find?_without_self a))
  | .remove a => (.verdict (r.find? a).isSome, r.without a)
  | .contains a => (.verdict (r.find? a).isSome, r)
  | .take a => (.member (r.find? a), r.without a)

/-- The texts of the members, in the order of their characters. -/
def texts (r : Registry) : List String :=
  (r.members.map Address.text).mergeSort fun a b => decide (a ≤ b)

end Registry

end InetAddress
