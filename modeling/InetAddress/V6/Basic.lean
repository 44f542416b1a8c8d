import InetAddress.V4.Basic

/-!
# IPv6 addresses

Sixteen octets and a zone. The zone tells apart links that use the same addresses; it takes part
in equality and order, and not in digests. The block `::ffff:0:0/96` carries the IPv4 addresses:
`mapped?` and `ofV4` go back and forth.
-/

namespace InetAddress

/-- Sixteen octets in network order, and the zone, 0 for none. -/
structure V6 where
  octets : Octets 16
  zone : UInt16
deriving DecidableEq

namespace V6

/-- The address with the given octets and no zone. -/
def ofOctets (octets : Octets 16) : V6 :=
  ⟨octets, 0⟩

/-- The address `::`. -/
def unspecified : V6 :=
  ofOctets #v[0, 0, 0, 0, 0, 0, 0, 0, 0, 0, 0, 0, 0, 0, 0, 0]

/-- The address `::1`. -/
def loopback : V6 :=
  ofOctets #v[0, 0, 0, 0, 0, 0, 0, 0, 0, 0, 0, 0, 0, 0, 0, 1]

/-- All nodes of a link, `ff02::1`. -/
def allNodes : V6 :=
  ofOctets #v[0xff, 2, 0, 0, 0, 0, 0, 0, 0, 0, 0, 0, 0, 0, 0, 1]

instance : Inhabited V6 := ⟨unspecified⟩

/-- Octets first, then zones. -/
instance : Ord V6 where
  compare a b := (compare a.octets b.octets).then (compare a.zone b.zone)

/-- Addresses in ascending order; equal ones stay as they are. -/
def sort (as : List V6) : List V6 :=
  as.mergeSort fun a b => (compare a b).isLE

/-- The same octets in another zone. -/
def withZone (a : V6) (zone : UInt16) : V6 :=
  { a with zone }

@[simp] theorem octets_ofOctets (octets : Octets 16) : (ofOctets octets).octets = octets := rfl

@[simp] theorem zone_ofOctets (octets : Octets 16) : (ofOctets octets).zone = 0 := rfl

@[simp] theorem octets_withZone (a : V6) (zone : UInt16) :
    (a.withZone zone).octets = a.octets := rfl

@[simp] theorem zone_withZone (a : V6) (zone : UInt16) : (a.withZone zone).zone = zone := rfl

/-! ## Mapped IPv4 addresses -/

/-- The leading octets of mapped addresses: ten zero octets, then two octets of ones. -/
def mappedHead : Octets 12 :=
  #v[0, 0, 0, 0, 0, 0, 0, 0, 0, 0, 0xff, 0xff]

/-- Whether an address is mapped, that is, in the block `::ffff:0:0/96`. -/
def isMapped (a : V6) : Bool :=
  a.octets.toList.take 12 == mappedHead.toList

/-- The IPv4 address that a mapped address carries. -/
def mapped? (a : V6) : Option V4 :=
  if a.isMapped then some ⟨a.octets.drop 12⟩ else none

/-- The mapped address that carries an IPv4 address. -/
def ofV4 (a : V4) : V6 :=
  ofOctets (mappedHead ++ a.octets)

theorem isSome_mapped? (a : V6) : a.mapped?.isSome = a.isMapped := by
  unfold mapped?
  split <;> simp_all

theorem toList_octets_ofV4 (a : V4) :
    (ofV4 a).octets.toList = mappedHead.toList ++ a.octets.toList :=
  Vector.toList_append

@[simp] theorem zone_ofV4 (a : V4) : (ofV4 a).zone = 0 := rfl

/-- An address carries an IPv4 address just when its octets are those of the mapped form. -/
theorem mapped?_eq_some_iff {a : V6} {v : V4} :
    a.mapped? = some v ↔ a.octets = (ofV4 v).octets := by
  have hlists : a.octets = (ofV4 v).octets ↔
      a.octets.toList.take 12 = mappedHead.toList ∧ a.octets.toList.drop 12 = v.octets.toList := by
    rw [← Vector.toList_inj, toList_octets_ofV4]
    refine ⟨fun h => ?_, fun h => ?_⟩
    · rw [h]
      exact ⟨List.take_left' (by simp), List.drop_left' (by simp)⟩
    · rw [← h.1, ← h.2, List.take_append_drop]
  rw [hlists, mapped?, Option.ite_none_right_eq_some, isMapped, beq_iff_eq, Option.some_inj]
  refine and_congr_right fun _ => ⟨fun h => ?_, fun h => ?_⟩
  · rw [← h]
    exact (Vector.toList_drop ..).symm
  · cases v
    exact congrArg V4.mk (Vector.toList_inj.mp ((Vector.toList_drop ..).trans h))

@[simp] theorem mapped?_ofV4 (a : V4) : (ofV4 a).mapped? = some a :=
  mapped?_eq_some_iff.mpr rfl

@[simp] theorem isMapped_ofV4 (a : V4) : (ofV4 a).isMapped := by
  rw [← isSome_mapped?, mapped?_ofV4]
  rfl

/-! ## Digests -/

/-- The digest of an address. A mapped address has the digest of what it carries, and zones do
not count. -/
def digest (a : V6) : UInt64 :=
  match a.mapped? with
  | some carried => carried.digest
  | none => Digest.seeded (UInt64.ofNat Family.v6.code) a.octets.toList

end V6

end InetAddress
