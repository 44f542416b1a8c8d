import InetAddress.V6.Basic

/-!
# Endpoints

An endpoint is an address as the network layer hands it over, with the number of a service there, a
flow label and a zone of 32 bits. An address keeps the low sixteen bits of the zone.

There are two more ways in and out. A socket wraps an endpoint and shows its parts, so the way
through a socket is the way through the endpoint in it (`ofSocket_eq_ofEndpoint`). A bare address
is the octets alone, so the way through it is the way through the octets (`ofBare_eq_ofOctets`).
-/

namespace InetAddress

/-- An IPv6 endpoint. -/
structure Endpoint where
  octets : Octets 16
  zone : UInt32
  service : UInt16
  flow : UInt32
deriving DecidableEq

/-- An IPv6 address without a zone. -/
structure Bare where
  octets : Octets 16
deriving DecidableEq

/-- An endpoint of which only the parts are shown. -/
structure Socket where
  endpoint : Endpoint
deriving DecidableEq

namespace Socket

/-- The bare address of a socket. -/
def bare (s : Socket) : Bare :=
  ⟨s.endpoint.octets⟩

/-- The zone of a socket. -/
def zone (s : Socket) : UInt32 :=
  s.endpoint.zone

end Socket

namespace V6

/-- The endpoint of an address, with no service and no flow label. -/
def toEndpoint (a : V6) : Endpoint :=
  ⟨a.octets, a.zone.toUInt32, 0, 0⟩

/-- The address of an endpoint. -/
def ofEndpoint (e : Endpoint) : V6 :=
  ⟨e.octets, e.zone.toUInt16⟩

/-- The socket of an address, with no service and no flow label. -/
def toSocket (a : V6) : Socket :=
  ⟨⟨a.octets, a.zone.toUInt32, 0, 0⟩⟩

/-- The address of a socket. -/
def ofSocket (s : Socket) : V6 :=
  ⟨s.bare.octets, s.zone.toUInt16⟩

/-- The bare address of an address. -/
def toBare (a : V6) : Bare :=
  ⟨a.octets⟩

/-- The address of a bare address, with no zone. -/
def ofBare (b : Bare) : V6 :=
  ofOctets b.octets

/-- An address survives the way through its endpoint, zone and all. -/
@[simp] theorem ofEndpoint_toEndpoint (a : V6) : ofEndpoint a.toEndpoint = a := by
  simp [ofEndpoint, toEndpoint]

theorem ofSocket_eq_ofEndpoint (s : Socket) : ofSocket s = ofEndpoint s.endpoint := rfl

/-- An address survives the way through its socket likewise. -/
@[simp] theorem ofSocket_toSocket (a : V6) : ofSocket a.toSocket = a :=
  (ofSocket_eq_ofEndpoint a.toSocket).trans (ofEndpoint_toEndpoint a)

theorem ofBare_eq_ofOctets (b : Bare) : ofBare b = ofOctets b.octets := rfl

/-- The zone is lost on the way through the bare address. -/
@[simp] theorem ofBare_toBare (a : V6) : ofBare a.toBare = a.withZone 0 :=
  ofBare_eq_ofOctets a.toBare

end V6

end InetAddress
