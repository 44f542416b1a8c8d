import InetAddress.Error

/-!
# Readings

Reading an address leaves a trail: an event for each host that was held against the rules of IPv6
literals. A reading is the result together with that trail, in order.
-/

namespace InetAddress

/-- What happened to a host. -/
inductive Event where
  /-- The host was read, with this zone. -/
  | accepted (host : String) (zone : UInt16)
  /-- The host is no IPv6 literal. -/
  | rejected (host : String)
deriving DecidableEq

namespace Event

/-- The level at which an event is reported. -/
def level : Event → String
  | accepted _ _ => "TRACE"
  | rejected _ => "DEBUG"

/-- The wording of an event. -/
def message : Event → String
  | accepted _ _ => "parsed IPv6 address"
  | rejected _ => "numeric host rejected"

/-- The host that an event is about. -/
def host : Event → String
  | accepted host _ => host
  | rejected host => host

end Event

/-- A result and the events on the way to it. -/
structure Reading (α : Type) where
  result : Except Error α
  events : List Event

namespace Reading

variable {α β : Type}

/-- A result that no event led to. -/
def silent (result : Except Error α) : Reading α :=
  ⟨result, []⟩

/-- Goes on with the value that was read, without further events. -/
def andThen (r : Reading α) (next : α → Except Error β) : Reading β :=
  ⟨r.result.bind next, r.events⟩

@[simp] theorem result_silent (result : Except Error α) : (silent result).result = result := rfl

@[simp] theorem events_silent (result : Except Error α) : (silent result).events = [] := rfl

@[simp] theorem result_andThen (r : Reading α) (next : α → Except Error β) :
    (r.andThen next).result = r.result.bind next := rfl

@[simp] theorem events_andThen (r : Reading α) (next : α → Except Error β) :
    (r.andThen next).events = r.events := rfl

end Reading

end InetAddress
