/-!
# A keyed 128-bit hash of an octet string

SipHash with one round to the word, three rounds to finish and a 128-bit result, under a fixed
key, so that the digest of an address is the same in every run. The octets are taken eight at a
time as little-endian words; the last word carries what is left over and, in its top octet, the
length.
-/

namespace InetAddress.Digest

/-- The four words that the rounds stir. -/
structure Sip where
  v0 : UInt64
  v1 : UInt64
  v2 : UInt64
  v3 : UInt64

/-- The fixed key. -/
def key : UInt64 × UInt64 :=
  (0x736f6d6570736575, 0x646f72616e646f6d)

/-- The word with its bits moved `count` places up and around. -/
def rotate (word : UInt64) (count : UInt64) : UInt64 :=
  (word <<< count) ||| (word >>> (64 - count))

/-- The little-endian word of at most eight octets. -/
def littleEndian (octets : List UInt8) : UInt64 :=
  octets.foldr (fun octet acc => (acc <<< 8) ||| octet.toUInt64) 0

namespace Sip

/-- The state before any octet: the key over four fixed words, marked for a 128-bit result. -/
def initial : Sip where
  v0 := key.1 ^^^ 0x736f6d6570736575
  v1 := key.2 ^^^ 0x646f72616e646f6d ^^^ 0xee
  v2 := key.1 ^^^ 0x6c7967656e657261
  v3 := key.2 ^^^ 0x7465646279746573

/-- One round of additions, rotations and exclusive ors. -/
def round (s : Sip) : Sip :=
  let a0 := s.v0 + s.v1
  let a1 := rotate s.v1 13 ^^^ a0
  let b2 := s.v2 + s.v3
  let b3 := rotate s.v3 16 ^^^ b2
  let c0 := rotate a0 32 + b3
  let c3 := rotate b3 21 ^^^ c0
  let d2 := b2 + a1
  let d1 := rotate a1 17 ^^^ d2
  ⟨c0, d1, rotate d2 32, c3⟩

/-- Takes in one word, with one round. -/
def absorb (s : Sip) (word : UInt64) : Sip :=
  let stirred := round { s with v3 := s.v3 ^^^ word }
  { stirred with v0 := stirred.v0 ^^^ word }

/-- The exclusive or of the four words. -/
def collapse (s : Sip) : UInt64 :=
  s.v0 ^^^ s.v1 ^^^ s.v2 ^^^ s.v3

end Sip

/-- The words of an octet string: whole ones in order, then the rest with the length on top. -/
def words (octets : List UInt8) : List UInt64 :=
  let whole := octets.length / 8
  (List.range whole).map (fun k => littleEndian ((octets.drop (8 * k)).take 8)) ++
    [littleEndian (octets.drop (8 * whole)) ||| (UInt64.ofNat octets.length <<< 56)]

/-- The two halves of the hash of an octet string. -/
def sip (octets : List UInt8) : UInt64 × UInt64 :=
  let absorbed := (words octets).foldl Sip.absorb Sip.initial
  let first := { absorbed with v2 := absorbed.v2 ^^^ 0xee }.round.round.round
  let second := { first with v1 := first.v1 ^^^ 0xdd }.round.round.round
  (first.collapse, second.collapse)

end InetAddress.Digest
