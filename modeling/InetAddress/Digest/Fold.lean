import InetAddress.Digest.Sip

/-!
# Folding words into one

A digest is a chain: each word is folded onto what came before, so order matters. `fold`
multiplies and mixes high bits down, twice, and multiplies once more; `chain_append` says that a
chain may be broken anywhere.
-/

namespace InetAddress.Digest

/-- An odd multiplier, hence invertible among 64-bit words. -/
def multiplier : UInt64 :=
  0x9ddfea08eb382d69

/-- Mixes the high bits of a word into its low ones. -/
def spread (word : UInt64) : UInt64 :=
  word ^^^ (word >>> 47)

/-- Two words folded into one. -/
def fold (upper lower : UInt64) : UInt64 :=
  spread ((upper ^^^ spread ((lower ^^^ upper) * multiplier)) * multiplier) * multiplier

/-- Words folded onto a seed, from the left. -/
def chain (seed : UInt64) (values : List UInt64) : UInt64 :=
  values.foldl fold seed

@[simp] theorem chain_nil (seed : UInt64) : chain seed [] = seed := rfl

@[simp] theorem chain_cons (seed value : UInt64) (values : List UInt64) :
    chain seed (value :: values) = chain (fold seed value) values := rfl

theorem chain_append (seed : UInt64) (first second : List UInt64) :
    chain seed (first ++ second) = chain (chain seed first) second :=
  List.foldl_append

/-- The digest of an octet string: the two halves of its hash, folded onto a seed. -/
def seeded (seed : UInt64) (octets : List UInt8) : UInt64 :=
  let halves := sip octets
  chain seed [halves.1, halves.2]

end InetAddress.Digest
