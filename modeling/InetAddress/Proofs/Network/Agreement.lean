import InetAddress.Proofs.Network.Reading
import InetAddress.Proofs.Text.RoundTrip

/-!
# Membership is agreement on the leading bits

A network is given as a text, and whether an address is a member is decided by octets
under a mask.  Between the two lie a cut at the slash, the reading of a host, a mask on
what was read and the same mask again on both addresses.  What is left of all this is
one sentence: the members of `b/n` are the addresses whose first `n` bits are those of
`b` (`inNetwork_withLength`).

Any text of `b` will do, with a zone or without and in brackets or not, for each is read
as an address with the octets of `b` (`exists_parse_of_mem_texts`); the mask takes the
zone away.
-/

namespace InetAddress

namespace Octets

variable {n : Nat} {x y m : Octets n}

/-- Rows are equal under a mask when they agree on every bit that is set in it. -/
theorem and_eq_and_iff : x.and m = y.and m ↔ ∀ i < 8 * n, m.bit i → x.bit i = y.bit i := by
  constructor
  · intro h i _ hset
    have hbit := congrArg (fun z => bit z i) h
    simpa only [bit_and, hset, Bool.and_true] using hbit
  · intro h
    refine ext_of_bit fun i hi => ?_
    rw [bit_and, bit_and]
    cases hset : m.bit i with
    | false => rw [Bool.and_false, Bool.and_false]
    | true => rw [h i hi hset]

end Octets

theorem Address.parse_of_v6 {text : String} {a : V6} (h : V6.parse text = .ok a) :
    Address.parse text = .ok (.v6 a) := by
  have hcolon := V6.Grammar.colon_mem_of_accepts (V6.Grammar.accepts_of_parse h)
  rw [parse, read, if_pos hcolon, Reading.result_andThen,
    show (V6.read text).result = .ok a from h]
  rfl

namespace V6

open Grammar (Number decimal_read?_eq_some_iff)

variable {a b base : V6} {n : Nat} {text cidr : String} {e : Error}

/-! ## Three answers -/

theorem inNetwork_of_error (h : Network.parse cidr = .error e) : a.inNetwork cidr = .error e := by
  unfold inNetwork
  rw [h]
  rfl

theorem inNetwork_of_v4 {v : V4} (h : Network.parse cidr = .ok ⟨.v4 v, n⟩) :
    a.inNetwork cidr = .error (.v4Network v) := by
  unfold inNetwork
  rw [h]
  rfl

theorem inNetwork_of_v6 (h : Network.parse cidr = .ok ⟨.v6 base, n⟩) :
    a.inNetwork cidr = .ok (a.inside base n) := by
  unfold inNetwork
  rw [h]
  rfl

/-- An answer fails where there is no network, and where there is an IPv4 network. -/
theorem inNetwork_eq_error_iff :
    a.inNetwork cidr = .error e ↔ Network.parse cidr = .error e ∨
      ∃ v n, Network.parse cidr = .ok ⟨.v4 v, n⟩ ∧ e = .v4Network v ∧ e.kind = .addressFormat := by
  cases h : Network.parse cidr with
  | error fault => simp [inNetwork_of_error h]
  | ok network =>
      obtain ⟨base | base, n⟩ := network
      · rw [inNetwork_of_v4 h]
        constructor
        · intro he
          cases he
          exact .inr ⟨base, n, rfl, rfl, rfl⟩
        · rintro (hparse | ⟨v, m, hparse, rfl, -⟩)
          · cases hparse
          · cases hparse
            rfl
      · simp [inNetwork_of_v6 h]

/-! ## Membership bit by bit -/

theorem agreeUnder_iff {mask : Octets 16} :
    agreeUnder mask a b ↔ ∀ i < 128, mask.bit i → a.octets.bit i = b.octets.bit i := by
  rw [agreeUnder, beq_iff_eq]
  exact Octets.and_eq_and_iff

theorem inside_iff_mask : a.inside b n ↔ a.octets.mask n = b.octets.mask n :=
  beq_iff_eq

theorem inside_eq_decide :
    a.inside b n = decide (∀ i < n, a.octets.bit i = b.octets.bit i) := by
  rw [Bool.eq_iff_iff, inside_iff_mask, Octets.mask_eq_mask_iff, decide_eq_true_iff]

/-- The base of a network has been masked already, and the same mask again changes nothing. -/
theorem inside_masked : a.inside (ofOctets (b.octets.mask n)) n = a.inside b n := by
  rw [Bool.eq_iff_iff, inside_iff_mask, inside_iff_mask, octets_ofOctets, Octets.mask_mask,
    Nat.min_self]

/-! ## Networks of texts -/

theorem slash_not_mem_of_parse (h : V6.parse text = .ok a) : '/' ∉ text.toList :=
  Grammar.not_mem_of_accepts (Grammar.accepts_of_parse h) (by decide)

/-- The network of an IPv6 text and the length that is asked for. -/
theorem parse_of_asks {length : Option String} (hcut : Network.Cut cidr text length)
    (h : V6.parse text = .ok b) (hasks : Network.Asks 128 length n) :
    Network.parse cidr =
      if n ≤ 128 then .ok ⟨.v6 (ofOctets (b.octets.mask n)), n⟩
      else .error (.tooLong (min n (UInt64.size - 1)) 128) := by
  have hhost := Address.parse_of_v6 h
  apply Network.parse_of_reads
  split
  · next hn =>
      refine .network hcut hhost hasks hn ?_
      exact .v6 (fun i _ => Octets.bit_mask b.octets n i) rfl
  · next hn => exact .excess hcut hhost hasks (Nat.lt_of_not_le hn)

theorem inNetwork_of_asks {length : Option String} (hcut : Network.Cut cidr text length)
    (h : V6.parse text = .ok b) (hasks : Network.Asks 128 length n) :
    a.inNetwork cidr =
      if n ≤ 128 then .ok (decide (∀ i < n, a.octets.bit i = b.octets.bit i))
      else .error (.tooLong (min n (UInt64.size - 1)) 128) := by
  have hparse := parse_of_asks hcut h hasks
  split at hparse
  · next hn => rw [if_pos hn, inNetwork_of_v6 hparse, inside_masked, inside_eq_decide]
  · next hn => rw [if_neg hn, inNetwork_of_error hparse]

/-- A text and a length in decimal after it. -/
def withLength (text : String) (n : Nat) : String :=
  text ++ "/" ++ String.ofList (Decimal.write n)

theorem asks_write (width n : Nat) :
    Network.Asks width (some (String.ofList (Decimal.write n))) n := by
  refine .digits ?_
  rw [String.toList_ofList]
  exact decimal_read?_eq_some_iff.mp (Decimal.read?_write n)

theorem inNetwork_withLength (h : V6.parse text = .ok b) (n : Nat) :
    a.inNetwork (withLength text n) =
      if n ≤ 128 then .ok (decide (∀ i < n, a.octets.bit i = b.octets.bit i))
      else .error (.tooLong (min n (UInt64.size - 1)) 128) :=
  inNetwork_of_asks (.slash (slash_not_mem_of_parse h)) h (asks_write 128 n)

theorem inNetwork_text (h : V6.parse text = .ok b) :
    a.inNetwork text = .ok (decide (∀ i : Nat, i < 128 → a.octets.bit i = b.octets.bit i)) :=
  inNetwork_of_asks (.host (slash_not_mem_of_parse h)) h .all

/-! ## The texts of an address -/

/-- The texts that an address is written as. -/
def texts (b : V6) : List String :=
  [b.text, b.fullText, "[" ++ b.text ++ "]", "[" ++ b.fullText ++ "]"]

theorem exists_parse_of_mem_texts (h : text ∈ b.texts) :
    ∃ zone, V6.parse text = .ok (b.withZone zone) := by
  have hbracketed := Grammar.parse_of_written (a := b.withZone 0) (Grammar.written_fullText b).2
  simp only [texts, List.mem_cons, List.not_mem_nil, or_false] at h
  rcases h with rfl | rfl | rfl | rfl
  · exact ⟨b.zone, parse_text b⟩
  · exact ⟨0, parse_fullText b⟩
  · exact ⟨b.zone, parse_bracketed_text b⟩
  · exact ⟨0, hbracketed⟩

theorem inNetwork_of_mem_texts (h : text ∈ b.texts) (n : Nat) :
    a.inNetwork text = .ok (decide (∀ i : Nat, i < 128 → a.octets.bit i = b.octets.bit i)) ∧
    a.inNetwork (withLength text n) =
      if n ≤ 128 then .ok (decide (∀ i < n, a.octets.bit i = b.octets.bit i))
      else .error (.tooLong (min n (UInt64.size - 1)) 128) := by
  obtain ⟨zone, hparse⟩ := exists_parse_of_mem_texts h
  have hwhole := inNetwork_text (a := a) hparse
  have hlength := inNetwork_withLength (a := a) hparse n
  rw [octets_withZone] at hwhole hlength
  exact ⟨hwhole, hlength⟩

/-- What is inside a network is inside every shorter one. -/
theorem inNetwork_mono {m : Nat} (htext : text ∈ b.texts) (hmn : m ≤ n)
    (h : a.inNetwork (withLength text n) = .ok true) :
    a.inNetwork (withLength text m) = .ok true := by
  rw [(inNetwork_of_mem_texts htext n).2] at h
  rw [(inNetwork_of_mem_texts htext m).2]
  split at h
  · next hn =>
      have hbits := of_decide_eq_true (Except.ok.inj h)
      rw [if_pos (Nat.le_trans hmn hn)]
      exact congrArg Except.ok (decide_eq_true fun i hi => hbits i (Nat.lt_of_lt_of_le hi hmn))
  · cases h

/-- **Members of a network are the addresses that agree with its base on the leading bits**,
whichever text of the base is taken, and as many of the bits as the length says, or all of them if
it says nothing.  Zones do not count.  There is no answer just when there is no network or it is
an IPv4 network. -/
theorem inNetwork_texts (a b : V6) (text : String) (htext : text ∈ b.texts) :
    (∀ n, a.inNetwork (withLength text n) =
      if n ≤ 128 then .ok (decide (∀ i < n, a.octets.bit i = b.octets.bit i))
      else .error (.tooLong (min n (UInt64.size - 1)) 128)) ∧
    a.inNetwork text = .ok (decide (∀ i : Nat, i < 128 → a.octets.bit i = b.octets.bit i)) ∧
    (∀ m n, m ≤ n → a.inNetwork (withLength text n) = .ok true →
      a.inNetwork (withLength text m) = .ok true) ∧
    (∀ zone cidr, (a.withZone zone).inNetwork cidr = a.inNetwork cidr) ∧
    (∀ cidr e, a.inNetwork cidr = .error e ↔ Network.parse cidr = .error e ∨
      ∃ v n, Network.parse cidr = .ok ⟨.v4 v, n⟩ ∧ e = .v4Network v ∧ e.kind = .addressFormat) ∧
    ∀ mask : Octets 16, agreeUnder mask a b ↔
      ∀ i < 128, mask.bit i → a.octets.bit i = b.octets.bit i := by
  have hanswer := inNetwork_of_mem_texts (a := a) htext
  exact ⟨fun n => (hanswer n).2, (hanswer 128).1, fun m n => inNetwork_mono htext,
    fun zone cidr => rfl, fun cidr e => inNetwork_eq_error_iff, fun mask => agreeUnder_iff⟩

/-- `fe80::1` and `fe80::2` part at bit 126, in whatever zones they are. -/
theorem membership_across_zones :
    let a := (ofOctets #v[0xfe, 0x80, 0, 0, 0, 0, 0, 0, 0, 0, 0, 0, 0, 0, 0, 2]).withZone 9
    let b := (ofOctets #v[0xfe, 0x80, 0, 0, 0, 0, 0, 0, 0, 0, 0, 0, 0, 0, 0, 1]).withZone 7
    "[fe80::1%7]" ∈ b.texts ∧ a.inNetwork "[fe80::1%7]/126" = .ok true ∧
      a.inNetwork "[fe80::1%7]/127" = .ok false := by
  intro a b
  have htext : "[fe80::1%7]" ∈ b.texts := by decide +kernel
  obtain ⟨hlength, -⟩ := inNetwork_texts a b "[fe80::1%7]" htext
  have hagree : ∀ i < 126, a.octets.bit i = b.octets.bit i := by decide +kernel
  have hpart : ¬ ∀ i < 127, a.octets.bit i = b.octets.bit i := by decide +kernel
  refine ⟨htext, ?_, ?_⟩
  · exact (hlength 126).trans (congrArg Except.ok (decide_eq_true hagree))
  · exact (hlength 127).trans (congrArg Except.ok (decide_eq_false hpart))

end V6

end InetAddress
