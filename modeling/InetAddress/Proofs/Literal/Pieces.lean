import InetAddress.Proofs.Literal.Grammar
import Mathlib.Data.List.Induction

/-!
# The readers of single pieces

A literal is cut into pieces before anything is read.  Here the two readers of a
piece are held against the grammar: `readGroup?` succeeds just on `Group`, and
`readQuad?` just on `DottedQuad`, with the octets of the groups that the
derivation denotes.

The quad reader bounds the length of a part and the grammar does not.  The bound
follows from the number: a text without leading zeros is the one that its number
is written as (`Decimal.eq_write_of_read?`), and octets have three digits at
most.
-/

namespace InetAddress

/-! ## Decimal numbers without leading zeros -/

namespace Decimal

theorem digitChar_of_isDigit {c : Char} (h : c.isDigit) :
    c.toNat - '0'.toNat < 10 ∧ Nat.digitChar (c.toNat - '0'.toNat) = c := by
  have hall : ∀ n < 58, 48 ≤ n → n - 48 < 10 ∧ Nat.digitChar (n - 48) = Char.ofNat n := by decide
  have hrange : 48 ≤ c.toNat ∧ c.toNat ≤ 57 := by
    simpa [Char.isDigit, UInt32.le_iff_toNat_le] using h
  simpa using hall c.toNat (by omega) hrange.1

/-- A text without leading zeros is what its number is written as. -/
theorem eq_write_of_read? {text : List Char} {number : Nat} (h : read? text = some number)
    (hzero : text.head? = some '0' → text = ['0']) : text = write number := by
  obtain ⟨hne, hdigits, rfl⟩ := read?_eq_some_iff.mp h
  clear h
  -- the digits before the last one have no leading zero either
  induction text using List.reverseRecOn with
  | nil => exact absurd rfl hne
  | append_singleton front last ih =>
      obtain ⟨hlt, hlast⟩ := digitChar_of_isDigit (hdigits last (by simp))
      rw [Nat.ofDigitChars_append, Nat.ofDigitChars_cons, Nat.ofDigitChars_nil]
      by_cases hfront : front = []
      · subst hfront
        rw [Nat.ofDigitChars_nil, Nat.mul_zero, Nat.zero_add, write,
          Nat.toDigits_of_lt_base hlt, hlast]
        rfl
      · have hhead : front.head? ≠ some '0' := by
          intro hhead
          have hwhole := hzero (by rw [List.head?_append, hhead]; rfl)
          have hlength := congrArg List.length hwhole
          rw [List.length_append] at hlength
          exact hfront (List.eq_nil_of_length_eq_zero (by simpa using hlength))
        have hwritten := ih (fun h => absurd h hhead) hfront
          fun c hc => hdigits c (List.mem_append_left _ hc)
        have hpos : 0 < Nat.ofDigitChars 10 front 0 := by
          refine Nat.pos_of_ne_zero fun hvalue => hhead ?_
          rw [hwritten, hvalue]
          rfl
        rw [write, Nat.toDigits_of_base_le (by decide) (by omega)]
        have hdiv : (10 * Nat.ofDigitChars 10 front 0 + (last.toNat - '0'.toNat)) / 10 =
            Nat.ofDigitChars 10 front 0 := by omega
        have hmod : (10 * Nat.ofDigitChars 10 front 0 + (last.toNat - '0'.toNat)) % 10 =
            last.toNat - '0'.toNat := by omega
        rw [hdiv, hmod, hlast, ← write, ← hwritten]

end Decimal

namespace V6.Grammar

open List (Forall₂)

variable {piece text : List Char} {group number digit : Nat} {gs : List Nat} {c : Char}
  {octets : List UInt8}

/-- Mapping succeeds when it does at every place. -/
theorem mapM_eq_some_iff {α β : Type} {f : α → Option β} {xs : List α} {ys : List β} :
    xs.mapM f = some ys ↔ Forall₂ (fun x y => f x = some y) xs ys := by
  induction xs generalizing ys with
  | nil => simp [eq_comm]
  | cons x xs ih =>
      rw [List.mapM_cons, List.forall₂_cons_left_iff]
      simp only [Option.bind_eq_bind, Option.bind_eq_some_iff, ih, Option.pure_def,
        Option.some.injEq]
      constructor
      · intro h
        obtain ⟨y, hy, rest, hrest, rfl⟩ := h
        exact ⟨y, rest, hy, hrest, rfl⟩
      · intro h
        obtain ⟨y, rest, hy, hrest, rfl⟩ := h
        exact ⟨y, hy, rest, hrest, rfl⟩

/-- A row of octets is read from pieces when each octet is read from its piece. -/
theorem mapM_bind_ofList?_eq_some_iff {α : Type} {f : α → Option UInt8} {n : Nat} {xs : List α}
    {x : Octets n} :
    (xs.mapM f).bind Octets.ofList? = some x ↔
      Forall₂ (fun piece octet => f piece = some octet) xs x.toList := by
  rw [← mapM_eq_some_iff, Option.bind_eq_some_iff]
  constructor
  · intro h
    obtain ⟨octets, hoctets, hx⟩ := h
    rwa [Octets.ofList?_eq_some_iff.mp hx] at hoctets
  · intro h
    exact ⟨x.toList, h, Octets.ofList?_toList x⟩

theorem exists_of_map_eq_ok {α β : Type} {r : Except Error α} {f : α → β} {y : β}
    (h : r.map f = .ok y) : ∃ x, r = .ok x ∧ f x = y := by
  cases r with
  | ok x => exact ⟨x, rfl, Except.ok.inj h⟩
  | error e => cases h

theorem exists_of_mem_of_mapM {α β : Type} {f : α → Option β} {xs : List α} {ys : List β} {x : α}
    (h : xs.mapM f = some ys) (hx : x ∈ xs) : ∃ y, f x = some y :=
  forall_of_forall₂ (mapM_eq_some_iff.mp h) (fun _ y hxy => Exists.intro y hxy) x hx

/-- Between pieces there are separators and nothing else. -/
theorem eq_or_mem_of_mem_intercalate {α : Type} {sep x : α} {pieces : List (List α)}
    (h : x ∈ [sep].intercalate pieces) : x = sep ∨ ∃ piece ∈ pieces, x ∈ piece := by
  induction pieces with
  | nil => exact absurd h List.not_mem_nil
  | cons piece pieces ih =>
      cases pieces with
      | nil =>
          rw [List.intercalate_singleton] at h
          exact Or.inr ⟨piece, List.mem_cons_self, h⟩
      | cons next pieces =>
          rw [List.intercalate_cons_cons, List.mem_append, List.mem_append,
            List.mem_singleton] at h
          rcases h with (h | h) | h
          · exact Or.inr ⟨piece, List.mem_cons_self, h⟩
          · exact Or.inl h
          · obtain heq | ⟨piece, hpiece, hx⟩ := ih h
            · exact Or.inl heq
            · exact Or.inr ⟨piece, List.mem_cons_of_mem _ hpiece, hx⟩

/-! ## Groups and octets -/

/-- The octets of groups, two to the group, the more significant first. -/
def octetsOf (gs : List Nat) : List UInt8 :=
  gs.flatMap fun group => [UInt8.ofNat (group / 256), UInt8.ofNat (group % 256)]

@[simp] theorem octetsOf_nil : octetsOf [] = [] := rfl

@[simp] theorem octetsOf_cons (group : Nat) (gs : List Nat) :
    octetsOf (group :: gs) =
      UInt8.ofNat (group / 256) :: UInt8.ofNat (group % 256) :: octetsOf gs := rfl

@[simp] theorem octetsOf_append (gs hs : List Nat) :
    octetsOf (gs ++ hs) = octetsOf gs ++ octetsOf hs :=
  List.flatMap_append

@[simp] theorem length_octetsOf (gs : List Nat) : (octetsOf gs).length = 2 * gs.length := by
  induction gs with
  | nil => rfl
  | cons group gs ih =>
      simp only [octetsOf_cons, List.length_cons, ih]
      omega

theorem octetsOf_replicate (count : Nat) :
    octetsOf (List.replicate count 0) = List.replicate (2 * count) 0 := by
  induction count with
  | zero => rfl
  | succ count ih =>
      rw [List.replicate_succ, octetsOf_cons, ih, Nat.mul_succ, List.replicate_succ,
        List.replicate_succ]
      rfl

theorem length_le_one_of_no_pair
    (h : ∀ high low rest, octets = high :: low :: rest → False) : octets.length ≤ 1 := by
  obtain _ | ⟨high, _ | ⟨low, rest⟩⟩ := octets
  · exact Nat.zero_le 1
  · exact Nat.le_refl 1
  · exact (h high low rest rfl).elim

/-- Whole groups of octets are the octets of their groups. -/
theorem octetsOf_groups (h : 2 ∣ octets.length) : octetsOf (groups octets) = octets := by
  fun_induction groups octets with
  | case1 high low rest ih =>
      have hhigh : UInt8.ofNat ((256 * high.toNat + low.toNat) / 256) = high := by
        have hlow := low.toNat_lt
        rw [show (256 * high.toNat + low.toNat) / 256 = high.toNat by omega, UInt8.ofNat_toNat]
      have hlow : UInt8.ofNat ((256 * high.toNat + low.toNat) % 256) = low := by
        have hlow := low.toNat_lt
        rw [show (256 * high.toNat + low.toNat) % 256 = low.toNat by omega, UInt8.ofNat_toNat]
      simp only [List.length_cons] at h
      rw [octetsOf_cons, hhigh, hlow, ih (by omega)]
  | case2 octets hshort =>
      have hlength := length_le_one_of_no_pair hshort
      exact (List.eq_nil_of_length_eq_zero (by omega)).symm

/-- Groups that fit into two octets are the groups of their octets. -/
theorem groups_octetsOf (h : ∀ g ∈ gs, g < 65536) : groups (octetsOf gs) = gs := by
  induction gs with
  | nil => rfl
  | cons group gs ih =>
      have hfits := h group List.mem_cons_self
      have hhigh : (UInt8.ofNat (group / 256)).toNat = group / 256 := by
        rw [UInt8.toNat_ofNat', Nat.mod_eq_of_lt (by omega)]
      have hlow : (UInt8.ofNat (group % 256)).toNat = group % 256 := by
        rw [UInt8.toNat_ofNat', Nat.mod_eq_of_lt (by omega)]
      have hrest := ih fun g hg => h g (List.mem_cons_of_mem group hg)
      rw [octetsOf_cons, groups, hhigh, hlow, hrest, Nat.div_add_mod]

/-! ## Groups -/

theorem mem_hexDigits_of_range {low high : Char} (hlow : low ≤ c) (hhigh : c ≤ high)
    (hall : ∀ n < high.toNat + 1, low.toNat ≤ n → Char.ofNat n ∈ hexDigits) : c ∈ hexDigits := by
  have hle : c.toNat ≤ high.toNat := hhigh
  rw [← Char.ofNat_toNat c]
  exact hall c.toNat (by omega) hlow

theorem mem_hexDigits_of_digit? (h : Hex.digit? c = some digit) : c ∈ hexDigits := by
  unfold Hex.digit? at h
  split at h
  · rename_i hdecimal
    exact mem_hexDigits_of_isDigit hdecimal
  · split at h
    · rename_i hlower
      exact mem_hexDigits_of_range hlower.1 hlower.2 (by decide)
    · split at h
      · rename_i hupper
        exact mem_hexDigits_of_range hupper.1 hupper.2 (by decide)
      · exact absurd h (by simp)

/-- The two tables of digits are gone through place by place. -/
theorem digit?_hexDigits :
    ∀ i : Fin hexDigits.length,
      (∀ digit ∈ Hex.digit? (hexDigits.get i), HexDigit (hexDigits.get i) digit) ∧
        ∀ digit < 16, HexDigit (hexDigits.get i) digit →
          Hex.digit? (hexDigits.get i) = some digit := by
  unfold HexDigit
  decide +kernel

theorem digit?_eq_some_iff : Hex.digit? c = some digit ↔ HexDigit c digit := by
  constructor
  · intro h
    obtain ⟨i, rfl⟩ := List.mem_iff_get.mp (mem_hexDigits_of_digit? h)
    exact (digit?_hexDigits i).1 digit h
  · intro h
    obtain ⟨i, rfl⟩ := List.mem_iff_get.mp h.mem
    exact (digit?_hexDigits i).2 digit h.lt h

theorem ofDigits_eq (digits : List Nat) :
    Hex.ofDigits digits = Nat.ofDigits 16 digits.reverse := by
  rw [Hex.ofDigits, Nat.ofDigits_eq_foldr, List.foldr_reverse]
  congr 1
  funext acc digit
  exact Nat.add_comm ..

theorem hex_read?_eq_some_iff :
    Hex.read? piece = some number ↔
      ∃ digits, Forall₂ HexDigit piece digits ∧ number = Nat.ofDigits 16 digits.reverse := by
  rw [Hex.read?, Option.map_eq_some_iff]
  simp only [mapM_eq_some_iff, digit?_eq_some_iff, ofDigits_eq, eq_comm (a := number)]

theorem readGroup?_eq_some_iff :
    readGroup? piece = some octets ↔ ∃ group, Group piece group ∧ octets = octetsOf [group] := by
  rw [readGroup?, Option.ite_none_right_eq_some, Option.map_eq_some_iff]
  constructor
  · intro h
    obtain ⟨⟨hpos, hshort⟩, group, hgroup, rfl⟩ := h
    obtain ⟨digits, hdigits, hvalue⟩ := hex_read?_eq_some_iff.mp hgroup
    exact ⟨group, ⟨digits, hdigits, hpos, hshort, hvalue⟩, rfl⟩
  · intro h
    obtain ⟨group, ⟨digits, hdigits, hpos, hshort, hvalue⟩, rfl⟩ := h
    exact ⟨⟨hpos, hshort⟩, group, hex_read?_eq_some_iff.mpr ⟨digits, hdigits, hvalue⟩, rfl⟩

/-! ## Dotted quads -/

theorem decimal_read?_eq_some_iff : Decimal.read? piece = some number ↔ Number piece number := by
  rw [Decimal.read?_eq_some_iff, Number]
  simp only [eq_comm]

/-- An octet of a quad is written in one way only. -/
theorem quadOctet_iff_eq_write {octet : UInt8} :
    QuadOctet piece octet ↔ piece = Decimal.write octet.toNat := by
  constructor
  · intro h
    obtain ⟨hnumber, hzero⟩ := h
    exact Decimal.eq_write_of_read? (decimal_read?_eq_some_iff.mpr hnumber) hzero
  · rintro rfl
    refine ⟨decimal_read?_eq_some_iff.mp (Decimal.read?_write _), fun hhead => ?_⟩
    -- the reader takes what is written, and it takes no leading zero
    have hread := Quad.readPlainOctet?_write octet
    unfold Quad.readPlainOctet? at hread
    split at hread
    · exact absurd hread (by simp)
    · rename_i hplain
      have hlength := not_not.mp fun hlong => hplain ⟨hhead, hlong⟩
      obtain ⟨c, hc⟩ := List.length_eq_one_iff.mp hlength
      rw [hc] at hhead ⊢
      simpa using hhead

theorem QuadOctet.length_le {octet : UInt8} (h : QuadOctet piece octet) : piece.length ≤ 3 := by
  have hlt := octet.toNat_lt
  rw [quadOctet_iff_eq_write.mp h]
  exact (Nat.length_toDigits_le_iff (by decide) (by decide)).mpr (by omega)

theorem DottedQuad.length_le (h : DottedQuad text gs) : text.length ≤ 15 := by
  obtain ⟨hp, hq, hr, hs⟩ := h
  have hp := hp.length_le
  have hq := hq.length_le
  have hr := hr.length_le
  have hs := hs.length_le
  simp only [List.length_append, List.length_cons]
  omega

theorem readOctet?_eq_some_iff {octet : UInt8} :
    Quad.readOctet? piece = some octet ↔ Number piece octet.toNat ∧ piece.length ≤ 3 := by
  rw [← decimal_read?_eq_some_iff, Quad.readOctet?]
  cases Decimal.read? piece with
  | none => simp
  | some number =>
      simp only [Option.ite_none_right_eq_some, Option.some.injEq]
      constructor
      · intro h
        obtain ⟨⟨hshort, hsmall⟩, rfl⟩ := h
        rw [UInt8.toNat_ofNat', Nat.mod_eq_of_lt (by omega)]
        exact ⟨rfl, hshort⟩
      · intro h
        obtain ⟨rfl, hshort⟩ := h
        have hlt := octet.toNat_lt
        exact ⟨⟨hshort, by omega⟩, UInt8.ofNat_toNat⟩

theorem readPlainOctet?_eq_some_iff {octet : UInt8} :
    Quad.readPlainOctet? piece = some octet ↔ QuadOctet piece octet := by
  constructor
  · intro h
    rw [Quad.readPlainOctet?, Option.ite_none_left_eq_some, readOctet?_eq_some_iff] at h
    obtain ⟨hplain, hnumber, -⟩ := h
    refine ⟨hnumber, fun hhead => ?_⟩
    have hlength := not_not.mp fun hlong => hplain ⟨hhead, hlong⟩
    obtain ⟨c, rfl⟩ := List.length_eq_one_iff.mp hlength
    simpa using hhead
  · intro h
    rw [quadOctet_iff_eq_write.mp h]
    exact Quad.readPlainOctet?_write octet

theorem QuadOctet.dot_not_mem {octet : UInt8} (h : QuadOctet piece octet) : '.' ∉ piece :=
  fun hdot => absurd (h.isDigit hdot) (by decide)

theorem DottedQuad.splitOn_dot {p q r s : List Char} {a b c d : UInt8} (hp : QuadOctet p a)
    (hq : QuadOctet q b) (hr : QuadOctet r c) (hs : QuadOctet s d) :
    (p ++ '.' :: (q ++ '.' :: (r ++ '.' :: s))).splitOn '.' = [p, q, r, s] := by
  rw [List.splitOn_append_cons_self_of_not_mem hp.dot_not_mem,
    List.splitOn_append_cons_self_of_not_mem hq.dot_not_mem,
    List.splitOn_append_cons_self_of_not_mem hr.dot_not_mem,
    List.splitOn_eq_singleton hs.dot_not_mem]

theorem octetsOf_pair (a b c d : UInt8) :
    octetsOf [256 * a.toNat + b.toNat, 256 * c.toNat + d.toNat] = [a, b, c, d] :=
  octetsOf_groups (show 2 ∣ [a, b, c, d].length from ⟨2, rfl⟩)

theorem readQuad?_eq_some_iff :
    readQuad? text = some octets ↔ ∃ gs, DottedQuad text gs ∧ octets = octetsOf gs := by
  unfold readQuad? Quad.read?
  constructor
  · intro h
    obtain ⟨x, hx, rfl⟩ := Option.map_eq_some_iff.mp h
    obtain ⟨parts, hparts, hx⟩ := Option.bind_eq_some_iff.mp hx
    rw [Octets.ofList?_eq_some_iff] at hx
    have hlength : parts.length = 4 := by rw [hx, Vector.length_toList]
    match parts, hlength with
    | [a, b, c, d], _ =>
        -- four octets come from four pieces, and these joined are the text
        have htext : ['.'].intercalate (text.splitOn '.') = text := List.intercalate_splitOn '.'
        generalize text.splitOn '.' = pieces at hparts htext
        obtain _ | ⟨hp, _ | ⟨hq, _ | ⟨hr, _ | ⟨hs, hnil⟩⟩⟩⟩ := mapM_eq_some_iff.mp hparts
        obtain rfl := List.forall₂_nil_right_iff.mp hnil
        have hquad := DottedQuad.parts (readPlainOctet?_eq_some_iff.mp hp)
          (readPlainOctet?_eq_some_iff.mp hq) (readPlainOctet?_eq_some_iff.mp hr)
          (readPlainOctet?_eq_some_iff.mp hs)
        refine ⟨_, ?_, hx.symm.trans (octetsOf_pair a b c d).symm⟩
        rw [← htext]
        simpa [List.intercalate, List.intersperse] using hquad
  · intro h
    obtain ⟨gs, @⟨p, q, r, s, a, b, c, d, hp, hq, hr, hs⟩, rfl⟩ := h
    rw [DottedQuad.splitOn_dot hp hq hr hs, octetsOf_pair]
    have hparts : [p, q, r, s].mapM Quad.readPlainOctet? = some [a, b, c, d] :=
      mapM_eq_some_iff.mpr <| .cons (readPlainOctet?_eq_some_iff.mpr hp) <|
        .cons (readPlainOctet?_eq_some_iff.mpr hq) <|
        .cons (readPlainOctet?_eq_some_iff.mpr hr) <|
        .cons (readPlainOctet?_eq_some_iff.mpr hs) .nil
    rw [hparts]
    rfl

end V6.Grammar

end InetAddress
