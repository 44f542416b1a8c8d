import InetAddress.Proofs.Literal.Pieces

/-!
# The readers of literals and hosts

The reader cuts and the grammar joins.  Two facts bring them together:

* cutting a row at its colons gives back its pieces, because no piece has a
  colon (`row_iff`, `Row.readRow?_append`);
* the first gap of a text that starts with a row is not inside the row, because
  a row neither ends in a colon nor has two in a row (`Row.splitGap_append`).

Main statement: `readLiteral?` succeeds just on literals, with the octets of the
groups that the literal denotes.  A host adds the zone: a literal has no percent
sign, so the first one is where the zone starts.
-/

namespace InetAddress.V6.Grammar

open List (Forall₂)

variable {piece text rest left right : List Char} {group : Nat} {gs before after : List Nat}
  {c : Char} {octets : List UInt8} {pieces : List (List Char)}

/-! ## Rows -/

theorem Group.colon_not_mem (h : Group piece group) : ':' ∉ piece :=
  fun hcolon => absurd (h.mem hcolon) (by decide)

theorem DottedQuad.colon_not_mem (h : DottedQuad text gs) : ':' ∉ text := by
  intro hcolon
  rcases h.mem hcolon with hmem | heq
  · exact absurd hmem (by decide)
  · exact absurd heq (by decide)

theorem intercalate_colon (piece next : List Char) (pieces : List (List Char)) :
    [':'].intercalate (piece :: next :: pieces) =
      piece ++ ':' :: [':'].intercalate (next :: pieces) := by
  rw [List.intercalate_cons_cons, List.append_assoc, List.singleton_append]

theorem row_intercalate (h : Forall₂ Group (piece :: pieces) gs) :
    Row ([':'].intercalate (piece :: pieces)) gs := by
  induction pieces generalizing piece gs with
  | nil =>
      obtain _ | ⟨hgroup, hnil⟩ := h
      obtain rfl := List.forall₂_nil_left_iff.mp hnil
      rw [List.intercalate_singleton]
      exact Row.single hgroup
  | cons next pieces ih =>
      obtain _ | ⟨hgroup, hrest⟩ := h
      rw [intercalate_colon]
      exact Row.cons hgroup (ih hrest)

/-- A row is cut at its colons into its groups. -/
theorem row_iff : Row text gs ↔ Forall₂ Group (text.splitOn ':') gs := by
  constructor
  · intro h
    induction h with
    | single hgroup =>
        rw [List.splitOn_eq_singleton hgroup.colon_not_mem]
        exact .cons hgroup .nil
    | cons hgroup _ ih =>
        rw [List.splitOn_append_cons_self_of_not_mem hgroup.colon_not_mem]
        exact .cons hgroup ih
  · intro h
    -- joining the pieces again gives back the text
    have htext : [':'].intercalate (text.splitOn ':') = text := List.intercalate_splitOn ':'
    obtain ⟨piece, pieces, hpieces⟩ := List.exists_cons_of_ne_nil (List.splitOn_ne_nil ':' text)
    rw [hpieces] at h htext
    exact htext ▸ row_intercalate h

theorem readGroups?_eq_some_iff :
    readGroups? pieces = some octets ↔ ∃ gs, Forall₂ Group pieces gs ∧ octets = octetsOf gs := by
  induction pieces generalizing octets with
  | nil =>
      constructor
      · intro h
        exact ⟨[], .nil, (Option.some.inj h).symm⟩
      · intro h
        obtain ⟨gs, hnil, rfl⟩ := h
        obtain rfl := List.forall₂_nil_left_iff.mp hnil
        rfl
  | cons piece pieces ih =>
      have hcons : readGroups? (piece :: pieces) =
          (readGroup? piece).bind fun group => (readGroups? pieces).map (group ++ ·) := by
        simp only [readGroups?, List.mapM_cons]
        cases readGroup? piece <;> cases pieces.mapM readGroup? <;> rfl
      simp only [hcons, Option.bind_eq_some_iff, Option.map_eq_some_iff, readGroup?_eq_some_iff, ih]
      constructor
      · intro h
        obtain ⟨_, ⟨group, hgroup, rfl⟩, _, ⟨gs, hgs, rfl⟩, rfl⟩ := h
        exact ⟨group :: gs, .cons hgroup hgs, rfl⟩
      · intro h
        obtain ⟨_ | ⟨group, gs⟩, h, rfl⟩ := h
        · cases h
        · obtain _ | ⟨hgroup, hgs⟩ := h
          exact ⟨_, ⟨group, hgroup, rfl⟩, _, ⟨gs, hgs, rfl⟩, rfl⟩

/-! ## Rows that may end in a quad -/

theorem readGroup?_of_dot (hdot : '.' ∈ text) : readGroup? text = none := by
  rw [Option.eq_none_iff_forall_ne_some]
  intro octets hoctets
  obtain ⟨group, hgroup, -⟩ := readGroup?_eq_some_iff.mp hoctets
  exact absurd (hgroup.mem hdot) (by decide)

theorem readGroup?_quad (h : DottedQuad text gs) : readGroup? text = none :=
  readGroup?_of_dot h.dot_mem

theorem readRow?_cons_cons_eq_some_iff {next : List Char} :
    readRow? (piece :: next :: pieces) = some octets ↔
      ∃ group, Group piece group ∧ ∃ rest, readRow? (next :: pieces) = some rest ∧
        octetsOf [group] ++ rest = octets := by
  have hcons : readRow? (piece :: next :: pieces) =
      (readGroup? piece).bind fun group => (readRow? (next :: pieces)).map (group ++ ·) := by
    rw [readRow?.eq_3 piece (next :: pieces) (by simp)]
    cases readGroup? piece <;> cases readRow? (next :: pieces) <;> rfl
  simp only [hcons, Option.bind_eq_some_iff, Option.map_eq_some_iff, readGroup?_eq_some_iff]
  constructor
  · intro h
    obtain ⟨_, ⟨group, hgroup, rfl⟩, hrest⟩ := h
    exact ⟨group, hgroup, hrest⟩
  · intro h
    obtain ⟨group, hgroup, hrest⟩ := h
    exact ⟨_, ⟨group, hgroup, rfl⟩, hrest⟩

theorem Row.readRow? (h : Row text gs) :
    V6.readRow? (text.splitOn ':') = some (octetsOf gs) := by
  induction h with
  | single hgroup =>
      rw [List.splitOn_eq_singleton hgroup.colon_not_mem, V6.readRow?,
        readGroup?_eq_some_iff.mpr ⟨_, hgroup, rfl⟩]
      rfl
  | @cons piece rest _ _ hgroup _ ih =>
      rw [List.splitOn_append_cons_self_of_not_mem hgroup.colon_not_mem]
      obtain ⟨next, pieces, hpieces⟩ := List.exists_cons_of_ne_nil (List.splitOn_ne_nil ':' rest)
      rw [hpieces] at ih ⊢
      exact readRow?_cons_cons_eq_some_iff.mpr ⟨_, hgroup, _, ih, rfl⟩

/-- What follows a row and a colon is read on its own. -/
theorem Row.readRow?_append (h : Row text gs)
    (hrest : V6.readRow? (rest.splitOn ':') = some octets) :
    V6.readRow? ((text ++ ':' :: rest).splitOn ':') = some (octetsOf gs ++ octets) := by
  induction h with
  | single hgroup =>
      rw [List.splitOn_append_cons_self_of_not_mem hgroup.colon_not_mem]
      obtain ⟨next, pieces, hpieces⟩ := List.exists_cons_of_ne_nil (List.splitOn_ne_nil ':' rest)
      rw [hpieces] at hrest ⊢
      exact readRow?_cons_cons_eq_some_iff.mpr ⟨_, hgroup, _, hrest, rfl⟩
  | @cons piece row _ _ hgroup _ ih =>
      rw [List.append_assoc, List.cons_append,
        List.splitOn_append_cons_self_of_not_mem hgroup.colon_not_mem]
      obtain ⟨next, pieces, hpieces⟩ :=
        List.exists_cons_of_ne_nil (List.splitOn_ne_nil ':' (row ++ ':' :: rest))
      rw [hpieces] at ih ⊢
      exact readRow?_cons_cons_eq_some_iff.mpr ⟨_, hgroup, _, ih, rfl⟩

theorem Tail.cons (hgroup : Group piece group) (h : Tail text gs) :
    Tail (piece ++ ':' :: text) (group :: gs) := by
  cases h with
  | row hrow => exact Tail.row (Row.cons hgroup hrow)
  | quad hquad => exact Tail.rowQuad (Row.single hgroup) hquad
  | @rowQuad row quad gs last hrow hquad =>
      have hwhole := Tail.rowQuad (Row.cons hgroup hrow) hquad
      rwa [List.append_assoc] at hwhole

theorem tail_of_readRow? (h : readRow? pieces = some octets) :
    ∃ gs, Tail ([':'].intercalate pieces) gs ∧ octets = octetsOf gs := by
  induction pieces generalizing octets with
  | nil => exact absurd h (by simp [readRow?])
  | cons piece pieces ih =>
      cases pieces with
      | nil =>
          rw [readRow?, Option.or_eq_some_iff] at h
          rw [List.intercalate_singleton]
          rcases h with hread | ⟨-, hread⟩
          · obtain ⟨group, hgroup, rfl⟩ := readGroup?_eq_some_iff.mp hread
            exact ⟨[group], Tail.row (Row.single hgroup), rfl⟩
          · obtain ⟨gs, hquad, rfl⟩ := readQuad?_eq_some_iff.mp hread
            exact ⟨gs, Tail.quad hquad, rfl⟩
      | cons next pieces =>
          obtain ⟨group, hgroup, rest, hrest, rfl⟩ := readRow?_cons_cons_eq_some_iff.mp h
          obtain ⟨gs, htail, rfl⟩ := ih hrest
          rw [intercalate_colon]
          exact ⟨group :: gs, Tail.cons hgroup htail, rfl⟩

theorem readRow?_eq_some_iff :
    readRow? (text.splitOn ':') = some octets ↔ ∃ gs, Tail text gs ∧ octets = octetsOf gs := by
  constructor
  · intro h
    have htail := tail_of_readRow? h
    rwa [List.intercalate_splitOn] at htail
  · intro h
    obtain ⟨gs, h, rfl⟩ := h
    -- a quad has no colon, so it is the last piece whole
    have hquads : ∀ {quad : List Char} {gs : List Nat}, DottedQuad quad gs →
        readRow? (quad.splitOn ':') = some (octetsOf gs) := by
      intro quad gs hquad
      rw [List.splitOn_eq_singleton hquad.colon_not_mem, readRow?, readGroup?_quad hquad,
        readQuad?_eq_some_iff.mpr ⟨gs, hquad, rfl⟩]
      rfl
    cases h with
    | row hrow => exact hrow.readRow?
    | quad hquad => exact hquads hquad
    | rowQuad hrow hquad =>
        rw [octetsOf_append]
        exact hrow.readRow?_append (hquads hquad)

/-! ## Gaps -/

/-- A piece without a colon neither is nor hides a part of a gap. -/
theorem splitGap_append (h : ':' ∉ piece) (rest : List Char) :
    splitGap (piece ++ rest) =
      (splitGap rest).map fun sides => (piece ++ sides.1, sides.2) := by
  induction piece with
  | nil => cases hrest : splitGap rest <;> simp [hrest]
  | cons c piece ih =>
      have hc : c ≠ ':' := fun heq => h (heq ▸ List.mem_cons_self)
      rw [List.cons_append, splitGap.eq_2 c (piece ++ rest) fun _ heq _ => hc heq,
        ih fun hmem => h (List.mem_cons_of_mem c hmem), Option.map_map]
      rfl

theorem splitGap_colon (h : text.head? ≠ some ':') :
    splitGap (':' :: text) = (splitGap text).map fun sides => (':' :: sides.1, sides.2) := by
  cases text with
  | nil => rfl
  | cons c rest =>
      have hc : c ≠ ':' := fun heq => h (by rw [heq]; rfl)
      rw [splitGap.eq_2 ':' (c :: rest) fun _ _ heq => hc (List.cons.inj heq).1]

theorem Group.head?_ne_colon (h : Group piece group) (rest : List Char) :
    (piece ++ rest).head? ≠ some ':' := by
  obtain ⟨c, piece, rfl⟩ := List.exists_cons_of_ne_nil h.ne_nil
  intro hhead
  exact h.colon_not_mem (by simp_all)

/-- A gap in a text that starts with a row comes after the row. -/
theorem Row.splitGap_append (h : Row text gs) (rest : List Char) :
    splitGap (text ++ rest) = (splitGap rest).map fun sides => (text ++ sides.1, sides.2) := by
  induction h with
  | single hgroup => exact Grammar.splitGap_append hgroup.colon_not_mem rest
  | @cons piece row _ _ hgroup hrow ih =>
      -- the colon after a group is no part of a gap: a row begins with a digit
      have hhead : (row ++ rest).head? ≠ some ':' := by
        cases hrow with
        | single hnext => exact hnext.head?_ne_colon rest
        | cons hnext =>
            rw [List.append_assoc]
            exact hnext.head?_ne_colon _
      rw [List.append_assoc, Grammar.splitGap_append hgroup.colon_not_mem, List.cons_append,
        splitGap_colon hhead, ih, Option.map_map, Option.map_map]
      congr 1
      funext sides
      simp

theorem Row.splitGap_gap (h : Row text gs) (rest : List Char) :
    splitGap (text ++ ':' :: ':' :: rest) = some (text, rest) := by
  rw [h.splitGap_append]
  simp [splitGap]

theorem DottedQuad.head?_ne_colon (h : DottedQuad text gs) : text.head? ≠ some ':' := by
  intro hhead
  exact h.colon_not_mem (List.mem_of_head? hhead)

theorem DottedQuad.splitGap (h : DottedQuad text gs) : V6.splitGap text = none := by
  have hnone := Grammar.splitGap_append h.colon_not_mem []
  rwa [List.append_nil] at hnone

theorem Tail.splitGap (h : Tail text gs) : V6.splitGap text = none := by
  cases h with
  | row hrow =>
      have hnone := hrow.splitGap_append []
      rwa [List.append_nil] at hnone
  | quad hquad => exact hquad.splitGap
  | rowQuad hrow hquad =>
      rw [hrow.splitGap_append, splitGap_colon hquad.head?_ne_colon, hquad.splitGap]
      rfl

theorem fill?_eq_some_iff {x : Octets 16} :
    fill? (octetsOf before) (octetsOf after) = some x ↔
      before.length + after.length < 8 ∧ x.toList =
        octetsOf (before ++ List.replicate (8 - (before.length + after.length)) 0 ++ after) := by
  have hzeros : 16 - (2 * before.length + 2 * after.length) =
      2 * (8 - (before.length + after.length)) := by omega
  rw [fill?, Option.ite_none_right_eq_some, Octets.ofList?_eq_some_iff]
  simp only [octetsOf_append, octetsOf_replicate, length_octetsOf, hzeros]
  refine and_congr (by omega) eq_comm

theorem readSide?_eq_some_iff {Pieces : List Char → List Nat → Prop}
    {row? : List (List Char) → Option (List UInt8)} (hne : ∀ gs, ¬ Pieces [] gs)
    (hrow : ∀ {text octets}, row? (text.splitOn ':') = some octets ↔
      ∃ gs, Pieces text gs ∧ octets = octetsOf gs) :
    readSide? row? text = some octets ↔ ∃ gs, Side Pieces text gs ∧ octets = octetsOf gs := by
  by_cases htext : text = []
  · subst htext
    rw [readSide?, if_pos rfl]
    constructor
    · intro h
      exact ⟨[], Or.inl ⟨rfl, rfl⟩, (Option.some.inj h).symm⟩
    · intro h
      obtain ⟨gs, ⟨-, rfl⟩ | hpieces, rfl⟩ := h
      · rfl
      · exact absurd hpieces (hne gs)
  · rw [readSide?, if_neg htext, hrow]
    simp only [Side, htext, false_and, false_or]

theorem Row.ne_nil (h : Row text gs) : text ≠ [] := by
  cases h with
  | single hgroup => exact hgroup.ne_nil
  | cons => simp

theorem Tail.ne_nil (h : Tail text gs) : text ≠ [] := by
  cases h with
  | row hrow => exact hrow.ne_nil
  | quad hquad =>
      obtain ⟨-, -, -, -⟩ := hquad
      simp
  | rowQuad => simp

theorem readSide?_row : readSide? readGroups? text = some octets ↔
    ∃ gs, Side Row text gs ∧ octets = octetsOf gs :=
  readSide?_eq_some_iff (fun _ h => h.ne_nil rfl) <| by
    intro text octets
    simp only [readGroups?_eq_some_iff, row_iff]

theorem readSide?_tail : readSide? readRow? text = some octets ↔
    ∃ gs, Side Tail text gs ∧ octets = octetsOf gs :=
  readSide?_eq_some_iff (fun _ h => h.ne_nil rfl) readRow?_eq_some_iff

/-! ## Literals -/

/-- The reader of literals succeeds just on literals, with the octets that they denote. -/
theorem readLiteral?_eq_some_iff {x : Octets 16} :
    readLiteral? text = some x ↔ ∃ gs, Literal text gs ∧ x.toList = octetsOf gs := by
  unfold readLiteral?
  constructor
  · intro h
    split at h
    · -- no gap: the whole text is one tail, and it has eight groups
      obtain ⟨octets, hread, hx⟩ := Option.bind_eq_some_iff.mp h
      obtain ⟨gs, htail, rfl⟩ := readRow?_eq_some_iff.mp hread
      rw [Octets.ofList?_eq_some_iff] at hx
      have hlength := congrArg List.length hx
      rw [length_octetsOf, Vector.length_toList] at hlength
      exact ⟨gs, Literal.full htail (by omega), hx.symm⟩
    · -- a gap: it is put back between the two sides
      rename_i left right hgap
      split at h
      · rename_i before after hbefore hafter
        obtain ⟨bs, hleft, rfl⟩ := readSide?_row.mp hbefore
        obtain ⟨as, hright, rfl⟩ := readSide?_tail.mp hafter
        obtain ⟨hlength, hx⟩ := fill?_eq_some_iff.mp h
        rw [eq_append_of_splitGap hgap]
        exact ⟨_, Literal.gap hleft hright hlength, hx⟩
      · exact absurd h (by simp)
  · intro h
    obtain ⟨gs, h, hx⟩ := h
    cases h with
    | full htail =>
        rw [htail.splitGap]
        have hread := readRow?_eq_some_iff.mpr ⟨gs, htail, rfl⟩
        simp only [hread, ← hx, Option.bind_some, Octets.ofList?_toList]
    | @gap left right before after hleft hright hlength =>
        have hgap : splitGap (left ++ ':' :: ':' :: right) = some (left, right) := by
          rcases hleft with ⟨rfl, -⟩ | hrow
          · rfl
          · exact hrow.splitGap_gap right
        rw [hgap]
        simp only [readSide?_row.mpr ⟨before, hleft, rfl⟩, readSide?_tail.mpr ⟨after, hright, rfl⟩]
        exact fill?_eq_some_iff.mpr ⟨hlength, hx⟩

/-- There is no group left for the gap to stand for. -/
example : readLiteral? "1:2:3:4:5:6:7:8::".toList = none := by
  decide +kernel

/-- A literal denotes the groups of what it is read as. -/
theorem literal_groups_iff {x : Octets 16} :
    Literal text (groups x.toList) ↔ readLiteral? text = some x := by
  have hx : octetsOf (groups x.toList) = x.toList :=
    octetsOf_groups (by rw [Vector.length_toList]; decide)
  rw [readLiteral?_eq_some_iff]
  constructor
  · intro h
    exact ⟨_, h, hx.symm⟩
  · rintro ⟨gs, h, heq⟩
    rwa [heq, groups_octetsOf h.lt]

/-! ## Hosts -/

theorem readZone?_eq_some_iff {zone : UInt32} (hpercent : ∀ c ∈ text.head?, c = '%') :
    readZone? text = some zone ↔ ∃ number, Zone text number ∧ zone = UInt32.ofNat number := by
  constructor
  · intro h
    cases text with
    | nil => exact ⟨0, Zone.none, (Option.some.inj h).symm⟩
    | cons c digits =>
        obtain rfl := hpercent c rfl
        rw [readZone?] at h
        split at h
        · rename_i number hnumber
          obtain ⟨hfits, hzone⟩ := Option.ite_none_right_eq_some.mp h
          have hdigits := decimal_read?_eq_some_iff.mp hnumber
          exact ⟨number, Zone.number hdigits (Nat.le_of_lt_succ hfits),
            (Option.some.inj hzone).symm⟩
        · exact absurd h (by simp)
  · intro h
    obtain ⟨number, h, rfl⟩ := h
    cases h with
    | none => rfl
    | number hnumber hfits =>
        simp only [readZone?, decimal_read?_eq_some_iff.mpr hnumber]
        exact if_pos (Nat.lt_succ_of_le hfits)

theorem Zone.head?_eq_percent {number : Nat} (h : Zone text number) :
    ∀ c ∈ text.head?, c = '%' := by
  cases h with
  | none => simp
  | number => simp

/-- Hosts are read as literals with their zones. -/
theorem resolve?_eq_some_iff {e : Endpoint} :
    resolve? text = some e ↔ ∃ literal zoneText gs number, text = literal ++ zoneText ∧
      Literal literal gs ∧ Zone zoneText number ∧ e.octets.toList = octetsOf gs ∧
      e = ⟨e.octets, UInt32.ofNat number, 0, 0⟩ := by
  unfold resolve?
  constructor
  · intro h
    split at h
    · rename_i octets zone hreadLiteral hreadZone
      obtain ⟨gs, hliteral, hoctets⟩ := readLiteral?_eq_some_iff.mp hreadLiteral
      -- the zone starts where the literal ends, at a percent sign
      have hpercent : ∀ c ∈ (text.dropWhile (· != '%')).head?, c = '%' := by
        intro c hc
        have hnot := List.head?_dropWhile_not (· != '%') text
        rw [Option.mem_def.mp hc] at hnot
        simpa using hnot
      obtain ⟨number, hzone, rfl⟩ := (readZone?_eq_some_iff hpercent).mp hreadZone
      obtain rfl := Option.some.inj h
      exact ⟨_, _, gs, number, List.takeWhile_append_dropWhile.symm, hliteral, hzone, hoctets, rfl⟩
    · exact absurd h (by simp)
  · intro h
    obtain ⟨literal, zoneText, gs, number, rfl, hliteral, hzone, hoctets, hendpoint⟩ := h
    have hpercent : ∀ c ∈ literal, (c != '%') = true := by
      intro c hc
      rw [bne_iff_ne]
      rintro rfl
      exact hliteral.percent_not_mem hc
    have htake : zoneText.takeWhile (· != '%') = [] := by cases hzone <;> rfl
    have hdrop : zoneText.dropWhile (· != '%') = zoneText := by cases hzone <;> rfl
    rw [List.takeWhile_append_of_pos hpercent, List.dropWhile_append_of_pos hpercent, htake, hdrop,
      List.append_nil, readLiteral?_eq_some_iff.mpr ⟨gs, hliteral, hoctets⟩,
      (readZone?_eq_some_iff hzone.head?_eq_percent).mpr ⟨number, hzone, rfl⟩, hendpoint]

/-- The address of a host has the low sixteen bits of the number. -/
theorem ofHost?_eq_some_iff {a : V6} :
    ofHost? text = some a ↔ ∃ literal zoneText gs number, text = literal ++ zoneText ∧
      Literal literal gs ∧ Zone zoneText number ∧ a.octets.toList = octetsOf gs ∧
      a.zone = UInt16.ofNat number := by
  rw [ofHost?, Option.map_eq_some_iff]
  constructor
  · rintro ⟨e, hresolve, rfl⟩
    obtain ⟨literal, zoneText, gs, number, htext, hliteral, hzone, hoctets, hendpoint⟩ :=
      resolve?_eq_some_iff.mp hresolve
    refine ⟨literal, zoneText, gs, number, htext, hliteral, hzone, hoctets, ?_⟩
    rw [hendpoint]
    exact UInt32.toUInt16_ofNat
  · rintro ⟨literal, zoneText, gs, number, htext, hliteral, hzone, hoctets, hnumber⟩
    refine ⟨⟨a.octets, UInt32.ofNat number, 0, 0⟩, resolve?_eq_some_iff.mpr
      ⟨literal, zoneText, gs, number, htext, hliteral, hzone, hoctets, rfl⟩, ?_⟩
    exact congrArg (V6.mk a.octets) (UInt32.toUInt16_ofNat.trans hnumber.symm)

end InetAddress.V6.Grammar
