import InetAddress.Proofs.Literal.Reading
import InetAddress.V4.Parse

/-!
# Which texts are IPv6 addresses

`V6.parse` accepts the texts of the grammar and no others, and what it returns is
what the grammar says the text denotes: the octets of the groups, and the low
sixteen bits of the zone.

The two guards of the reader cost nothing.  A text of fewer than two bytes has
fewer than two characters, and a literal has two at least; a NUL is no character
of a host.  What an accepted text may look like then follows from the alphabet of
hosts (`mem_host`): brackets and spaces are not in it.
-/

namespace InetAddress.V6.Grammar

variable {text host literal zoneText : List Char} {gs : List Nat} {zone : Nat} {c : Char}

/-! ## Brackets -/

theorem unbracket_of_host (h : Host text host) : unbracket text = host := by
  rcases h with rfl | ⟨rfl, hbare⟩
  · exact unbracket_bracketed host
  · fun_cases unbracket host with
    | case1 rest hlast =>
        obtain ⟨inner, rfl⟩ := List.getLast?_eq_some_iff.mp hlast
        exact absurd rfl (hbare inner)
    | case2 => rfl
    | case3 => rfl

theorem host_unbracket (text : List Char) : Host text (unbracket text) := by
  by_cases hpair : ∃ inner, text = '[' :: (inner ++ [']'])
  · obtain ⟨inner, rfl⟩ := hpair
    rw [unbracket_bracketed]
    exact Or.inl rfl
  · have hbare : ∀ inner, text ≠ '[' :: (inner ++ [']']) := fun inner heq => hpair ⟨inner, heq⟩
    have hself := unbracket_of_host (Or.inr ⟨rfl, hbare⟩)
    rw [hself]
    exact Or.inr ⟨rfl, hbare⟩

/-- Brackets apart, a host has the characters of its text. -/
theorem Host.mem_iff (h : Host text host) (hopen : c ≠ '[') (hclose : c ≠ ']') :
    c ∈ host ↔ c ∈ text := by
  rcases h with rfl | ⟨rfl, -⟩
  · simp [hopen, hclose]
  · rfl

/-! ## The alphabet of hosts -/

theorem Zone.mem (h : Zone zoneText zone) (hc : c ∈ zoneText) : c ∈ hexDigits ∨ c = '%' := by
  cases h with
  | none => exact absurd hc List.not_mem_nil
  | number hnumber =>
      rcases List.mem_cons.mp hc with rfl | hc
      · exact Or.inr rfl
      · exact Or.inl (mem_hexDigits_of_isDigit (hnumber.2.1 c hc))

/-- The characters of hosts: those of literals, and the percent sign. -/
def hostChars : List Char :=
  hexDigits ++ [':', '.', '%']

theorem mem_host (hliteral : Literal literal gs) (hzone : Zone zoneText zone)
    (hc : c ∈ literal ++ zoneText) : c ∈ hostChars := by
  unfold hostChars
  rw [List.mem_append]
  rcases List.mem_append.mp hc with hc | hc
  · rcases hliteral.mem hc with hdigit | rfl | rfl
    · exact Or.inl hdigit
    · exact Or.inr (by simp)
    · exact Or.inr (by simp)
  · rcases hzone.mem hc with hdigit | rfl
    · exact Or.inl hdigit
    · exact Or.inr (by simp)

theorem Zone.count_percent (h : Zone zoneText zone) : zoneText.count '%' ≤ 1 := by
  cases h with
  | none => exact Nat.zero_le _
  | @number digits _ hnumber =>
      have hnone : '%' ∉ digits := fun hmem => absurd (hnumber.2.1 _ hmem) (by decide)
      rw [List.count_cons_self, List.count_eq_zero_of_not_mem hnone]

theorem Literal.colon_mem (h : Literal literal gs) : ':' ∈ literal := by
  cases h with
  | full htail hlength =>
      cases htail with
      | row hrow =>
          cases hrow with
          | single => cases hlength
          | cons => simp
      | quad hquad =>
          obtain ⟨-, -, -, -⟩ := hquad
          cases hlength
      | rowQuad => simp
  | gap => simp

theorem utf8ByteSize_ofList_cons (c : Char) (cs : List Char) :
    (String.ofList (c :: cs)).utf8ByteSize = c.utf8Size + (String.ofList cs).utf8ByteSize := by
  have hcons : String.ofList (c :: cs) = String.singleton c ++ String.ofList cs := by
    rw [String.singleton_eq_ofList, ← String.ofList_append, List.singleton_append]
  rw [hcons, String.utf8ByteSize_append, String.utf8ByteSize_singleton]

theorem length_toList_le_utf8ByteSize (text : String) :
    text.toList.length ≤ text.utf8ByteSize := by
  -- by induction on the characters, each of which takes a byte at least
  have hall : ∀ cs : List Char, cs.length ≤ (String.ofList cs).utf8ByteSize := by
    intro cs
    induction cs with
    | nil => exact Nat.zero_le _
    | cons c cs ih =>
        have hpos := c.utf8Size_pos
        rw [utf8ByteSize_ofList_cons, List.length_cons]
        omega
  simpa using hall text.toList

/-- Hosts are written in characters of one byte. -/
theorem utf8ByteSize_ofList {cs : List Char} (h : ∀ c ∈ cs, c ∈ hostChars) :
    (String.ofList cs).utf8ByteSize = cs.length := by
  induction cs with
  | nil => rfl
  | cons c cs ih =>
      have hall : hostChars.all (·.utf8Size == 1) := by decide
      have hone : c.utf8Size = 1 :=
        beq_iff_eq.mp (List.all_eq_true.mp hall c (h c List.mem_cons_self))
      rw [utf8ByteSize_ofList_cons, hone,
        ih fun c hc => h c (List.mem_cons_of_mem _ hc), List.length_cons, Nat.add_comm]

/-! ## Texts -/

theorem parse_eq_ok_iff_ofHost? {text : String} {a : V6} (hsize : 2 ≤ text.utf8ByteSize)
    (hnul : '\x00' ∉ unbracket text.toList) :
    parse text = .ok a ↔ ofHost? (unbracket text.toList) = some a := by
  rw [parse, read, if_neg (Nat.not_lt.mpr hsize)]
  simp only [if_neg hnul]
  cases ofHost? (unbracket text.toList) with
  | none => simp
  | some b => simp

/-- An address has passed both guards. -/
theorem guards_of_parse {text : String} {a : V6} (h : parse text = .ok a) :
    2 ≤ text.utf8ByteSize ∧ '\x00' ∉ unbracket text.toList := by
  rw [parse, read] at h
  have hsize : ¬ text.utf8ByteSize < 2 := by
    intro hshort
    rw [if_pos hshort] at h
    cases h
  refine ⟨Nat.le_of_not_lt hsize, fun hnul => ?_⟩
  rw [if_neg hsize] at h
  simp only [if_pos hnul] at h
  cases h

/-- **What `parse` returns is what the grammar says the text denotes.** -/
theorem parse_eq_ok_iff_written {text : String} {a : V6} :
    parse text = .ok a ↔
      ∃ zone, Written text (groups a.octets.toList) zone ∧ a.zone = UInt16.ofNat zone := by
  constructor
  · intro h
    obtain ⟨hsize, hnul⟩ := guards_of_parse h
    rw [parse_eq_ok_iff_ofHost? hsize hnul, ofHost?_eq_some_iff] at h
    obtain ⟨literal, zoneText, gs, zone, hhost, hliteral, hzone, hoctets, hnumber⟩ := h
    rw [hoctets, groups_octetsOf hliteral.lt]
    exact ⟨zone, ⟨literal, zoneText, hhost ▸ host_unbracket _, hliteral, hzone⟩, hnumber⟩
  · intro h
    obtain ⟨zone, ⟨literal, zoneText, hhost, hliteral, hzone⟩, hnumber⟩ := h
    have hoctets : octetsOf (groups a.octets.toList) = a.octets.toList :=
      octetsOf_groups (by rw [Vector.length_toList]; decide)
    have hunbracket := unbracket_of_host hhost
    -- a text of the grammar passes both guards
    have hsize : 2 ≤ text.utf8ByteSize := by
      have hliteralLength := hliteral.two_le_length
      have hlength : (literal ++ zoneText).length ≤ text.toList.length := by
        rcases hhost with heq | ⟨heq, -⟩
        · simp only [heq, List.length_cons, List.length_append]
          omega
        · rw [heq]
      have hbytes := length_toList_le_utf8ByteSize text
      rw [List.length_append] at hlength
      omega
    have hnul : '\x00' ∉ unbracket text.toList := by
      rw [hunbracket]
      intro hmem
      exact absurd (mem_host hliteral hzone hmem) (by decide)
    rw [parse_eq_ok_iff_ofHost? hsize hnul, ofHost?_eq_some_iff, hunbracket]
    exact ⟨literal, zoneText, _, zone, rfl, hliteral, hzone, hoctets.symm, hnumber⟩

theorem exists_parse_iff_written {text : String} :
    (∃ a, parse text = .ok a) ↔ ∃ gs zone, Written text gs zone := by
  constructor
  · intro h
    obtain ⟨a, ha⟩ := h
    obtain ⟨zone, hwritten, -⟩ := parse_eq_ok_iff_written.mp ha
    exact ⟨_, zone, hwritten⟩
  · intro h
    obtain ⟨gs, zone, literal, zoneText, hhost, hliteral, hzone⟩ := h
    have hwritten : Written text gs zone := ⟨literal, zoneText, hhost, hliteral, hzone⟩
    have hlength : (octetsOf gs).length = 16 := by rw [length_octetsOf, hliteral.length_eq]
    have hgroups : groups (octetsOf gs) = gs := groups_octetsOf hliteral.lt
    exact ⟨⟨⟨(octetsOf gs).toArray, hlength⟩, UInt16.ofNat zone⟩,
      parse_eq_ok_iff_written.mpr ⟨zone, hgroups.symm ▸ hwritten, rfl⟩⟩

theorem accepts_iff_exists_parse {text : String} : accepts text ↔ ∃ a, parse text = .ok a := by
  rw [accepts]
  cases parse text with
  | ok a => simp [Except.isOk, Except.toBool]
  | error e => simp [Except.isOk, Except.toBool]

theorem accepts_iff_written {text : String} : accepts text ↔ ∃ gs zone, Written text gs zone :=
  accepts_iff_exists_parse.trans exists_parse_iff_written

theorem accepts_of_parse {text : String} {a : V6} (h : parse text = .ok a) : accepts text :=
  accepts_iff_exists_parse.mpr ⟨a, h⟩

/-- There are two causes for which a text is turned down, and the first guard tells which. -/
theorem error_of_parse {text : String} {e : Error} (h : parse text = .error e) :
    (text.utf8ByteSize < 2 ∧ e = .tooShort text) ∨
      (2 ≤ text.utf8ByteSize ∧ e = .notV6 (String.ofList (unbracket text.toList))) := by
  rw [parse, read] at h
  split at h
  · next hshort =>
      cases h
      exact .inl ⟨hshort, rfl⟩
  · next hlong =>
      refine .inr ⟨Nat.le_of_not_lt hlong, ?_⟩
      dsimp only at h
      split at h
      · cases h
        rfl
      · split at h <;> cases h
        rfl

/-- There is one kind of failure. -/
theorem kind_of_parse_error {text : String} {e : Error} (h : parse text = .error e) :
    e.kind = .addressFormat := by
  obtain ⟨-, rfl⟩ | ⟨-, rfl⟩ := error_of_parse h
  · rfl
  · rfl

/-! ## Texts that are turned down -/

theorem exists_host_of_accepts {text : String} (h : accepts text) (hhost : Host text.toList host) :
    ∃ literal zoneText gs zone, host = literal ++ zoneText ∧ Literal literal gs ∧
      Zone zoneText zone := by
  obtain ⟨gs, zone, literal, zoneText, hwritten, hliteral, hzone⟩ := accepts_iff_written.mp h
  refine ⟨literal, zoneText, gs, zone, ?_, hliteral, hzone⟩
  rw [← unbracket_of_host hhost, unbracket_of_host hwritten]

theorem mem_host_of_accepts {text : String} (h : accepts text) (hhost : Host text.toList host)
    (hc : c ∈ host) : c ∈ hostChars := by
  obtain ⟨literal, zoneText, gs, zone, rfl, hliteral, hzone⟩ := exists_host_of_accepts h hhost
  exact mem_host hliteral hzone hc

/-- A character that hosts never have, brackets apart, is nowhere in an accepted text. -/
theorem not_mem_of_accepts {text : String} (h : accepts text)
    (hnot : c ∉ '[' :: ']' :: hostChars) : c ∉ text.toList := by
  rw [List.mem_cons, List.mem_cons, not_or, not_or] at hnot
  obtain ⟨hopen, hclose, hchar⟩ := hnot
  intro hc
  have hhost := host_unbracket text.toList
  exact hchar (mem_host_of_accepts h hhost ((hhost.mem_iff hopen hclose).mpr hc))

theorem not_accepts_of_bracket_mem {text : String} (hhost : Host text.toList host)
    (hc : '[' ∈ host ∨ ']' ∈ host) : ¬ accepts text := by
  intro h
  rcases hc with hopen | hclose
  · exact absurd (mem_host_of_accepts h hhost hopen) (by decide)
  · exact absurd (mem_host_of_accepts h hhost hclose) (by decide)

/-- A pair of brackets has to be around the whole of the text. -/
theorem not_accepts_of_open {text : String} {inner : List Char} (htext : text.toList = '[' :: inner)
    (hclose : ∀ front, inner = front ++ [']'] → '[' ∈ front ∨ ']' ∈ front) : ¬ accepts text := by
  have hhost := host_unbracket text.toList
  refine not_accepts_of_bracket_mem hhost ?_
  rcases hhost with heq | ⟨heq, -⟩
  · exact hclose _ (List.cons.inj (htext.symm.trans heq)).2
  · rw [heq, htext]
    exact Or.inl List.mem_cons_self

theorem count_percent_of_accepts {text : String} (h : accepts text) :
    text.toList.count '%' ≤ 1 := by
  have hhost := host_unbracket text.toList
  obtain ⟨literal, zoneText, gs, zone, heq, hliteral, hzone⟩ := exists_host_of_accepts h hhost
  have hnone : literal.count '%' = 0 :=
    List.count_eq_zero_of_not_mem hliteral.percent_not_mem
  have hcount : (unbracket text.toList).count '%' ≤ 1 := by
    rw [heq, List.count_append, hnone, Nat.zero_add]
    exact hzone.count_percent
  rcases hhost with htext | ⟨htext, -⟩
  · rw [htext]
    simpa using hcount
  · rwa [htext] at hcount

theorem colon_mem_of_accepts {text : String} (h : accepts text) : ':' ∈ text.toList := by
  have hhost := host_unbracket text.toList
  obtain ⟨literal, zoneText, gs, zone, heq, hliteral, -⟩ := exists_host_of_accepts h hhost
  rw [← hhost.mem_iff (by decide) (by decide), heq]
  exact List.mem_append_left _ hliteral.colon_mem

theorem mem_of_v4 {text : String} {v : V4} (h : V4.parse text = .ok v) (hc : c ∈ text.toList) :
    c = '.' ∨ c ∈ hexDigits := by
  obtain ⟨x, hx, -⟩ := Option.map_eq_some_iff.mp (V4.parse_eq_ok_iff.mp h)
  obtain ⟨octets, hoctets, -⟩ := Option.bind_eq_some_iff.mp hx
  have htext : ['.'].intercalate (text.toList.splitOn '.') = text.toList :=
    List.intercalate_splitOn '.'
  rw [← htext] at hc
  obtain heq | ⟨part, hpart, hc⟩ := eq_or_mem_of_mem_intercalate hc
  · exact Or.inl heq
  · obtain ⟨octet, hoctet⟩ := exists_of_mem_of_mapM hoctets hpart
    exact Or.inr (mem_hexDigits_of_isDigit ((readOctet?_eq_some_iff.mp hoctet).1.2.1 c hc))

theorem not_accepts_unclosed {inner : String} (h : inner.toList.getLast? ≠ some ']') :
    ¬ accepts ("[" ++ inner) := by
  have htext : ("[" ++ inner).toList = '[' :: inner.toList := by simp [String.toList_append]
  refine not_accepts_of_open htext fun front heq => ?_
  exact absurd (by rw [heq, List.getLast?_concat]) h

theorem not_accepts_nested (inner : String) : ¬ accepts ("[[" ++ inner ++ "]]") := by
  have htext : ("[[" ++ inner ++ "]]").toList = '[' :: ('[' :: (inner.toList ++ [']', ']'])) := by
    simp [String.toList_append]
  refine not_accepts_of_open htext fun front heq => ?_
  cases front with
  | nil => cases heq
  | cons c front =>
      rw [← (List.cons.inj heq).1]
      exact Or.inl List.mem_cons_self

theorem not_accepts_zone_outside (inner zone : String) :
    ¬ accepts ("[" ++ inner ++ "]%" ++ zone) := by
  have htext : ("[" ++ inner ++ "]%" ++ zone).toList =
      '[' :: (inner.toList ++ ']' :: '%' :: zone.toList) := by
    simp [String.toList_append]
  refine not_accepts_of_open htext fun front heq => ?_
  have hfront := congrArg List.dropLast heq
  rw [List.dropLast_concat, List.dropLast_append_of_ne_nil (by simp),
    List.dropLast_cons_of_ne_nil (by simp)] at hfront
  rw [← hfront]
  exact Or.inr (by simp)

/-- **The reader accepts the texts of the grammar and no others**, as the address with the groups
of the literal and the low sixteen bits of the zone.  All failures are of one kind.  The last
parts name the texts that look like addresses and are none: characters that no host has, a
second percent sign, brackets that are no pair around the whole, and dotted quads without a
colon. -/
theorem parse_written :
    (∀ text a, parse text = .ok a ↔
      ∃ zone, Written text (groups a.octets.toList) zone ∧ a.zone = UInt16.ofNat zone) ∧
    (∀ text, (∃ a, parse text = .ok a) ↔ ∃ gs zone, Written text gs zone) ∧
    (∀ text, accepts text ↔ ∃ gs zone, Written text gs zone) ∧
    (∀ text e, parse text = .error e → e.kind = .addressFormat) ∧
    (∀ text, accepts text → '\x00' ∉ text.toList ∧ ' ' ∉ text.toList ∧
      text.toList.count '%' ≤ 1 ∧ ':' ∈ text.toList) ∧
    (∀ text host, Host text.toList host → '[' ∈ host ∨ ']' ∈ host → ¬ accepts text) ∧
    (∀ inner : String, inner.toList.getLast? ≠ some ']' → ¬ accepts ("[" ++ inner)) ∧
    (∀ inner : String, ¬ accepts ("[[" ++ inner ++ "]]")) ∧
    (∀ inner zone : String, ¬ accepts ("[" ++ inner ++ "]%" ++ zone)) ∧
    ∀ text v, V4.parse text = .ok v → ¬ accepts text := by
  refine ⟨fun _ _ => parse_eq_ok_iff_written, fun _ => exists_parse_iff_written,
    fun _ => accepts_iff_written, fun _ _ => kind_of_parse_error, fun text h => ?_,
    fun _ _ => not_accepts_of_bracket_mem, fun _ => not_accepts_unclosed, not_accepts_nested,
    not_accepts_zone_outside, fun text v hv h => ?_⟩
  · exact ⟨not_mem_of_accepts h (by decide), not_mem_of_accepts h (by decide),
      count_percent_of_accepts h, colon_mem_of_accepts h⟩
  · rcases mem_of_v4 hv (colon_mem_of_accepts h) with hdot | hdigit
    · exact absurd hdot (by decide)
    · exact absurd hdigit (by decide)

end InetAddress.V6.Grammar
