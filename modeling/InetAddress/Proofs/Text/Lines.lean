import InetAddress.Proofs.Languages

/-!
# Texts on one line

A report is made of lines, and so nothing that goes into a line may break it.  There are
three reasons why nothing does:

* addresses and networks that can be read are spelled with few characters, and a line
  break is not among them;
* numbers are written with digits;
* any text at all may stand between quotation marks, and the escape rule writes a line
  break in it as two other characters (`newline_not_mem_escape`, one lemma for each of the
  two rules).
-/

namespace InetAddress

/-- A text without line breaks. -/
def OneLine (text : String) : Prop :=
  '\n' ∉ text.toList

instance (text : String) : Decidable (OneLine text) :=
  inferInstanceAs (Decidable ('\n' ∉ text.toList))

theorem OneLine.append {s t : String} (hs : OneLine s) (ht : OneLine t) : OneLine (s ++ t) := by
  rw [OneLine, String.toList_append, List.mem_append, not_or]
  exact ⟨hs, ht⟩

theorem oneLine_ofList {chars : List Char} (h : '\n' ∉ chars) : OneLine (String.ofList chars) := by
  rwa [OneLine, String.toList_ofList]

/-! ## Texts that can be read -/

section Read

variable {text : String}

theorem V4.oneLine_of_parse {v : V4} (h : V4.parse text = .ok v) : OneLine text :=
  not_mem_of_parse h (by decide)

theorem V6.oneLine_of_parse {a : V6} (h : V6.parse text = .ok a) : OneLine text :=
  Grammar.not_mem_of_accepts (Grammar.accepts_of_parse h) (by decide)

theorem Address.oneLine_of_parse {a : Address} (h : Address.parse text = .ok a) :
    OneLine text :=
  not_mem_of_parse h (by decide)

theorem Network.oneLine_of_parse {network : Network} (h : Network.parse text = .ok network) :
    OneLine text := by
  cases parse_eq_iff_reads.mp h with
  | network hcut hhost hasks _ _ =>
      have hhostLine := Address.oneLine_of_parse hhost
      cases hcut with
      | host => exact hhostLine
      | slash =>
          obtain - | ⟨hnumber⟩ := hasks
          refine (hhostLine.append (by decide)).append ?_
          intro hbreak
          exact absurd (hnumber.2.1 _ hbreak) (by decide)

end Read

theorem V4.oneLine_text (a : V4) : OneLine a.text :=
  V4.oneLine_of_parse a.parse_text

theorem V6.oneLine_text (a : V6) : OneLine a.text :=
  V6.oneLine_of_parse a.parse_text

theorem V6.oneLine_fullText (a : V6) : OneLine a.fullText :=
  V6.oneLine_of_parse a.parse_fullText

/-! ## Numbers -/

theorem Hex.newline_not_mem_of_read? {digits : List Char} {number : Nat}
    (h : Hex.read? digits = some number) : '\n' ∉ digits := by
  intro hbreak
  obtain ⟨values, hvalues, -⟩ := V6.Grammar.hex_read?_eq_some_iff.mp h
  have hdigit := V6.Grammar.forall_of_forall₂ hvalues (fun _ _ hpair => hpair.mem) '\n' hbreak
  exact absurd hdigit (by decide)

theorem Decimal.newline_not_mem_write (number : Nat) : '\n' ∉ Decimal.write number :=
  fun hbreak => absurd (isDigit_of_mem_write hbreak) (by decide)

/-! ## Quoted texts -/

theorem Quoted.newline_not_mem_write {escape : Char → List Char} (h : ∀ c, '\n' ∉ escape c)
    (text : List Char) : '\n' ∉ Quoted.write escape text := by
  simp only [write, List.mem_cons, List.mem_append, List.mem_flatMap]
  rintro (hquote | ⟨c, -, hc⟩ | hquote)
  · exact absurd hquote (by decide)
  · exact h c hc
  · exact absurd hquote (by decide)

theorem Descriptor.newline_not_mem_escape (c : Char) : '\n' ∉ escape c := by
  unfold escape
  split_ifs with hquote _ _ hbreak
  · rcases hquote with rfl | rfl
    · decide
    · decide
  · decide
  · decide
  · decide
  · decide
  · decide
  · have hdigits := Hex.newline_not_mem_of_read? (Hex.read?_writeOctet (UInt8.ofNat c.toNat))
    simp [Quoted.backslash, hdigits]
  · simp [Ne.symm hbreak]

theorem Report.newline_not_mem_escape (c : Char) : '\n' ∉ escape c := by
  unfold escape
  split_ifs with hquote _ _ hbreak
  · rcases hquote with rfl | rfl
    · decide
    · decide
  · decide
  · decide
  · decide
  · decide
  · have hdigits := Hex.newline_not_mem_of_read? (Hex.read?_write c.toNat)
    simp [Quoted.backslash, hdigits]
  · simp [Ne.symm hbreak]

theorem Report.oneLine_quote (text : String) : OneLine (quote text) :=
  oneLine_ofList (Quoted.newline_not_mem_write newline_not_mem_escape text.toList)

theorem Descriptor.oneLine_json (d : Descriptor) : OneLine d.json := by
  have hquote : ∀ text, OneLine (quote text) := fun text =>
    oneLine_ofList (Quoted.newline_not_mem_write newline_not_mem_escape text.toList)
  have hdigest : OneLine (String.ofList (Decimal.write d.digest.toNat)) :=
    oneLine_ofList (Decimal.newline_not_mem_write d.digest.toNat)
  have hfamily : OneLine ("\x7b\"family\":" ++ quote d.family.name) :=
    .append (by decide) (hquote d.family.name)
  have haddress : OneLine ("\x7b\"family\":" ++ quote d.family.name ++ ",\"addr\":" ++
      quote d.address) :=
    (hfamily.append (by decide)).append (hquote d.address)
  exact ((haddress.append (by decide)).append hdigest).append (by decide)

/-! ## Errors -/

/-- An error of the readers quotes the text that it is about. -/
theorem Report.showError_of_addressFormat {e : Error} (h : e.kind = .addressFormat) :
    showError e = "AddressFormat(" ++ quote e.detail ++ ")" := by
  cases e <;> cases h <;> rfl

end InetAddress
