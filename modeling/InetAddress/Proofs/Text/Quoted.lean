import InetAddress.Proofs.Literal.Acceptance
import InetAddress.Report

/-!
# Error lines

An error line quotes what is wrong with a text, and the text in it may hold any characters.
`Shows` is the rule for one character, and `Quotes` goes through a text by it:

```text
"  \                    a backslash before them
NUL, tab, line breaks   a backslash and a letter
other hidden ones       a backslash, u, and the code point in braces
all others              as they are
```

What is wrong with a text that is no IPv6 address is one of two things (`Complaint`).
-/

namespace InetAddress.Report

variable {c : Char} {out : List Char} {text shown : String} {e : Error}

/-! ## Quoted texts -/

/-- The characters that have an escape of their own, and what follows the backslash there. -/
def letters : List (Char × Char) :=
  [('"', '"'), ('\\', '\\'), ('\x00', '0'), ('\t', 't'), ('\n', 'n'), ('\r', 'r')]

/-- What a quoted text shows for a character. -/
inductive Shows : Char → List Char → Prop
  | letter {c d : Char} (hletter : (c, d) ∈ letters) : Shows c ['\\', d]
  | codePoint {c : Char} (hnone : ∀ d, (c, d) ∉ letters) (hhidden : Printable.isHidden c) :
      Shows c ("\\u\x7b".toList ++ Nat.toDigits 16 c.toNat ++ ['\x7d'])
  | plain {c : Char} (hnone : ∀ d, (c, d) ∉ letters) (hshown : ¬ Printable.isHidden c) :
      Shows c [c]

/-- What a text looks like between quotation marks. -/
def Quotes (text shown : String) : Prop :=
  ∃ pieces, List.Forall₂ Shows text.toList pieces ∧
    shown = "\"" ++ String.ofList pieces.flatten ++ "\""

theorem escape_of_mem_letters {d : Char} (h : (c, d) ∈ letters) : escape c = ['\\', d] := by
  have hall : letters.all fun pair => escape pair.1 == ['\\', pair.2] := by decide
  exact beq_iff_eq.mp (List.all_eq_true.mp hall (c, d) h)

theorem escape_of_not_mem_letters (h : ∀ d, (c, d) ∉ letters) :
    escape c = if Printable.isHidden c then
      "\\u\x7b".toList ++ Nat.toDigits 16 c.toNat ++ ['\x7d'] else [c] := by
  have hne : ∀ pair ∈ letters, c ≠ pair.1 := by
    rintro pair hpair rfl
    exact h pair.2 hpair
  simp only [letters, List.forall_mem_cons] at hne
  obtain ⟨hquote, hbackslash, hnul, htab, hnewline, hreturn, -⟩ := hne
  rw [escape, if_neg (not_or.mpr ⟨hquote, hbackslash⟩), if_neg hnul, if_neg htab, if_neg hnewline,
    if_neg hreturn]
  rfl

theorem shows_iff : Shows c out ↔ out = escape c := by
  constructor
  · intro h
    cases h with
    | letter hletter => exact (escape_of_mem_letters hletter).symm
    | codePoint hnone hhidden => rw [escape_of_not_mem_letters hnone, if_pos hhidden]
    | plain hnone hshown => rw [escape_of_not_mem_letters hnone, if_neg hshown]
  · rintro rfl
    by_cases hletter : ∃ d, (c, d) ∈ letters
    · obtain ⟨d, hd⟩ := hletter
      rw [escape_of_mem_letters hd]
      exact .letter hd
    · have hnone : ∀ d, (c, d) ∉ letters := fun d hd => hletter ⟨d, hd⟩
      rw [escape_of_not_mem_letters hnone]
      split
      · next hhidden => exact .codePoint hnone hhidden
      · next hshown => exact .plain hnone hshown

theorem forall₂_shows_iff {chars : List Char} {pieces : List (List Char)} :
    List.Forall₂ Shows chars pieces ↔ pieces = chars.map escape := by
  induction chars generalizing pieces with
  | nil => simp
  | cons c chars ih => simp [List.forall₂_cons_left_iff, shows_iff, ih]

/-- The rule is the one that error lines are written by. -/
theorem quotes_iff : Quotes text shown ↔ shown = quote text := by
  have hquote : quote text = "\"" ++ String.ofList (text.toList.map escape).flatten ++ "\"" := by
    rw [quote, Quoted.write, List.flatMap_def, ← String.toList_inj]
    simp [String.toList_append]
  simp only [Quotes, forall₂_shows_iff, exists_eq_left, hquote]

/-! ## Complaints -/

/-- What is wrong with a text that is no IPv6 address: it is too short, or its host is not one. -/
inductive Complaint (text : String) : String → Prop
  | short (hsize : text.utf8ByteSize < 2) :
      Complaint text ("Invalid IPv6 address '" ++ text ++ "': address too short")
  | host {bare : String} (hsize : 2 ≤ text.utf8ByteSize)
      (hbare : V6.Grammar.Host text.toList bare.toList) :
      Complaint text ("Invalid IPv6 address '" ++ bare ++ "'")

theorem complaint_of_parse (h : V6.parse text = .error e) : Complaint text e.detail := by
  obtain ⟨hsize, rfl⟩ | ⟨hsize, rfl⟩ := V6.Grammar.error_of_parse h
  · exact .short hsize
  · have hbare : V6.Grammar.Host text.toList (String.ofList (V6.unbracket text.toList)).toList := by
      rw [String.toList_ofList]
      exact V6.Grammar.host_unbracket text.toList
    exact .host hsize hbare

end InetAddress.Report
