/-!
# Quoted text

A quoted text stands between quotation marks, and each of its characters is written as an escape
rule says. The rule is a parameter: descriptions and reports escape different characters.
-/

namespace InetAddress.Quoted

/-- A text between quotation marks, each character written by `escape`. -/
def write (escape : Char → List Char) (text : List Char) : List Char :=
  '"' :: (text.flatMap escape ++ ['"'])

/-- A backslash and a character. -/
def backslash (c : Char) : List Char :=
  ['\\', c]

/-- Where the rule leaves every character alone, only the quotation marks are added. -/
theorem write_eq_of_plain {escape : Char → List Char} {text : List Char}
    (h : ∀ c ∈ text, escape c = [c]) : write escape text = '"' :: (text ++ ['"']) := by
  have : text.flatMap escape = text := by
    induction text with
    | nil => rfl
    | cons c text ih =>
        rw [List.flatMap_cons, h c (List.mem_cons_self ..),
          ih fun d hd => h d (List.mem_cons_of_mem _ hd)]
        rfl
  rw [write, this]

end InetAddress.Quoted
