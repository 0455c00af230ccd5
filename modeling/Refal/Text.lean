import Refal.Unicode.Classes

/-!
# Text

The two things the library does to text as text: trimming white space off its ends, and quoting
it for a message.
-/

/-!
## Trimming white space

Trimming removes Unicode white space (not only ASCII blanks) from the ends of a text. Numerals,
call lines and `Implode` trim their text this way before they look at it.
-/

namespace Refal.Text

open Refal.Unicode

/-- The characters of `cs` from the first one that is not white space. -/
def trimStartChars (cs : List Char) : List Char := cs.dropWhile isWhiteSpace

/-- The characters of `cs` with white space removed from both ends. -/
def trimChars (cs : List Char) : List Char :=
  ((trimStartChars cs).reverse.dropWhile isWhiteSpace).reverse

def trim (s : String) : String := String.ofList (trimChars s.toList)

/-- Trimming keeps no white space at the front. -/
theorem trimStartChars_head (cs : List Char) (c : Char) (rest : List Char)
    (h : trimStartChars cs = c :: rest) : isWhiteSpace c = false := by
  simp only [trimStartChars] at h
  have := List.head_dropWhile_not isWhiteSpace (by simp [h] : cs.dropWhile isWhiteSpace ≠ [])
  simpa [h] using this

theorem trimStartChars_blank_append {ws : List Char} (blank : ∀ c ∈ ws, isWhiteSpace c = true)
    (cs : List Char) : trimStartChars (ws ++ cs) = trimStartChars cs :=
  List.dropWhile_append_of_pos blank

theorem trimStartChars_cons_solid {c : Char} (solid : isWhiteSpace c = false) (cs : List Char) :
    trimStartChars (c :: cs) = c :: cs :=
  List.dropWhile_cons_of_neg (by simp [solid])

/-- White space around a text that starts and ends with something else is trimmed away. -/
theorem trimChars_padded {ws₁ ws₂ mid : List Char} {c d : Char}
    (blank₁ : ∀ x ∈ ws₁, isWhiteSpace x = true) (blank₂ : ∀ x ∈ ws₂, isWhiteSpace x = true)
    (first : isWhiteSpace c = false) (last : isWhiteSpace d = false) :
    trimChars (ws₁ ++ c :: mid ++ d :: ws₂) = c :: mid ++ [d] := by
  have body : c :: mid ++ d :: ws₂ = (c :: mid ++ [d]) ++ ws₂ := by simp
  -- the back is trimmed on the reversed text: the blanks go, and `d` stops the trimming
  have back : ((c :: mid ++ [d]) ++ ws₂).reverse.dropWhile isWhiteSpace =
      (c :: mid ++ [d]).reverse := by
    rw [List.reverse_append, List.dropWhile_append_of_pos (by simpa using blank₂),
      List.reverse_append, List.reverse_singleton, List.singleton_append]
    exact List.dropWhile_cons_of_neg (by simp [last])
  rw [trimChars, List.append_assoc, trimStartChars_blank_append blank₁, List.cons_append,
    trimStartChars_cons_solid first, ← List.cons_append, body, back, List.reverse_reverse]

/-!
## Quoted texts and characters in messages

Messages show a text between double quotes and a character between single quotes, written so
that every character is visible and the quote can be read back. A NUL, a tab, a carriage return,
a line feed and a backslash become `\0`, `\t`, `\r`, `\n` and `\\`; the enclosing quote gets a
backslash; a combining character or one that is not printable becomes `\u{hex}` with the fewest
lower-case hexadecimal digits; every other character stands for itself.
-/

/-- The lower-case hexadecimal digits of `n`, the fewest that write it. -/
def hexDigits (n : Nat) : List Char := Nat.toDigits 16 n

/-- The escape `\u{hex}` that writes a character as its code point. -/
def codePointEscape (c : Char) : List Char :=
  ['\\', 'u', '\x7b'] ++ hexDigits c.toNat ++ ['\x7d']

/-- How one character is written inside quotes `q`. -/
def escapeChar (q : Char) (c : Char) : List Char :=
  if c = '\x00' then ['\\', '0']
  else if c = '\t' then ['\\', 't']
  else if c = '\r' then ['\\', 'r']
  else if c = '\n' then ['\\', 'n']
  else if c = '\\' then ['\\', '\\']
  else if c = q then ['\\', q]
  else if isGraphemeExtend c then codePointEscape c
  else if isPrintable c then [c]
  else codePointEscape c

def escapeChars (q : Char) (cs : List Char) : List Char := cs.flatMap (escapeChar q)

/-- A text between double quotes, as messages show it. -/
def quoteText (s : String) : String :=
  String.ofList ('"' :: escapeChars '"' s.toList ++ ['"'])

/-- A character between single quotes, as messages show it. -/
def quoteChar (c : Char) : String :=
  String.ofList ('\'' :: escapeChar '\'' c ++ ['\''])

@[simp]
theorem escapeChars_nil (q : Char) : escapeChars q [] = [] := rfl

@[simp]
theorem escapeChars_cons (q c : Char) (cs : List Char) :
    escapeChars q (c :: cs) = escapeChar q c ++ escapeChars q cs := by
  simp [escapeChars]

end Refal.Text
