/-!
# Terms and expressions

An expression is a sequence of terms. A term is a symbol (a character, a number or a word) or
one of the two structure brackets; a bracket pair groups the terms between it into one term of the
enclosing expression. Numbers come in three widths, and the width is part of the symbol: `small`
holds a 32-bit value, `wide` a 64-bit one and `big` any integer. The library writes every number it
builds in the narrowest width that holds it (`Term.number`).
-/

namespace Refal

/-- A term: a symbol or a structure bracket. A number is small when it fits 32 bits, wide when
it fits 64, and big otherwise; a word is a compound symbol named by its text. -/
inductive Term where
  | char (c : Char)
  | small (n : Int32)
  | wide (n : Int64)
  | big (n : Int)
  | word (w : String)
  | openBracket
  | closeBracket
  deriving DecidableEq

/-- An expression: a sequence of terms. The library's own expressions are balanced
(`Expr.Balanced`); lists given from outside may not be. -/
abbrev Expr := List Term

namespace Term

def FitsSmall (n : Int) : Prop := -2147483648 ≤ n ∧ n < 2147483648

def FitsWide (n : Int) : Prop := -9223372036854775808 ≤ n ∧ n < 9223372036854775808

instance (n : Int) : Decidable (FitsSmall n) := inferInstanceAs (Decidable (_ ∧ _))
instance (n : Int) : Decidable (FitsWide n) := inferInstanceAs (Decidable (_ ∧ _))

/-- The number symbol for `n` in the narrowest width that holds it. -/
def number (n : Int) : Term :=
  if FitsSmall n then .small (Int32.ofInt n)
  else if FitsWide n then .wide (Int64.ofInt n)
  else .big n

def value? : Term → Option Int
  | .small n => some n.toInt
  | .wide n => some n.toInt
  | .big n => some n
  | _ => none

def isBracket : Term → Bool
  | .openBracket | .closeBracket => true
  | _ => false

/-- Numbers and words are spaced: two of them in a row are written with a blank between. -/
def isSpaced : Term → Bool
  | .small _ | .wide _ | .big _ | .word _ => true
  | _ => false

/-- The text of one term: a character as itself, a number in decimal with its sign, a word as
its text, a bracket as itself. -/
def text : Term → String
  | .char c => String.singleton c
  | .small n => toString n.toInt
  | .wide n => toString n.toInt
  | .big n => toString n
  | .word w => w
  | .openBracket => "("
  | .closeBracket => ")"

@[simp]
theorem value?_number (n : Int) : (number n).value? = some n := by
  unfold number
  split
  · rename_i h
    simp only [value?, Int32.toInt_ofInt_of_le h.1 h.2]
  · split
    · rename_i _ h
      simp only [value?, Int64.toInt_ofInt_of_le h.1 h.2]
    · rfl

@[simp]
theorem isSpaced_number (n : Int) : (number n).isSpaced = true := by
  unfold number; split <;> (try split) <;> rfl

end Term

end Refal
