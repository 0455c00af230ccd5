import Refal.Term
import Refal.Text

/-!
# Numerals

A numeral is an optional sign (`+` or `-`) followed by one or more ASCII digits, with white space
allowed around it and nowhere else. The library does not read that grammar directly: it trims the
text, cuts off every leading sign, and lets the text through only when the signs took at most one
byte and ASCII digits remain (`Numeral.passesCheck`). The integer type's own reading of decimal
text (`Numeral.decimalOf?`) then gives the value; it is more permissive, with `_` separators
between digits, which the check keeps out.

A signed integer is encoded as terms by its magnitude in the narrowest width, after a `'-'`
character when it is negative (`Numeral.toTerms`). The arithmetic built-ins read such terms back
with a permissive scan (`Library.signedScan`).
-/

namespace Refal.Numeral

/-- The value of a run of decimal digits. -/
def digitsValue (ds : List Char) : Nat :=
  ds.foldl (fun acc c => 10 * acc + (c.toNat - '0'.toNat)) 0

def isSign (c : Char) : Bool := c == '+' || c == '-'

/-- The number of bytes that the characters take in UTF-8. -/
def byteLength : List Char → Nat
  | [] => 0
  | c :: cs => c.utf8Size + byteLength cs

/-- The check that trimmed text passes before it is read as an integer: once every leading sign
is cut off, something remains, the signs took at most one byte, and what remains is ASCII
digits. -/
def passesCheck (trimmed : List Char) : Bool :=
  let digits := trimmed.dropWhile isSign
  !digits.isEmpty && decide (byteLength trimmed ≤ byteLength digits + 1) &&
    digits.all Char.isDigit

/-- The magnitude that unsigned decimal text stands for, as the integer type reads it: a digit
first, then digits and `_` separators, which are skipped. -/
def magnitudeOf? : List Char → Option Nat
  | [] => none
  | d :: rest =>
    if d.isDigit ∧ rest.all (fun c => c.isDigit || c == '_') then
      some (digitsValue ((d :: rest).filter Char.isDigit))
    else none

/-- Decimal text as the integer type reads it: one optional sign, then a magnitude. -/
def decimalOf? (s : String) : Option Int :=
  match s.toList with
  | '-' :: rest => (magnitudeOf? rest).map fun m => -(m : Int)
  | '+' :: rest => (magnitudeOf? rest).map fun m => (m : Int)
  | cs => (magnitudeOf? cs).map fun m => (m : Int)

/-- The terms that encode `n`: its magnitude, after a `'-'` when `n` is negative. -/
def toTerms (n : Int) : Expr :=
  if n < 0 then [.char '-', Term.number (-n)] else [Term.number n]

end Refal.Numeral
