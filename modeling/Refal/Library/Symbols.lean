import Refal.Expr
import Refal.Library.Arithmetic
import Refal.Literal

/-!
# Symbols and their types

`Type` reports the type of an argument's first term and keeps the argument after it. `Chr` turns
numbers into the characters of their low byte and `Ord` turns characters into their code points;
both keep every other term. `Implode` makes one word of the identifier that the argument's text
starts with, and `Numb` reads the argument's text as a numeral.
-/

namespace Refal.Library

open Refal.Unicode

/-- The subtype of a character: `u` for upper case, `l` otherwise. -/
def caseOf (c : Char) : Term := .char (if isUppercase c then 'u' else 'l')

/-- The type of an expression's first term, and its subtype. `*` is the empty expression, `B` a
group, `L` an ASCII letter, `D` an ASCII digit, `O` a control character, `P` any other character,
`N` a number and `W` a word, which is an identifier (`i`) if it starts with an alphabetic
character and has no blank, quoted (`q`) otherwise. -/
def classify : Expr → Term × Term
  | [] => (.char '*', .small 0)
  | .openBracket :: _ => (.char 'B', .small 0)
  | .closeBracket :: _ => (.char 'P', .char 'l')
  | .char c :: _ =>
    if c.isAlpha then (.char 'L', caseOf c)
    else if c.isDigit then (.char 'D', .small 0)
    else if isControl c then (.char 'O', caseOf c)
    else (.char 'P', caseOf c)
  | .word w :: _ =>
    let identifier := (w.toList.head?.map isAlphabetic).getD false && !w.toList.contains ' '
    (.char 'W', .char (if identifier then 'i' else 'q'))
  | _ :: _ => (.char 'N', .small 0)

/-- The value of `Type`: the type and subtype, then the argument. -/
def typeOf (e : Expr) : Expr := (classify e).1 :: (classify e).2 :: e

/-- The integer type's conversion to a byte: none outside `0 … 255`. -/
def byteOf? (n : Int) : Option UInt8 :=
  if 0 ≤ n ∧ n < 256 then some n.toNat.toUInt8 else none

/-- The character of the low byte of an integer, as a Latin-1 code point. The integer type's
remainder takes the sign of the dividend, so the modulus is added and the remainder taken again;
a byte out of range would read as `0`. -/
def lowByteChar (n : Int) : Char :=
  let byte := (n.tmod 256 + 256).tmod 256
  Char.ofNat ((byteOf? byte).getD 0).toNat

/-- The value of `Chr`: each number replaced by the character of its low byte. -/
def chrOf (e : Expr) : Expr :=
  e.map fun t =>
    match t.value? with
    | some n => .char (lowByteChar n)
    | none => t

/-- The value of `Ord`: each character replaced by its code point. -/
def ordOf (e : Expr) : Expr :=
  e.map fun t =>
    match t with
    | .char c => .small (Int32.ofNat c.toNat)
    | t => t

/-- The identifier that a text starts with, white space around the text ignored. -/
def identifierPrefix (s : String) : String :=
  String.ofList ((Text.trimChars s.toList).takeWhile Literal.isWordChar)

/-- The value of `Implode`: one word, the identifier that the argument's text starts with. -/
def implodeOf (e : Expr) : Expr := [.word (identifierPrefix (Expr.render e))]

/-- The value of `Numb`: the number that the argument's text is a numeral of, in the narrowest
width; empty for an empty argument. -/
def numbOf (e : Expr) : Except Fault Expr :=
  if e = [] then .ok []
  else (wordValue "Numb" (Expr.render e)).map fun n => [Term.number n]

end Refal.Library
