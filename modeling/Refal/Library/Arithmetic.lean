import Refal.Expr
import Refal.Library.Builtin
import Refal.Numeral

/-!
# Arithmetic

The four operations take two integers out of one argument. The first term gives the first
operand: a number its value, a word its numeral, any other symbol zero, and a group the signed
scan of its terms. The signed scan of the rest gives the second. The signed scan of a sequence
finds its first number or word; each `'-'` before it flips the sign, and everything else is
skipped. A word that is no numeral fails, the first operand before the second; division by zero
fails once both operands are read, and division truncates toward zero.
-/

namespace Refal.Library

/-- The integer that a text is a numeral of, on behalf of built-in `b`: the text is trimmed,
checked, and read by `fromStr`, the integer type's reading of decimal text. Either failure is
reported with the built-in and the text as it was given. -/
def parseIntegerWith (fromStr : String → Option Int) (b s : String) : Except Fault Int :=
  let trimmed := Text.trimChars s.toList
  if Numeral.passesCheck trimmed then
    match fromStr (String.ofList trimmed) with
    | some n => .ok n
    | none => .error (.parseFailure b s)
  else .error (.parseFailure b s)

/-- The integer that a word's numeral stands for, on behalf of built-in `b`. -/
def wordValue (b : String) (w : String) : Except Fault Int :=
  parseIntegerWith Numeral.decimalOf? b w

/-- The integer that one term stands for: a number its value, a word its numeral, anything
else zero. -/
def termValue (b : String) : Term → Except Fault Int
  | .word w => wordValue b w
  | t => .ok (t.value?.getD 0)

/-- The signed scan from a sign so far: `negative` tells whether an odd number of `'-'` came
before. -/
def scanFrom (b : String) (negative : Bool) : Expr → Except Fault Int
  | [] => .ok 0
  | t :: e =>
    if t = .char '-' then scanFrom b (!negative) e
    else if t.isSpaced then (termValue b t).map fun m => if negative then -m else m
    else scanFrom b negative e

def signedScan (b : String) (e : Expr) : Except Fault Int := scanFrom b false e

/-- The two operands of an arithmetic built-in named `b`. -/
def operands (b : String) (e : Expr) : Except Fault (Int × Int) :=
  match Expr.leadingTerm e with
  | none => .error (.matchFailure b "t.1 e.2")
  | some (first, rest) => do
    let x ← match first with
      | [t] => termValue b t
      | group => signedScan b group
    let y ← signedScan b rest
    pure (x, y)

/-- The operation on two integers; division truncates toward zero and fails on zero. -/
def ArithOp.eval : ArithOp → Int → Int → Except Fault Int
  | .add, x, y => .ok (x + y)
  | .sub, x, y => .ok (x - y)
  | .mul, x, y => .ok (x * y)
  | .div, x, y => if y = 0 then .error .divideByZero else .ok (x.tdiv y)

/-- The value of an arithmetic call: the result encoded as terms. -/
def ArithOp.apply (op : ArithOp) (e : Expr) : Except Fault Expr := do
  let (x, y) ← operands op.name e
  let r ← op.eval x y
  pure (Numeral.toTerms r)

end Refal.Library
