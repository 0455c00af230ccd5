import Refal.Term

/-!
# Expressions

What the library does with an expression as a whole: it checks that the brackets balance,
renders the expression as text, and cuts an argument in two.
-/

/-!
## Balanced expressions

Brackets balance when, reading from the left, no closing bracket comes while no group is open and
none is open at the end. The running depth `Expr.depthFrom` counts the open groups; it fails at a
closing bracket with nothing to close. Every expression the library builds is balanced.
-/

namespace Refal.Expr

/-- The depth reached by reading `e` from depth `d`, or `none` when a closing bracket comes at
depth zero. -/
def depthFrom : Nat → Expr → Option Nat
  | d, [] => some d
  | d, .openBracket :: e => depthFrom (d + 1) e
  | 0, .closeBracket :: _ => none
  | d + 1, .closeBracket :: e => depthFrom d e
  | d, _ :: e => depthFrom d e

def Balanced (e : Expr) : Prop := depthFrom 0 e = some 0

instance (e : Expr) : Decidable (Balanced e) := inferInstanceAs (Decidable (_ = _))

def isBalanced (e : Expr) : Bool := decide (Balanced e)

def ofChars (s : String) : Expr := s.toList.map .char

def bracketed (e : Expr) : Expr := .openBracket :: e ++ [.closeBracket]

/-!
## Rendering

The text of an expression: each term's text in order, with one blank between two consecutive
spaced terms (numbers and words). Characters glue to their neighbours, so `'-' 3` renders as
`-3`, and a bracket cuts the spacing on both sides.
-/

/-- The characters of `e` rendered after a term that was spaced (`true`) or not. -/
def renderAfter : Bool → Expr → List Char
  | _, [] => []
  | _, .openBracket :: e => '(' :: renderAfter false e
  | _, .closeBracket :: e => ')' :: renderAfter false e
  | spaced, t :: e =>
    (if spaced && t.isSpaced then [' '] else []) ++ t.text.toList ++ renderAfter t.isSpaced e

/-- Whether rendering `e` after a term that was spaced (`b`) ends after a spaced term. -/
def spacedAfter : Bool → Expr → Bool
  | b, [] => b
  | _, .openBracket :: e => spacedAfter false e
  | _, .closeBracket :: e => spacedAfter false e
  | _, t :: e => spacedAfter t.isSpaced e

/-- Rendering a concatenation renders the second part after however the first part ended. -/
theorem renderAfter_append (b : Bool) (xs ys : Expr) :
    renderAfter b (xs ++ ys) = renderAfter b xs ++ renderAfter (spacedAfter b xs) ys := by
  induction xs generalizing b with
  | nil => rfl
  | cons t xs ih =>
    cases t <;> simp [renderAfter, spacedAfter, ih]

def render (e : Expr) : String := String.ofList (renderAfter false e)

/-- The text of the terms from position `start` on; empty when `start` is past the end. -/
def renderFrom (e : Expr) (start : Nat) : String := render (e.drop start)

/-!
## Splitting an argument

Two ways to cut an argument in two. `Expr.leadingTerm` takes its first term: one symbol, or a
whole group from its opening bracket to the bracket that closes it. `Expr.splitAtSymbol` cuts at
the first occurrence of a separator symbol outside every group. Both work on any list of terms,
balanced or not: an unclosed group runs to the end, and a closing bracket with nothing to close
leaves the depth at zero.
-/

/-- The number of terms up to and including the closing bracket that brings the depth `d` back
to zero, or `none` when the list ends first. -/
def groupLength : Nat → Expr → Option Nat
  | _, [] => none
  | d, .openBracket :: e => (groupLength (d + 1) e).map (· + 1)
  | d, .closeBracket :: e => if d ≤ 1 then some 1 else (groupLength (d - 1) e).map (· + 1)
  | d, _ :: e => (groupLength d e).map (· + 1)

/-- Where the term that starts at `start` ends: one past a symbol, one past the bracket that
closes a group, or the end of the list for a group that is never closed. -/
def termEnd (e : Expr) (start : Nat) : Nat :=
  if e[start]? = some .openBracket then
    match groupLength 0 (e.drop start) with
    | some k => start + k
    | none => e.length
  else start + 1

/-- The first term and the rest, unless the list is empty or starts with a closing bracket. -/
def leadingTerm (e : Expr) : Option (Expr × Expr) :=
  match e with
  | [] => none
  | .closeBracket :: _ => none
  | _ => some (e.take (termEnd e 0), e.drop (termEnd e 0))

/-- The terms before and after the first occurrence of `sep` at depth zero, reading from depth
`d`. The depth never drops below zero, and a bracket is never the separator. -/
def splitAtDepth (sep : Term) : Nat → Expr → Option (Expr × Expr)
  | _, [] => none
  | d, .openBracket :: e => (splitAtDepth sep (d + 1) e).map fun p => (.openBracket :: p.1, p.2)
  | d, .closeBracket :: e => (splitAtDepth sep (d - 1) e).map fun p => (.closeBracket :: p.1, p.2)
  | d, t :: e =>
    if d = 0 ∧ t = sep then some ([], e)
    else (splitAtDepth sep d e).map fun p => (t :: p.1, p.2)

/-- The terms before and after the first occurrence of `sep` outside every group. -/
def splitAtSymbol (e : Expr) (sep : Term) : Option (Expr × Expr) := splitAtDepth sep 0 e

end Refal.Expr
