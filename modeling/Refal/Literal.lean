import Refal.Expr
import Refal.Numeral
import Refal.Text

/-!
# Literal syntax

The literal syntax that expressions and call lines are written in, and the reader of both.
-/

/-!
## Reading literal expressions

The literal syntax of expressions, read from the left with white space between terms skipped:

* `'…'` is a run of character symbols, one per character between the quotes;
* `"…"` is one word, its text between the quotes;
* `(` and `)` are brackets;
* a run of ASCII digits is one number, in the narrowest width;
* a bare word starts with an alphabetic character and goes on through alphanumeric characters,
  `-` and `_`.

Inside quotes a backslash escapes `n`, `t`, `r`, `\`, `'` and `"`. The first fault in reading
order is the answer; the brackets are checked only once the whole text has been read.

Each step of `readTerms` consumes at least one character, so reading ends on every input.
-/

namespace Refal.Literal

open Refal.Unicode

/-- Why a text is not a literal expression or a call. -/
inductive ReadError where
  | unexpected (c : Char)
  | invalidEscape (c : Char)
  | unterminated (quote : Char)
  | unterminatedEscape
  | unbalanced
  | notACall (line : String)
  | missingName
  deriving DecidableEq

def ReadError.message : ReadError → String
  | .unexpected c => "Unexpected character " ++ Text.quoteChar c
  | .invalidEscape c => "Invalid escape \\" ++ String.singleton c
  | .unterminated q => "Unterminated literal, expected " ++ String.singleton q
  | .unterminatedEscape => "Unterminated escape"
  | .unbalanced => "Unbalanced brackets"
  | .notACall line => "Not a call: " ++ line
  | .missingName => "Missing function name"

/-- The character that a backslash escape stands for. -/
def escapeValue? : Char → Option Char
  | 'n' => some '\n'
  | 't' => some '\t'
  | 'r' => some '\r'
  | '\\' => some '\\'
  | '\'' => some '\''
  | '"' => some '"'
  | _ => none

/-- Reads the inside of a literal quoted by `q`, up to the closing quote: the characters it
stands for, and the text after the closing quote. -/
def readQuoted (q : Char) : List Char → Except ReadError (List Char × List Char)
  | [] => .error (.unterminated q)
  | c :: rest =>
    if c = q then .ok ([], rest)
    else if c = '\\' then
      match rest with
      | [] => .error .unterminatedEscape
      | e :: rest =>
        match escapeValue? e with
        | some v => (readQuoted q rest).map fun p => (v :: p.1, p.2)
        | none => .error (.invalidEscape e)
    else (readQuoted q rest).map fun p => (c :: p.1, p.2)

/-- A character that may continue a bare word. -/
def isWordChar (c : Char) : Bool := isAlphanumeric c || c = '-' || c = '_'

theorem exists_of_map_eq_ok {f : List Char × List Char → List Char × List Char}
    {x : Except ReadError (List Char × List Char)} {y : List Char × List Char}
    (h : x.map f = .ok y) : ∃ p, x = .ok p ∧ f p = y := by
  cases x with
  | error e => simp [Except.map] at h
  | ok p => exact ⟨p, rfl, by simpa [Except.map] using h⟩

/-- What follows a quoted literal is shorter than the literal. -/
theorem readQuoted_rest_length (q : Char) (cs : List Char) :
    ∀ s r, readQuoted q cs = .ok (s, r) → r.length < cs.length := by
  fun_induction readQuoted q cs with
  | case1 => simp
  | case2 rest => intro s r h; simp at h; simp [h.2]
  | case3 => simp
  | case4 hc e rest v hv ih =>
    intro s r h
    obtain ⟨p, hp, hfp⟩ := exists_of_map_eq_ok h
    have := ih p.1 p.2 hp
    simp only [Prod.mk.injEq] at hfp
    simp only [List.length_cons, ← hfp.2]; omega
  | case5 => simp
  | case6 c rest hc hb ih =>
    intro s r h
    obtain ⟨p, hp, hfp⟩ := exists_of_map_eq_ok h
    have := ih p.1 p.2 hp
    simp only [Prod.mk.injEq] at hfp
    simp only [List.length_cons, ← hfp.2]; omega

/-- Reads the terms of a literal text, from the left, up to the first fault. -/
def readTerms (cs : List Char) : Except ReadError Expr :=
  match cs with
  | [] => .ok []
  | c :: rest =>
    if isWhiteSpace c then readTerms rest
    else if c = '\'' ∨ c = '"' then
      match h : readQuoted c rest with
      | .error e => .error e
      | .ok (s, after) =>
        (readTerms after).map fun ts =>
          if c = '\'' then s.map .char ++ ts else .word (String.ofList s) :: ts
    else if c = '(' then (readTerms rest).map (.openBracket :: ·)
    else if c = ')' then (readTerms rest).map (.closeBracket :: ·)
    else if c.isDigit then
      (readTerms (rest.dropWhile Char.isDigit)).map
        (Term.number (Numeral.digitsValue (c :: rest.takeWhile Char.isDigit)) :: ·)
    else if isAlphabetic c then
      (readTerms (rest.dropWhile isWordChar)).map
        (.word (String.ofList (c :: rest.takeWhile isWordChar)) :: ·)
    else .error (.unexpected c)
termination_by cs.length
decreasing_by
  all_goals simp only [List.length_cons]
  · exact Nat.lt_succ_self _
  · exact Nat.lt_succ_of_lt (readQuoted_rest_length _ _ _ _ h)
  · exact Nat.lt_succ_self _
  · exact Nat.lt_succ_self _
  · exact Nat.lt_succ_of_le (List.dropWhile_suffix _).length_le
  · exact Nat.lt_succ_of_le (List.dropWhile_suffix _).length_le

/-- Reads a literal expression: its terms, provided the brackets balance. -/
def readExpression (s : String) : Except ReadError Expr := do
  let ts ← readTerms s.toList
  if Expr.isBalanced ts then pure ts else throw .unbalanced

/-!
## Call lines

A call line is `<Name argument>`, white space allowed around it: the name runs from the opening
angle bracket (white space after it skipped) to the first white space, and the rest up to the
closing angle bracket is read as a literal expression.
-/

structure Call where
  name : String
  argument : Expr

def readCall (line : String) : Except ReadError Call :=
  let t := Text.trimChars line.toList
  if t.head? = some '<' ∧ t.getLast? = some '>' ∧ 2 ≤ t.length then
    let inner := Text.trimStartChars (t.drop 1).dropLast
    let name := inner.takeWhile (fun c => !isWhiteSpace c)
    if name = [] then .error .missingName
    else
      (readExpression (String.ofList (inner.dropWhile (fun c => !isWhiteSpace c)))).map
        fun argument => { name := String.ofList name, argument }
  else .error (.notACall (String.ofList t))

end Refal.Literal
