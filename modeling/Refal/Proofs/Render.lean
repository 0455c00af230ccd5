import Refal.Expr

/-!
# Rendering a concatenation

Rendering writes each term's text and puts a blank between two spaced terms (numbers and words)
that follow each other; a character glues to its neighbours and a bracket cuts the spacing. The
spacing flag that rendering carries after a sequence depends on its last term alone
(`spacedAfter_eq`), so rendering distributes over concatenation: the two renderings, joined by a
blank exactly when the first part ends with a spaced term and the second starts with one
(`render_append`).

Main statement: that law, and what follows from it for the text of a suffix (the rendering of
the terms from a position on is what the whole rendering has after the prefix) and for a group
(`(`, the rendering, `)`).
-/

namespace Refal.Expr

/-- What rendering puts between `xs` and `ys` written one after the other: a blank when `xs`
ends with a spaced term and `ys` starts with one, nothing otherwise. -/
def joint (xs ys : Expr) : String :=
  if xs.getLast?.any Term.isSpaced && ys.head?.any Term.isSpaced then " " else ""

/-- The flag after a sequence is the spacing of its last term; only an empty sequence keeps the
flag it started with. -/
theorem spacedAfter_eq (b : Bool) (xs : Expr) :
    spacedAfter b xs = (xs.getLast?.map Term.isSpaced).getD b := by
  induction xs generalizing b with
  | nil => rfl
  | cons t xs ih =>
    -- a bracket resets the flag to `false`, which is its own spacing
    have step : spacedAfter b (t :: xs) = spacedAfter t.isSpaced xs := by
      cases t <;> rfl
    rw [step, ih, List.getLast?_cons]
    cases xs.getLast? <;> rfl

/-- Rendering after a spaced term is rendering from the start, after a blank when the sequence
starts with a spaced term. -/
theorem renderAfter_eq (b : Bool) (ys : Expr) :
    renderAfter b ys =
      (if b && ys.head?.any Term.isSpaced then [' '] else []) ++ renderAfter false ys := by
  cases ys with
  | nil => cases b <;> rfl
  | cons t ys => cases t <;> cases b <;> rfl

theorem render_append (xs ys : Expr) :
    render (xs ++ ys) = render xs ++ joint xs ys ++ render ys := by
  have flag : spacedAfter false xs = xs.getLast?.any Term.isSpaced := by
    rw [spacedAfter_eq]
    cases xs.getLast? <;> rfl
  rw [render, renderAfter_append, flag, renderAfter_eq (xs.getLast?.any Term.isSpaced) ys, joint]
  cases xs.getLast?.any Term.isSpaced <;> cases ys.head?.any Term.isSpaced <;>
    simp [render, String.ofList_append, String.append_assoc]

/-- The whole rendering is the prefix's, the joint, and the rendering from the cut on. -/
theorem render_take_drop (e : Expr) (i : Nat) :
    render e = render (e.take i) ++ joint (e.take i) (e.drop i) ++ renderFrom e i := by
  conv => lhs; rw [← List.take_append_drop i e]
  exact render_append _ _

theorem renderFrom_of_length_le {e : Expr} {i : Nat} (past : e.length ≤ i) :
    renderFrom e i = "" := by
  rw [renderFrom, List.drop_eq_nil_of_le past]
  rfl

theorem render_bracketed (e : Expr) : render (bracketed e) = "(" ++ render e ++ ")" := by
  have closing : render (e ++ [.closeBracket]) = render e ++ ")" := by
    rw [render_append, joint]
    simp [render, renderAfter, Term.isSpaced]
  -- an opening bracket renders as itself and starts the rest afresh
  show String.ofList ('(' :: renderAfter false (e ++ [.closeBracket])) = _
  rw [String.ofList_cons, ← render, closing, String.append_assoc]
  rfl

/-- Characters render as themselves, with no blank anywhere. -/
theorem render_ofChars (s : String) : render (ofChars s) = s := by
  have glued : ∀ (b : Bool) (cs : List Char), renderAfter b (cs.map .char) = cs := by
    intro b cs
    induction cs generalizing b with
    | nil => rfl
    | cons c cs ih => simp [renderAfter, Term.isSpaced, Term.text, ih]
  rw [render, ofChars, glued, String.ofList_toList]

/-- Rendering distributes over concatenation. The rendering of `xs ++ ys` is the rendering of
`xs`, a blank exactly when `xs` is not empty and ends with a number or a word and `ys` is not
empty and starts with one, and the rendering of `ys`. So the text of the terms from position `i`
on is what the whole text has after the first `i` terms' text and the joint, and is empty past
the end; and a group renders as its terms' text in brackets. -/
theorem render_over_append (xs ys : Expr) :
    render (xs ++ ys) = render xs ++ joint xs ys ++ render ys ∧
      (∀ i, render xs = render (xs.take i) ++ joint (xs.take i) (xs.drop i) ++ renderFrom xs i) ∧
      (∀ i, xs.length ≤ i → renderFrom xs i = "") ∧
      render (bracketed xs) = "(" ++ render xs ++ ")" :=
  ⟨render_append xs ys, render_take_drop xs, fun _ past => renderFrom_of_length_le past,
    render_bracketed xs⟩

example : render [.word "x", .small 1] = render [.word "x"] ++ " " ++ render [.small 1] ∧
    render [.word "x", .char '-', .small 1] = "x-1" := by decide
example : render [.char 'a', .char 'b', .small 12, .word "foo", .small 7, .char 'c',
    .openBracket, .small 3, .word "x", .closeBracket] = "ab12 foo 7c(3 x)" := by decide

end Refal.Expr
