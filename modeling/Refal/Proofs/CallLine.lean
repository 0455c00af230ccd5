import Refal.Literal
import Refal.Proofs.Literal

/-!
# Splitting a call line

A call line is trimmed of white space; it must then start with `<` and end with `>`. What stands
between them, with white space at its front skipped, is a name up to the first white space and
an argument after it, read as a literal expression.

Main statement: a line made of white space, `<`, a name with no white space, a blank, any text
and `>`, then white space again, reads as a call of that name whose argument is what reading the
text gives, and fails exactly as reading the text fails. A line that is not enclosed in angle
brackets once trimmed is no call, and one with only white space between them has no name.
Reading is a total function, so no line makes it stop without an answer.
-/

namespace Refal.Literal

open Refal.Text Refal.Unicode

/-- A line enclosed in angle brackets once trimmed is read from what stands between them: the
name runs to the first white space after the white space at the front, and the rest is the
argument's text. -/
theorem readCall_enclosed {line : String} {inner : List Char}
    (enclosed : trimChars line.toList = '<' :: inner ++ ['>']) :
    readCall line =
      if (trimStartChars inner).takeWhile (fun c => !isWhiteSpace c) = [] then .error .missingName
      else (readExpression (String.ofList
          ((trimStartChars inner).dropWhile fun c => !isWhiteSpace c))).map
        fun argument =>
          { name := String.ofList ((trimStartChars inner).takeWhile fun c => !isWhiteSpace c),
            argument } := by
  have shape : ('<' :: inner ++ ['>']).head? = some '<' ∧
      ('<' :: inner ++ ['>']).getLast? = some '>' ∧ 2 ≤ ('<' :: inner ++ ['>']).length :=
    ⟨rfl, List.getLast?_concat, by simp⟩
  have inside : (('<' :: inner ++ ['>']).drop 1).dropLast = inner := by simp
  unfold readCall
  simp only [enclosed, if_pos shape, inside]

/-- Between the angle brackets, a name with no white space in it, then nothing or white space:
the call has that name, and its argument is read from the text after the name. -/
theorem readCall_named {line : String} {name rest : List Char}
    (enclosed : trimChars line.toList = '<' :: name ++ rest ++ ['>']) (named : name ≠ [])
    (solid : ∀ c ∈ name, isWhiteSpace c = false)
    (cut : ∀ c, rest.head? = some c → isWhiteSpace c = true) :
    readCall line =
      (readExpression (String.ofList rest)).map fun argument =>
        { name := String.ofList name, argument } := by
  have solid' : ∀ c ∈ name, (!isWhiteSpace c) = true := by simpa using solid
  have front : trimStartChars (name ++ rest) = name ++ rest := by
    obtain ⟨c, cs, rfl⟩ := List.exists_cons_of_ne_nil named
    exact trimStartChars_cons_solid (solid c List.mem_cons_self) _
  -- the name's run stops where `rest` starts, at white space or at the end
  have stop : rest.takeWhile (fun c => !isWhiteSpace c) = [] ∧
      rest.dropWhile (fun c => !isWhiteSpace c) = rest := by
    cases rest with
    | nil => exact ⟨rfl, rfl⟩
    | cons c cs =>
      have blank : isWhiteSpace c = true := cut c rfl
      exact ⟨List.takeWhile_cons_of_neg (by simp [blank]),
        List.dropWhile_cons_of_neg (by simp [blank])⟩
  rw [@readCall_enclosed line (name ++ rest) (by simpa using enclosed), front,
    List.takeWhile_append_of_pos solid', List.dropWhile_append_of_pos solid', stop.1, stop.2,
    List.append_nil, if_neg named]

theorem readCall_blank {line : String} {inner : List Char}
    (enclosed : trimChars line.toList = '<' :: inner ++ ['>'])
    (blank : ∀ c ∈ inner, isWhiteSpace c = true) : readCall line = .error .missingName := by
  have empty : trimStartChars inner = [] := List.dropWhile_eq_nil_iff.2 blank
  rw [readCall_enclosed enclosed, empty]
  rfl

theorem readCall_not_enclosed {line : String}
    (bare : ¬((trimChars line.toList).head? = some '<' ∧
      (trimChars line.toList).getLast? = some '>')) :
    readCall line = .error (.notACall (String.ofList (trimChars line.toList))) := by
  unfold readCall
  exact if_neg fun enclosed => bare ⟨enclosed.1, enclosed.2.1⟩

theorem readExpression_blank (t : String) :
    readExpression (String.ofList (' ' :: t.toList)) = readExpression t := by
  simp only [readExpression, String.toList_ofList, readTerms_blank]

/-- A call line splits into its name and its argument. For white space `w₁` and `w₂`, a name `n`
with no white space and any text `t`, the line `w₁ ++ "<" ++ n ++ " " ++ t ++ ">" ++ w₂` reads as
the call of `n` on what `t` reads as, and fails with the very fault that reading `t` fails
with. A line that, trimmed, does not start with `<` and end with `>` is no call; one with only
white space between them has no name. -/
theorem readCall_splits :
    (∀ w₁ n t w₂ : String, (∀ c ∈ w₁.toList, isWhiteSpace c = true) →
      (∀ c ∈ w₂.toList, isWhiteSpace c = true) → n ≠ "" →
      (∀ c ∈ n.toList, isWhiteSpace c = false) →
      readCall (w₁ ++ "<" ++ n ++ " " ++ t ++ ">" ++ w₂) =
        (readExpression t).map fun argument => { name := n, argument }) ∧
    (∀ line : String, ¬((trimChars line.toList).head? = some '<' ∧
        (trimChars line.toList).getLast? = some '>') →
      readCall line = .error (.notACall (String.ofList (trimChars line.toList)))) ∧
    (∀ (line : String) (inner : List Char), trimChars line.toList = '<' :: inner ++ ['>'] →
      (∀ c ∈ inner, isWhiteSpace c = true) → readCall line = .error .missingName) := by
  refine ⟨fun w₁ n t w₂ blank₁ blank₂ named solid => ?_, fun _ => readCall_not_enclosed,
    fun _ _ => readCall_blank⟩
  have chars : (w₁ ++ "<" ++ n ++ " " ++ t ++ ">" ++ w₂).toList =
      w₁.toList ++ '<' :: (n.toList ++ ' ' :: t.toList) ++ '>' :: w₂.toList := by
    simp
  have trimmed : trimChars (w₁ ++ "<" ++ n ++ " " ++ t ++ ">" ++ w₂).toList =
      '<' :: n.toList ++ (' ' :: t.toList) ++ ['>'] := by
    rw [chars, trimChars_padded blank₁ blank₂ (by decide) (by decide)]
    simp
  rw [readCall_named trimmed (by simpa using named) solid (fun c first => by cases first; decide),
    readExpression_blank, String.ofList_toList]

/-- An ideographic space in front, a tab behind, and an argument that holds a group. -/
theorem readCall_splits_padded :
    (∀ c ∈ "\u3000".toList, isWhiteSpace c = true) ∧ (∀ c ∈ "\t".toList, isWhiteSpace c = true) ∧
      "Br" ≠ "" ∧ (∀ c ∈ "Br".toList, isWhiteSpace c = false) ∧
      readCall ("\u3000" ++ "<" ++ "Br" ++ " " ++ "k (v 1)" ++ ">" ++ "\t") =
        (readExpression "k (v 1)").map fun argument => { name := "Br", argument } := by
  -- one character at a time: deciding over the whole text unfolds it too deep
  have front : ∀ c ∈ "\u3000".toList, isWhiteSpace c = true := by
    intro c mem
    simp at mem
    subst mem
    decide
  have back : ∀ c ∈ "\t".toList, isWhiteSpace c = true := by
    intro c mem
    simp at mem
    subst mem
    decide
  have solid : ∀ c ∈ "Br".toList, isWhiteSpace c = false := by
    intro c mem
    simp at mem
    rcases mem with rfl | rfl <;> decide
  exact ⟨front, back, by decide, solid,
    readCall_splits.1 _ _ _ _ front back (by decide) solid⟩

end Refal.Literal
