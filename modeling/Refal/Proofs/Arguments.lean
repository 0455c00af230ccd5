import Refal.Proofs.Operands
import Refal.Proofs.Session

/-!
# The program's arguments

`Arg` gives the program argument at the position that the first term of its argument stands for,
counting from one, as characters. A number stands for its value, a word for the integer that its
numeral spells, and a character or a bracket for zero (`Term.StandsFor`); a word that is no
numeral fails the call. The position is an unbounded integer, and every position that names no
argument (zero, a negative one, one past the last argument, however large) gives the empty value.
The first term is looked at only when there is one and the program has arguments: otherwise the
value is empty, whatever the term.

Main statement: `Arg` answers by these rules on every argument and every list of program
arguments, and leaves the library as it was.
-/

namespace Refal.Term

/-- The integer that a term stands for as a position: a number its value, a word the integer that
its numeral spells, a character or a bracket zero. -/
inductive StandsFor : Term → Int → Prop
  | number {t : Term} {n : Int} : t.value? = some n → StandsFor t n
  | numeral {w : String} {n : Int} : Numeral.Spells (Text.trimChars w.toList) n →
      StandsFor (.word w) n
  | char (c : Char) : StandsFor (.char c) 0
  | openBracket : StandsFor .openBracket 0
  | closeBracket : StandsFor .closeBracket 0

end Refal.Term

namespace Refal.Library

open Refal.Numeral Refal.Text

variable {b : String}

/-! ## The integer of one term -/

theorem termValue_eq_ok_iff {t : Term} {n : Int} : termValue b t = .ok n ↔ t.StandsFor n := by
  constructor
  · intro value
    cases t with
    | word w =>
      rw [termValue, wordValue, parseIntegerWith_eq_ok_iff decimalOf?_reads] at value
      exact .numeral value
    | char c => cases value; exact .char c
    | openBracket => cases value; exact .openBracket
    | closeBracket => cases value; exact .closeBracket
    | small x => cases value; exact .number rfl
    | wide x => cases value; exact .number rfl
    | big x => cases value; exact .number rfl
  · intro stands
    cases stands with
    | number value =>
      -- only number symbols have a value, and for them the term's value is the one read
      cases t <;> simp_all [termValue, Term.value?]
    | numeral spells => rwa [termValue, wordValue, parseIntegerWith_eq_ok_iff decimalOf?_reads]
    | char c => rfl
    | openBracket => rfl
    | closeBracket => rfl

/-- A term fails to give an integer exactly when it is a word that is no numeral; the failure
names the word. -/
theorem termValue_eq_error_iff {t : Term} {w : String} :
    termValue b t = .error (.parseFailure b w) ↔
      t = .word w ∧ ∀ n, ¬ Spells (trimChars w.toList) n := by
  constructor
  · intro failed
    obtain ⟨v, rfl, named⟩ := termValue_error _ failed
    cases named
    exact ⟨rfl, fun n spells =>
      absurd (termValue_eq_ok_iff.2 (.numeral spells)) (by rw [failed]; simp)⟩
  · rintro ⟨rfl, notNumeral⟩
    rcases @parseIntegerWith_cases decimalOf? b w with failure | ⟨n, success⟩
    · exact failure
    · exact absurd ((parseIntegerWith_eq_ok_iff decimalOf?_reads).1 success) (notNumeral n)

/-- Every term is a word that is no numeral, or stands for an integer. -/
theorem notNumeral_or_standsFor (t : Term) :
    (∃ w, t = .word w ∧ ∀ n, ¬ Spells (trimChars w.toList) n) ∨ ∃ n, t.StandsFor n := by
  cases value : termValue "Arg" t with
  | ok n => exact .inr ⟨n, termValue_eq_ok_iff.1 value⟩
  | error f =>
    obtain ⟨w, rfl, rfl⟩ := termValue_error _ value
    exact .inl ⟨w, rfl, (termValue_eq_error_iff.1 value).2⟩

/-! ## `Arg` -/

theorem call_arg (lib : Library) (e : Expr) : lib.call "Arg" e = lib.arg e :=
  @call_eq_apply lib "Arg" .arg rfl e

theorem arg_empty (lib : Library) {e : Expr} (empty : e = [] ∨ lib.arguments = []) :
    lib.arg e = lib.give [] := by
  rcases empty with rfl | none
  · rfl
  · cases e <;> simp [arg, none]

/-- With program arguments, the first term's integer picks the argument, counting from one. -/
theorem arg_cons (lib : Library) {t : Term} (rest : Expr) (given : lib.arguments ≠ []) :
    lib.arg (t :: rest) =
      match termValue "Arg" t with
      | .error f => lib.fail f
      | .ok n => lib.give
        (if 1 ≤ n then (lib.arguments[n.toNat - 1]?.map Expr.ofChars).getD [] else []) := by
  obtain ⟨a, as, listed⟩ := List.exists_cons_of_ne_nil given
  simp only [arg, listed]
  cases termValue "Arg" t with
  | error f => rfl
  | ok n =>
    simp only
    split
    · cases (a :: as)[n.toNat - 1]? <;> rfl
    · rfl

theorem arg_at {lib : Library} {t : Term} {n : Int} (rest : Expr) (given : lib.arguments ≠ [])
    (value : termValue "Arg" t = .ok n) (i : Nat) (inside : i < lib.arguments.length)
    (position : (i : Int) + 1 = n) :
    lib.arg (t :: rest) = lib.give (Expr.ofChars lib.arguments[i]) := by
  have index : n.toNat - 1 = i := by omega
  rw [arg_cons lib rest given, value]
  simp only
  rw [if_pos (by omega), index, List.getElem?_eq_getElem inside]
  rfl

/-- A position below one or past the last argument gives the empty value. -/
theorem arg_outside {lib : Library} {t : Term} {n : Int} (rest : Expr) (given : lib.arguments ≠ [])
    (value : termValue "Arg" t = .ok n) (outside : n < 1 ∨ (lib.arguments.length : Int) < n) :
    lib.arg (t :: rest) = lib.give [] := by
  rw [arg_cons lib rest given, value]
  simp only
  split
  · rename_i positive
    have past : lib.arguments.length ≤ n.toNat - 1 := by omega
    rw [List.getElem?_eq_none past]
    rfl
  · rfl

theorem arg_fails {lib : Library} {t : Term} {f : Fault} (rest : Expr) (given : lib.arguments ≠ [])
    (failed : termValue "Arg" t = .error f) : lib.arg (t :: rest) = lib.fail f := by
  rw [arg_cons lib rest given, failed]

/-- `Arg` indexes the program's arguments safely. With an empty argument or no program
arguments the value is empty, even when the first term is a word that is no numeral. Otherwise
`Arg` fails, naming the word `w`, exactly when its first term is the word `w` and `w` is no
numeral; every other first term stands for an integer `n`, and the value is the characters of
the `n`-th program argument when `1 ≤ n ≤` their number, and empty for every other `n`: zero,
negative, or past the last argument however large. The library is left as it was. -/
theorem arg_indexes_safely (lib : Library) (e : Expr) :
    (e = [] ∨ lib.arguments = [] → lib.call "Arg" e = lib.give []) ∧
    ∀ t rest, e = t :: rest → lib.arguments ≠ [] →
      (∀ w, lib.call "Arg" e = lib.fail (.parseFailure "Arg" w) ↔
        t = .word w ∧ ∀ n, ¬ Spells (trimChars w.toList) n) ∧
      ((∃ w, t = .word w ∧ ∀ n, ¬ Spells (trimChars w.toList) n) ∨ ∃ n, t.StandsFor n) ∧
      ∀ n, t.StandsFor n →
        (∀ i (inside : i < lib.arguments.length), (i : Int) + 1 = n →
          lib.call "Arg" e = lib.give (Expr.ofChars lib.arguments[i])) ∧
        (n < 1 ∨ (lib.arguments.length : Int) < n → lib.call "Arg" e = lib.give []) := by
  refine ⟨fun empty => (call_arg lib e).trans (arg_empty lib empty), ?_⟩
  rintro t rest rfl given
  rw [call_arg]
  refine ⟨fun w => ⟨fun failed => ?_, fun notNumeral => ?_⟩, notNumeral_or_standsFor t,
    fun n stands => ?_⟩
  · -- a value is no failure, so the first term's integer failed, and with this fault
    cases value : termValue "Arg" t with
    | ok n =>
      rw [arg_cons lib rest given, value] at failed
      cases failed
    | error f =>
      rw [arg_fails rest given value] at failed
      cases failed
      exact termValue_eq_error_iff.1 value
  · exact arg_fails rest given (termValue_eq_error_iff.2 notNumeral)
  · have value : termValue "Arg" t = .ok n := termValue_eq_ok_iff.2 stands
    exact ⟨fun i inside position => arg_at rest given value i inside position,
      fun outside => arg_outside rest given value outside⟩

end Refal.Library
