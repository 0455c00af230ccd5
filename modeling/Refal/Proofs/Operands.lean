import Refal.Proofs.Arithmetic
import Refal.Proofs.Numeral
import Refal.Proofs.TermEnd

/-!
# The operands of arithmetic

An arithmetic built-in reads two integers out of any argument. The first term gives the first
operand: a number its value, a word its numeral, any other symbol zero, a lone `'-'` included,
since no sign is read there; a group gives the signed scan of its terms. The signed scan of the
rest gives the second operand.

The signed scan is said here by position (`positionalScan`): the first number or word decides,
negated once for each `'-'` before it, and all else before it, brackets and other characters, is
skipped, as is everything after it; with no number and no word it is zero. So a word that is no
numeral fails the call only when the scan stops at it, and the first operand fails before the
second is read. Only an empty argument has no first term, and division by zero fails only when
both operands are read and the second is zero.
-/

namespace Refal.Library

/-- The signed scan said by position: the value of the first number or word, negated once for
each `'-'` before it, or zero when there is none. -/
def positionalScan (b : String) (ts : Expr) : Except Fault Int :=
  let k := ts.findIdx Term.isSpaced
  match ts[k]? with
  | none => .ok 0
  | some t => (termValue b t).map fun m => (-1) ^ (ts.take k).count (.char '-') * m

/-! ## The scan by position -/

section Scan

variable (b : String)

theorem positionalScan_nil : positionalScan b [] = .ok 0 := rfl

theorem positionalScan_cons_spaced {t : Term} (spaced : t.isSpaced = true) (ts : Expr) :
    positionalScan b (t :: ts) = termValue b t := by
  have first : (t :: ts).findIdx Term.isSpaced = 0 := by simp [List.findIdx_cons, spaced]
  simp only [positionalScan, first, List.getElem?_cons_zero, List.take_zero, List.count_nil,
    pow_zero, one_mul]
  cases termValue b t <;> rfl

theorem positionalScan_cons_skipped {t : Term} (skipped : t.isSpaced = false) (ts : Expr) :
    positionalScan b (t :: ts) =
      (positionalScan b ts).map fun m => if t = .char '-' then -m else m := by
  simp only [positionalScan, List.findIdx_cons, skipped, cond_false, List.getElem?_cons_succ,
    List.take_succ_cons, List.count_cons]
  rcases ts[ts.findIdx Term.isSpaced]? with _ | t'
  · by_cases minus : t = .char '-' <;> simp [Except.map, minus]
  · cases value : termValue b t' <;> by_cases minus : t = .char '-' <;>
      simp [Except.map, value, minus, pow_succ]

/-- The loop with its sign flag is the scan by position, negated when an odd number of `'-'`
came before. -/
theorem scanFrom_eq_positionalScan (negative : Bool) (ts : Expr) :
    scanFrom b negative ts = (positionalScan b ts).map fun m => if negative then -m else m := by
  induction ts generalizing negative with
  | nil => cases negative <;> rfl
  | cons t ts ih =>
    by_cases minus : t = .char '-'
    · subst minus
      rw [scanFrom_minus, ih, positionalScan_cons_skipped b rfl]
      cases positionalScan b ts <;> cases negative <;> simp [Except.map]
    · cases spaced : t.isSpaced
      · rw [scanFrom, if_neg minus, if_neg (by simp [spaced]), ih,
          positionalScan_cons_skipped b spaced]
        cases positionalScan b ts <;> simp [Except.map, minus]
      · rw [scanFrom, if_neg minus, if_pos spaced, positionalScan_cons_spaced b spaced]

theorem signedScan_eq_positionalScan (ts : Expr) : signedScan b ts = positionalScan b ts := by
  rw [signedScan, scanFrom_eq_positionalScan]
  cases positionalScan b ts <;> rfl

theorem termValue_error {t : Term} {f : Fault} (failed : termValue b t = .error f) :
    ∃ w, t = .word w ∧ f = .parseFailure b w := by
  cases t with
  | word w =>
    refine ⟨w, rfl, ?_⟩
    rcases @parseIntegerWith_cases Numeral.decimalOf? b w with
      failure | ⟨n, success⟩
    · rw [termValue, wordValue, failure] at failed
      cases failed
      rfl
    · rw [termValue, wordValue, success] at failed
      cases failed
  | _ => cases failed

/-- The scan fails only at the word it stops at. -/
theorem positionalScan_error {ts : Expr} {f : Fault} (failed : positionalScan b ts = .error f) :
    ∃ w, ts[ts.findIdx Term.isSpaced]? = some (.word w) ∧ f = .parseFailure b w := by
  rcases found : ts[ts.findIdx Term.isSpaced]? with _ | t
  · simp only [positionalScan, found] at failed
    cases failed
  · cases value : termValue b t with
    | error g =>
      simp only [positionalScan, found, value, Except.map] at failed
      cases failed
      obtain ⟨w, rfl, rfl⟩ := termValue_error b value
      exact ⟨w, rfl, rfl⟩
    | ok m =>
      simp only [positionalScan, found, value, Except.map] at failed
      cases failed

end Scan

/-! ## The two operands -/

/-- The first operand as the leading term gives it: a lone term by its own value, with no sign
read, and a group by the signed scan of its terms. -/
def firstOperand (b : String) : Expr → Except Fault Int
  | [t] => termValue b t
  | group => positionalScan b group

section Operands

variable (b : String)

theorem firstOperand_error {first : Expr} {f : Fault} (failed : firstOperand b first = .error f) :
    ∃ w, f = .parseFailure b w := by
  unfold firstOperand at failed
  split at failed
  · obtain ⟨w, -, rfl⟩ := termValue_error b failed
    exact ⟨w, rfl⟩
  · obtain ⟨w, -, rfl⟩ := positionalScan_error b failed
    exact ⟨w, rfl⟩

theorem operands_of_leadingTerm {e first rest : Expr}
    (cut : e.leadingTerm = some (first, rest)) :
    operands b e =
      match firstOperand b first, positionalScan b rest with
      | .error f, _ => .error f
      | .ok _, .error f => .error f
      | .ok x, .ok y => .ok (x, y) := by
  simp only [operands, cut, signedScan_eq_positionalScan]
  -- the first operand is read before the second, and its failure ends the reading
  rcases first with _ | ⟨t, _ | ⟨u, group⟩⟩
  · dsimp only [firstOperand]
    cases positionalScan b rest <;> rfl
  · dsimp only [firstOperand]
    cases termValue b t <;> cases positionalScan b rest <;> rfl
  · dsimp only [firstOperand]
    cases positionalScan b (t :: u :: group) <;> cases positionalScan b rest <;> rfl

/-- An argument fails to give operands only when it has no first term, or at a word that is no
numeral. -/
theorem operands_error {e : Expr} {f : Fault} (failed : operands b e = .error f) :
    (e.leadingTerm = none ∧ f = .matchFailure b "t.1 e.2") ∨ ∃ w, f = .parseFailure b w := by
  cases cut : e.leadingTerm with
  | none =>
    simp only [operands, cut] at failed
    cases failed
    exact .inl ⟨rfl, rfl⟩
  | some parts =>
    obtain ⟨first, rest⟩ := parts
    rw [operands_of_leadingTerm b cut] at failed
    right
    cases first_value : firstOperand b first with
    | error g =>
      rw [first_value] at failed
      cases failed
      exact firstOperand_error b first_value
    | ok x =>
      cases second : positionalScan b rest with
      | error g =>
        rw [first_value, second] at failed
        cases failed
        obtain ⟨w, -, rfl⟩ := positionalScan_error b second
        exact ⟨w, rfl⟩
      | ok y =>
        rw [first_value, second] at failed
        cases failed

end Operands

/-- An arithmetic call fails as its operands do, or by division by zero once both are read. -/
theorem ArithOp.apply_eq_error (op : ArithOp) (e : Expr) (f : Fault) :
    op.apply e = .error f ↔ operands op.name e = .error f ∨
      (f = .divideByZero ∧ op = .div ∧ ∃ x, operands op.name e = .ok (x, 0)) := by
  cases read : operands op.name e with
  | error g =>
    simp [ArithOp.apply, read, bind, Except.bind]
  | ok pair =>
    obtain ⟨x, y⟩ := pair
    cases op <;> by_cases zero : y = 0 <;>
      simp [ArithOp.apply, read, bind, Except.bind, ArithOp.eval, pure, Except.pure, zero, eq_comm]

theorem result_giveOrFail (lib : Library) (r : Except Fault Expr) (f : Fault) :
    (lib.giveOrFail r).result = .error f ↔ r = .error f := by
  cases r <;> simp [giveOrFail, give, fail]

/-- The arithmetic built-ins read their operands by the permissive scan, on every balanced
argument. Only the empty argument fails to match. Otherwise the leading term gives the first
operand, a lone term by its own value (a number its value, a word its numeral, anything else
zero, with no sign read) and a group by the scan, and the scan of the rest gives the second. The
scan takes the first number or word, negated once for each `'-'` before it, and is zero when
there is none; it fails only at that word, and the first operand fails before the second is
read. Division by zero is reported only when both operands are read and the second is zero. -/
theorem arithmetic_operands_scan (lib : Library) (name : String) (op : ArithOp)
    (named : Builtin.ofName? name = some (.arith op)) (e : Expr) (balanced : e.Balanced) :
    ((∃ builtin shape, (lib.call name e).result = .error (.matchFailure builtin shape)) ↔
        e = []) ∧
      (∀ first rest, e.leadingTerm = some (first, rest) →
        operands op.name e =
          match firstOperand op.name first, positionalScan op.name rest with
          | .error f, _ => .error f
          | .ok _, .error f => .error f
          | .ok x, .ok y => .ok (x, y)) ∧
      (∀ ts f, positionalScan op.name ts = .error f →
        ∃ w, ts[ts.findIdx Term.isSpaced]? = some (.word w) ∧ f = .parseFailure op.name w) ∧
      ((lib.call name e).result = .error .divideByZero ↔
        op = .div ∧ ∃ x, operands op.name e = .ok (x, 0)) := by
  have result : ∀ f, (lib.call name e).result = .error f ↔ op.apply e = .error f := by
    intro f
    rw [call_eq_apply named, apply, result_giveOrFail]
  refine ⟨?_, fun first rest cut => operands_of_leadingTerm op.name cut,
    fun ts f failed => positionalScan_error op.name failed, ?_⟩
  · constructor
    · rintro ⟨builtin, shape, failed⟩
      rw [result, ArithOp.apply_eq_error] at failed
      -- neither a parse failure nor a division by zero is a match failure
      rcases failed with failed | ⟨different, -⟩
      · rcases operands_error op.name failed with ⟨missing, -⟩ | ⟨w, different⟩
        · by_contra nonempty
          obtain ⟨first, rest, cut, -⟩ := Expr.leadingTerm_of_balanced balanced nonempty
          rw [cut] at missing
          cases missing
        · cases different
      · cases different
    · rintro rfl
      exact ⟨op.name, "t.1 e.2", (result _).mpr rfl⟩
  · rw [result, ArithOp.apply_eq_error]
    constructor
    · rintro (failed | ⟨-, divides⟩)
      · rcases operands_error op.name failed with ⟨-, different⟩ | ⟨w, different⟩ <;>
          cases different
      · exact divides
    · exact fun divides => .inr ⟨rfl, divides⟩

/-- A group gives its own signed value, and two `'-'` around a letter cancel before a zero
divisor. -/
theorem arithmetic_operands_scan_zero_divisor :
    Builtin.ofName? "/" = some (.arith .div) ∧
      Expr.Balanced [.openBracket, .char 'x', .char '-', .small 7, .closeBracket, .char '-',
        .char 'a', .char '-', .small 0] ∧
      (({} : Library).call "/" [.openBracket, .char 'x', .char '-', .small 7, .closeBracket,
        .char '-', .char 'a', .char '-', .small 0]).result = .error .divideByZero := by
  have named : Builtin.ofName? "/" = some (.arith .div) := rfl
  have balanced : Expr.Balanced [.openBracket, .char 'x', .char '-', .small 7, .closeBracket,
      .char '-', .char 'a', .char '-', .small 0] := by decide
  refine ⟨named, balanced, ?_⟩
  refine ((arithmetic_operands_scan {} "/" .div named _ balanced).2.2.2).mpr ⟨rfl, -7, ?_⟩
  decide

example : operands "Sub" [.char '-', .small 3] = .ok (0, 3) := by decide

end Refal.Library
