import Refal.Proofs.Balance

/-!
# Arithmetic on the library's own numbers

The arithmetic built-ins read what the library writes. An integer is written as its magnitude in
the narrowest width, after a `'-'` when it is negative; the signed scan skips the brackets around
such terms and reads the sign back. So a call on the first operand's terms in brackets, followed
by the second operand's terms, computes the operation on the two integers and writes the result
the same way; when the first operand is not negative its terms need no brackets. Division
truncates toward zero and fails on a zero divisor. No call of these changes the library.
-/

namespace Refal.Library

theorem termValue_number (b : String) (n : Int) : termValue b (Term.number n) = .ok n := by
  have value : (Term.number n).value? = some n := Term.value?_number n
  unfold Term.number at value ⊢
  split
  · simp_all [termValue]
  · split <;> simp_all [termValue]

theorem Term.number_ne_minus (n : Int) : Term.number n ≠ .char '-' := by
  unfold Term.number
  split
  · simp
  · split <;> simp

theorem scanFrom_number (b : String) (negative : Bool) (n : Int) (rest : Expr) :
    scanFrom b negative (Term.number n :: rest) = .ok (if negative then -n else n) := by
  simp [scanFrom, Term.number_ne_minus, termValue_number, Except.map]

theorem scanFrom_minus (b : String) (negative : Bool) (rest : Expr) :
    scanFrom b negative (.char '-' :: rest) = scanFrom b (!negative) rest := by
  simp [scanFrom]

theorem scanFrom_openBracket (b : String) (negative : Bool) (rest : Expr) :
    scanFrom b negative (.openBracket :: rest) = scanFrom b negative rest := by
  simp [scanFrom, Term.isSpaced]

/-- The signed scan reads an encoded integer back, whatever follows it. -/
theorem scanFrom_toTerms (b : String) (negative : Bool) (n : Int) (rest : Expr) :
    scanFrom b negative (Numeral.toTerms n ++ rest) = .ok (if negative then -n else n) := by
  unfold Numeral.toTerms
  split
  · -- the `'-'` flips the sign in front of the magnitude `-n`
    rw [List.cons_append, List.singleton_append, scanFrom_minus, scanFrom_number]
    cases negative <;> simp
  · rw [List.singleton_append, scanFrom_number]

theorem signedScan_toTerms (b : String) (n : Int) : signedScan b (Numeral.toTerms n) = .ok n := by
  simpa [signedScan] using scanFrom_toTerms b false n []

theorem signedScan_bracketed_toTerms (b : String) (n : Int) :
    signedScan b (Expr.bracketed (Numeral.toTerms n)) = .ok n := by
  simpa [signedScan, Expr.bracketed, scanFrom_openBracket] using
    scanFrom_toTerms b false n [.closeBracket]

/-- The two operands of an encoded pair: the first in brackets, or bare when it is not
negative. -/
theorem operands_encoded (b : String) (x y : Int) (arg : Expr)
    (encoded : arg = Expr.bracketed (Numeral.toTerms x) ++ Numeral.toTerms y ∨
      (0 ≤ x ∧ arg = Numeral.toTerms x ++ Numeral.toTerms y)) :
    operands b arg = .ok (x, y) := by
  rcases encoded with rfl | ⟨nonnegative, rfl⟩
  · have balanced : Expr.Balanced (Numeral.toTerms x) :=
      Expr.balanced_of_symbols (symbols_toTerms x)
    simp only [operands, Expr.leadingTerm_bracketed balanced]
    -- a group in brackets is never a single term, so its signed scan gives the operand
    have first := signedScan_bracketed_toTerms b x
    obtain ⟨t, tail, shape⟩ :
        ∃ t tail, Expr.bracketed (Numeral.toTerms x) = .openBracket :: t :: tail := by
      unfold Numeral.toTerms
      split <;> exact ⟨_, _, rfl⟩
    rw [shape] at first ⊢
    simp [first, signedScan_toTerms, bind, Except.bind, pure, Except.pure]
  · have plain : Numeral.toTerms x = [Term.number x] := by
      simp [Numeral.toTerms, show ¬x < 0 by omega]
    rw [plain, List.singleton_append, operands, Expr.leadingTerm_symbol (Term.isBracket_number x)]
    simp [termValue_number, signedScan_toTerms, bind, Except.bind, pure, Except.pure]

/-- Arithmetic is closed under the library's encoding of integers. On the first operand's terms
in brackets followed by the second's, or on the two unbracketed when the first is not negative,
the built-in returns the encoded sum, difference, product, or quotient truncated toward zero, and
division by zero fails; the library is left as it was and nothing is written. -/
theorem arithmetic_closed (lib : Library) (name : String) (op : ArithOp)
    (named : Builtin.ofName? name = some (.arith op)) (a b : Int) (arg : Expr)
    (encoded : arg = Expr.bracketed (Numeral.toTerms a) ++ Numeral.toTerms b ∨
      (0 ≤ a ∧ arg = Numeral.toTerms a ++ Numeral.toTerms b)) :
    lib.call name arg =
      match op with
      | .add => lib.give (Numeral.toTerms (a + b))
      | .sub => lib.give (Numeral.toTerms (a - b))
      | .mul => lib.give (Numeral.toTerms (a * b))
      | .div =>
        if b = 0 then lib.fail .divideByZero else lib.give (Numeral.toTerms (a.tdiv b)) := by
  rw [call_eq_apply named]
  have read := operands_encoded op.name a b arg encoded
  cases op with
  | div =>
    by_cases zero : b = 0
    · simp [apply, ArithOp.apply, read, ArithOp.eval, zero, bind, Except.bind, giveOrFail]
    · simp [apply, ArithOp.apply, read, ArithOp.eval, zero, bind, Except.bind, pure, Except.pure,
        giveOrFail]
  | _ => simp [apply, ArithOp.apply, read, ArithOp.eval, bind, Except.bind, pure, Except.pure,
      giveOrFail]

/-- Dividing the smallest 64-bit integer by `-1` gives a magnitude that needs the unbounded
width. -/
theorem arithmetic_closed_overflowing_quotient :
    Builtin.ofName? "/" = some (.arith .div) ∧
      ({} : Library).call "/" (Expr.bracketed (Numeral.toTerms (-9223372036854775808)) ++
          Numeral.toTerms (-1)) =
        ({} : Library).give [.big 9223372036854775808] := by
  have named : Builtin.ofName? "/" = some (.arith .div) := rfl
  refine ⟨named, ?_⟩
  rw [arithmetic_closed {} "/" .div named (-9223372036854775808) (-1) _ (.inl rfl)]
  rfl

end Refal.Library
