import Refal.Proofs.Arithmetic
import Refal.Proofs.Effects
import Refal.Proofs.Numeral

/-!
# Numbers as terms

The library writes an integer as one number symbol in the narrowest of the three widths that
holds it (`Term.number`): 32 bits, else 64 bits, else unbounded. It encodes a signed integer as
its magnitude so written, after a `'-'` when the integer is negative (`Numeral.toTerms`). The
width belongs to the symbol, so where an integer and its magnitude fall on either side of a width
boundary the encoding changes width: the magnitude of the smallest 32-bit integer needs 64 bits,
that of the smallest 64-bit integer needs the unbounded width.

Main statements: every number symbol of the encoding is not negative and in the narrowest width,
and the signed scan reads the encoding back; the text of the encoding, like that of the single
narrowest symbol, is the integer's decimal text, which `Numb` reads back into the single
narrowest symbol of the signed value, so `Numb` on its own value gives that value again.
-/

namespace Refal

namespace Term

theorem text_of_value? {t : Term} {m : Int} (h : t.value? = some m) : t.text = toString m := by
  cases t <;> simp_all [value?, text]

@[simp]
theorem text_number (n : Int) : (number n).text = toString n := text_of_value? (value?_number n)

theorem FitsSmall.fitsWide {n : Int} (h : FitsSmall n) : FitsWide n := by
  unfold FitsSmall at h
  unfold FitsWide
  omega

/-- The width that `Term.number` picks: 32 bits exactly when the value fits them, 64 bits when it
fits those and not 32, unbounded when it does not fit 64. -/
theorem number_width (m : Int) :
    ((∃ x, number m = .small x) ↔ FitsSmall m) ∧
      ((∃ x, number m = .wide x) ↔ FitsWide m ∧ ¬ FitsSmall m) ∧
      ((∃ x, number m = .big x) ↔ ¬ FitsWide m) := by
  unfold number
  by_cases small : FitsSmall m
  · simp [small, small.fitsWide]
  · by_cases wide : FitsWide m <;> simp [small, wide]

end Term

namespace Numeral

theorem toTerms_eq (n : Int) :
    toTerms n = if 0 ≤ n then [Term.number n] else [.char '-', Term.number (-n)] := by
  unfold toTerms
  by_cases negative : n < 0
  · simp [negative, show ¬ 0 ≤ n by omega]
  · simp [negative, show 0 ≤ n by omega]

/-- Every number symbol of an encoding is the narrowest symbol of a magnitude. -/
theorem number_of_mem_toTerms {n : Int} {t : Term} (mem : t ∈ toTerms n) {m : Int}
    (value : t.value? = some m) : 0 ≤ m ∧ t = Term.number m := by
  -- the `'-'` has no value, so `t` is the magnitude's symbol
  obtain ⟨k, nonnegative, rfl⟩ : ∃ k, 0 ≤ k ∧ t = Term.number k := by
    rw [toTerms_eq] at mem
    split at mem <;> rename_i sign
    · exact ⟨n, sign, List.mem_singleton.1 mem⟩
    · simp only [List.mem_cons, List.not_mem_nil, or_false] at mem
      rcases mem with rfl | rfl
      · simp [Term.value?] at value
      · exact ⟨-n, by omega, rfl⟩
  rw [Term.value?_number, Option.some.injEq] at value
  subst value
  exact ⟨nonnegative, rfl⟩

theorem toTerms_ne_nil (n : Int) : toTerms n ≠ [] := by
  unfold toTerms
  split <;> simp

/-- The encoding renders as the integer's decimal text: the `'-'` glues to the magnitude. -/
theorem render_toTerms (n : Int) : Expr.render (toTerms n) = toString n := by
  unfold toTerms
  split
  · rename_i negative
    have text : toString n = "-" ++ toString (-n) := by
      simp only [Int.toString_eq_repr, Int.repr_eq_if, show ¬ 0 ≤ n by omega,
        show 0 ≤ -n by omega, if_true, if_false]
    calc Expr.render [.char '-', Term.number (-n)]
        = "-" ++ Expr.render [Term.number (-n)] := by
          simp [Expr.render, Expr.renderAfter, Term.isSpaced, Term.text]
      _ = toString n := by rw [Library.Expr.render_single, Term.text_number, text]
  · rw [Library.Expr.render_single, Term.text_number]

/-- The encoding of an integer is its narrowest symbol, or, when it is negative, a `'-'` and the
narrowest symbol of its magnitude. Every number symbol in it is not negative and in the narrowest
width: 32 bits exactly when the value fits them, 64 bits when it fits those and not 32, unbounded
otherwise; so the magnitude of the smallest 32-bit integer takes 64 bits and that of the smallest
64-bit integer the unbounded width. The signed scan reads every encoding back. -/
theorem toTerms_narrowest (b : String) (n : Int) :
    toTerms n = (if 0 ≤ n then [Term.number n] else [.char '-', Term.number (-n)]) ∧
      (∀ t ∈ toTerms n, ∀ m, t.value? = some m →
        0 ≤ m ∧ ((∃ x, t = .small x) ↔ Term.FitsSmall m) ∧
          ((∃ x, t = .wide x) ↔ Term.FitsWide m ∧ ¬ Term.FitsSmall m) ∧
          ((∃ x, t = .big x) ↔ ¬ Term.FitsWide m)) ∧
      toTerms (-2147483648) = [.char '-', .wide 2147483648] ∧
      toTerms (-9223372036854775808) = [.char '-', .big 9223372036854775808] ∧
      Library.signedScan b (toTerms n) = .ok n := by
  refine ⟨toTerms_eq n, ?_, by decide, by decide, Library.signedScan_toTerms b n⟩
  intro t mem m value
  obtain ⟨nonnegative, rfl⟩ := number_of_mem_toTerms mem value
  exact ⟨nonnegative, Term.number_width m⟩

end Numeral

namespace Library

open Refal.Numeral

theorem numbOf_toTerms (n : Int) : numbOf (toTerms n) = .ok [Term.number n] := by
  rw [numbOf, if_neg (toTerms_ne_nil n), render_toTerms, wordValue_toString]
  rfl

theorem numbOf_number (n : Int) : numbOf [Term.number n] = .ok [Term.number n] := by
  rw [numbOf, if_neg (List.cons_ne_nil _ _), Expr.render_single, Term.text_number,
    wordValue_toString]
  rfl

theorem call_numb (lib : Library) (e : Expr) : lib.call "Numb" e = lib.giveOrFail (numbOf e) :=
  @call_eq_apply lib "Numb" .numb rfl e

/-- Rendering and `Numb` read numbers back. On behalf of any built-in, the text of an integer's
encoding, and that of its narrowest symbol, read back as the integer. So `Numb` turns the
encoding into the single narrowest symbol of the signed value (a `'-'` before the unbounded
`2^63` becomes the smallest 64-bit symbol), and `Numb` on a nonempty value of its own answers
as it did. -/
theorem numb_reads_numbers_back (lib : Library) (b : String) (n : Int) :
    wordValue b (Expr.render (toTerms n)) = .ok n ∧
      wordValue b (Expr.render [Term.number n]) = .ok n ∧
      lib.call "Numb" (toTerms n) = lib.give [Term.number n] ∧
      lib.call "Numb" [.char '-', .big 9223372036854775808] =
        lib.give [.wide (-9223372036854775808)] ∧
      (∀ e v, (lib.call "Numb" e).result = .ok (.value v) → v ≠ [] →
        lib.call "Numb" v = lib.call "Numb" e) := by
  have encoded : ∀ n, lib.call "Numb" (toTerms n) = lib.give [Term.number n] := by
    intro n
    rw [call_numb, numbOf_toTerms]
    rfl
  refine ⟨?_, ?_, encoded n, ?_, ?_⟩
  · rw [render_toTerms]
    exact wordValue_toString b n
  · rw [Expr.render_single, Term.text_number]
    exact wordValue_toString b n
  · have minimum : toTerms (-9223372036854775808) = [.char '-', .big 9223372036854775808] := by
      decide
    have narrowest : Term.number (-9223372036854775808) = .wide (-9223372036854775808) := by
      decide
    rw [← minimum, ← narrowest]
    exact encoded _
  · intro e v answer nonempty
    rw [call_numb] at answer
    have value := giveOrFail_value answer
    obtain ⟨m, rfl⟩ := (numbOf_value value).resolve_left nonempty
    rw [call_numb, call_numb, numbOf_number, value]

end Library

end Refal
