import Mathlib.Data.List.Induction
import Mathlib.Data.List.TakeWhile
import Mathlib.Data.Nat.Digits.Defs
import Refal.Library.Arithmetic

/-!
# The numeral grammar

A numeral is one optional sign and one or more ASCII digits; it spells the digits' decimal value,
negated after `-` (`Numeral.Spells`). The library never tests that grammar: it cuts off every
leading sign, compares byte lengths so that at most one sign was cut, checks that ASCII digits
remain, and hands the text to the integer type's reading of decimal text, which would also take
`_` separators. The check lets through exactly the numerals (`passesCheck_iff`).

Main statement: for every reading of decimal text that reads a numeral as the integer it spells,
reading an integer out of a text succeeds with `n` exactly when the trimmed text spells `n`, and
fails otherwise with a parse failure that names the built-in and the text as given; the reading's
own failure is never reached. The library's reading, `Numeral.decimalOf?`, is such a reading, and
the decimal text of every integer spells it (`spells_toString`).
-/

namespace Refal.Text

open Refal.Unicode

/-! ## White space around numerals -/

theorem isWhiteSpace_eq_false {c : Char} (lo : 0x20 < c.toNat) (hi : c.toNat < 0x85) :
    isWhiteSpace c = false := by
  unfold isWhiteSpace RangeTable.contains RangeTable.containsCode whiteSpaceTable RangeTable.ofList
  dsimp only
  -- the code point lies above the first two ranges and below the third
  rw [memRanges, if_neg (by omega), if_neg (by omega), memRanges, if_neg (by omega),
    if_neg (by omega), memRanges, if_pos (by omega)]

theorem isWhiteSpace_of_isDigit {c : Char} (digit : c.isDigit = true) : isWhiteSpace c = false := by
  simp only [Char.isDigit, Bool.and_eq_true, decide_eq_true_eq, UInt32.le_iff_toNat_le,
    ge_iff_le] at digit
  have bounds : 48 ≤ c.toNat ∧ c.toNat ≤ 57 := digit
  exact isWhiteSpace_eq_false (by omega) (by omega)

theorem trimChars_eq_self {cs : List Char} (solid : ∀ c ∈ cs, isWhiteSpace c = false) :
    trimChars cs = cs := by
  have front : ∀ {xs : List Char}, (∀ c ∈ xs, isWhiteSpace c = false) →
      xs.dropWhile isWhiteSpace = xs :=
    fun solid => List.dropWhile_eq_self_iff.2 fun _ => by simp [solid _ (List.getElem_mem _)]
  rw [trimChars, trimStartChars, front solid, front (by simpa using solid), List.reverse_reverse]

end Refal.Text

namespace Refal.Numeral

open Refal.Text Refal.Unicode

/-! ## The grammar -/

/-- The value of decimal digits, most significant first, in positional notation. -/
def decimalValue (ds : List Char) : Nat :=
  Nat.ofDigits 10 (ds.reverse.map fun c => c.toNat - '0'.toNat)

def IsDigits (ds : List Char) : Prop := ds ≠ [] ∧ ∀ c ∈ ds, c.isDigit = true

/-- `cs` is a numeral of `n`: an optional sign and one or more ASCII digits, standing for the
digits' decimal value, negated after `-`. -/
inductive Spells : List Char → Int → Prop
  | unsigned {ds : List Char} : IsDigits ds → Spells ds (decimalValue ds)
  | plus {ds : List Char} : IsDigits ds → Spells ('+' :: ds) (decimalValue ds)
  | minus {ds : List Char} : IsDigits ds → Spells ('-' :: ds) (-(decimalValue ds : Int))

theorem digitsValue_eq_decimalValue (ds : List Char) : digitsValue ds = decimalValue ds := by
  induction ds using List.reverseRecOn with
  | nil => rfl
  | append_singleton ds d ih =>
    rw [digitsValue, List.foldl_append, ← digitsValue, ih]
    simp [decimalValue, Nat.ofDigits_cons]
    omega

theorem isSign_eq_false_of_isDigit {c : Char} (digit : c.isDigit = true) : isSign c = false := by
  simp only [isSign, Bool.or_eq_false_iff, beq_eq_false_iff_ne]
  constructor <;> (rintro rfl; revert digit; decide)

theorem eq_of_isSign {c : Char} (sign : isSign c = true) : c = '+' ∨ c = '-' := by
  simpa [isSign] using sign

theorem IsDigits.not_sign {ds : List Char} (digits : IsDigits ds) :
    ∃ d rest, ds = d :: rest ∧ isSign d = false := by
  obtain ⟨nonempty, allDigits⟩ := digits
  obtain ⟨d, rest, rfl⟩ := List.exists_cons_of_ne_nil nonempty
  exact ⟨d, rest, rfl, isSign_eq_false_of_isDigit (allDigits d List.mem_cons_self)⟩

/-! ## The check lets through exactly the numerals -/

theorem byteLength_append (xs ys : List Char) :
    byteLength (xs ++ ys) = byteLength xs + byteLength ys := by
  induction xs with
  | nil => simp [byteLength]
  | cons c xs ih => simp [byteLength, ih, Nat.add_assoc]

theorem utf8Size_of_isSign {c : Char} (sign : isSign c = true) : c.utf8Size = 1 := by
  rcases eq_of_isSign sign with rfl | rfl <;> rfl

theorem byteLength_of_signs {signs : List Char} (allSigns : ∀ c ∈ signs, isSign c = true) :
    byteLength signs = signs.length := by
  induction signs with
  | nil => rfl
  | cons s signs ih =>
    rw [byteLength, utf8Size_of_isSign (allSigns s List.mem_cons_self),
      ih (fun c mem => allSigns c (List.mem_cons_of_mem s mem)), List.length_cons, Nat.add_comm]

theorem dropWhile_isSign_digits {ds : List Char} (digits : IsDigits ds) :
    ds.dropWhile isSign = ds := by
  obtain ⟨d, rest, rfl, notSign⟩ := digits.not_sign
  exact List.dropWhile_cons_of_neg (by simp [notSign])

theorem passesCheck_digits {ds : List Char} (digits : IsDigits ds) : passesCheck ds = true := by
  simpa [passesCheck, dropWhile_isSign_digits digits, digits.1] using digits.2

theorem passesCheck_sign {s : Char} {ds : List Char} (sign : isSign s = true)
    (digits : IsDigits ds) : passesCheck (s :: ds) = true := by
  have bytes : byteLength (s :: ds) = byteLength ds + 1 := by
    rw [byteLength, utf8Size_of_isSign sign, Nat.add_comm]
  simpa [passesCheck, List.dropWhile_cons_of_pos sign, dropWhile_isSign_digits digits, bytes,
    digits.1] using digits.2

theorem passesCheck_of_spells {cs : List Char} {n : Int} (h : Spells cs n) :
    passesCheck cs = true := by
  cases h with
  | unsigned digits => exact passesCheck_digits digits
  | plus digits => exact passesCheck_sign rfl digits
  | minus digits => exact passesCheck_sign rfl digits

/-- Text that passes the check is a numeral: what the check cuts off is at most one sign, since
each sign takes one byte, and what remains is digits. -/
theorem spells_of_passesCheck {cs : List Char} (check : passesCheck cs = true) :
    ∃ n, Spells cs n := by
  simp only [passesCheck, Bool.and_eq_true, Bool.not_eq_true', List.isEmpty_eq_false_iff,
    decide_eq_true_eq, List.all_eq_true] at check
  obtain ⟨⟨nonempty, bytes⟩, allDigits⟩ := check
  have digits : IsDigits (cs.dropWhile isSign) := ⟨nonempty, allDigits⟩
  have allSigns : ∀ c ∈ cs.takeWhile isSign, isSign c = true :=
    fun _ mem => List.mem_takeWhile_imp mem
  have whole : cs.takeWhile isSign ++ cs.dropWhile isSign = cs := List.takeWhile_append_dropWhile
  have total : byteLength cs = (cs.takeWhile isSign).length + byteLength (cs.dropWhile isSign) := by
    conv_lhs => rw [← whole]
    rw [byteLength_append, byteLength_of_signs allSigns]
  have oneSign : (cs.takeWhile isSign).length ≤ 1 := by omega
  -- at most one sign was cut off: none, or one `+`, or one `-`
  match signs : cs.takeWhile isSign, allSigns, oneSign with
  | [], _, _ =>
    rw [signs, List.nil_append] at whole
    exact ⟨_, whole ▸ Spells.unsigned digits⟩
  | [s], allSigns, _ =>
    rw [signs, List.singleton_append] at whole
    rcases eq_of_isSign (allSigns s List.mem_cons_self) with rfl | rfl
    · exact ⟨_, whole ▸ Spells.plus digits⟩
    · exact ⟨_, whole ▸ Spells.minus digits⟩

theorem passesCheck_iff {cs : List Char} : passesCheck cs = true ↔ ∃ n, Spells cs n :=
  ⟨spells_of_passesCheck, fun ⟨_, h⟩ => passesCheck_of_spells h⟩

example : passesCheck "-15".toList = true ∧ passesCheck "+-3".toList = false ∧
    passesCheck "1_000".toList = false := by decide

/-! ## Reading an integer out of a text -/

/-- What reading relies on from the integer type's reading of decimal text: a numeral reads as
the integer it spells. -/
def ReadsNumerals (fromStr : String → Option Int) : Prop :=
  ∀ cs n, Spells cs n → fromStr (String.ofList cs) = some n

theorem magnitudeOf?_digits {ds : List Char} (digits : IsDigits ds) :
    magnitudeOf? ds = some (decimalValue ds) := by
  obtain ⟨d, rest, rfl, -⟩ := digits.not_sign
  have allDigits := digits.2
  have filtered : (d :: rest).filter Char.isDigit = d :: rest := List.filter_eq_self.2 allDigits
  simp only [magnitudeOf?, filtered, digitsValue_eq_decimalValue]
  rw [if_pos]
  exact ⟨allDigits d List.mem_cons_self, by
    simpa using fun c mem => Or.inl (allDigits c (List.mem_cons_of_mem d mem))⟩

/-- The library's reading of decimal text reads numerals right. -/
theorem decimalOf?_reads : ReadsNumerals decimalOf? := by
  intro cs n h
  cases h with
  | unsigned digits =>
    obtain ⟨d, rest, rfl, notSign⟩ := digits.not_sign
    have minus : d ≠ '-' := by rintro rfl; simp [isSign] at notSign
    have plus : d ≠ '+' := by rintro rfl; simp [isSign] at notSign
    simp only [decimalOf?, String.toList_ofList]
    split
    · simp_all
    · simp_all
    · simp [magnitudeOf?_digits digits]
  | plus digits => simp [decimalOf?, magnitudeOf?_digits digits]
  | minus digits => simp [decimalOf?, magnitudeOf?_digits digits]

/-! ## The decimal text of an integer -/

theorem isDigits_toDigits (k : Nat) : IsDigits (Nat.toDigits 10 k) :=
  ⟨Nat.toDigits_ne_nil, fun _ mem => Nat.isDigit_of_mem_toDigits (by decide) (by decide) mem⟩

theorem decimalValue_toDigits (k : Nat) : decimalValue (Nat.toDigits 10 k) = k := by
  rw [← digitsValue_eq_decimalValue]
  exact Nat.ofDigitChars_ten_toDigits

/-- The decimal text of every integer spells it: its digits, after `-` when it is negative. -/
theorem spells_toString (n : Int) : Spells (toString n).toList n := by
  rw [Int.toString_eq_repr, Int.repr_eq_if]
  split
  · rename_i nonnegative
    have unsigned := Spells.unsigned (isDigits_toDigits n.toNat)
    rw [decimalValue_toDigits, Int.toNat_of_nonneg nonnegative] at unsigned
    simpa [Nat.toList_repr] using unsigned
  · rename_i negative
    have minus := Spells.minus (isDigits_toDigits (-n).toNat)
    rw [decimalValue_toDigits, Int.toNat_of_nonneg (by omega), Int.neg_neg] at minus
    simpa [Nat.toList_repr] using minus

theorem Spells.trimChars_eq_self {cs : List Char} {n : Int} (h : Spells cs n) :
    trimChars cs = cs := by
  apply Text.trimChars_eq_self
  have sign : ∀ {s}, isSign s = true → isWhiteSpace s = false := by
    intro s sign
    rcases eq_of_isSign sign with rfl | rfl <;>
      exact isWhiteSpace_eq_false (by decide) (by decide)
  cases h with
  | unsigned digits => exact fun c mem => isWhiteSpace_of_isDigit (digits.2 c mem)
  | plus digits | minus digits =>
    intro c mem
    rcases List.mem_cons.1 mem with rfl | mem
    · exact sign rfl
    · exact isWhiteSpace_of_isDigit (digits.2 c mem)

end Refal.Numeral

namespace Refal.Library

open Refal.Numeral Refal.Text

variable {fromStr : String → Option Int} {b s : String}

/-- Reading either gives an integer or fails with a parse failure of the built-in and the text
as given. -/
theorem parseIntegerWith_cases :
    parseIntegerWith fromStr b s = .error (.parseFailure b s) ∨
      ∃ n, parseIntegerWith fromStr b s = .ok n := by
  unfold parseIntegerWith
  dsimp only
  split
  · split
    · exact .inr ⟨_, rfl⟩
    · exact .inl rfl
  · exact .inl rfl

/-- Once the check is passed, a reading that reads numerals right does not fail. -/
theorem reads_of_passesCheck (reads : ReadsNumerals fromStr) {cs : List Char}
    (check : passesCheck cs = true) : ∃ n, fromStr (String.ofList cs) = some n :=
  (spells_of_passesCheck check).imp fun n h => reads cs n h

theorem parseIntegerWith_eq_ok_iff (reads : ReadsNumerals fromStr) {n : Int} :
    parseIntegerWith fromStr b s = .ok n ↔ Spells (trimChars s.toList) n := by
  unfold parseIntegerWith
  dsimp only
  constructor
  · intro result
    split at result
    · rename_i check
      obtain ⟨m, h⟩ := spells_of_passesCheck check
      rw [reads _ m h] at result
      cases result
      exact h
    · cases result
  · intro h
    rw [if_pos (passesCheck_of_spells h), reads _ n h]

end Refal.Library

namespace Refal.Library

open Refal.Numeral Refal.Text

variable {fromStr : String → Option Int}

/-- Reading an integer accepts exactly the numerals. For every reading of decimal text that
reads numerals right, built-in `b` reads `n` out of `s` exactly when `s`, trimmed of white space,
spells `n`; any other text fails with a parse failure that names `b` and `s` as it was given.
Text that passes the check is always read, so the reading's own failure is never the answer. -/
theorem parseInteger_accepts_exactly_numerals (fromStr : String → Option Int)
    (reads : ReadsNumerals fromStr) (b s : String) :
    (∀ n, parseIntegerWith fromStr b s = .ok n ↔ Spells (trimChars s.toList) n) ∧
    ((∀ n, ¬ Spells (trimChars s.toList) n) →
      parseIntegerWith fromStr b s = .error (.parseFailure b s)) ∧
    (passesCheck (trimChars s.toList) = true →
      ∃ n, fromStr (String.ofList (trimChars s.toList)) = some n) := by
  refine ⟨fun _ => parseIntegerWith_eq_ok_iff reads, fun notNumeral => ?_,
    reads_of_passesCheck reads⟩
  rcases parseIntegerWith_cases with failure | ⟨n, result⟩
  · exact failure
  · exact absurd ((parseIntegerWith_eq_ok_iff reads).1 result) (notNumeral n)

/-- The library's own reading: a padded numeral with a plus sign and leading zeros is read, and
`1_000` is refused although the integer type alone would read it. -/
theorem parseInteger_accepts_exactly_numerals_library :
    ReadsNumerals decimalOf? ∧
      parseIntegerWith decimalOf? "Numb" "\u3000+007\x85" = .ok 7 ∧
      parseIntegerWith decimalOf? "Numb" "1_000" = .error (.parseFailure "Numb" "1_000") ∧
      decimalOf? "1_000" = some 1000 := by
  have padded : Spells (trimChars "\u3000+007\x85".toList) 7 := by
    have trimmed : trimChars "\u3000+007\x85".toList = ['+', '0', '0', '7'] := by decide
    have value : decimalValue ['0', '0', '7'] = 7 := by decide
    have plus := @Spells.plus ['0', '0', '7'] ⟨by simp, by simp⟩
    rwa [trimmed, ← Nat.cast_ofNat, ← value]
  have separated : ∀ n, ¬ Spells (trimChars "1_000".toList) n :=
    fun _ h => absurd (passesCheck_of_spells h) (by decide)
  refine ⟨decimalOf?_reads, ?_, ?_, by decide⟩
  · exact ((parseInteger_accepts_exactly_numerals decimalOf? decimalOf?_reads "Numb" _).1 7).2
      padded
  · exact (parseInteger_accepts_exactly_numerals decimalOf? decimalOf?_reads "Numb" _).2.1
      separated

example : wordValue "Numb" "1_000" = .error (.parseFailure "Numb" "1_000") ∧
    wordValue "Numb" "+-3" = .error (.parseFailure "Numb" "+-3") ∧
    wordValue "Numb" "\u0661\u0662" = .error (.parseFailure "Numb" "\u0661\u0662") ∧
    wordValue "Numb" "1 2" = .error (.parseFailure "Numb" "1 2") ∧
    wordValue "Numb" " - " = .error (.parseFailure "Numb" " - ") := by decide

/-- The library reads back the decimal text of every integer. -/
theorem wordValue_toString (b : String) (n : Int) : wordValue b (toString n) = .ok n := by
  rw [wordValue, parseIntegerWith_eq_ok_iff decimalOf?_reads,
    (spells_toString n).trimChars_eq_self]
  exact spells_toString n

end Refal.Library
