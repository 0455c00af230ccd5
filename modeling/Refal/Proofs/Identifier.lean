import Refal.Proofs.CallLine
import Refal.Proofs.Render
import Refal.Proofs.Session

/-!
# Identifiers: `Implode` and the reader

`Implode` renders its argument, trims the text of white space at both ends, and makes one word of
the longest prefix of identifier characters (alphanumeric, `-`, `_`). The reader, after the white
space it skips, reads a bare word from an alphabetic character on through identifier characters.
The two agree because no character is both white space and alphanumeric (a fact of the Unicode
tables, `isAlphanumeric_eq_false_of_isWhiteSpace`): trimming the back of the text never cuts
into the prefix, and the reader's run of identifier characters is the same run.

Main statement: on the characters of a text whose first character after white space is
alphabetic, `Implode` gives the word that the reader reads first from the text, and a word that
`Implode` gives, if it starts with an alphabetic character, reads back as itself.
-/

namespace Refal.Unicode

/-- No character is both white space and alphanumeric. -/
theorem isAlphanumeric_eq_false_of_isWhiteSpace {c : Char} (blank : isWhiteSpace c = true) :
    isAlphanumeric c = false := by
  -- each white-space range is checked code point by code point against both tables
  have apart : ∀ r ∈ whiteSpaceTable.ranges, ∀ k < r.2 - r.1 + 1,
      (alphabeticTable.containsCode (r.1 + k) || numericTable.containsCode (r.1 + k)) = false := by
    decide +kernel
  obtain ⟨r, listed, lo, hi⟩ := exists_of_memRanges blank
  have code := apart r listed (c.toNat - r.1) (by omega)
  rw [Nat.add_sub_cancel' lo] at code
  exact code

/-- Below `A` no character is alphabetic: the table's first range starts there. -/
theorem isAlphabetic_eq_false_of_lt {c : Char} (below : c.toNat < 0x41) :
    isAlphabetic c = false := by
  unfold isAlphabetic RangeTable.contains RangeTable.containsCode alphabeticTable RangeTable.ofList
  rw [memRanges, if_pos below]

end Refal.Unicode

namespace Refal.Literal

open Refal.Text Refal.Unicode

/-! ## Identifier characters -/

theorem isWordChar_of_isAlphabetic {c : Char} (alpha : isAlphabetic c = true) :
    isWordChar c = true := by
  simp [isWordChar, isAlphanumeric, alpha]

/-- White space is no identifier character: not alphanumeric, and neither `-` nor `_`. -/
theorem isWordChar_eq_false_of_isWhiteSpace {c : Char} (blank : isWhiteSpace c = true) :
    isWordChar c = false := by
  have notAlphanumeric := isAlphanumeric_eq_false_of_isWhiteSpace blank
  have hyphen : c ≠ '-' := by rintro rfl; cases blank
  have underscore : c ≠ '_' := by rintro rfl; cases blank
  simp [isWordChar, notAlphanumeric, hyphen, underscore]

theorem isWhiteSpace_eq_false_of_isWordChar {c : Char} (word : isWordChar c = true) :
    isWhiteSpace c = false := by
  cases blank : isWhiteSpace c with
  | false => rfl
  | true => rw [isWordChar_eq_false_of_isWhiteSpace blank] at word; cases word

theorem isWhiteSpace_eq_false_of_isAlphabetic {c : Char} (alpha : isAlphabetic c = true) :
    isWhiteSpace c = false :=
  isWhiteSpace_eq_false_of_isWordChar (isWordChar_of_isAlphabetic alpha)

/-- Trimming the back of a text keeps its leading run of identifier characters: what it removes
is white space, which stops the run. -/
theorem takeWhile_trimChars (cs : List Char) :
    (trimChars cs).takeWhile isWordChar = (trimStartChars cs).takeWhile isWordChar := by
  -- the trimmed text and the white space after it make up the text trimmed at the front
  have parts : ((trimStartChars cs).reverse.dropWhile isWhiteSpace).reverse ++
      ((trimStartChars cs).reverse.takeWhile isWhiteSpace).reverse = trimStartChars cs := by
    rw [← List.reverse_append, List.takeWhile_append_dropWhile, List.reverse_reverse]
  have blanks : ∀ c ∈ ((trimStartChars cs).reverse.takeWhile isWhiteSpace).reverse,
      isWhiteSpace c = true := fun c mem => List.mem_takeWhile_imp (List.mem_reverse.1 mem)
  have stop : (((trimStartChars cs).reverse.takeWhile isWhiteSpace).reverse).takeWhile
      isWordChar = [] := by
    cases tail : ((trimStartChars cs).reverse.takeWhile isWhiteSpace).reverse with
    | nil => rfl
    | cons c rest =>
      have blank : isWhiteSpace c = true := blanks c (by rw [tail]; exact List.mem_cons_self)
      exact List.takeWhile_cons_of_neg (by simp [isWordChar_eq_false_of_isWhiteSpace blank])
  conv => rhs; rw [← parts]
  rw [trimChars, List.takeWhile_append, stop, List.append_nil]
  split
  · rename_i whole
    exact (List.takeWhile_prefix isWordChar).eq_of_length whole
  · rfl

/-! ## The reader's first word -/

theorem readTerms_trimStartChars (cs : List Char) :
    readTerms (trimStartChars cs) = readTerms cs := by
  induction cs with
  | nil => rfl
  | cons c cs ih =>
    cases blank : isWhiteSpace c with
    | true =>
      rw [trimStartChars, List.dropWhile_cons_of_pos blank, ← trimStartChars, ih, readTerms,
        if_pos blank]
    | false => rw [trimStartChars_cons_solid blank]

/-- An alphabetic character starts a bare word, which runs on through identifier characters. -/
theorem readTerms_word {c : Char} (alpha : isAlphabetic c = true) (rest : List Char) :
    readTerms (c :: rest) = (readTerms (rest.dropWhile isWordChar)).map
      (.word (String.ofList (c :: rest.takeWhile isWordChar)) :: ·) := by
  have other : ∀ d, isAlphabetic d = false → c ≠ d := by
    rintro d notAlpha rfl
    simp [alpha] at notAlpha
  have digit : c.isDigit = false := by
    cases isDigit : c.isDigit with
    | false => rfl
    | true =>
      have bounds : c.toNat ≤ 0x39 := by
        simp only [Char.isDigit, Bool.and_eq_true, decide_eq_true_eq,
          UInt32.le_iff_toNat_le] at isDigit
        exact isDigit.2
      simp [isAlphabetic_eq_false_of_lt (by omega : c.toNat < 0x41)] at alpha
  rw [readTerms, if_neg (by simp [isWhiteSpace_eq_false_of_isAlphabetic alpha]),
    if_neg (by simp [other '\'' (by decide), other '"' (by decide)]),
    if_neg (other '(' (by decide)), if_neg (other ')' (by decide)), if_neg (by simp [digit]),
    if_pos alpha]

/-- A text of identifier characters that starts with an alphabetic character reads as the one
word it spells. -/
theorem readExpression_identifier {c : Char} {rest : List Char} (alpha : isAlphabetic c = true)
    (word : ∀ x ∈ rest, isWordChar x = true) :
    readExpression (String.ofList (c :: rest)) = .ok [.word (String.ofList (c :: rest))] := by
  have run : rest.takeWhile isWordChar = rest := List.takeWhile_eq_self_iff.2 word
  have after : rest.dropWhile isWordChar = [] := List.dropWhile_eq_nil_iff.2 word
  have done : readTerms [] = .ok [] := by rw [readTerms]
  simp only [readExpression, String.toList_ofList, readTerms_word alpha, run, after, done]
  rfl

end Refal.Literal

namespace Refal.Library

open Refal.Literal Refal.Text Refal.Unicode

theorem call_implode (lib : Library) (e : Expr) : lib.call "Implode" e = lib.give (implodeOf e) :=
  @call_eq_apply lib "Implode" .implode rfl e

/-- `Implode` on characters: the leading run of identifier characters after white space. -/
theorem implodeOf_ofChars (s : String) :
    implodeOf (Expr.ofChars s) =
      [.word (String.ofList ((trimStartChars s.toList).takeWhile isWordChar))] := by
  rw [implodeOf, Expr.render_ofChars, identifierPrefix, takeWhile_trimChars]

example : implodeOf (Expr.ofChars "\u3000été-2!x") = [.word "été-2"] := by decide +kernel

theorem isWordChar_of_implodeOf {e : Expr} {w : String} (gives : implodeOf e = [.word w]) :
    ∀ x ∈ w.toList, isWordChar x = true := by
  simp only [implodeOf, identifierPrefix, List.cons.injEq, Term.word.injEq, and_true] at gives
  rw [← gives, String.toList_ofList]
  exact fun x mem => List.mem_takeWhile_imp mem

/-- `Implode` agrees with the reader's bare words. On the characters of a text whose first
character after white space is an alphabetic `c`, followed by `rest`, `Implode` gives the word of
`c` and the run of identifier characters after it, and the reader reads that same word first and
goes on after it. A word that `Implode` gives, when it starts with an alphabetic character, reads
back as that one word. -/
theorem implode_reads_like_reader :
    (∀ (lib : Library) (s : String) (c : Char) (rest : List Char),
      trimStartChars s.toList = c :: rest → isAlphabetic c = true →
      lib.call "Implode" (Expr.ofChars s) =
          lib.give [.word (String.ofList (c :: rest.takeWhile isWordChar))] ∧
        readTerms s.toList = (readTerms (rest.dropWhile isWordChar)).map
          (.word (String.ofList (c :: rest.takeWhile isWordChar)) :: ·)) ∧
    (∀ (lib : Library) (e : Expr) (w : String) (c : Char) (rest : List Char),
      (lib.call "Implode" e).result = .ok (.value [.word w]) → w.toList = c :: rest →
      isAlphabetic c = true → readExpression w = .ok [.word w]) := by
  refine ⟨fun lib s c rest front alpha => ⟨?_, ?_⟩, fun lib e w c rest gives spelled alpha => ?_⟩
  · rw [call_implode, implodeOf_ofChars, front,
      List.takeWhile_cons_of_pos (isWordChar_of_isAlphabetic alpha)]
  · rw [← readTerms_trimStartChars, front, readTerms_word alpha]
  · rw [call_implode] at gives
    have value : implodeOf e = [.word w] := Library.Outcome.value.inj (Except.ok.inj gives)
    have word := isWordChar_of_implodeOf value
    rw [spelled] at word
    have spelt : String.ofList (c :: rest) = w := by rw [← spelled, String.ofList_toList]
    rw [← spelt]
    exact readExpression_identifier alpha fun x mem => word x (List.mem_cons_of_mem c mem)

end Refal.Library
