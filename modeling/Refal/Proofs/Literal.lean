import Refal.Literal
import Refal.Proofs.NumberTerms

/-!
# Reading back the canonical literal

The reader undoes the canonical writer over the whole literal syntax. Each term's literal reads
back as the term, whatever follows it after a blank: a quoted literal because the escapes the
writer puts in are exactly the ones the reader takes out, and the closing quote is the first
unescaped quote; a number because its decimal digits are read back by the digit run and the
narrowest width is picked again. The blank between two literals is skipped.

Main statement: on every list of terms whose numbers are not negative and in the narrowest width,
reading the canonical text gives the list back when its brackets balance, and fails with
`Unbalanced brackets` when they do not.
-/

namespace Refal.Literal

open Refal.Numeral Refal.Text Refal.Unicode

/-!
## The canonical writer

The canonical literal of an expression, the text that the reader reads it back from: a character
in single quotes, a word in double quotes, a number in decimal and a bracket as itself, with one
blank between two literals. Inside quotes a backslash goes before each backslash and each quote
of the literal's own kind, and every other character stands as it is, line breaks and the other
kind of quote included.
-/

/-- The inside of a literal quoted by `q`: a backslash before each backslash and each `q`. -/
def escape (q : Char) (cs : List Char) : List Char :=
  cs.flatMap fun c => if c = '\\' ∨ c = q then ['\\', c] else [c]

/-- The canonical literal of one term: a character in single quotes, a word in double quotes,
and a number or a bracket as it renders. -/
def writeTerm : Term → List Char
  | .char c => '\'' :: escape '\'' [c] ++ ['\'']
  | .word w => '"' :: escape '"' w.toList ++ ['"']
  | t => t.text.toList

/-- The canonical literal text of an expression: its terms' literals, one blank between two. -/
def write (e : Expr) : String := String.ofList ([' '].intercalate (e.map writeTerm))

/-! ## Quoted literals -/

theorem readQuoted_quote (q : Char) (rest : List Char) :
    readQuoted q (q :: rest) = .ok ([], rest) := by
  cases rest <;> simp [readQuoted]

theorem readQuoted_escaped {q e v : Char} (notBackslash : q ≠ '\\')
    (value : escapeValue? e = some v) (rest : List Char) :
    readQuoted q ('\\' :: e :: rest) = (readQuoted q rest).map fun p => (v :: p.1, p.2) := by
  simp [readQuoted, Ne.symm notBackslash, value]

theorem readQuoted_plain {q c : Char} (notQuote : c ≠ q) (notBackslash : c ≠ '\\')
    (rest : List Char) :
    readQuoted q (c :: rest) = (readQuoted q rest).map fun p => (c :: p.1, p.2) := by
  cases rest <;> simp [readQuoted, notQuote, notBackslash]

/-- The inside of a quoted literal reads back up to its closing quote, for both kinds of quote:
each is no backslash and escapes to itself. -/
theorem readQuoted_escape {q : Char} (notBackslash : q ≠ '\\') (own : escapeValue? q = some q)
    (s rest : List Char) : readQuoted q (escape q s ++ q :: rest) = .ok (s, rest) := by
  induction s with
  | nil => simpa [escape] using readQuoted_quote q rest
  | cons c s ih =>
    by_cases escaped : c = '\\' ∨ c = q
    · have value : escapeValue? c = some c := by
        rcases escaped with rfl | rfl
        · rfl
        · exact own
      have written : escape q (c :: s) = '\\' :: c :: escape q s := by
        simp [escape, escaped]
      rw [written, List.cons_append, List.cons_append, readQuoted_escaped notBackslash value, ih]
      rfl
    · have written : escape q (c :: s) = c :: escape q s := by
        simp [escape, escaped]
      rw [written, List.cons_append, readQuoted_plain (fun h => escaped (.inr h))
        (fun h => escaped (.inl h)), ih]
      rfl

/-! ## One literal at a time -/

theorem ne_of_isDigit {c d : Char} (digit : c.isDigit = true) (other : d.isDigit = false) :
    c ≠ d := by
  rintro rfl
  simp_all

theorem readTerms_blank (rest : List Char) : readTerms (' ' :: rest) = readTerms rest := by
  rw [readTerms, if_pos (by decide)]

/-- A quoted literal reads back: as characters in single quotes, as a word in double quotes. -/
theorem readTerms_quoted {q : Char} (quote : q = '\'' ∨ q = '"') (s rest : List Char) :
    readTerms (q :: escape q s ++ q :: rest) = (readTerms rest).map fun ts =>
      if q = '\'' then s.map .char ++ ts else .word (String.ofList s) :: ts := by
  have blank : isWhiteSpace q = false := by rcases quote with rfl | rfl <;> decide
  have read : readQuoted q (escape q s ++ q :: rest) = .ok (s, rest) :=
    readQuoted_escape (by rcases quote with rfl | rfl <;> decide)
      (by rcases quote with rfl | rfl <;> rfl) s rest
  rw [List.cons_append, readTerms, if_neg (by simp [blank]), if_pos quote]
  split
  · rename_i failed
    rw [read] at failed
    cases failed
  · rename_i succeeded
    rw [read] at succeeded
    cases succeeded
    rfl

/-- The decimal digits of a magnitude read back as its narrowest symbol, when no digit follows. -/
theorem readTerms_number {m : Int} (nonnegative : 0 ≤ m) (rest : List Char)
    (stop : ∀ c ∈ rest.head?, c.isDigit = false) :
    readTerms ((toString m).toList ++ rest) = (readTerms rest).map (Term.number m :: ·) := by
  have digits : (toString m).toList = Nat.toDigits 10 m.toNat := by
    simp [Int.repr_eq_if, nonnegative, Nat.toList_repr]
  obtain ⟨d, ds, shape⟩ := List.exists_cons_of_ne_nil (isDigits_toDigits m.toNat).1
  have allDigits := (isDigits_toDigits m.toNat).2
  rw [shape] at allDigits
  have digit : d.isDigit = true := allDigits d List.mem_cons_self
  have restDigits : ∀ c ∈ ds, c.isDigit = true :=
    fun c mem => allDigits c (List.mem_cons_of_mem d mem)
  -- the run of digits is exactly the magnitude's text: the rest starts with no digit
  have run : (ds ++ rest).takeWhile Char.isDigit = ds := by
    rw [List.takeWhile_append_of_pos restDigits]
    cases rest with
    | nil => simp
    | cons c tail => simp [stop c rfl]
  have after : (ds ++ rest).dropWhile Char.isDigit = rest := by
    rw [List.dropWhile_append_of_pos restDigits]
    cases rest with
    | nil => rfl
    | cons c tail => simp [stop c rfl]
  have value : (digitsValue (d :: ds) : Int) = m := by
    rw [← shape, digitsValue_eq_decimalValue, decimalValue_toDigits,
      Int.toNat_of_nonneg nonnegative]
  rw [digits, shape, List.cons_append, readTerms, if_neg (by simp [isWhiteSpace_of_isDigit digit]),
    if_neg (by simp [ne_of_isDigit digit (by decide : ('\'').isDigit = false),
      ne_of_isDigit digit (by decide : ('"').isDigit = false)]),
    if_neg (ne_of_isDigit digit (by decide)), if_neg (ne_of_isDigit digit (by decide)),
    if_pos digit, run, after, value]

theorem readTerms_bracket {c : Char} {t : Term} (bracket : c = '(' ∧ t = .openBracket ∨
    c = ')' ∧ t = .closeBracket) (rest : List Char) :
    readTerms (c :: rest) = (readTerms rest).map (t :: ·) := by
  rcases bracket with ⟨rfl, rfl⟩ | ⟨rfl, rfl⟩
  · rw [readTerms, if_neg (by decide), if_neg (by decide), if_pos rfl]
  · rw [readTerms, if_neg (by decide), if_neg (by decide), if_neg (by decide), if_pos rfl]

/-- The literal of a term reads back as the term when what follows starts with no digit, provided
a number is not negative and in the narrowest width. -/
theorem readTerms_writeTerm {t : Term}
    (canonical : ∀ m ∈ t.value?, 0 ≤ m ∧ t = Term.number m) (rest : List Char)
    (stop : ∀ c ∈ rest.head?, c.isDigit = false) :
    readTerms (writeTerm t ++ rest) = (readTerms rest).map (t :: ·) := by
  -- a number is written as the decimal text of its value
  have number : ∀ m, t.value? = some m → writeTerm t = t.text.toList →
      readTerms (writeTerm t ++ rest) = (readTerms rest).map (t :: ·) := by
    intro m value plain
    obtain ⟨nonnegative, shape⟩ := canonical m value
    rw [plain, Term.text_of_value? value, readTerms_number nonnegative rest stop, ← shape]
  cases t with
  | char c =>
    have written : writeTerm (.char c) ++ rest = '\'' :: escape '\'' [c] ++ '\'' :: rest := by
      simp [writeTerm]
    rw [written, readTerms_quoted (.inl rfl)]
    simp
  | word w =>
    have written : writeTerm (.word w) ++ rest = '"' :: escape '"' w.toList ++ '"' :: rest := by
      simp [writeTerm]
    rw [written, readTerms_quoted (.inr rfl)]
    simp
  | openBracket => exact readTerms_bracket (.inl ⟨rfl, rfl⟩) rest
  | closeBracket => exact readTerms_bracket (.inr ⟨rfl, rfl⟩) rest
  | small x => exact number _ rfl rfl
  | wide x => exact number _ rfl rfl
  | big x => exact number _ rfl rfl

/-! ## Whole expressions -/

/-- The literals of a list of terms, a blank between two, read back as the list. -/
theorem readTerms_write :
    ∀ e : Expr, (∀ t ∈ e, ∀ m ∈ t.value?, 0 ≤ m ∧ t = Term.number m) →
      readTerms ([' '].intercalate (e.map writeTerm)) = .ok e
  | [], _ => by simp [readTerms]
  | [t], numbers => by
    have last := readTerms_writeTerm (numbers t List.mem_cons_self) [] (by simp)
    simpa [readTerms, Except.map] using last
  | t :: u :: e, numbers => by
    have rest := readTerms_write (u :: e) fun t' mem => numbers t' (List.mem_cons_of_mem t mem)
    rw [List.map_cons, List.map_cons, List.intercalate_cons_cons, List.append_assoc,
      List.singleton_append, readTerms_writeTerm (numbers t List.mem_cons_self) _ (by simp),
      readTerms_blank, ← List.map_cons, rest]
    rfl

/-- Reading undoes the canonical writer. On every list of terms whose numbers are not negative
and in the narrowest width, as the library writes them, reading the canonical text gives the
list back when its brackets balance; when they do not, reading fails with unbalanced brackets,
after every term was read. -/
theorem readExpression_write (e : Expr)
    (numbers : ∀ t ∈ e, ∀ m ∈ t.value?, 0 ≤ m ∧ t = Term.number m) :
    readExpression (write e) = if Expr.Balanced e then .ok e else .error .unbalanced := by
  rw [readExpression, write, String.toList_ofList, readTerms_write e numbers]
  by_cases balanced : Expr.Balanced e
  · simp [balanced, Expr.isBalanced, bind, Except.bind, pure, Except.pure]
  · simp [balanced, Expr.isBalanced, bind, Except.bind]
    rfl

example : write [.char '\'', .char '"', .word "a\\b", .small 12, .openBracket, .closeBracket] =
    "'\\'' '\"' \"a\\\\b\" 12 ( )" := by decide

/-- Both quotes, a backslash and a line feed as characters, a word holding quotes, a blank and a
backslash, and numbers of all three widths in a group read back. -/
theorem readExpression_write_escapes :
    (∀ t ∈ ([.char '\'', .char '\\', .char '"', .char '\n', .word "say \"hi\" \\",
        .small 0, .openBracket, .wide 2147483648, .big 9223372036854775808, .closeBracket] : Expr),
        ∀ m ∈ t.value?, 0 ≤ m ∧ t = Term.number m) ∧
      readExpression (write [.char '\'', .char '\\', .char '"', .char '\n',
        .word "say \"hi\" \\", .small 0, .openBracket, .wide 2147483648,
        .big 9223372036854775808, .closeBracket]) =
        .ok [.char '\'', .char '\\', .char '"', .char '\n', .word "say \"hi\" \\", .small 0,
          .openBracket, .wide 2147483648, .big 9223372036854775808, .closeBracket] := by
  have numbers : ∀ t ∈ ([.char '\'', .char '\\', .char '"', .char '\n',
      .word "say \"hi\" \\", .small 0, .openBracket, .wide 2147483648,
      .big 9223372036854775808, .closeBracket] : Expr),
      ∀ m ∈ t.value?, 0 ≤ m ∧ t = Term.number m := by decide
  refine ⟨numbers, ?_⟩
  rw [readExpression_write _ numbers, if_pos (by decide)]

end Refal.Literal
