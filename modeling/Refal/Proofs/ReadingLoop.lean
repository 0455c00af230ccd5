import Refal.Proofs.Identifier

/-!
# The reader's loops end

The reader is two loops. The outer one, on each pass, skips white space and looks at the next
character without taking it: a quote opens a quoted literal, which the inner loop reads one
character or one escape at a time; a bracket is one term; a digit or an alphabetic character
starts a run, taken from that character on while the run's own test accepts the characters.

`runPasses` runs such a loop for a bounded number of passes, and the variant rule
`runPasses_of_variant` says when it ends: a loop whose passes shrink a measure while they go on,
and keep an answer, ends within one pass more than the measure of its start, with that answer.
Both loops take at least one character on every pass that does not end them. For the inner loop
that is the character it reads. For a run of the outer loop it is the character the pass looked
at, and only because the test that chose the branch is accepted by the run's test too: a digit is
a digit, and an alphabetic character is alphanumeric (`isWordChar_of_isAlphabetic`).

Main statement: every pass of either loop that goes on takes at least one character; the inner
loop ends within one pass more than the characters after the opening quote, with the answer of
`readQuoted`; and reading a text pass by pass ends within one pass more than the text has
characters, with the answer of `readExpression`.
-/

namespace Refal.Literal

open Refal.Text Refal.Unicode

/-- What one pass of a loop does: go on from a new state, or stop with an answer. -/
inductive Pass (σ α : Type) where
  | next (s : σ)
  | stop (a : α)

/-- The answer that a loop gives after a pass: the one it stops with, or the answer from the
state it goes on from. -/
def Pass.outcome {σ α : Type} (answer : σ → α) : Pass σ α → α
  | .next s => answer s
  | .stop a => a

/-- Runs a loop from state `s` for at most `fuel` passes: `none` when the passes run out. -/
def runPasses {σ α : Type} (pass : σ → Pass σ α) : Nat → σ → Option α
  | 0, _ => none
  | fuel + 1, s =>
    match pass s with
    | .next s' => runPasses pass fuel s'
    | .stop a => some a

section Variant

variable {σ α : Type} {pass : σ → Pass σ α} {answer : σ → α}

/-- A loop whose passes shrink a measure while they go on, and keep an answer, ends within one
pass more than the measure of its start, with that answer. -/
theorem runPasses_of_variant (measure : σ → Nat)
    (shrinks : ∀ s s', pass s = .next s' → measure s' < measure s)
    (keeps : ∀ s, (pass s).outcome answer = answer s) :
    ∀ fuel s, measure s < fuel → runPasses pass fuel s = some (answer s) := by
  intro fuel
  -- on the fuel: a pass that goes on leaves a state of smaller measure to the passes left
  induction fuel with
  | zero => intro s within; omega
  | succ fuel ih =>
    intro s within
    have kept := keeps s
    cases passed : pass s with
    | next s' =>
      rw [passed, Pass.outcome] at kept
      have smaller := shrinks s s' passed
      simp only [runPasses, passed]
      rw [ih s' (by omega), kept]
    | stop a =>
      rw [passed, Pass.outcome] at kept
      simp only [runPasses, passed, kept]

end Variant

/-! ## Quoted literals -/

/-- One pass of the loop that reads a quoted literal, from the characters not yet read and
those that the literal stands for so far: it takes one character, or a backslash and the
character it escapes. -/
def quotedPass (q : Char) :
    List Char × List Char → Pass (List Char × List Char) (Except ReadError (List Char × List Char))
  | ([], _) => .stop (.error (.unterminated q))
  | (c :: rest, read) =>
    if c = q then .stop (.ok (read, rest))
    else if c = '\\' then
      match rest with
      | [] => .stop (.error .unterminatedEscape)
      | e :: rest =>
        match escapeValue? e with
        | some v => .next (rest, read ++ [v])
        | none => .stop (.error (.invalidEscape e))
    else .next (rest, read ++ [c])

/-- What the rest of a quoted literal reads as, after the characters already read. -/
def quotedAnswer (q : Char) (s : List Char × List Char) :
    Except ReadError (List Char × List Char) :=
  (readQuoted q s.1).map fun p => (s.2 ++ p.1, p.2)

theorem quotedPass_shrinks (q : Char) (s s' : List Char × List Char)
    (passed : quotedPass q s = .next s') : s'.1.length < s.1.length := by
  obtain ⟨_ | ⟨c, rest⟩, read⟩ := s
  · cases passed
  · simp only [quotedPass] at passed
    split_ifs at passed with quote backslash
    · -- an escape takes the backslash and the character after it
      rcases rest with _ | ⟨e, rest⟩
      · cases passed
      · cases value : escapeValue? e with
        | none => simp [value] at passed
        | some v =>
          simp only [value, Pass.next.injEq] at passed
          subst passed
          simp only [List.length_cons]
          omega
    · simp [← Pass.next.inj passed]

theorem quotedAnswer_push (q v : Char) (rest read : List Char) :
    quotedAnswer q (rest, read ++ [v]) =
      ((readQuoted q rest).map fun p => (v :: p.1, p.2)).map fun p => (read ++ p.1, p.2) := by
  cases read : readQuoted q rest <;> simp [quotedAnswer, Except.map, read]

/-- A pass of the quoted-literal loop keeps what the literal reads as. -/
theorem quotedPass_outcome (q : Char) (s : List Char × List Char) :
    (quotedPass q s).outcome (quotedAnswer q) = quotedAnswer q s := by
  obtain ⟨_ | ⟨c, rest⟩, read⟩ := s
  · rfl
  · by_cases quote : c = q
    · subst quote
      simp [quotedPass, Pass.outcome, quotedAnswer, readQuoted_quote, Except.map]
    by_cases backslash : c = '\\'
    · subst backslash
      rcases rest with _ | ⟨e, rest⟩
      · simp [quotedPass, quote, Pass.outcome, quotedAnswer, readQuoted, Except.map]
      · cases value : escapeValue? e with
        | none =>
          simp [quotedPass, quote, value, Pass.outcome, quotedAnswer, readQuoted, Except.map]
        | some v =>
          simp only [quotedPass, if_neg quote, if_pos, value, Pass.outcome]
          rw [quotedAnswer_push, quotedAnswer, readQuoted_escaped (Ne.symm quote) value]
    · simp only [quotedPass, if_neg quote, if_neg backslash, Pass.outcome]
      rw [quotedAnswer_push, quotedAnswer, readQuoted_plain quote backslash]

/-- The quoted-literal loop, from the character after the opening quote, ends within one pass
more than the characters left, with what `readQuoted` reads. -/
theorem runPasses_quotedPass (q : Char) (cs : List Char) (fuel : Nat)
    (enough : cs.length < fuel) :
    runPasses (quotedPass q) fuel (cs, []) = some (readQuoted q cs) := by
  have ends := runPasses_of_variant (fun s => s.1.length) (quotedPass_shrinks q)
    (quotedPass_outcome q) fuel (cs, []) enough
  rw [ends, quotedAnswer]
  cases readQuoted q cs <;> simp [Except.map]

/-! ## The reader's loop -/

/-- The terms that a literal quoted by `q` stands for, given the characters between the quotes:
one character symbol each between single quotes, one word between double quotes. -/
def quotedTerms (q : Char) (s : List Char) : Expr :=
  if q = '\'' then s.map .char else [.word (String.ofList s)]

theorem quotedTerms_append (q : Char) (s : List Char) (ts : Expr) :
    quotedTerms q s ++ ts =
      if q = '\'' then s.map .char ++ ts else .word (String.ofList s) :: ts := by
  unfold quotedTerms
  split_ifs <;> rfl

/-- One pass of the reader's loop, from the characters not yet read and the terms read so far.
It skips white space and looks at the next character without taking it. A quote is taken with
the literal it opens, a bracket on its own; a digit or an alphabetic character starts a run that
is taken, from that character on, while the run's own test accepts the characters. -/
def readPass : List Char × Expr → Pass (List Char × Expr) (Except ReadError Expr)
  | (cs, terms) =>
    match trimStartChars cs with
    | [] => .stop (.ok terms)
    | c :: rest =>
      if c = '\'' ∨ c = '"' then
        match readQuoted c rest with
        | .error e => .stop (.error e)
        | .ok (s, after) => .next (after, terms ++ quotedTerms c s)
      else if c = '(' then .next (rest, terms ++ [.openBracket])
      else if c = ')' then .next (rest, terms ++ [.closeBracket])
      else if c.isDigit then
        .next ((c :: rest).dropWhile Char.isDigit,
          terms ++ [Term.number (Numeral.digitsValue ((c :: rest).takeWhile Char.isDigit))])
      else if isAlphabetic c then
        .next ((c :: rest).dropWhile isWordChar,
          terms ++ [.word (String.ofList ((c :: rest).takeWhile isWordChar))])
      else .stop (.error (.unexpected c))

/-- What the rest of the text reads as, after the terms already read. -/
def readAnswer (s : List Char × Expr) : Except ReadError Expr := (readTerms s.1).map (s.2 ++ ·)

theorem length_dropWhile_cons_lt {p : Char → Bool} {c : Char} (accepts : p c = true)
    (rest : List Char) : ((c :: rest).dropWhile p).length < (c :: rest).length := by
  rw [List.dropWhile_cons_of_pos accepts, List.length_cons]
  exact Nat.lt_succ_of_le (List.dropWhile_suffix p).length_le

/-- Each pass of the reader's loop that goes on has taken at least one character. For a run of
digits or a bare word this is the character the pass looked at: the test that chose the branch
is accepted by the run's own test. -/
theorem readPass_shrinks (s s' : List Char × Expr) (passed : readPass s = .next s') :
    s'.1.length < s.1.length := by
  obtain ⟨cs, terms⟩ := s
  have skipped : (trimStartChars cs).length ≤ cs.length := (List.dropWhile_suffix _).length_le
  simp only [readPass] at passed
  split at passed
  · cases passed
  · rename_i c rest front
    rw [front] at skipped
    have taken : ∀ after : List Char,
        after.length < (c :: rest).length → after.length < cs.length :=
      fun after shorter => Nat.lt_of_lt_of_le shorter skipped
    split_ifs at passed with quote opening closing digit alpha
    · split at passed
      · cases passed
      · rename_i s after read
        cases passed
        exact taken after (Nat.lt_succ_of_lt (readQuoted_rest_length c rest s after read))
    · cases passed
      exact taken rest (Nat.lt_succ_self _)
    · cases passed
      exact taken rest (Nat.lt_succ_self _)
    · cases passed
      exact taken _ (length_dropWhile_cons_lt digit rest)
    · cases passed
      exact taken _ (length_dropWhile_cons_lt (isWordChar_of_isAlphabetic alpha) rest)

theorem readAnswer_push (after : List Char) (terms ts : Expr) :
    readAnswer (after, terms ++ ts) = ((readTerms after).map (ts ++ ·)).map (terms ++ ·) := by
  cases read : readTerms after <;> simp [readAnswer, Except.map, read]

/-- A pass of the reader's loop keeps what the whole text reads as. -/
theorem readPass_outcome (s : List Char × Expr) :
    (readPass s).outcome readAnswer = readAnswer s := by
  obtain ⟨cs, terms⟩ := s
  -- the pass and `readTerms` both begin after the white space
  rw [readAnswer, ← readTerms_trimStartChars]
  simp only [readPass]
  split
  · rename_i front
    rw [front, readTerms]
    simp [Pass.outcome, Except.map]
  · rename_i c rest front
    have solid : ¬isWhiteSpace c = true := by simp [trimStartChars_head cs c rest front]
    rw [front, readTerms, if_neg solid]
    -- the pass and `readTerms` choose their branch by the same tests, in the same order
    by_cases quote : c = '\'' ∨ c = '"'
    · rw [if_pos quote, if_pos quote]
      cases readQuoted c rest with
      | error e => rfl
      | ok p =>
        simp only [Pass.outcome, readAnswer_push, quotedTerms_append]
    rw [if_neg quote, if_neg quote]
    by_cases opening : c = '('
    · rw [if_pos opening, if_pos opening, Pass.outcome, readAnswer_push]
      rfl
    rw [if_neg opening, if_neg opening]
    by_cases closing : c = ')'
    · rw [if_pos closing, if_pos closing, Pass.outcome, readAnswer_push]
      rfl
    rw [if_neg closing, if_neg closing]
    by_cases digit : c.isDigit
    · rw [if_pos digit, if_pos digit, Pass.outcome, readAnswer_push,
        List.takeWhile_cons_of_pos digit, List.dropWhile_cons_of_pos digit]
      rfl
    rw [if_neg digit, if_neg digit]
    by_cases alpha : isAlphabetic c
    · have word := isWordChar_of_isAlphabetic alpha
      rw [if_pos alpha, if_pos alpha, Pass.outcome, readAnswer_push,
        List.takeWhile_cons_of_pos word, List.dropWhile_cons_of_pos word]
      rfl
    rw [if_neg alpha, if_neg alpha]
    rfl

/-- The reader's loop, from the start of a text, ends within one pass more than the text has
characters, with the terms that `readTerms` reads. -/
theorem runPasses_readPass (cs : List Char) (fuel : Nat) (enough : cs.length < fuel) :
    runPasses readPass fuel (cs, []) = some (readTerms cs) := by
  have ends := runPasses_of_variant (fun s => s.1.length) readPass_shrinks readPass_outcome
    fuel (cs, []) enough
  rw [ends, readAnswer]
  cases readTerms cs <;> simp [Except.map]

/-- Reads a literal expression pass by pass, for at most `fuel` passes of the reader's loop: the
terms that the loop reads, provided the brackets balance. `none` when the passes run out. -/
def readByPasses (fuel : Nat) (s : String) : Option (Except ReadError Expr) :=
  (runPasses readPass fuel (s.toList, [])).map fun read => do
    let ts ← read
    if Expr.isBalanced ts then pure ts else throw .unbalanced

/-- Given more passes than the text has characters, reading pass by pass ends with the answer of
`readExpression`. -/
theorem readByPasses_eq (s : String) (fuel : Nat) (enough : s.length < fuel) :
    readByPasses fuel s = some (readExpression s) := by
  have loop := runPasses_readPass s.toList fuel (by rw [String.length_toList]; exact enough)
  rw [readByPasses, loop]
  rfl

-- one pass for each term and one to find the end
example : readByPasses 3 "(ab)" = none := by decide
example : readByPasses 4 "(ab)" = some (.ok [.openBracket, .word "ab", .closeBracket]) := by decide

/-- Reading ends on every text. Each pass of the reader's loop that does not end it takes at
least one character, and so does each pass of the loop inside a quoted literal. So the loop inside
a quoted literal ends within one pass more than the characters after the opening quote, with what
`readQuoted` reads, and reading a text pass by pass ends within one pass more than the text has
characters, with the answer of `readExpression`. -/
theorem reading_ends :
    (∀ s s', readPass s = .next s' → s'.1.length < s.1.length) ∧
    (∀ q s s', quotedPass q s = .next s' → s'.1.length < s.1.length) ∧
    (∀ q cs fuel, cs.length < fuel →
      runPasses (quotedPass q) fuel (cs, []) = some (readQuoted q cs)) ∧
    ∀ text fuel, text.length < fuel → readByPasses fuel text = some (readExpression text) :=
  ⟨readPass_shrinks, quotedPass_shrinks, runPasses_quotedPass, readByPasses_eq⟩

end Refal.Literal
