import Refal.Proofs.Split

/-!
# Where a term ends

`Expr.termEnd` finds where the term that starts at a position ends, in any list of terms,
balanced or not. A symbol, or a closing bracket, ends right after itself. A group ends at the
first position where as many brackets have closed as opened since its start; every shorter
stretch from its start has more opened than closed, so the depth that the scan keeps is positive
at every closing bracket it passes and never drops below zero. A group that is never closed runs
to the end of the list.

`Expr.leadingTerm` cuts a list after its first term, unless the list is empty or starts with a
closing bracket. On a balanced list the first term is a symbol or a balanced group in brackets,
and the rest is balanced.
-/

namespace Refal.Expr

/-! ## Where the depth returns to zero -/

/-- The depth after one more term: a bracket opens or closes a group, and the depth never drops
below zero. -/
def depthStep (d : Nat) : Term → Nat
  | .openBracket => d + 1
  | .closeBracket => d - 1
  | _ => d

/-- Read from depth `d`, the first `k` terms of `e` close the `d` open groups and every group
they open, and every shorter stretch from the start closes fewer: the depth first returns to
zero after `k` terms. -/
def ReturnsAt (d : Nat) (e : Expr) (k : Nat) : Prop :=
  k ≤ e.length ∧ (e.take k).count .closeBracket = d + (e.take k).count .openBracket ∧
    ∀ m < k, (e.take m).count .closeBracket < d + (e.take m).count .openBracket

/-- Read from depth `d`, no stretch of `e` from its start closes all the open groups. -/
def StaysOpen (d : Nat) (e : Expr) : Prop :=
  ∀ m ≤ e.length, (e.take m).count .closeBracket < d + (e.take m).count .openBracket

theorem depth_take_succ_cons {d : Nat} (deep : 0 < d) (t : Term) (e : Expr) (m : Nat) :
    (d : Int) + ((t :: e).take (m + 1)).count .openBracket -
        ((t :: e).take (m + 1)).count .closeBracket =
      (depthStep d t : Int) + (e.take m).count .openBracket - (e.take m).count .closeBracket := by
  cases t <;> simp [depthStep] <;> omega

theorem ReturnsAt.cons {d k : Nat} {t : Term} {e : Expr} (deep : 0 < d)
    (later : ReturnsAt (depthStep d t) e k) : ReturnsAt d (t :: e) (k + 1) := by
  obtain ⟨bound, closes, before⟩ := later
  refine ⟨by simpa using bound, ?_, ?_⟩
  · have step := depth_take_succ_cons deep t e k
    omega
  · intro m below
    cases m with
    | zero => simpa using deep
    | succ m =>
      have step := depth_take_succ_cons deep t e m
      have fewer := before m (by omega)
      omega

theorem StaysOpen.cons {d : Nat} {t : Term} {e : Expr} (deep : 0 < d)
    (later : StaysOpen (depthStep d t) e) : StaysOpen d (t :: e) := by
  intro m bound
  cases m with
  | zero => simpa using deep
  | succ m =>
    have step := depth_take_succ_cons deep t e m
    have fewer := later m (by simpa using bound)
    omega

theorem depthStep_symbol {t : Term} (notOpen : t ≠ .openBracket) (notClose : t ≠ .closeBracket)
    (d : Nat) : depthStep d t = d := by
  cases t <;> simp_all [depthStep]

/-- A group measured from depth `d` ends where the depth first returns to zero. -/
theorem returnsAt_of_groupLength {d k : Nat} {e : Expr} (deep : 0 < d)
    (found : groupLength d e = some k) : ReturnsAt d e k := by
  fun_induction groupLength d e generalizing k with
  | case1 => simp at found
  | case2 d e ih =>
    obtain ⟨k, inner, rfl⟩ := Option.map_eq_some_iff.mp found
    exact ReturnsAt.cons (t := .openBracket) deep (ih (by omega) inner)
  | case3 d e shallow =>
    cases found
    -- the bracket closes the last open group
    obtain rfl : d = 1 := by omega
    exact ReturnsAt.cons (t := .closeBracket) deep ⟨by simp, by simp [depthStep], by simp⟩
  | case4 d e deeper ih =>
    obtain ⟨k, inner, rfl⟩ := Option.map_eq_some_iff.mp found
    exact ReturnsAt.cons (t := .closeBracket) deep (ih (by omega) inner)
  | case5 d t e notOpen notClose ih =>
    obtain ⟨k, inner, rfl⟩ := Option.map_eq_some_iff.mp found
    have later := ih deep inner
    rw [← depthStep_symbol notOpen notClose d] at later
    exact later.cons deep

/-- A group that is never closed keeps a group open over every stretch of the list. -/
theorem staysOpen_of_groupLength {d : Nat} {e : Expr} (deep : 0 < d)
    (missing : groupLength d e = none) : StaysOpen d e := by
  fun_induction groupLength d e with
  | case1 => simpa [StaysOpen] using deep
  | case2 d e ih =>
    exact StaysOpen.cons (t := .openBracket) deep (ih (by omega) (by simpa using missing))
  | case3 => simp at missing
  | case4 d e deeper ih =>
    exact StaysOpen.cons (t := .closeBracket) deep (ih (by omega) (by simpa using missing))
  | case5 d t e notOpen notClose ih =>
    have later := ih deep (by simpa using missing)
    rw [← depthStep_symbol notOpen notClose d] at later
    exact later.cons deep

/-! ## The end of a term -/

section TermEnd

variable {ts : Expr} {start : Nat}

theorem termEnd_symbol (notOpen : ts[start]? ≠ some .openBracket) :
    termEnd ts start = start + 1 := by
  simp [termEnd, notOpen]

theorem drop_of_open (opens : ts[start]? = some .openBracket) :
    ts.drop start = .openBracket :: ts.drop (start + 1) := by
  obtain ⟨inside, first⟩ := List.getElem?_eq_some_iff.mp opens
  rw [List.drop_eq_getElem_cons inside, first]

theorem termEnd_of_closed (opens : ts[start]? = some .openBracket) {k : Nat}
    (closed : groupLength 1 (ts.drop (start + 1)) = some k) : termEnd ts start = start + 1 + k := by
  simp only [termEnd, opens, if_true, drop_of_open opens, groupLength, closed, Option.map_some]
  omega

theorem termEnd_of_unclosed (opens : ts[start]? = some .openBracket)
    (unclosed : groupLength 1 (ts.drop (start + 1)) = none) : termEnd ts start = ts.length := by
  simp only [termEnd, opens, if_true, drop_of_open opens, groupLength, unclosed, Option.map_none]

theorem count_extract_of_open (opens : ts[start]? = some .openBracket) {m : Nat}
    (after : start < m) :
    (ts.extract start m).count .closeBracket =
        ((ts.drop (start + 1)).take (m - start - 1)).count .closeBracket ∧
      (ts.extract start m).count .openBracket =
        ((ts.drop (start + 1)).take (m - start - 1)).count .openBracket + 1 := by
  rw [List.extract_eq_take_drop, drop_of_open opens, show m - start = m - start - 1 + 1 by omega,
    List.take_succ_cons]
  simp

/-- A group ends where as many brackets have closed as opened since its start, every shorter
stretch from the start having opened more; a group never closed runs to the end. -/
theorem termEnd_of_open (opens : ts[start]? = some .openBracket) :
    start < termEnd ts start ∧ termEnd ts start ≤ ts.length ∧
      (∀ m, start < m → m < termEnd ts start →
        (ts.extract start m).count .closeBracket < (ts.extract start m).count .openBracket) ∧
      (termEnd ts start = ts.length ∨
        (ts.extract start (termEnd ts start)).count .closeBracket =
          (ts.extract start (termEnd ts start)).count .openBracket) := by
  have inside : start < ts.length := (List.getElem?_eq_some_iff.mp opens).1
  have total : ts.length = start + 1 + (ts.drop (start + 1)).length := by simp; omega
  -- past its opening bracket, a group is measured on what follows from depth one
  cases found : groupLength 1 (ts.drop (start + 1)) with
  | some k =>
    rw [termEnd_of_closed opens found]
    obtain ⟨bound, closes, before⟩ := returnsAt_of_groupLength Nat.one_pos found
    refine ⟨by omega, by omega, ?_, .inr ?_⟩
    · intro m after below
      have fewer := before (m - start - 1) (by omega)
      have counts := count_extract_of_open opens after
      omega
    · have counts := count_extract_of_open opens (show start < start + 1 + k by omega)
      rw [show start + 1 + k - start - 1 = k by omega] at counts
      omega
  | none =>
    rw [termEnd_of_unclosed opens found]
    have unclosed := staysOpen_of_groupLength Nat.one_pos found
    refine ⟨inside, Nat.le_refl _, ?_, .inl rfl⟩
    intro m after below
    have fewer := unclosed (m - start - 1) (by omega)
    have counts := count_extract_of_open opens after
    omega

end TermEnd

/-! ## The leading term -/

theorem leadingTerm_eq (ts : Expr) :
    leadingTerm ts = if ts = [] ∨ ts.head? = some .closeBracket then none
      else some (ts.take (termEnd ts 0), ts.drop (termEnd ts 0)) := by
  cases ts with
  | nil => rfl
  | cons t tail => cases t <;> simp [leadingTerm]

/-- The depth a list reaches counts the brackets it opens and closes. -/
theorem depthFrom_count {d d' : Nat} {e : Expr} (reach : depthFrom d e = some d') :
    d' + e.count .closeBracket = d + e.count .openBracket := by
  induction e generalizing d with
  | nil =>
    cases reach
    simp
  | cons t e ih =>
    cases t with
    | openBracket =>
      have later := ih reach
      simp
      omega
    | closeBracket =>
      cases d with
      | zero => simp [depthFrom] at reach
      | succ d =>
        have later := ih reach
        simp
        omega
    | _ =>
      have later := ih reach
      simpa using later

theorem groupLength_isSome {d : Nat} {e : Expr} (deep : 0 < d) (reach : depthFrom d e = some 0) :
    ∃ k, groupLength d e = some k := by
  cases found : groupLength d e with
  | some k => exact ⟨k, rfl⟩
  | none =>
    have fewer := staysOpen_of_groupLength deep found e.length (Nat.le_refl _)
    have counted := depthFrom_count reach
    rw [List.take_length] at fewer
    omega

/-- Where a group measured from depth `d` ends, a closing bracket follows a stretch that is
balanced below that depth. -/
theorem groupLength_split {d k : Nat} {e : Expr} (deep : 0 < d)
    (found : groupLength d e = some k) :
    ∃ b r, e = b ++ .closeBracket :: r ∧ depthFrom (d - 1) b = some 0 := by
  fun_induction groupLength d e generalizing k with
  | case1 => simp at found
  | case2 d e ih =>
    obtain ⟨k, inner, -⟩ := Option.map_eq_some_iff.mp found
    obtain ⟨b, r, rfl, reach⟩ := ih (by omega) inner
    refine ⟨.openBracket :: b, r, rfl, ?_⟩
    rw [depthFrom, show d - 1 + 1 = d + 1 - 1 by omega, reach]
  | case3 d e shallow =>
    obtain rfl : d = 1 := by omega
    exact ⟨[], e, rfl, rfl⟩
  | case4 d e deeper ih =>
    obtain ⟨k, inner, -⟩ := Option.map_eq_some_iff.mp found
    obtain ⟨b, r, rfl, reach⟩ := ih (by omega) inner
    refine ⟨.closeBracket :: b, r, rfl, ?_⟩
    rw [show d - 1 = d - 1 - 1 + 1 by omega, depthFrom, reach]
  | case5 d t e notOpen notClose ih =>
    obtain ⟨k, inner, -⟩ := Option.map_eq_some_iff.mp found
    obtain ⟨b, r, rfl, reach⟩ := ih deep inner
    refine ⟨t :: b, r, rfl, ?_⟩
    rw [depthFrom_cons_symbol (Term.isBracket_eq_false notOpen notClose), reach]

/-- On a balanced list that is not empty, the leading term is a symbol or a balanced group in
brackets, and the rest is balanced. -/
theorem leadingTerm_of_balanced {ts : Expr} (balanced : Balanced ts) (nonempty : ts ≠ []) :
    ∃ first rest, leadingTerm ts = some (first, rest) ∧
      ((∃ t, t.isBracket = false ∧ first = [t]) ∨ (∃ b, Balanced b ∧ first = bracketed b)) ∧
      Balanced rest := by
  obtain ⟨t, tail, rfl⟩ := List.exists_cons_of_ne_nil nonempty
  cases t with
  | openBracket =>
    obtain ⟨k, closed⟩ := groupLength_isSome Nat.one_pos balanced
    obtain ⟨b, r, rfl, inner⟩ := groupLength_split Nat.one_pos closed
    have whole : Term.openBracket :: (b ++ .closeBracket :: r) = bracketed b ++ r := by
      simp [bracketed]
    have group : Balanced (bracketed b) := balanced_bracketed inner
    rw [whole] at balanced ⊢
    refine ⟨bracketed b, r, leadingTerm_bracketed inner r, .inr ⟨b, inner, rfl⟩, ?_⟩
    rw [Balanced, depthFrom_append, group] at balanced
    exact balanced
  | closeBracket => simp [Balanced, depthFrom] at balanced
  | _ =>
    refine ⟨_, tail, leadingTerm_symbol rfl tail, .inl ⟨_, rfl, rfl⟩, ?_⟩
    exact (balanced_cons_symbol rfl tail).mp balanced

/-- Where a term ends, in any list of terms. From a position inside the list, the end comes
after it and at most at the end of the list. A term that does not start with an opening bracket
ends right after its first position. A group ends at the first position where as many brackets
have closed as opened since its start, every shorter stretch from its start having opened more:
the depth counted along the way is positive before every closing bracket it reads, so it never
drops below zero. A group never closed runs to the end of the list. The leading term is missing
exactly on an empty list or one that starts with a closing bracket, and is otherwise cut where
the first term ends; on a balanced list it is a symbol or a balanced group in brackets, and the
rest is balanced. -/
theorem termEnd_first_return (ts : Expr) :
    (∀ start < ts.length,
      start < termEnd ts start ∧ termEnd ts start ≤ ts.length ∧
        (ts[start]? ≠ some .openBracket → termEnd ts start = start + 1) ∧
        (ts[start]? = some .openBracket →
          (∀ m, start < m → m < termEnd ts start →
            (ts.extract start m).count .closeBracket < (ts.extract start m).count .openBracket) ∧
          (termEnd ts start = ts.length ∨
            (ts.extract start (termEnd ts start)).count .closeBracket =
              (ts.extract start (termEnd ts start)).count .openBracket))) ∧
      leadingTerm ts = (if ts = [] ∨ ts.head? = some .closeBracket then none
        else some (ts.take (termEnd ts 0), ts.drop (termEnd ts 0))) ∧
      (Balanced ts → ts ≠ [] → ∃ first rest, leadingTerm ts = some (first, rest) ∧
        ((∃ t, t.isBracket = false ∧ first = [t]) ∨ (∃ b, Balanced b ∧ first = bracketed b)) ∧
        Balanced rest) := by
  refine ⟨fun start inside => ?_, leadingTerm_eq ts, leadingTerm_of_balanced⟩
  by_cases opens : ts[start]? = some .openBracket
  · obtain ⟨after, bound, fewer, ends⟩ := termEnd_of_open opens
    exact ⟨after, bound, fun notOpen => absurd opens notOpen, fun _ => ⟨fewer, ends⟩⟩
  · rw [termEnd_symbol opens]
    exact ⟨by omega, by omega, fun _ => rfl, fun opened => absurd opened opens⟩

example : termEnd (bracketed (bracketed [.char 'x'])) 1 = 4 := by decide

end Refal.Expr
