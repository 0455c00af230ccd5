import Refal.Proofs.TermEnd

/-!
# The first separator outside every group

`Expr.splitAtSymbol` cuts a list of terms, balanced or not, at the first occurrence of a
separator where the depth is zero, and drops the separator. The depth is read from the left,
starting at zero: an opening bracket adds one and a closing bracket takes one away, unless the
depth is zero already (`Expr.depthStep`). Symbols are compared whole, so numbers of different
widths are different symbols, and a bracket is never a separator.

On a balanced list the two parts are balanced and the first holds no separator outside its
groups.
-/

namespace Refal.Expr

/-- The depth after reading `e` from depth `d`, held at zero by a closing bracket with nothing
to close. -/
def depthAfter (d : Nat) (e : Expr) : Nat := e.foldl depthStep d

/-- The separator stands at position `i` of `ts`, read from depth `d`, outside every group. -/
def SeparatesAt (sep : Term) (d : Nat) (ts : Expr) (i : Nat) : Prop :=
  ts[i]? = some sep ∧ depthAfter d (ts.take i) = 0

instance (sep : Term) (d : Nat) (ts : Expr) (i : Nat) : Decidable (SeparatesAt sep d ts i) :=
  inferInstanceAs (Decidable (_ ∧ _))

/-- The first position where the separator stands outside every group. -/
def firstSeparator? (sep : Term) (d : Nat) (ts : Expr) : Option Nat :=
  (List.range ts.length).find? fun i => decide (SeparatesAt sep d ts i)

theorem separatesAt_cons_succ (sep t : Term) (d : Nat) (ts : Expr) (i : Nat) :
    SeparatesAt sep d (t :: ts) (i + 1) ↔ SeparatesAt sep (depthStep d t) ts i := by
  simp [SeparatesAt, depthAfter]

theorem separatesAt_cons_zero (sep t : Term) (d : Nat) (ts : Expr) :
    SeparatesAt sep d (t :: ts) 0 ↔ t = sep ∧ d = 0 := by
  simp [SeparatesAt, depthAfter]

theorem firstSeparator?_cons (sep t : Term) (d : Nat) (ts : Expr) :
    firstSeparator? sep d (t :: ts) =
      if t = sep ∧ d = 0 then some 0
      else (firstSeparator? sep (depthStep d t) ts).map (· + 1) := by
  unfold firstSeparator?
  rw [List.length_cons, List.range_succ_eq_map, List.find?_cons, List.find?_map]
  by_cases here : t = sep ∧ d = 0
  · have first : decide (SeparatesAt sep d (t :: ts) 0) = true :=
      decide_eq_true ((separatesAt_cons_zero sep t d ts).mpr here)
    rw [first, if_pos here]
  · have first : decide (SeparatesAt sep d (t :: ts) 0) = false :=
      decide_eq_false (mt (separatesAt_cons_zero sep t d ts).mp here)
    have later : ((fun i => decide (SeparatesAt sep d (t :: ts) i)) ∘ Nat.succ) =
        fun i => decide (SeparatesAt sep (depthStep d t) ts i) := by
      funext i
      simp only [Function.comp, Nat.succ_eq_add_one, separatesAt_cons_succ]
    rw [first, if_neg here, later]

theorem Term.ne_of_isBracket {sep t : Term} (symbol : sep.isBracket = false)
    (bracket : t.isBracket = true) : t ≠ sep := by
  rintro rfl
  rw [symbol] at bracket
  cases bracket

theorem splitAtDepth_bracket {sep : Term} (bracket : sep.isBracket = true) (d : Nat)
    (ts : Expr) : splitAtDepth sep d ts = none := by
  fun_induction splitAtDepth sep d ts with
  | case1 => rfl
  | case2 d e ih | case3 d e ih => simp [ih]
  | case4 d t e notOpen notClose hit =>
    -- the separator would be the symbol `t`, which is no bracket
    exact absurd hit.2 (Term.ne_of_isBracket (Term.isBracket_eq_false notOpen notClose) bracket).symm
  | case5 d t e _ _ _ ih => simp [ih]

/-- The split from depth `d` cuts at the first separator outside every group. -/
theorem splitAtDepth_eq_first {sep : Term} (symbol : sep.isBracket = false) (d : Nat)
    (ts : Expr) :
    splitAtDepth sep d ts = (firstSeparator? sep d ts).map fun i => (ts.take i, ts.drop (i + 1)) := by
  fun_induction splitAtDepth sep d ts with
  | case1 => rfl
  | case2 d e ih | case3 d e ih =>
    -- a bracket is not the separator, whatever the depth
    rw [firstSeparator?_cons, if_neg fun same => Term.ne_of_isBracket symbol rfl same.1, ih]
    simp [Option.map_map, Function.comp_def, depthStep]
  | case4 d t e notOpen notClose hit =>
    rw [firstSeparator?_cons, if_pos ⟨hit.2, hit.1⟩]
    rfl
  | case5 d t e notOpen notClose miss ih =>
    have other : ¬(t = sep ∧ d = 0) := fun same => miss ⟨same.2, same.1⟩
    rw [firstSeparator?_cons, if_neg other, depthStep_symbol notOpen notClose, ih]
    simp [Option.map_map, Function.comp_def]

theorem not_separatesAt_of_first {sep : Term} {d : Nat} {ts : Expr}
    (missing : firstSeparator? sep d ts = none) (i : Nat) : ¬SeparatesAt sep d ts i := by
  intro at_i
  have inside : i < ts.length := (List.getElem?_eq_some_iff.mp at_i.1).1
  have skipped := List.find?_eq_none.mp missing i (List.mem_range.mpr inside)
  exact skipped (decide_eq_true at_i)

/-- The separator split, on any list of terms: no split at a bracket, and otherwise the terms
before and after the first separator at depth zero, where the depth is held at zero by a closing
bracket with nothing to close, or no split if there is none. Symbols are compared whole. On a
balanced list both parts are balanced, and the first holds no separator at depth zero. -/
theorem splitAtSymbol_first_separator (ts : Expr) (sep : Term) :
    splitAtSymbol ts sep = (if sep.isBracket then none
      else (firstSeparator? sep 0 ts).map fun i => (ts.take i, ts.drop (i + 1))) ∧
      (Balanced ts → ∀ k v, splitAtSymbol ts sep = some (k, v) →
        Balanced k ∧ Balanced v ∧ ∀ j, ¬SeparatesAt sep 0 k j) := by
  refine ⟨?_, fun balanced k v found => ?_⟩
  · cases symbol : sep.isBracket
    · rw [splitAtSymbol, splitAtDepth_eq_first symbol, if_neg Bool.false_ne_true]
    · rw [splitAtSymbol, splitAtDepth_bracket symbol, if_pos rfl]
  · obtain ⟨left, right⟩ := balanced_of_splitAtSymbol found balanced
    -- the key is split again at no separator, so the search in it finds none
    have symbol := (eq_append_of_splitAtSymbol found).2
    have missing : firstSeparator? sep 0 k = none := by
      have again := splitAtSymbol_key found
      rwa [splitAtSymbol, splitAtDepth_eq_first symbol, Option.map_eq_none_iff] at again
    exact ⟨left, right, not_separatesAt_of_first missing⟩

example : splitAtSymbol [.wide 1, .small 1] (.small 1) = some ([.wide 1], []) := by decide

end Refal.Expr
