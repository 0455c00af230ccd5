import Refal.Expr

/-!
# Depth and the separator split

The running depth of an expression composes over concatenation, so balance is kept by
concatenation and by wrapping in brackets, and only brackets move it.

The split of `e` at its first separator outside every group gives a key and a rest with
`e = key ++ sep :: rest`. The key holds no separator outside its own groups and ends at depth
zero, so it is cut off again from the same separator followed by anything. When `e` is balanced,
so are the key and the rest.
-/

namespace Refal.Expr

/-! ## Depth -/

theorem depthFrom_cons_symbol {t : Term} (symbol : t.isBracket = false) (d : Nat) (e : Expr) :
    depthFrom d (t :: e) = depthFrom d e := by
  cases t <;> simp_all [depthFrom, Term.isBracket]

theorem depthFrom_append (d : Nat) (x y : Expr) :
    depthFrom d (x ++ y) = (depthFrom d x).bind fun d' => depthFrom d' y := by
  induction x generalizing d with
  | nil => rfl
  | cons t x ih =>
    cases t with
    | closeBracket => cases d <;> simp [depthFrom, ih]
    | _ => simp [depthFrom, ih]

theorem depthFrom_add {d d' : Nat} {e : Expr} (reach : depthFrom d e = some d') (n : Nat) :
    depthFrom (d + n) e = some (d' + n) := by
  induction e generalizing d with
  | nil => simp_all [depthFrom]
  | cons t e ih =>
    cases t with
    | openBracket =>
      simp only [depthFrom] at reach ⊢
      rw [show d + n + 1 = d + 1 + n by omega]
      exact ih reach
    | closeBracket =>
      cases d with
      | zero => simp [depthFrom] at reach
      | succ d =>
        simp only [depthFrom] at reach
        rw [show d + 1 + n = (d + n) + 1 by omega]
        exact ih reach
    | _ => exact ih reach

theorem balanced_append {x y : Expr} (left : Balanced x) (right : Balanced y) :
    Balanced (x ++ y) := by
  rw [Balanced, depthFrom_append, left]
  exact right

theorem balanced_cons_symbol {t : Term} (symbol : t.isBracket = false) (e : Expr) :
    Balanced (t :: e) ↔ Balanced e := by
  rw [Balanced, Balanced, depthFrom_cons_symbol symbol]

theorem balanced_of_symbols {e : Expr} (symbols : ∀ t ∈ e, t.isBracket = false) :
    Balanced e := by
  induction e with
  | nil => rfl
  | cons t e ih =>
    rw [balanced_cons_symbol (symbols t (List.mem_cons_self ..))]
    exact ih fun u mem => symbols u (List.mem_cons_of_mem _ mem)

theorem balanced_bracketed {e : Expr} (balanced : Balanced e) : Balanced (bracketed e) := by
  have inner : depthFrom 1 e = some 1 := depthFrom_add balanced 1
  simp [Balanced, bracketed, depthFrom, depthFrom_append, inner]

/-- A map that sends brackets to themselves and symbols to symbols keeps every depth. -/
theorem depthFrom_map {f : Term → Term}
    (keeps : ∀ t, f t = t ∨ (t.isBracket = false ∧ (f t).isBracket = false)) (d : Nat)
    (e : Expr) : depthFrom d (e.map f) = depthFrom d e := by
  induction e generalizing d with
  | nil => rfl
  | cons t e ih =>
    rcases keeps t with same | ⟨symbol, image⟩
    · simp only [List.map_cons, same]
      cases t with
      | closeBracket => cases d <;> simp [depthFrom, ih]
      | _ => simp [depthFrom, ih]
    · rw [List.map_cons, depthFrom_cons_symbol image, depthFrom_cons_symbol symbol, ih]

/-! ## The leading term -/

theorem groupLength_cons_symbol {t : Term} (symbol : t.isBracket = false) (d : Nat) (e : Expr) :
    groupLength d (t :: e) = (groupLength d e).map (· + 1) := by
  cases t <;> simp_all [groupLength, Term.isBracket]

/-- Inside a group, a stretch whose depth never fails is passed over whole: the group then ends
where it would end after the stretch. -/
theorem groupLength_append {m m' : Nat} {x : Expr} (reach : depthFrom m x = some m')
    (ys : Expr) :
    groupLength (m + 1) (x ++ ys) = (groupLength (m' + 1) ys).map (· + x.length) := by
  induction x generalizing m with
  | nil =>
    simp only [depthFrom, Option.some.injEq] at reach
    subst reach
    simp
  | cons t x ih =>
    cases t with
    | openBracket =>
      simp only [depthFrom] at reach
      simp only [List.cons_append, groupLength, ih reach, Option.map_map]
      rfl
    | closeBracket =>
      cases m with
      | zero => simp [depthFrom] at reach
      | succ m =>
        simp only [depthFrom] at reach
        -- the bracket closes an inner group, not the one being measured
        have deeper : ¬m + 1 + 1 ≤ 1 := by omega
        simp only [List.cons_append, groupLength, deeper, if_false, Nat.add_sub_cancel, ih reach,
          Option.map_map]
        rfl
    | _ =>
      rw [depthFrom_cons_symbol rfl] at reach
      rw [List.cons_append, groupLength_cons_symbol rfl, ih reach, Option.map_map]
      rfl

/-- A balanced group in brackets is taken whole as the leading term. -/
theorem leadingTerm_bracketed {x : Expr} (balanced : Balanced x) (rest : Expr) :
    leadingTerm (bracketed x ++ rest) = some (bracketed x, rest) := by
  have closes : groupLength 0 (bracketed x ++ rest) = some (bracketed x).length := by
    have inner := groupLength_append balanced (.closeBracket :: rest)
    simp only [Nat.zero_add] at inner
    simp [bracketed, groupLength, inner]
    omega
  have ends : termEnd (bracketed x ++ rest) 0 = (bracketed x).length := by
    have opens : (bracketed x ++ rest)[0]? = some .openBracket := rfl
    simp only [termEnd, opens, if_true, List.drop_zero, closes, Nat.zero_add]
  have unfolded : leadingTerm (bracketed x ++ rest) =
      some ((bracketed x ++ rest).take (termEnd (bracketed x ++ rest) 0),
        (bracketed x ++ rest).drop (termEnd (bracketed x ++ rest) 0)) := rfl
  rw [unfolded, ends, List.take_left, List.drop_left]

theorem leadingTerm_symbol {t : Term} (symbol : t.isBracket = false) (rest : Expr) :
    leadingTerm (t :: rest) = some ([t], rest) := by
  have ends : termEnd (t :: rest) 0 = 1 := by
    cases t <;> simp_all [termEnd, Term.isBracket]
  cases t <;> simp_all [leadingTerm, Term.isBracket]

/-! ## The separator split -/

section Split

variable {sep : Term} {d : Nat} {e k v : Expr}

theorem splitAtDepth_cons_symbol {t : Term} (symbol : t.isBracket = false) (sep : Term)
    (d : Nat) (e : Expr) :
    splitAtDepth sep d (t :: e) =
      if d = 0 ∧ t = sep then some ([], e)
      else (splitAtDepth sep d e).map fun p => (t :: p.1, p.2) := by
  cases t <;> simp_all [splitAtDepth, Term.isBracket]

theorem Term.isBracket_eq_false {t : Term} (notOpen : t ≠ .openBracket)
    (notClose : t ≠ .closeBracket) : t.isBracket = false := by
  cases t <;> simp_all [Term.isBracket]

/-- A split found after a first term is the split of the rest with that term put in front. -/
theorem map_cons_eq_some {t : Term} {found : Option (Expr × Expr)}
    (cut : found.map (fun p => (t :: p.1, p.2)) = some (k, v)) :
    ∃ k', found = some (k', v) ∧ k = t :: k' := by
  obtain ⟨⟨k', v'⟩, inner, same⟩ := Option.map_eq_some_iff.mp cut
  simp only [Prod.mk.injEq] at same
  obtain ⟨rfl, rfl⟩ := same
  exact ⟨k', inner, rfl⟩

/-- The split cuts the list at an occurrence of the separator, which is no bracket. -/
theorem eq_append_of_splitAtDepth (found : splitAtDepth sep d e = some (k, v)) :
    e = k ++ sep :: v ∧ sep.isBracket = false := by
  fun_induction splitAtDepth sep d e generalizing k v with
  | case1 => simp at found
  | case2 d e ih | case3 d e ih =>
    obtain ⟨k', inner, rfl⟩ := map_cons_eq_some found
    simp [ih inner]
  | case4 d t e notOpen notClose hit =>
    simp only [Option.some.injEq, Prod.mk.injEq] at found
    obtain ⟨rfl, rfl⟩ := found
    obtain ⟨-, rfl⟩ := hit
    exact ⟨rfl, Term.isBracket_eq_false notOpen notClose⟩
  | case5 d t e _ _ _ ih =>
    obtain ⟨k', inner, rfl⟩ := map_cons_eq_some found
    simp [ih inner]

/-- The key holds no separator outside its groups: it is the shortest such prefix. -/
theorem splitAtDepth_key (found : splitAtDepth sep d e = some (k, v)) :
    splitAtDepth sep d k = none := by
  fun_induction splitAtDepth sep d e generalizing k v with
  | case1 => simp at found
  | case2 d e ih | case3 d e ih =>
    obtain ⟨k', inner, rfl⟩ := map_cons_eq_some found
    simp [splitAtDepth, ih inner]
  | case4 =>
    simp only [Option.some.injEq, Prod.mk.injEq] at found
    obtain ⟨rfl, rfl⟩ := found
    rfl
  | case5 d t e notOpen notClose miss ih =>
    obtain ⟨k', inner, rfl⟩ := map_cons_eq_some found
    rw [splitAtDepth_cons_symbol (Term.isBracket_eq_false notOpen notClose), if_neg miss,
      ih inner, Option.map_none]

/-- Whatever follows the separator, the same key is cut off again. -/
theorem splitAtDepth_resplit (found : splitAtDepth sep d e = some (k, v)) (rest : Expr) :
    splitAtDepth sep d (k ++ sep :: rest) = some (k, rest) := by
  fun_induction splitAtDepth sep d e generalizing k v with
  | case1 => simp at found
  | case2 d e ih | case3 d e ih =>
    obtain ⟨k', inner, rfl⟩ := map_cons_eq_some found
    simp [splitAtDepth, ih inner]
  | case4 d t e notOpen notClose hit =>
    simp only [Option.some.injEq, Prod.mk.injEq] at found
    obtain ⟨rfl, rfl⟩ := found
    -- the separator itself stands first now, at the same depth
    rw [List.nil_append, ← hit.2,
      splitAtDepth_cons_symbol (Term.isBracket_eq_false notOpen notClose), if_pos ⟨hit.1, rfl⟩]
  | case5 d t e notOpen notClose miss ih =>
    obtain ⟨k', inner, rfl⟩ := map_cons_eq_some found
    rw [List.cons_append, splitAtDepth_cons_symbol (Term.isBracket_eq_false notOpen notClose),
      if_neg miss, ih inner]
    rfl

/-- Cutting a list whose depth never fails: the key closes every group it opens, and the rest
reads from depth zero to where the whole list ends. -/
theorem depthFrom_of_splitAtDepth (found : splitAtDepth sep d e = some (k, v)) {d' : Nat}
    (reach : depthFrom d e = some d') : depthFrom d k = some 0 ∧ depthFrom 0 v = some d' := by
  fun_induction splitAtDepth sep d e generalizing k v with
  | case1 => simp at found
  | case2 d e ih =>
    obtain ⟨k', inner, rfl⟩ := map_cons_eq_some found
    exact ih inner reach
  | case3 d e ih =>
    obtain ⟨k', inner, rfl⟩ := map_cons_eq_some found
    -- a closing bracket that the depth survives comes at a positive depth
    cases d with
    | zero => simp [depthFrom] at reach
    | succ d => exact ih inner reach
  | case4 d t e notOpen notClose hit =>
    simp only [Option.some.injEq, Prod.mk.injEq] at found
    obtain ⟨rfl, rfl⟩ := found
    obtain ⟨rfl, -⟩ := hit
    rw [depthFrom_cons_symbol (Term.isBracket_eq_false notOpen notClose)] at reach
    exact ⟨rfl, reach⟩
  | case5 d t e notOpen notClose miss ih =>
    obtain ⟨k', inner, rfl⟩ := map_cons_eq_some found
    have symbol := Term.isBracket_eq_false notOpen notClose
    rw [depthFrom_cons_symbol symbol] at reach ⊢
    exact ih inner reach

theorem eq_append_of_splitAtSymbol (found : splitAtSymbol e sep = some (k, v)) :
    e = k ++ sep :: v ∧ sep.isBracket = false :=
  eq_append_of_splitAtDepth found

theorem splitAtSymbol_key (found : splitAtSymbol e sep = some (k, v)) :
    splitAtSymbol k sep = none :=
  splitAtDepth_key found

theorem splitAtSymbol_resplit (found : splitAtSymbol e sep = some (k, v)) (rest : Expr) :
    splitAtSymbol (k ++ sep :: rest) sep = some (k, rest) :=
  splitAtDepth_resplit found rest

/-- Both parts of a balanced argument cut at its separator are balanced. -/
theorem balanced_of_splitAtSymbol (found : splitAtSymbol e sep = some (k, v))
    (balanced : Balanced e) : Balanced k ∧ Balanced v :=
  depthFrom_of_splitAtDepth found balanced

end Split

end Refal.Expr
