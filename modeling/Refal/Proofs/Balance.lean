import Refal.Proofs.Session
import Refal.Proofs.Split

/-!
# Every call keeps brackets balanced

The library builds its values from pieces that are balanced: the argument itself or its tail
after a handle, the two parts around a top-level separator, terms rewritten one by one with
brackets kept, symbols alone, and the store's entries wrapped in a bracket pair. So a call on a
balanced argument, made while the store holds balanced entries only, returns a balanced value and
buries balanced entries only. Along every run of calls on balanced arguments, then, every value is
balanced and so is everything in the store; in particular no value is a lone bracket.
-/

namespace Refal.Library

/-! ## Values built of symbols -/

theorem Term.isBracket_number (n : Int) : (Term.number n).isBracket = false := by
  unfold Term.number
  split
  · rfl
  · split <;> rfl

theorem symbols_toTerms (n : Int) : ∀ t ∈ Numeral.toTerms n, t.isBracket = false := by
  intro t mem
  unfold Numeral.toTerms at mem
  split at mem <;> simp only [List.mem_cons, List.not_mem_nil, or_false] at mem
  · rcases mem with rfl | rfl
    · rfl
    · exact Term.isBracket_number _
  · subst mem
    exact Term.isBracket_number _

theorem classify_symbols (e : Expr) :
    (classify e).1.isBracket = false ∧ (classify e).2.isBracket = false := by
  cases e with
  | nil => simp [classify, Term.isBracket]
  | cons t e =>
    cases t with
    | char c =>
      simp only [classify]
      split_ifs <;> simp [caseOf, Term.isBracket]
    | _ => simp [classify, Term.isBracket]

theorem symbols_of_get {lib : Library} {e v : Expr}
    (answer : (lib.get e).result = .ok (.value v)) : ∀ t ∈ v, t.isBracket = false := by
  revert answer
  dsimp only [get]
  repeat' split
  all_goals
    intro answer
    cases answer
  all_goals simp [Term.isBracket]

theorem symbols_of_arg {lib : Library} {e v : Expr}
    (answer : (lib.arg e).result = .ok (.value v)) : ∀ t ∈ v, t.isBracket = false := by
  revert answer
  dsimp only [arg]
  repeat' split
  all_goals
    intro answer
    cases answer
  all_goals simp [Expr.ofChars, Term.isBracket]

theorem openFile_no_value {lib : Library} {e v : Expr} :
    (lib.openFile e).result ≠ .ok (.value v) := by
  dsimp only [openFile]
  repeat' split
  all_goals
    intro answer
    cases answer

/-- `Put` returns the argument after a handle, which is no bracket. -/
theorem put_value {lib : Library} {e v : Expr} (answer : (lib.put e).result = .ok (.value v)) :
    v = e.tail ∧ ∃ handle, handleOf e = some handle := by
  revert answer
  dsimp only [put]
  repeat' split
  all_goals
    intro answer
    cases answer
  all_goals simp_all

theorem ArithOp.apply_value {op : ArithOp} {e v : Expr} (answer : op.apply e = .ok v) :
    ∃ r, v = Numeral.toTerms r := by
  simp only [ArithOp.apply, bind, Except.bind] at answer
  split at answer
  · cases answer
  · split at answer
    · cases answer
    · cases answer
      exact ⟨_, rfl⟩

theorem numbOf_value {e v : Expr} (answer : numbOf e = .ok v) :
    v = [] ∨ ∃ n, v = [Term.number n] := by
  unfold numbOf at answer
  split at answer
  · cases answer
    exact .inl rfl
  · cases parsed : wordValue "Numb" (Expr.render e) with
    | error f => simp [parsed, Except.map] at answer
    | ok n =>
      simp only [parsed, Except.map, Except.ok.injEq] at answer
      exact .inr ⟨n, answer.symm⟩

theorem giveOrFail_value {lib : Library} {r : Except Fault Expr} {v : Expr}
    (answer : (lib.giveOrFail r).result = .ok (.value v)) : r = .ok v := by
  cases r <;> cases answer
  rfl

/-! ## Balanced values -/

theorem balanced_typeOf {e : Expr} (balanced : Expr.Balanced e) : Expr.Balanced (typeOf e) := by
  obtain ⟨first, second⟩ := classify_symbols e
  rw [typeOf, Expr.balanced_cons_symbol first, Expr.balanced_cons_symbol second]
  exact balanced

theorem balanced_chrOf {e : Expr} (balanced : Expr.Balanced e) : Expr.Balanced (chrOf e) := by
  rw [Expr.Balanced, chrOf, Expr.depthFrom_map]
  · exact balanced
  · intro t
    cases t <;> simp [Term.value?, Term.isBracket]

theorem balanced_ordOf {e : Expr} (balanced : Expr.Balanced e) : Expr.Balanced (ordOf e) := by
  rw [Expr.Balanced, ordOf, Expr.depthFrom_map]
  · exact balanced
  · intro t
    cases t <;> simp [Term.isBracket]

/-- The value of `Dgall` is balanced when every entry is. -/
theorem balanced_entriesExpr {entries : List (Expr × Expr)}
    (all : ∀ entry ∈ entries, Expr.Balanced entry.1 ∧ Expr.Balanced entry.2) :
    Expr.Balanced (entriesExpr entries) := by
  induction entries with
  | nil => rfl
  | cons entry rest ih =>
    obtain ⟨key, value⟩ := entry
    obtain ⟨keyBalanced, valueBalanced⟩ := all (key, value) (List.mem_cons_self ..)
    have group : Expr.Balanced (.openBracket :: key ++ .char '=' :: value ++ [.closeBracket]) := by
      have inner : Expr.Balanced (key ++ .char '=' :: value) :=
        Expr.balanced_append keyBalanced ((Expr.balanced_cons_symbol rfl value).mpr valueBalanced)
      simpa [Expr.bracketed] using Expr.balanced_bracketed inner
    simp only [entriesExpr, List.flatMap_cons] at ih ⊢
    exact Expr.balanced_append group (ih fun entry mem => all entry (List.mem_cons_of_mem _ mem))

/-- Every key and every value in the store is balanced. -/
def StoreBalanced (lib : Library) : Prop :=
  lib.store.Holds Expr.Balanced Expr.Balanced

/-- A call on a balanced argument returns a balanced value when the store's entries are
balanced. -/
theorem balanced_of_call {lib : Library} {name : String} {e v : Expr} (balanced : Expr.Balanced e)
    (stored : lib.StoreBalanced) (answer : (lib.call name e).result = .ok (.value v)) :
    Expr.Balanced v := by
  cases named : Builtin.ofName? name with
  | none => simp [call, named, fail] at answer
  | some b =>
    rw [call_eq_apply named] at answer
    cases b with
    | print =>
      cases answer
      exact balanced
    | prout => cases answer
    | openFile => exact absurd answer openFile_no_value
    | get => exact Expr.balanced_of_symbols (symbols_of_get answer)
    | put =>
      obtain ⟨rfl, handle, named⟩ := put_value answer
      -- a handle is the text of a first term that is no bracket
      cases e with
      | nil => simp [handleOf] at named
      | cons t rest =>
        have symbol : t.isBracket = false := by
          cases bracket : t.isBracket <;> simp_all [handleOf]
        exact (Expr.balanced_cons_symbol symbol rest).mp balanced
    | arg => exact Expr.balanced_of_symbols (symbols_of_arg answer)
    | bury =>
      dsimp only [apply, bury] at answer
      split at answer <;> cases answer
      rfl
    | dig =>
      dsimp only [apply, dig] at answer
      split at answer
      · rename_i dug
        cases answer
        exact (stored.dig dug).1
      · cases answer
    | digAll =>
      cases answer
      exact balanced_entriesExpr stored.entries
    | arith op =>
      obtain ⟨r, rfl⟩ := ArithOp.apply_value (giveOrFail_value answer)
      exact Expr.balanced_of_symbols (symbols_toTerms r)
    | type =>
      cases answer
      exact balanced_typeOf balanced
    | implode =>
      cases answer
      rfl
    | numb =>
      rcases numbOf_value (giveOrFail_value answer) with rfl | ⟨n, rfl⟩
      · rfl
      · exact Expr.balanced_of_symbols (by simp [Term.isBracket_number])
    | chr =>
      cases answer
      exact balanced_chrOf balanced
    | ord =>
      cases answer
      exact balanced_ordOf balanced
    | absent name => cases answer

/-- A call on a balanced argument buries balanced keys and values only. -/
theorem StoreBalanced.call {lib : Library} (stored : lib.StoreBalanced) (name : String) {e : Expr}
    (balanced : Expr.Balanced e) : (lib.call name e).library.StoreBalanced :=
  Store.Holds.call stored fun _ _ found => Expr.balanced_of_splitAtSymbol found balanced

/-- Along every run of calls on balanced arguments from a fresh library, everything in the store
is balanced, and every value that a call on a balanced argument returns is balanced. -/
theorem balance_preserved (arguments : List String) (disk : Disk) (calls : List (String × Expr))
    (balancedCalls : ∀ c ∈ calls, Expr.Balanced c.2) (name : String) (e : Expr)
    (balancedArgument : Expr.Balanced e) :
    let lib := (fresh arguments disk).afterCalls calls
    (∀ entry ∈ lib.store.entries, Expr.Balanced entry.1 ∧ Expr.Balanced entry.2) ∧
      ∀ v, (lib.call name e).result = .ok (.value v) → Expr.Balanced v := by
  intro lib
  have start : (fresh arguments disk).StoreBalanced := Store.holds_empty
  have stored : lib.StoreBalanced :=
    @afterCalls_induction StoreBalanced (fun c => Expr.Balanced c.2)
      (fun _ name _ balanced stored => stored.call name balanced) _ start calls balancedCalls
  exact ⟨stored.entries, fun v answer => balanced_of_call balancedArgument stored answer⟩

/-- A key and a value in brackets, buried and dug up again. -/
theorem balance_preserved_bury_dig :
    let calls := [("Br", [.openBracket, .char 'a', .closeBracket, .char '=', .openBracket,
      .char 'v', .closeBracket])]
    let lib := (fresh [] Disk.system).afterCalls calls
    (∀ c ∈ calls, Expr.Balanced c.2) ∧
      Expr.Balanced [.openBracket, .char 'a', .closeBracket] ∧
      (lib.call "Dg" [.openBracket, .char 'a', .closeBracket]).result =
        .ok (.value [.openBracket, .char 'v', .closeBracket]) ∧
      Expr.Balanced [.openBracket, .char 'v', .closeBracket] := by
  intro calls lib
  have proven := balance_preserved [] Disk.system calls (by decide) "Dg"
    [.openBracket, .char 'a', .closeBracket] (by decide)
  have dug : (lib.call "Dg" [.openBracket, .char 'a', .closeBracket]).result =
      .ok (.value [.openBracket, .char 'v', .closeBracket]) := by rfl
  exact ⟨by decide, by decide, dug, proven.2 _ dug⟩

end Refal.Library
