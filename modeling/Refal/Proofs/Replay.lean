import Refal.Proofs.Split
import Refal.Proofs.StoreModel

/-!
# `Dgall` serializes the store faithfully

Every key in the store was cut off by `Br` as the shortest part of its argument before a
top-level `'='`. Such a key holds no top-level `'='`, and the split cuts it off again from the key
followed by `'='` and any value. The keys of the store render to distinct texts. So the groups
that `Dgall` returns can be buried again one after another on a fresh library: in the model, each
burial appends its rendering to `order` and makes its entry live, so the store of the replay
stands for a model whose live entries are the same, in the same order. `Dgall` then returns the
same value, and `Dg` of each key finds its value.
-/

namespace Refal.Library

/-- The argument of `Br` that buries `value` under `key`. -/
def buryArgument (entry : Expr × Expr) : Expr := entry.1 ++ .char '=' :: entry.2

/-- A key that holds no top-level `'='` and that the split at `'='` cuts off again from itself
followed by `'='` and anything. -/
def SplitsOff (key : Expr) : Prop :=
  Expr.splitAtSymbol key (.char '=') = none ∧
    ∀ rest, Expr.splitAtSymbol (key ++ .char '=' :: rest) (.char '=') = some (key, rest)

theorem splitsOff_of_split {e key value : Expr}
    (found : Expr.splitAtSymbol e (.char '=') = some (key, value)) : SplitsOff key :=
  ⟨Expr.splitAtSymbol_key found, Expr.splitAtSymbol_resplit found⟩

/-- Every key that a program's calls leave in the store splits off. -/
theorem keysSplitOff_afterCalls (arguments : List String) (disk : Disk)
    (calls : List (String × Expr)) :
    ((fresh arguments disk).afterCalls calls).store.Holds SplitsOff fun _ => True := by
  have start : (fresh arguments disk).store.Holds SplitsOff fun _ => True := Store.holds_empty
  exact @afterCalls_induction (fun lib => lib.store.Holds SplitsOff fun _ => True)
    (fun _ => True) (fun _ _ _ _ keys => keys.call fun _ _ found => ⟨splitsOff_of_split found, trivial⟩)
    _ start calls (fun _ _ => trivial)

/-! ## Burying the entries again -/

theorem call_bury_again (lib : Library) {entry : Expr × Expr} (key : SplitsOff entry.1) :
    lib.call "Br" (buryArgument entry) =
      { lib with store := lib.store.bury entry.1 entry.2 }.give [] := by
  have named : Builtin.ofName? "Br" = some .bury := rfl
  rw [call_eq_apply named]
  simp only [apply, bury, buryArgument, key.2 entry.2]

theorem StoreModel.next_bury_again (M : StoreModel) {entry : Expr × Expr}
    (key : SplitsOff entry.1) : M.next "Br" (buryArgument entry) = M.bury entry.1 entry.2 := by
  have named : Builtin.ofName? "Br" = some .bury := rfl
  simp only [StoreModel.next, StoreModel.call, named, buryArgument, key.2 entry.2,
    Option.map_some, Option.getD_some]

/-- In the model, burying entries whose keys split off and render to distinct new texts, in order,
appends their renderings to `order`, makes each entry live under its own rendering, and leaves
every other rendering as it was. -/
theorem StoreModel.afterCalls_bury_again (entries : List (Expr × Expr))
    (keys : ∀ entry ∈ entries, SplitsOff entry.1) (M : StoreModel)
    (distinct : (M.order ++ entries.map (Expr.render ·.1)).Nodup) :
    let M' := M.afterCalls (entries.map fun entry => ("Br", buryArgument entry))
    M'.order = M.order ++ entries.map (Expr.render ·.1) ∧
      (∀ entry ∈ entries, M'.live (Expr.render entry.1) = some entry) ∧
      ∀ r ∉ entries.map (Expr.render ·.1), M'.live r = M.live r := by
  induction entries generalizing M with
  | nil => simp [StoreModel.afterCalls]
  | cons entry rest ih =>
    have new : Expr.render entry.1 ∉ M.order := by
      intro mem
      exact (List.nodup_append.mp distinct).2.2 _ mem _ (List.mem_cons_self ..) rfl
    have first : M.next "Br" (buryArgument entry) = M.bury entry.1 entry.2 :=
      M.next_bury_again (keys entry (List.mem_cons_self ..))
    have later := ih (fun e mem => keys e (List.mem_cons_of_mem _ mem)) (M.bury entry.1 entry.2)
      (by simpa [StoreModel.bury, new] using distinct)
    simp only [StoreModel.afterCalls, List.map_cons, List.foldl_cons] at later ⊢
    rw [first]
    obtain ⟨order, live, others⟩ := later
    -- the first rendering comes back in none of the later entries
    have unique : Expr.render entry.1 ∉ rest.map (Expr.render ·.1) :=
      (List.nodup_cons.mp (List.nodup_append.mp distinct).2.1).1
    have appended : (M.bury entry.1 entry.2).order = M.order ++ [Expr.render entry.1] := if_neg new
    refine ⟨by simp [order, appended], ?_, ?_⟩
    · intro e mem
      rcases List.mem_cons.mp mem with rfl | later
      · rw [others _ unique]
        exact Function.update_self ..
      · exact live e later
    · intro r absent
      simp only [List.mem_cons, not_or] at absent
      rw [others r absent.2]
      exact Function.update_of_ne absent.1 ..

/-! ## The value of `Dgall` -/

theorem call_digAll (lib : Library) (e : Expr) :
    (lib.call "Dgall" e).result = .ok (.value (entriesExpr lib.store.entries)) := rfl

/-- `Dgall` serializes the store faithfully. Along every run of calls from a fresh library,
`Dgall` returns the groups `(k '=' v)` of entries whose keys render to distinct texts and hold
no top-level `'='`. Burying `k '=' v` returns the empty value on any library. On a fresh library,
burying every entry in order and then calling `Dgall` returns the same value, and after those
burials `Dg` of each key returns its value. -/
theorem digAll_replays (arguments : List String) (disk : Disk) (calls : List (String × Expr))
    (e : Expr) :
    let lib := (fresh arguments disk).afterCalls calls
    ∃ entries : List (Expr × Expr),
      let g := entries.flatMap fun entry =>
        .openBracket :: entry.1 ++ .char '=' :: entry.2 ++ [.closeBracket]
      (lib.call "Dgall" e).result = .ok (.value g) ∧
      (entries.map (Expr.render ·.1)).Nodup ∧
      (∀ entry ∈ entries, Expr.splitAtSymbol entry.1 (.char '=') = none) ∧
      (∀ entry ∈ entries, ∀ other : Library,
        (other.call "Br" (entry.1 ++ .char '=' :: entry.2)).result = .ok (.value [])) ∧
      ∀ (arguments' : List String) (disk' : Disk),
        let replay := (fresh arguments' disk').afterCalls
          (entries.map fun entry => ("Br", entry.1 ++ .char '=' :: entry.2))
        (∀ e', (replay.call "Dgall" e').result = .ok (.value g)) ∧
          ∀ entry ∈ entries, (replay.call "Dg" entry.1).result = .ok (.value entry.2) := by
  intro lib
  have abstracts := abstracts_afterCalls arguments disk calls
  have distinct : (lib.store.entries.map (Expr.render ·.1)).Nodup :=
    abstracts.keys_nodup (StoreModel.keysNamed_afterCalls calls)
  have keys : ∀ entry ∈ lib.store.entries, SplitsOff entry.1 :=
    fun entry mem => ((keysSplitOff_afterCalls arguments disk calls).entries entry mem).1
  refine ⟨lib.store.entries, call_digAll lib e, distinct, fun entry mem => (keys entry mem).1,
    fun entry mem other => ?_, fun arguments' disk' => ?_⟩
  · rw [show entry.1 ++ .char '=' :: entry.2 = buryArgument entry from rfl,
      call_bury_again other (keys entry mem)]
    rfl
  · intro replay
    -- the replay's store stands for the model that the same burials build from the empty one
    have replayed := abstracts_afterCalls arguments' disk'
      (lib.store.entries.map fun entry => ("Br", buryArgument entry))
    obtain ⟨order, live, -⟩ := StoreModel.afterCalls_bury_again lib.store.entries keys
      StoreModel.empty (by simpa [StoreModel.empty] using distinct)
    generalize StoreModel.empty.afterCalls
      (lib.store.entries.map fun entry => ("Br", buryArgument entry)) = M' at replayed order live
    -- the model the burials build holds the entries live, in the order of their renderings
    have back : M'.order.filterMap M'.live = lib.store.entries := by
      rw [order, show StoreModel.empty.order = [] from rfl, List.nil_append, List.filterMap_map]
      exact (List.filterMap_congr fun entry mem => live entry mem).trans List.filterMap_some
    refine ⟨fun e' => ?_, fun entry mem => ?_⟩
    · have named : Builtin.ofName? "Dgall" = some .digAll := rfl
      refine (replayed.call "Dgall" e').2 (.ok (.value M'.digAll.1)) M'.digAll.2
        (by simp [StoreModel.call, named]) |>.trans ?_
      simp only [StoreModel.digAll, back]
    · have named : Builtin.ofName? "Dg" = some .dig := rfl
      refine (replayed.call "Dg" entry.1).2 _ (M'.forget (Expr.render entry.1)) ?_
      simp [StoreModel.call, StoreModel.dig, named, live entry mem]

end Refal.Library
