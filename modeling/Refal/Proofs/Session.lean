import Refal.Library.Call
import Refal.Proofs.Store

/-!
# Sessions

A program starts its library fresh, with nothing buried and no file open, and then makes calls
one after another, each on the library that the call before it left. A property that every call
keeps therefore holds of every library a program can reach (`afterCalls_induction`).

`Br`, `Dg` and `Dgall` are the only built-ins that touch the store, and `store_call` says what
each of them does to it. From it, a property of keys and one of values hold after every call as
long as whatever `Br` buries has them.
-/

namespace Refal.Library

/-- A library as a program starts it: nothing buried and no file open. -/
def fresh (arguments : List String) (disk : Disk) : Library := { arguments, disk }

/-- The library after `calls`, each made on the library that the call before it left. -/
def afterCalls (lib : Library) (calls : List (String × Expr)) : Library :=
  calls.foldl (fun lib c => (lib.call c.1 c.2).library) lib

@[simp]
theorem afterCalls_nil (lib : Library) : lib.afterCalls [] = lib := rfl

@[simp]
theorem afterCalls_cons (lib : Library) (c : String × Expr) (calls : List (String × Expr)) :
    lib.afterCalls (c :: calls) = (lib.call c.1 c.2).library.afterCalls calls := rfl

@[simp]
theorem fresh_store (arguments : List String) (disk : Disk) :
    (fresh arguments disk).store = {} := rfl

/-- A property that every allowed call keeps holds after every run of allowed calls. -/
theorem afterCalls_induction {P : Library → Prop} {allowed : String × Expr → Prop}
    (keep : ∀ lib name e, allowed (name, e) → P lib → P (lib.call name e).library)
    {lib : Library} (start : P lib) {calls : List (String × Expr)}
    (each : ∀ c ∈ calls, allowed c) : P (lib.afterCalls calls) := by
  induction calls generalizing lib with
  | nil => exact start
  | cons c calls ih =>
    have first : P (lib.call c.1 c.2).library :=
      keep lib c.1 c.2 (each c (List.mem_cons_self ..)) start
    exact ih first fun c' mem => each c' (List.mem_cons_of_mem _ mem)

theorem call_eq_apply {lib : Library} {name : String} {b : Builtin}
    (named : Builtin.ofName? name = some b) (e : Expr) : lib.call name e = lib.apply b e := by
  simp [call, named]

/-! ## The store across calls -/

theorem store_openFile (lib : Library) (e : Expr) : (lib.openFile e).library.store = lib.store := by
  dsimp only [openFile]
  repeat' split
  all_goals rfl

theorem store_get (lib : Library) (e : Expr) : (lib.get e).library.store = lib.store := by
  dsimp only [get]
  repeat' split
  all_goals rfl

theorem store_put (lib : Library) (e : Expr) : (lib.put e).library.store = lib.store := by
  dsimp only [put]
  repeat' split
  all_goals rfl

theorem store_arg (lib : Library) (e : Expr) : (lib.arg e).library.store = lib.store := by
  dsimp only [arg]
  repeat' split
  all_goals rfl

theorem store_giveOrFail (lib : Library) (r : Except Fault Expr) :
    (lib.giveOrFail r).library.store = lib.store := by
  cases r <;> rfl

/-- What a call does to the store: `Br` buries at its first top-level `'='`, `Dg` digs under the
argument's rendering, `Dgall` empties every slot, and every other call leaves the store alone. -/
theorem store_call (lib : Library) (name : String) (e : Expr) :
    (lib.call name e).library.store =
      match Builtin.ofName? name with
      | some .bury =>
        match Expr.splitAtSymbol e (.char '=') with
        | some (key, value) => lib.store.bury key value
        | none => lib.store
      | some .dig =>
        match lib.store.dig (Expr.render e) with
        | some (_, after) => after
        | none => lib.store
      | some .digAll => lib.store.digAll.2
      | _ => lib.store := by
  cases named : Builtin.ofName? name with
  | none => simp [call, named, fail]
  | some b =>
    rw [call_eq_apply named]
    cases b with
    | openFile => exact store_openFile lib e
    | get => exact store_get lib e
    | put => exact store_put lib e
    | arg => exact store_arg lib e
    | bury =>
      dsimp only [apply, bury]
      rcases Expr.splitAtSymbol e (.char '=') with _ | ⟨key, value⟩ <;> rfl
    | dig =>
      dsimp only [apply, dig]
      rcases lib.store.dig (Expr.render e) with _ | ⟨value, after⟩ <;> rfl
    | arith op => exact store_giveOrFail lib _
    | numb => exact store_giveOrFail lib _
    | _ => rfl

/-- A property of keys and one of values hold of the store after a call when they held before and
the call's argument, if it is split at `'='`, gives a key and a value that have them. -/
theorem Store.Holds.call {K V : Expr → Prop} {lib : Library} (all : lib.store.Holds K V)
    {name : String} {e : Expr}
    (buried : ∀ key value, Expr.splitAtSymbol e (.char '=') = some (key, value) → K key ∧ V value) :
    (lib.call name e).library.store.Holds K V := by
  rw [store_call]
  split
  · split
    · rename_i split
      obtain ⟨k, v⟩ := buried _ _ split
      exact all.bury k v
    · exact all
  · split
    · rename_i dug
      exact (all.dig dug).2
    · exact all
  · exact Store.holds_digAll
  · exact all

end Refal.Library
