import Mathlib.Data.List.Basic
import Refal.Library.Store

/-!
# The slots and the index of the store

What each store operation does to the slots and the index. A burial under a rendering that the
index names fills that slot again and leaves the index alone; under a new rendering it adds a slot
at the end and names it in the index. Digging empties the slot that the index names, and `Dgall`
empties every slot; neither touches the index.

The representation invariant `WellFormed` links the three: the index names every slot by exactly
one rendering, the key in a slot renders to the name of that slot, and a slot holds a key exactly
when it holds a value. A property of keys and one of values (`Holds`) hold of every slot as long
as what is buried has them.
-/

namespace Refal.Library.Store

variable {st : Store} {r : String} {key value : Expr}

/-! ## Burying and digging -/

theorem slotFor_of_indexed {pos : Nat} (found : st.index[r]? = some pos) :
    st.slotFor r = (pos, st) := by
  simp [slotFor, found]

theorem slotFor_of_unindexed (absent : st.index[r]? = none) :
    st.slotFor r =
      (st.slots.length, ⟨st.slots ++ [⟨none, none⟩], st.index.insert r st.slots.length⟩) := by
  simp [slotFor, absent]

/-- Under a rendering the index names, a burial fills that slot. -/
theorem bury_of_indexed {pos : Nat} (found : st.index[Expr.render key]? = some pos) :
    st.bury key value = { st with slots := st.slots.set pos ⟨some key, some value⟩ } := by
  simp [bury, slotFor_of_indexed found]

/-- Under a new rendering, a burial adds a slot at the end and names it in the index. -/
theorem bury_of_unindexed (absent : st.index[Expr.render key]? = none) :
    st.bury key value =
      ⟨st.slots ++ [⟨some key, some value⟩], st.index.insert (Expr.render key) st.slots.length⟩ := by
  simp [bury, slotFor_of_unindexed absent]

/-- What a dig that finds a value did: the index named a slot that held the value, and the slot
is now empty. -/
theorem dig_eq_some {v : Expr} {after : Store} (dug : st.dig r = some (v, after)) :
    ∃ pos s, st.index[r]? = some pos ∧ st.slots[pos]? = some s ∧ s.value = some v ∧
      after = { st with slots := st.slots.set pos ⟨none, none⟩ } := by
  simp only [dig, Option.bind_eq_bind, Option.bind_eq_some_iff, Option.pure_def,
    Option.some.injEq, Prod.mk.injEq] at dug
  obtain ⟨pos, named, s, held, v', valued, same, rfl⟩ := dug
  exact ⟨pos, s, named, held, same ▸ valued, rfl⟩

theorem dig_of_value {pos : Nat} {s : Slot} {v : Expr} (named : st.index[r]? = some pos)
    (held : st.slots[pos]? = some s) (valued : s.value = some v) :
    st.dig r = some (v, { st with slots := st.slots.set pos ⟨none, none⟩ }) := by
  simp [dig, named, held, valued]

/-! ## The representation invariant -/

/-- The index names every slot by exactly one rendering, the key in a slot renders to the name
of that slot, and a slot holds a key exactly when it holds a value. -/
structure WellFormed (st : Store) : Prop where
  index_lt : ∀ (r : String) (pos : Nat), st.index[r]? = some pos → pos < st.slots.length
  index_injective : ∀ (r r' : String) (pos : Nat), st.index[r]? = some pos →
    st.index[r']? = some pos → r = r'
  slot_indexed : ∀ pos < st.slots.length, ∃ r : String, st.index[r]? = some pos
  key_rendered : ∀ (r : String) (pos : Nat) (s : Slot), st.index[r]? = some pos →
    st.slots[pos]? = some s → ∀ k ∈ s.key, Expr.render k = r
  key_iff_value : ∀ s ∈ st.slots, s.key.isSome = s.value.isSome

/-! ## Properties of every key and value -/

/-- Every key in a slot has property `K`, and every value in a slot has property `V`. -/
def Holds (K V : Expr → Prop) (st : Store) : Prop :=
  ∀ s ∈ st.slots, (∀ k ∈ s.key, K k) ∧ (∀ v ∈ s.value, V v)

section Holds

variable {K V : Expr → Prop}

theorem holds_empty : Holds K V {} := by
  simp [Holds]

theorem holds_empty_slot :
    (∀ k ∈ (⟨none, none⟩ : Slot).key, K k) ∧ ∀ v ∈ (⟨none, none⟩ : Slot).value, V v := by
  simp

theorem Holds.bury (all : Holds K V st) (k : K key) (v : V value) :
    Holds K V (st.bury key value) := by
  have new : (∀ k' ∈ (⟨some key, some value⟩ : Slot).key, K k') ∧
      ∀ v' ∈ (⟨some key, some value⟩ : Slot).value, V v' := by
    simp [k, v]
  cases named : st.index[Expr.render key]? with
  | some pos =>
    rw [bury_of_indexed named]
    intro s mem
    rcases List.mem_or_eq_of_mem_set mem with old | rfl
    · exact all s old
    · exact new
  | none =>
    rw [bury_of_unindexed named]
    intro s mem
    rcases List.mem_append.mp mem with old | last
    · exact all s old
    · rw [List.mem_singleton.mp last]
      exact new

/-- A dug value has property `V`, and what digging leaves still holds. -/
theorem Holds.dig (all : Holds K V st) {v : Expr} {after : Store}
    (dug : st.dig r = some (v, after)) : V v ∧ Holds K V after := by
  obtain ⟨pos, s, -, held, valued, rfl⟩ := dig_eq_some dug
  refine ⟨(all s (List.mem_of_getElem? held)).2 v valued, fun s' mem => ?_⟩
  rcases List.mem_or_eq_of_mem_set mem with old | rfl
  · exact all s' old
  · exact holds_empty_slot

theorem holds_digAll : Holds K V st.digAll.2 := by
  intro s mem
  obtain ⟨_, _, rfl⟩ := List.mem_map.mp mem
  exact holds_empty_slot

theorem Holds.entries (all : Holds K V st) : ∀ entry ∈ st.entries, K entry.1 ∧ V entry.2 := by
  intro entry mem
  obtain ⟨s, sMem, found⟩ := List.mem_filterMap.mp mem
  obtain ⟨keys, values⟩ := all s sMem
  rcases s with ⟨_ | k, _ | v⟩ <;> simp only [Slot.entry, reduceCtorEq] at found
  cases found
  exact ⟨keys k rfl, values v rfl⟩

end Holds

end Refal.Library.Store
