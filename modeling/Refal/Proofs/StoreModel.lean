import Mathlib.Data.Set.Card
import Refal.Proofs.Session

/-!
# The store against its abstract model

The store as its documentation describes it: a list `order` of every key rendering ever buried,
each once, in order of first burial, and a partial map `live` from renderings to the key and value
buried under them now, defined on renderings in `order` only. `Br`, `Dg` and `Dgall` act on that
model as `StoreModel.call` says; every other built-in leaves it alone.

The slots refine the model (`Store.Abstracts`): the slot names are `order`, and the entry in the
slot of a rendering is what `live` holds under it. Every call keeps that relation and answers as
the model does, so along every run of calls the store stands for the model that the same calls
build from the empty one.
-/

namespace Refal.Library

/-- The documented store: the renderings ever buried in order of first burial, and the key and
value live under each. -/
structure StoreModel where
  order : List String
  live : String → Option (Expr × Expr)
  order_nodup : order.Nodup
  live_ordered : ∀ r entry, live r = some entry → r ∈ order

namespace StoreModel

def empty : StoreModel := ⟨[], fun _ => none, List.nodup_nil, by simp⟩

/-- `Br` of `key` and `value`: live under the key's rendering, which joins `order` at the end
unless it was buried before. -/
def bury (M : StoreModel) (key value : Expr) : StoreModel where
  order := if Expr.render key ∈ M.order then M.order else M.order ++ [Expr.render key]
  live := Function.update M.live (Expr.render key) (some (key, value))
  order_nodup := by
    split
    · exact M.order_nodup
    · rename_i absent
      refine List.nodup_append.mpr ⟨M.order_nodup, by simp, ?_⟩
      intro r mem b single same
      rw [List.mem_singleton] at single
      subst single same
      exact absent mem
  live_ordered := by
    intro r entry found
    by_cases h : r = Expr.render key
    · subst h
      split <;> simp_all
    · rw [Function.update_of_ne h] at found
      have old := M.live_ordered r entry found
      split <;> simp [old]

def forget (M : StoreModel) (r : String) : StoreModel where
  order := M.order
  live := Function.update M.live r none
  order_nodup := M.order_nodup
  live_ordered := by
    intro r' entry found
    by_cases h : r' = r
    · subst h
      simp at found
    · rw [Function.update_of_ne h] at found
      exact M.live_ordered r' entry found

/-- `Dg` under the rendering `r`: the value live there, and the model without it. -/
def dig (M : StoreModel) (r : String) : Option (Expr × StoreModel) :=
  (M.live r).map fun entry => (entry.2, M.forget r)

/-- `Dgall`: each live entry in `order` as a group of its key, `'='` and its value, and the model
with nothing live. -/
def digAll (M : StoreModel) : Expr × StoreModel :=
  ((M.order.filterMap M.live).flatMap fun entry =>
      .openBracket :: entry.1 ++ .char '=' :: entry.2 ++ [.closeBracket],
    ⟨M.order, fun _ => none, M.order_nodup, by simp⟩)

/-- The model's answer to a call of a store built-in and the model after it; `none` for the
other built-ins. -/
def call (M : StoreModel) (name : String) (e : Expr) :
    Option (Except Fault Outcome × StoreModel) :=
  match Builtin.ofName? name with
  | some .bury =>
    some <| match Expr.splitAtSymbol e (.char '=') with
      | some (key, value) => (.ok (.value []), M.bury key value)
      | none => (.error (.matchFailure "Br" "e.N '=' e.Expr"), M)
  | some .dig =>
    some <| match M.dig (Expr.render e) with
      | some (value, after) => (.ok (.value value), after)
      | none => (.error (.keyNotFound (Expr.render e)), M)
  | some .digAll => some (.ok (.value M.digAll.1), M.digAll.2)
  | _ => none

def next (M : StoreModel) (name : String) (e : Expr) : StoreModel :=
  ((M.call name e).map (·.2)).getD M

def afterCalls (M : StoreModel) (calls : List (String × Expr)) : StoreModel :=
  calls.foldl (fun M c => M.next c.1 c.2) M

/-- The live renderings are counted by the live entries in `order`. -/
theorem ncard_live (M : StoreModel) :
    {r | (M.live r).isSome}.ncard = (M.order.filterMap M.live).length := by
  have domain : {r | (M.live r).isSome} =
      ↑(M.order.filter fun r => (M.live r).isSome).toFinset := by
    ext r
    simp only [Set.mem_ofPred_eq, List.coe_toFinset, List.mem_filter]
    constructor
    · intro live
      obtain ⟨entry, found⟩ := Option.isSome_iff_exists.mp live
      exact ⟨M.live_ordered r entry found, live⟩
    · exact fun ⟨_, live⟩ => live
  rw [domain, Set.ncard_coe_finset, List.toFinset_card_of_nodup (M.order_nodup.filter _),
    List.length_filterMap_eq_countP, List.countP_eq_length_filter]

/-- Every key live in the model renders to the rendering it is live under. -/
def KeysNamed (M : StoreModel) : Prop :=
  ∀ r k v, M.live r = some (k, v) → Expr.render k = r

theorem keysNamed_empty : empty.KeysNamed := by
  intro r k v live
  cases live

theorem KeysNamed.next {M : StoreModel} (named : M.KeysNamed) (name : String) (e : Expr) :
    (M.next name e).KeysNamed := by
  intro r k v live
  simp only [StoreModel.next, StoreModel.call] at live
  split at live
  · split at live
    · rename_i key value _
      simp only [Option.map_some, Option.getD_some, bury, Function.update_apply] at live
      split at live
      · rename_i same
        obtain ⟨rfl, -⟩ := Prod.mk.inj (Option.some.inj live)
        exact same.symm
      · exact named r k v live
    · exact named r k v (by simpa using live)
  · split at live
    · rename_i value after dug
      simp only [dig, Option.map_eq_some_iff, Prod.mk.injEq] at dug
      obtain ⟨_, -, -, rfl⟩ := dug
      simp only [Option.map_some, Option.getD_some, forget, Function.update_apply] at live
      split at live
      · cases live
      · exact named r k v live
    · exact named r k v (by simpa using live)
  · simp [digAll] at live
  · exact named r k v (by simpa using live)

theorem keysNamed_afterCalls (calls : List (String × Expr)) :
    (empty.afterCalls calls).KeysNamed := by
  suffices kept : ∀ M : StoreModel, M.KeysNamed → (M.afterCalls calls).KeysNamed from
    kept empty keysNamed_empty
  induction calls with
  | nil => exact fun M named => named
  | cons c calls ih => exact fun M named => ih (M.next c.1 c.2) (named.next c.1 c.2)

end StoreModel

/-! ## The slots stand for the model -/

/-- The slot that holds a possible entry: its key and its value, or neither. -/
def Slot.ofEntry (entry : Option (Expr × Expr)) : Slot := ⟨entry.map (·.1), entry.map (·.2)⟩

@[simp]
theorem Slot.entry_ofEntry (entry : Option (Expr × Expr)) : (Slot.ofEntry entry).entry = entry := by
  rcases entry with _ | ⟨k, v⟩ <;> rfl

theorem Slot.ofEntry_key {entry : Option (Expr × Expr)} {k : Expr} :
    (Slot.ofEntry entry).key = some k ↔ ∃ v, entry = some (k, v) := by
  rcases entry with _ | ⟨k', v⟩ <;> simp [Slot.ofEntry]

theorem Slot.ofEntry_value {entry : Option (Expr × Expr)} {v : Expr} :
    (Slot.ofEntry entry).value = some v ↔ ∃ k, entry = some (k, v) := by
  rcases entry with _ | ⟨k, v'⟩ <;> simp [Slot.ofEntry]

/-- On a list without repeats, changing a function at the element in position `i` changes the
image of the list at that position only. -/
theorem map_update_eq_set {α β γ : Type} [DecidableEq α] {l : List α} (nodup : l.Nodup) {i : Nat}
    {a : α} (at_i : l[i]? = some a) (f : α → β) (b : β) (g : β → γ) :
    l.map (fun x => g (Function.update f a b x)) = (l.map fun x => g (f x)).set i (g b) := by
  apply List.ext_getElem?
  intro j
  rw [List.getElem?_map, List.getElem?_set, List.length_map]
  obtain ⟨inside, held⟩ := List.getElem?_eq_some_iff.mp at_i
  by_cases same : i = j
  · subst same
    simp [inside, held]
  · rw [if_neg same, List.getElem?_map]
    cases at_j : l[j]? with
    | none => rfl
    | some c =>
      -- another position holds another element
      have other : c ≠ a := by
        rintro rfl
        obtain ⟨inside', held'⟩ := List.getElem?_eq_some_iff.mp at_j
        exact same ((nodup.getElem_inj_iff).mp (held.trans held'.symm))
      simp [Function.update_of_ne other]

/-- The index names each slot by the rendering at the slot's position in `order`, and the slot at
each position holds the key and value live under that rendering. -/
structure Store.Abstracts (st : Store) (M : StoreModel) : Prop where
  index : ∀ (r : String) (pos : Nat), st.index[r]? = some pos ↔ M.order[pos]? = some r
  slots : st.slots = M.order.map fun r => Slot.ofEntry (M.live r)

namespace Store.Abstracts

variable {st : Store} {M : StoreModel}

theorem empty : Store.Abstracts {} StoreModel.empty := by
  constructor
  · intro r pos
    simp [StoreModel.empty]
  · rfl

theorem length (h : st.Abstracts M) : st.slots.length = M.order.length := by
  rw [h.slots, List.length_map]

theorem indexed_of_mem (h : st.Abstracts M) {r : String} (mem : r ∈ M.order) :
    ∃ pos, st.index[r]? = some pos ∧ M.order[pos]? = some r := by
  obtain ⟨pos, at_pos⟩ := List.mem_iff_getElem?.mp mem
  exact ⟨pos, (h.index r pos).mpr at_pos, at_pos⟩

theorem unindexed (h : st.Abstracts M) {r : String} (absent : r ∉ M.order) :
    st.index[r]? = none := by
  cases named : st.index[r]? with
  | none => rfl
  | some pos => exact absurd (List.mem_of_getElem? ((h.index r pos).mp named)) absent

/-- The slot at a position the index names holds what the model has live under the rendering. -/
theorem slot_at (h : st.Abstracts M) {r : String} {pos : Nat} (named : st.index[r]? = some pos) :
    st.slots[pos]? = some (Slot.ofEntry (M.live r)) := by
  rw [h.slots, List.getElem?_map, (h.index r pos).mp named]
  rfl

/-- Refilling the slot at a rendering's position stands for changing what is live under it. -/
theorem set_slot (h : st.Abstracts M) {r : String} {pos : Nat} (at_pos : M.order[pos]? = some r)
    (entry : Option (Expr × Expr)) :
    st.slots.set pos (Slot.ofEntry entry) =
      M.order.map fun r' => Slot.ofEntry (Function.update M.live r entry r') := by
  rw [h.slots]
  exact (map_update_eq_set M.order_nodup at_pos M.live entry Slot.ofEntry).symm

theorem entries (h : st.Abstracts M) : st.entries = M.order.filterMap M.live := by
  rw [Store.entries, h.slots, List.filterMap_map]
  simp

/-- Appending to a list finds the new element at the old length only. -/
theorem getElem?_append_singleton {α : Type} (l : List α) (a b : α) (pos : Nat) :
    (l ++ [a])[pos]? = some b ↔ l[pos]? = some b ∨ pos = l.length ∧ a = b := by
  rw [List.getElem?_append]
  split
  · rename_i inside
    have : pos ≠ l.length := by omega
    simp [this]
  · rename_i outside
    have : l[pos]? = none := List.getElem?_eq_none (by omega)
    rw [this, List.getElem?_singleton]
    by_cases at_end : pos = l.length
    · simp [at_end]
    · simp [at_end, show pos - l.length ≠ 0 by omega]

theorem bury (h : st.Abstracts M) (key value : Expr) :
    (st.bury key value).Abstracts (M.bury key value) := by
  by_cases old : Expr.render key ∈ M.order
  · -- the rendering has its slot: it is filled again, and the index stays
    obtain ⟨pos, named, at_pos⟩ := h.indexed_of_mem old
    rw [Store.bury_of_indexed named]
    constructor
    · simpa only [StoreModel.bury, if_pos old] using h.index
    · simp only [StoreModel.bury, if_pos old]
      exact h.set_slot at_pos (some (key, value))
  · -- a new rendering: a slot at the end, named in the index by the new length
    rw [Store.bury_of_unindexed (h.unindexed old)]
    constructor
    · intro r pos
      simp only [StoreModel.bury, if_neg old, Std.TreeMap.getElem?_insert, h.length,
        getElem?_append_singleton]
      by_cases same : Expr.render key = r
      · subst same
        have missing : M.order[pos]? ≠ some (Expr.render key) :=
          fun at_pos => old (List.mem_of_getElem? at_pos)
        simp [missing, eq_comm]
      · simp [same, h.index r pos]
    · simp only [StoreModel.bury, if_neg old, h.slots, List.map_append, List.map_cons,
        List.map_nil, Function.update_self]
      have others : M.order.map (fun r => Slot.ofEntry (M.live r)) = M.order.map
          fun r => Slot.ofEntry (Function.update M.live (Expr.render key) (some (key, value)) r) :=
        List.map_congr_left fun r mem => by
          have other : r ≠ Expr.render key := by
            rintro rfl
            exact old mem
          rw [Function.update_of_ne other]
      rw [others]
      rfl

/-- Digging finds what the model holds live, and leaves slots that stand for the model without
it. -/
theorem dig (h : st.Abstracts M) (r : String) :
    (st.dig r).map (·.1) = (M.dig r).map (·.1) ∧
      ∀ value after, st.dig r = some (value, after) →
        ∃ after', M.dig r = some (value, after') ∧ after.Abstracts after' := by
  have found : ∀ value after, st.dig r = some (value, after) →
      M.dig r = some (value, M.forget r) ∧ after.Abstracts (M.forget r) := by
    intro value after dug
    obtain ⟨pos, s, named, held, valued, rfl⟩ := Store.dig_eq_some dug
    rw [h.slot_at named] at held
    cases Option.some.inj held
    obtain ⟨k, live⟩ := Slot.ofEntry_value.mp valued
    refine ⟨by simp [StoreModel.dig, live], ?_, ?_⟩
    · simpa only [StoreModel.forget] using h.index
    · exact h.set_slot ((h.index r pos).mp named) none
  refine ⟨?_, fun value after dug => ⟨M.forget r, found value after dug⟩⟩
  cases dug : st.dig r with
  | some pair => simp [(found pair.1 pair.2 dug).1]
  | none =>
    -- nothing found in the slots, so nothing is live: a live entry would sit in a named slot
    cases live : M.live r with
    | none => simp [StoreModel.dig, live]
    | some entry =>
      obtain ⟨pos, named, -⟩ := h.indexed_of_mem (M.live_ordered r entry live)
      have valued : (Slot.ofEntry (M.live r)).value = some entry.2 :=
        Slot.ofEntry_value.mpr ⟨entry.1, live⟩
      rw [Store.dig_of_value named (h.slot_at named) valued] at dug
      cases dug

theorem digAll (h : st.Abstracts M) : st.digAll.2.Abstracts M.digAll.2 := by
  constructor
  · simpa only [Store.digAll, StoreModel.digAll] using h.index
  · simp only [Store.digAll, StoreModel.digAll, h.slots, List.map_map]
    rfl

/-- The live count is the size of the domain of `live`. -/
theorem liveCount (h : st.Abstracts M) : st.liveCount = {r | (M.live r).isSome}.ncard := by
  rw [StoreModel.ncard_live, Store.liveCount, h.slots, List.countP_map,
    List.length_filterMap_eq_countP]
  congr 1
  funext r
  show ((M.live r).map (·.2)).isSome = (M.live r).isSome
  cases M.live r <;> rfl

/-- The representation invariant follows from standing for a model whose keys render to the
renderings they are live under. -/
theorem wellFormed (h : st.Abstracts M) (named : M.KeysNamed) : st.WellFormed where
  index_lt r pos found := by
    rw [h.length]
    exact (List.getElem?_eq_some_iff.mp ((h.index r pos).mp found)).1
  index_injective r r' pos found found' := by
    have first := (h.index r pos).mp found
    rw [(h.index r' pos).mp found'] at first
    exact (Option.some.inj first).symm
  slot_indexed pos inside := by
    rw [h.length] at inside
    exact ⟨M.order[pos], (h.index _ pos).mpr (List.getElem?_eq_getElem inside)⟩
  key_rendered r pos s found held k keyed := by
    rw [h.slot_at found] at held
    cases Option.some.inj held
    obtain ⟨v, live⟩ := Slot.ofEntry_key.mp keyed
    exact named r k v live
  key_iff_value s mem := by
    rw [h.slots] at mem
    obtain ⟨r, -, rfl⟩ := List.mem_map.mp mem
    cases M.live r <;> rfl

/-- The keys of the entries render to distinct texts, each the rendering it is live under. -/
theorem keys_nodup (h : st.Abstracts M) (named : M.KeysNamed) :
    (st.entries.map (Expr.render ·.1)).Nodup := by
  rw [h.entries]
  have sub : ∀ order : List String,
      ((order.filterMap M.live).map (Expr.render ·.1)).Sublist order := by
    intro order
    induction order with
    | nil => exact List.Sublist.slnil
    | cons r rest ih =>
      cases live : M.live r with
      | none => simpa [live] using ih.cons r
      | some entry =>
        have rendered : Expr.render entry.1 = r := named r entry.1 entry.2 live
        simpa [live, rendered] using ih.cons_cons r
  exact (sub M.order).nodup M.order_nodup

end Store.Abstracts

/-! ## Calls and runs -/

/-- A call of a built-in other than `Br`, `Dg` and `Dgall` leaves the store and the model alone. -/
theorem Store.Abstracts.call_other {lib : Library} {M : StoreModel} (h : lib.store.Abstracts M)
    (name : String)
    (other : ∀ b, Builtin.ofName? name = some b → b ≠ .bury ∧ b ≠ .dig ∧ b ≠ .digAll)
    (e : Expr) :
    (lib.call name e).library.store.Abstracts (M.next name e) ∧ M.call name e = none := by
  have unchanged : (lib.call name e).library.store = lib.store ∧ M.call name e = none := by
    rw [store_call, StoreModel.call]
    cases named : Builtin.ofName? name with
    | none => simp
    | some b =>
      obtain ⟨notBury, notDig, notDigAll⟩ := other b named
      cases b <;> simp_all
  obtain ⟨same, model⟩ := unchanged
  refine ⟨?_, model⟩
  rw [same, StoreModel.next, model]
  exact h

/-- One call keeps the slots standing for the model after the same call, and a call of a store
built-in answers as the model does. -/
theorem Store.Abstracts.call {lib : Library} {M : StoreModel} (h : lib.store.Abstracts M)
    (name : String) (e : Expr) :
    (lib.call name e).library.store.Abstracts (M.next name e) ∧
      ∀ answer after, M.call name e = some (answer, after) →
        (lib.call name e).result = answer := by
  cases named : Builtin.ofName? name with
  | none =>
    obtain ⟨kept, model⟩ := h.call_other name (by simp [named]) e
    exact ⟨kept, by simp [model]⟩
  | some b =>
    cases b with
    | bury =>
      rw [call_eq_apply named]
      simp only [StoreModel.next, StoreModel.call, named, apply, Library.bury]
      rcases Expr.splitAtSymbol e (.char '=') with _ | ⟨key, value⟩
      · simp [fail, h]
      · simp [give, h.bury]
    | dig =>
      rw [call_eq_apply named]
      simp only [StoreModel.next, StoreModel.call, named, apply, Library.dig]
      obtain ⟨found, dug⟩ := h.dig (Expr.render e)
      rcases stored : lib.store.dig (Expr.render e) with _ | ⟨value, after⟩
      · have absent : M.dig (Expr.render e) = none := by simpa [stored] using found.symm
        simp [absent, fail, h]
      · obtain ⟨after', live, abstracts⟩ := dug value after stored
        simp [live, give, abstracts]
    | digAll =>
      rw [call_eq_apply named]
      simp only [StoreModel.next, StoreModel.call, named, apply, Library.digAll]
      have value : entriesExpr lib.store.digAll.1 = M.digAll.1 := by
        simp only [Store.digAll, h.entries, entriesExpr, StoreModel.digAll]
      simp [give, h.digAll, value]
    | _ =>
      obtain ⟨kept, model⟩ := h.call_other name (by simp [named]) e
      exact ⟨kept, by simp [model]⟩

theorem Store.Abstracts.afterCalls {lib : Library} {M : StoreModel} (h : lib.store.Abstracts M)
    (calls : List (String × Expr)) :
    (lib.afterCalls calls).store.Abstracts (M.afterCalls calls) := by
  induction calls generalizing lib M with
  | nil => exact h
  | cons c calls ih => exact ih (h.call c.1 c.2).1

/-- Every library that a program reaches has slots that stand for the model the same calls
build from the empty one. -/
theorem abstracts_afterCalls (arguments : List String) (disk : Disk)
    (calls : List (String × Expr)) :
    ((fresh arguments disk).afterCalls calls).store.Abstracts
      (StoreModel.empty.afterCalls calls) :=
  Store.Abstracts.empty.afterCalls calls

/-- Every library that a program reaches has a well-formed store. -/
theorem wellFormed_afterCalls (arguments : List String) (disk : Disk)
    (calls : List (String × Expr)) : ((fresh arguments disk).afterCalls calls).store.WellFormed :=
  (abstracts_afterCalls arguments disk calls).wellFormed (StoreModel.keysNamed_afterCalls calls)

/-- The store refines its documented model along every run. After any calls from a fresh library
the store is well formed and stands for the model that the same calls build from the empty one,
its live count is the number of live renderings, and a further call of `Br`, `Dg` or `Dgall`
answers as the model does and leaves a store that stands for the model after it. -/
theorem store_refines_model (arguments : List String) (disk : Disk)
    (calls : List (String × Expr)) (name : String) (e : Expr) :
    let lib := (fresh arguments disk).afterCalls calls
    let M := StoreModel.empty.afterCalls calls
    lib.store.WellFormed ∧ lib.store.Abstracts M ∧
      lib.liveEntries = {r | (M.live r).isSome}.ncard ∧
      ∀ answer after, M.call name e = some (answer, after) →
        (lib.call name e).result = answer ∧ (lib.call name e).library.store.Abstracts after := by
  intro lib M
  have abstracts : lib.store.Abstracts M := abstracts_afterCalls arguments disk calls
  refine ⟨wellFormed_afterCalls arguments disk calls, abstracts, abstracts.liveCount, ?_⟩
  intro answer after found
  obtain ⟨kept, answers⟩ := abstracts.call name e
  have next : M.next name e = after := by simp [StoreModel.next, found]
  exact ⟨answers answer after found, next ▸ kept⟩

end Refal.Library
