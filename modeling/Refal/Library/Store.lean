import Std.Data.TreeMap
import Refal.Expr

/-!
# The store

`Br` buries a value under a key and `Dg` digs it up again; `Dgall` digs up everything. Keys are
told apart by their rendering, so `1`, `'1'` and `"1"` are one key. The slots are kept in order of
first burial and never removed; an index maps each rendering ever buried to the position of its
slot. A slot holds a key and a value, each taken out on its own: digging takes the value and then
the key, `Dgall` takes both out of every slot, and the next burial under a rendering fills its old
slot again.

The index is an ordered map: it is only looked up and added to, never gone through, so the order
of its keys does not show.
-/

namespace Refal.Library

structure Slot where
  key : Option Expr := none
  value : Option Expr := none

structure Store where
  slots : List Slot := []
  index : Std.TreeMap String Nat compare := ∅

/-- The key and value of a slot that holds both. -/
def Slot.entry (s : Slot) : Option (Expr × Expr) :=
  match s.key, s.value with
  | some k, some v => some (k, v)
  | _, _ => none

namespace Store

/-- The position of the slot for `rendered`, and the store with that slot: the slot the index
names, or else a new empty slot at the end, which the index then names. -/
def slotFor (st : Store) (rendered : String) : Nat × Store :=
  match st.index[rendered]? with
  | some pos => (pos, st)
  | none => (st.slots.length, ⟨st.slots ++ [⟨none, none⟩], st.index.insert rendered st.slots.length⟩)

/-- Buries `value` under `key`, in the slot of the key's rendering. -/
def bury (st : Store) (key value : Expr) : Store :=
  let (pos, st) := st.slotFor (Expr.render key)
  { st with slots := st.slots.set pos ⟨some key, some value⟩ }

/-- Digs up the value buried under the key rendered `rendered`: the value, and the store with
the value and then the key taken out of its slot. Nothing when the rendering has no slot or its
slot holds no value. -/
def dig (st : Store) (rendered : String) : Option (Expr × Store) := do
  let pos ← st.index[rendered]?
  let slot ← st.slots[pos]?
  let value ← slot.value
  pure (value, { st with slots := st.slots.set pos ⟨none, none⟩ })

/-- The keys and values buried, in slot order. -/
def entries (st : Store) : List (Expr × Expr) := st.slots.filterMap Slot.entry

/-- Digs up everything: the entries in slot order, and the store with both taken out of every
slot. -/
def digAll (st : Store) : List (Expr × Expr) × Store :=
  (st.entries, { st with slots := st.slots.map fun _ => ⟨none, none⟩ })

def liveCount (st : Store) : Nat := st.slots.countP (·.value.isSome)

end Store

end Refal.Library
