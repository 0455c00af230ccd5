/-!
# Tables of code points

A `RangeTable` is a set of code points written as closed ranges `(lo, hi)`, in ascending order
and apart from each other. That is how the Unicode character database lists its properties, and
it keeps the property modules beside this one plain data.

Membership walks the ranges from the smallest and stops at the first range that does not lie
wholly below the code point, so it never looks past the answer.
-/

namespace Refal.Unicode

/-- A set of code points, as closed ranges in ascending order. -/
structure RangeTable where
  ranges : List (Nat × Nat)

def RangeTable.ofList (ranges : List (Nat × Nat)) : RangeTable := ⟨ranges⟩

/-- Whether `n` lies in one of `ranges`, which are ascending: a range that starts above `n`
ends the search. -/
def memRanges (n : Nat) : List (Nat × Nat) → Bool
  | [] => false
  | (lo, hi) :: rest => if n < lo then false else if n ≤ hi then true else memRanges n rest

def RangeTable.containsCode (t : RangeTable) (n : Nat) : Bool := memRanges n t.ranges

def RangeTable.contains (t : RangeTable) (c : Char) : Bool := t.containsCode c.toNat

/-- A code point in a table lies in one of its ranges, whatever their order. -/
theorem exists_of_memRanges {n : Nat} {ranges : List (Nat × Nat)}
    (mem : memRanges n ranges = true) : ∃ r ∈ ranges, r.1 ≤ n ∧ n ≤ r.2 := by
  induction ranges with
  | nil => cases mem
  | cons r rest ih =>
    obtain ⟨lo, hi⟩ := r
    simp only [memRanges] at mem
    split at mem
    · cases mem
    · split at mem
      · exact ⟨(lo, hi), List.mem_cons_self, by omega, by omega⟩
      · obtain ⟨r, inRest, inside⟩ := ih mem
        exact ⟨r, List.mem_cons_of_mem _ inRest, inside⟩

end Refal.Unicode
