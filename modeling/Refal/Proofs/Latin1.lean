import Refal.Proofs.Session

/-!
# Characters and their codes

`Ord` turns each character into the number of its code point and `Chr` each number into the
character of its low byte; both keep every other term. A code point is at most `0x10FFFF`, so it
fits a 32-bit number and `Ord` never wraps. The low byte is the Euclidean residue modulo 256: the
integer type's remainder takes the sign of the dividend, and adding the modulus before taking the
remainder again brings it into `0 … 255`, where the conversion to a byte cannot fail. So `Chr`
undoes `Ord` on Latin-1 text, and `Ord` after `Chr` leaves each number's residue.
-/

namespace Refal.Library

/-! ## The low byte -/

/-- The truncated remainder, shifted by the modulus and taken again, is the Euclidean residue. -/
theorem tmod_add_tmod (n : Int) : (n.tmod 256 + 256).tmod 256 = n % 256 := by
  simp only [Int.tmod_eq_emod]
  split_ifs <;> omega

theorem byteOf?_residue (n : Int) :
    byteOf? ((n.tmod 256 + 256).tmod 256) = some (n % 256).toNat.toUInt8 := by
  rw [tmod_add_tmod, byteOf?, if_pos (by omega)]

theorem lowByteChar_eq (n : Int) : lowByteChar n = Char.ofNat (n % 256).toNat := by
  simp only [lowByteChar, byteOf?_residue, Option.getD_some, Nat.toUInt8_eq, UInt8.toNat_ofNat']
  rw [Nat.mod_eq_of_lt (by omega)]

theorem toNat_ofNat_latin1 {n : Nat} (latin1 : n < 256) : (Char.ofNat n).toNat = n := by
  have valid : n.isValidChar := .inl (by omega)
  rw [Char.ofNat, dif_pos valid]
  rfl

theorem toInt_code (c : Char) : (Int32.ofNat c.toNat).toInt = c.toNat := by
  have valid : c.toNat.isValidChar := Char.toNat_val ▸ c.valid
  have bounded : c.toNat < 0x110000 := by
    rcases valid with low | ⟨-, high⟩ <;> omega
  exact Int32.toInt_ofNat_of_lt (by omega)

theorem code_lowByteChar (n : Int) : Int32.ofNat (lowByteChar n).toNat = Int32.ofInt (n % 256) := by
  rw [lowByteChar_eq, toNat_ofNat_latin1 (by omega), ← Int32.ofInt_eq_ofNat,
    Int.toNat_of_nonneg (by omega)]

/-! ## `Chr` and `Ord` -/

theorem chrOf_ordOf {e : Expr} (noNumbers : ∀ t ∈ e, t.value? = none)
    (latin1 : ∀ c, Term.char c ∈ e → c.toNat < 256) : chrOf (ordOf e) = e := by
  unfold chrOf ordOf
  rw [List.map_map]
  conv_rhs => rw [← List.map_id e]
  apply List.map_congr_left
  intro t mem
  cases t with
  | char c =>
    -- the code read back as a number, whose low byte is the code itself
    have small : (c.toNat : Int) % 256 = c.toNat := Int.emod_eq_of_lt (by omega)
      (by have := latin1 c mem; omega)
    simp only [Function.comp, Term.value?, toInt_code, lowByteChar_eq, small, Int.toNat_natCast,
      Char.ofNat_toNat, id]
  | small n | wide n | big n => exact absurd (noNumbers _ mem) (by simp [Term.value?])
  | word w => rfl
  | openBracket => rfl
  | closeBracket => rfl

theorem ordOf_chrOf {e : Expr} (noChars : ∀ c, Term.char c ∉ e) :
    ordOf (chrOf e) = e.map fun t =>
      match t.value? with
      | some n => .small (Int32.ofInt (n % 256))
      | none => t := by
  unfold chrOf ordOf
  rw [List.map_map]
  apply List.map_congr_left
  intro t mem
  cases t with
  | char c => exact absurd mem (noChars c)
  | small n | wide n | big n => simp [Term.value?, code_lowByteChar]
  | word w => rfl
  | openBracket => rfl
  | closeBracket => rfl

theorem call_ord (lib : Library) (e : Expr) : lib.call "Ord" e = lib.give (ordOf e) :=
  @call_eq_apply lib "Ord" .ord rfl e

theorem call_chr (lib : Library) (e : Expr) : lib.call "Chr" e = lib.give (chrOf e) :=
  @call_eq_apply lib "Chr" .chr rfl e

/-- `Chr` and `Ord` are inverse on Latin-1. On an expression with no numbers whose characters
are all below 256, `Chr` of the value of `Ord` gives the expression back. On an expression with
no characters, `Ord` of the value of `Chr` replaces each number, of any width, by the 32-bit
number of its Euclidean residue modulo 256, and keeps every other term. `Ord` never wraps: each
code point becomes a 32-bit number that is not negative. The low byte is taken as the Euclidean
residue, so its conversion to a byte never fails. -/
theorem chr_ord_latin1 (lib : Library) :
    (∀ e : Expr, (∀ t ∈ e, t.value? = none) → (∀ c, Term.char c ∈ e → c.toNat < 256) →
      ∃ v, lib.call "Ord" e = lib.give v ∧ lib.call "Chr" v = lib.give e) ∧
      (∀ e : Expr, (∀ c, Term.char c ∉ e) →
        ∃ v, lib.call "Chr" e = lib.give v ∧
          lib.call "Ord" v = lib.give (e.map fun t =>
            match t.value? with
            | some n => .small (Int32.ofInt (n % 256))
            | none => t)) ∧
      (∀ c : Char, ∃ x : Int32, ordOf [.char c] = [.small x] ∧ 0 ≤ x.toInt ∧ x.toInt = c.toNat) ∧
      (∀ n : Int, (n.tmod 256 + 256).tmod 256 = n % 256 ∧
        byteOf? ((n.tmod 256 + 256).tmod 256) = some (n % 256).toNat.toUInt8 ∧
        lowByteChar n = Char.ofNat (n % 256).toNat) := by
  refine ⟨?_, ?_, ?_, ?_⟩
  · intro e noNumbers latin1
    exact ⟨ordOf e, call_ord lib e, by rw [call_chr, chrOf_ordOf noNumbers latin1]⟩
  · intro e noChars
    exact ⟨chrOf e, call_chr lib e, by rw [call_ord, ordOf_chrOf noChars]⟩
  · intro c
    refine ⟨Int32.ofNat c.toNat, rfl, ?_, toInt_code c⟩
    rw [toInt_code]
    omega
  · intro n
    exact ⟨tmod_add_tmod n, byteOf?_residue n, lowByteChar_eq n⟩

example : ordOf (chrOf [.small (-1), .wide 321, .word "x"]) = [.small 255, .small 65, .word "x"] := by
  decide

end Refal.Library
