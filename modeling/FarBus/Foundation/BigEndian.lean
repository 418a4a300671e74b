/-
  Foundation/BigEndian.lean --- big-endian byte strings of natural numbers.

  A fixed-width field is the list of its base-256 digits, most significant digit
  first.  `toBe width n` writes the low-order `width` digits of `n`, `ofBe`
  reads a digit list back.  The two are inverse on numbers below `256 ^ width`
  and on lists of length `width`, which is all the fixed-width integer codecs of
  a wire format need: the machine types only add their own `toNat`/`ofNat`.
-/
import Mathlib.Data.Nat.ModEq
import Mathlib.Tactic.Ring

set_option autoImplicit false

namespace FarBus.Foundation

/-- A byte string. -/
abbrev Bytes : Type := List UInt8

/-- The `width` low-order base-256 digits of `n`, most significant first. -/
def toBe : Nat → Nat → Bytes
  | 0, _ => []
  | width + 1, n => UInt8.ofNat (n / 256 ^ width) :: toBe width n

/-- The number whose base-256 digits, most significant first, are given. -/
def ofBe : Bytes → Nat
  | [] => 0
  | b :: bs => b.toNat * 256 ^ bs.length + ofBe bs

@[simp] theorem length_toBe (width n : Nat) : (toBe width n).length = width := by
  induction width with
  | zero => rfl
  | succ width ih => simp [toBe, ih]

/-- Reading the written digits back keeps exactly the low-order ones. -/
theorem ofBe_toBe (width n : Nat) : ofBe (toBe width n) = n % 256 ^ width := by
  induction width with
  | zero => simp [toBe, ofBe, Nat.mod_one]
  | succ width ih =>
      have hsplit : n % 256 ^ (width + 1)
          = n % 256 ^ width + 256 ^ width * (n / 256 ^ width % 256) := Nat.mod_pow_succ
      rw [toBe, ofBe, ih, length_toBe, UInt8.toNat_ofNat', hsplit]
      ring

theorem ofBe_toBe_of_lt {width n : Nat} (h : n < 256 ^ width) :
    ofBe (toBe width n) = n := by
  rw [ofBe_toBe, Nat.mod_eq_of_lt h]

theorem ofBe_lt (bs : Bytes) : ofBe bs < 256 ^ bs.length := by
  induction bs with
  | nil => simp [ofBe]
  | cons b bs ih =>
      have hb : b.toNat + 1 ≤ 256 := b.toNat_lt
      calc b.toNat * 256 ^ bs.length + ofBe bs
          < b.toNat * 256 ^ bs.length + 256 ^ bs.length := by omega
        _ = (b.toNat + 1) * 256 ^ bs.length := by ring
        _ ≤ 256 * 256 ^ bs.length := Nat.mul_le_mul_right _ hb
        _ = 256 ^ (b :: bs).length := by rw [List.length_cons, Nat.pow_succ]; ring

/-- Digits above the width are not written. -/
theorem toBe_add_mul (width n m : Nat) :
    toBe width (n + m * 256 ^ width) = toBe width n := by
  induction width generalizing m with
  | zero => rfl
  | succ width ih =>
      have hpos : 0 < 256 ^ width := Nat.pow_pos (by decide)
      have hshift : m * 256 ^ (width + 1) = (m * 256) * 256 ^ width := by
        rw [Nat.pow_succ]; ring
      have hdigit : UInt8.ofNat ((n + m * 256 * 256 ^ width) / 256 ^ width)
          = UInt8.ofNat (n / 256 ^ width) := by
        apply UInt8.toNat_inj.mp
        rw [Nat.add_mul_div_right _ _ hpos, UInt8.toNat_ofNat', UInt8.toNat_ofNat']
        omega
      rw [toBe, toBe, hshift, hdigit, ih]

/-- Writing a number that was read gives back the digits it was read from. -/
theorem toBe_ofBe (bs : Bytes) : toBe bs.length (ofBe bs) = bs := by
  induction bs with
  | nil => rfl
  | cons b bs ih =>
      have hlt := ofBe_lt bs
      have hpos : 0 < 256 ^ bs.length := Nat.pow_pos (by decide)
      have hswap : ofBe (b :: bs) = ofBe bs + b.toNat * 256 ^ bs.length := by
        rw [ofBe]; omega
      have hhead : (ofBe bs + b.toNat * 256 ^ bs.length) / 256 ^ bs.length = b.toNat := by
        rw [Nat.add_mul_div_right _ _ hpos, Nat.div_eq_of_lt hlt, Nat.zero_add]
      rw [List.length_cons, toBe, hswap, hhead, toBe_add_mul, ih, UInt8.ofNat_toNat]

theorem toBe_ofBe_of_length {bs : Bytes} {width : Nat} (h : bs.length = width) :
    toBe width (ofBe bs) = bs := by
  rw [← h, toBe_ofBe]

/-- An array at the front of a list, element by element. -/
theorem getD_toList_append {α : Type} {n : Nat} (v : Vector α n) (default : α) (rest : List α)
    {i : Nat} (hi : i < n) : (v.toList ++ rest).getD i default = v[i] := by
  have hlength : i < v.toList.length := by
    rw [Vector.length_toList]
    exact hi
  rw [List.getD_eq_getElem?_getD, List.getElem?_append_left hlength,
    List.getElem?_eq_getElem hlength, Option.getD_some]
  exact Vector.getElem_toList hlength

/-- An array copied out of the front of a list. -/
theorem ofFn_getD_append {α : Type} {n : Nat} (v : Vector α n) (default : α) (rest : List α) :
    (Vector.ofFn fun i => (v.toList ++ rest).getD i default) = v := by
  apply Vector.ext
  intro i hi
  rw [Vector.getElem_ofFn, getD_toList_append v default rest hi]

end FarBus.Foundation
