/-
  Foundation/Text.lean --- how many bytes a text takes.

  A string is measured by its UTF-8 encoding.  Joined strings add up, a number in
  positional notation takes one character a digit, and a character takes at most four
  bytes.
-/
import Mathlib.Algebra.GroupWithZero.Nat
import Mathlib.Data.String.Basic

set_option autoImplicit false

namespace FarBus.Foundation

/-! ## Joined strings -/

theorem utf8ByteSize_join (items : List String) :
    (String.join items).utf8ByteSize = (items.map String.utf8ByteSize).sum := by
  induction items with
  | nil => rfl
  | cons item items ih =>
      rw [String.join_cons, String.utf8ByteSize_append, ih, List.map_cons, List.sum_cons]

theorem utf8ByteSize_intercalate (separator : String) (items : List String) :
    (separator.intercalate items).utf8ByteSize =
      (items.map String.utf8ByteSize).sum + (items.length - 1) * separator.utf8ByteSize := by
  induction items with
  | nil => simp
  | cons item items ih =>
      cases items with
      | nil => simp
      | cons next items =>
          rw [String.intercalate_cons_cons, String.utf8ByteSize_append, String.utf8ByteSize_append,
            ih]
          simp only [List.map_cons, List.sum_cons, List.length_cons, Nat.add_sub_cancel,
            Nat.succ_mul]
          omega

theorem mem_intercalate {α : Type} {c : α} {separator : List α} {pieces : List (List α)}
    (h : c ∈ separator.intercalate pieces) : c ∈ separator ∨ ∃ piece ∈ pieces, c ∈ piece := by
  induction pieces with
  | nil => simp at h
  | cons piece pieces ih =>
      cases pieces with
      | nil =>
          rw [List.intercalate_singleton] at h
          exact .inr ⟨piece, List.mem_cons_self, h⟩
      | cons next pieces =>
          rw [List.intercalate_cons_cons, List.mem_append, List.mem_append] at h
          rcases h with (hpiece | hseparator) | hlater
          · exact .inr ⟨piece, List.mem_cons_self, hpiece⟩
          · exact .inl hseparator
          · rcases ih hlater with hseparator | ⟨found, hfound, mem⟩
            · exact .inl hseparator
            · exact .inr ⟨found, List.mem_cons_of_mem _ hfound, mem⟩

/-- Joined lists of pieces are joined by one more separator. -/
theorem intercalate_append {α : Type} (x : α) {pieces pieces' : List (List α)}
    (h : pieces ≠ []) (h' : pieces' ≠ []) :
    [x].intercalate (pieces ++ pieces') = [x].intercalate pieces ++ x :: [x].intercalate pieces' := by
  induction pieces with
  | nil => exact absurd rfl h
  | cons piece pieces ih =>
      cases pieces with
      | nil =>
          rw [List.singleton_append, List.intercalate_cons_of_ne_nil h', List.intercalate_singleton,
            List.append_assoc, List.singleton_append]
      | cons next pieces =>
          rw [List.cons_append, List.intercalate_cons_of_ne_nil (by simp),
            ih (List.cons_ne_nil _ _), List.intercalate_cons_cons]
          simp only [List.append_assoc]

/-- Pieces that do not contain the separator are found again. -/
theorem intercalate_inj {α : Type} [DecidableEq α] {x : α} {pieces pieces' : List (List α)}
    (hx : ∀ piece ∈ pieces, x ∉ piece) (hx' : ∀ piece ∈ pieces', x ∉ piece)
    (h : pieces ≠ []) (h' : pieces' ≠ [])
    (heq : [x].intercalate pieces = [x].intercalate pieces') : pieces = pieces' := by
  rw [← List.splitOn_intercalate x hx h, heq, List.splitOn_intercalate x hx' h']

theorem separator_mem_intercalate {α : Type} (x : α) {pieces : List (List α)}
    (h : 1 < pieces.length) : x ∈ [x].intercalate pieces := by
  match pieces, h with
  | piece :: next :: pieces, _ =>
      rw [List.intercalate_cons_cons]
      exact List.mem_append_left _ (List.mem_append_right _ List.mem_cons_self)

/-- A list is cut in one way where an element stands first. -/
theorem append_cons_inj {α : Type} {x : α} {a b a' b' : List α} (ha : x ∉ a) (ha' : x ∉ a')
    (h : a ++ x :: b = a' ++ x :: b') : a = a' ∧ b = b' := by
  induction a generalizing a' with
  | nil =>
      cases a' with
      | nil => exact ⟨rfl, (List.cons.inj h).2⟩
      | cons y a' =>
          rw [List.nil_append, List.cons_append] at h
          exact absurd ((List.cons.inj h).1 ▸ List.mem_cons_self) ha'
  | cons y a ih =>
      cases a' with
      | nil =>
          rw [List.nil_append, List.cons_append] at h
          exact absurd ((List.cons.inj h).1 ▸ List.mem_cons_self) ha
      | cons y' a' =>
          rw [List.cons_append, List.cons_append] at h
          obtain ⟨rfl, htail⟩ := List.cons.inj h
          obtain ⟨rfl, rfl⟩ := ih (fun mem => ha (List.mem_cons_of_mem _ mem))
            (fun mem => ha' (List.mem_cons_of_mem _ mem)) htail
          exact ⟨rfl, rfl⟩

theorem utf8ByteSize_replicate (n : Nat) (c : Char) :
    (String.ofList (List.replicate n c)).utf8ByteSize = n * c.utf8Size := by
  rw [String.utf8ByteSize_ofList]
  induction n with
  | zero => rw [Nat.zero_mul]; rfl
  | succ n ih => rw [List.replicate_succ, String.utf8Len_cons, ih, Nat.succ_mul]

/-! ## Characters and digits -/

theorem utf8Len_le (cs : List Char) : String.utf8Len cs ≤ 4 * cs.length := by
  induction cs with
  | nil => exact Nat.le_refl _
  | cons c cs ih =>
      have hsize := c.utf8Size_le_four
      rw [String.utf8Len_cons, List.length_cons]
      omega

theorem utf8ByteSize_digits_le {base n k : Nat} (hbase : 1 < base) (hk : 0 < k) (h : n < base ^ k) :
    (String.ofList (Nat.toDigits base n)).utf8ByteSize ≤ 4 * k := by
  have hlength := (Nat.length_toDigits_le_iff hbase hk).mpr h
  have hsize := utf8Len_le (Nat.toDigits base n)
  rw [String.utf8ByteSize_ofList]
  omega

theorem exists_digitChar_of_mem_toDigits {base n : Nat} {c : Char} (hbase : 1 < base)
    (h : c ∈ Nat.toDigits base n) : ∃ digit < base, c = digit.digitChar := by
  induction n using Nat.strongRecOn with
  | _ n ih =>
      rw [Nat.toDigits_eq_if hbase] at h
      split at h
      · rename_i hlt
        exact ⟨n, hlt, List.mem_singleton.mp h⟩
      · rename_i hge
        rcases List.mem_append.mp h with hhigh | hlow
        · exact ih _ (Nat.div_lt_self (by omega) hbase) hhigh
        · exact ⟨_, Nat.mod_lt _ (by omega), List.mem_singleton.mp hlow⟩

/-! ## Decimal numbers -/

theorem isDigit_of_mem_toString {n : Nat} {c : Char} (h : c ∈ (toString n).toList) :
    c.isDigit = true := by
  rw [Nat.toString_eq_ofList_toDigits, String.toList_ofList] at h
  exact Nat.isDigit_of_mem_toDigits (by decide) (by decide) h

/-- A character that is no digit. -/
theorem not_mem_toString (n : Nat) {c : Char} (h : c.isDigit = false) : c ∉ (toString n).toList :=
  fun mem => by rw [isDigit_of_mem_toString mem] at h; cases h

theorem ofDigitChars_toString (n : Nat) : Nat.ofDigitChars 10 (toString n).toList 0 = n := by
  rw [Nat.toString_eq_ofList_toDigits, String.toList_ofList, Nat.ofDigitChars_ten_toDigits]

theorem toString_nat_injective : Function.Injective (toString : Nat → String) := by
  intro n m h
  rw [← ofDigitChars_toString n, h, ofDigitChars_toString]

theorem utf8Size_of_isDigit {c : Char} (h : c.isDigit = true) : c.utf8Size = 1 := by
  rw [Char.isDigit, Bool.and_eq_true, decide_eq_true_iff, decide_eq_true_iff] at h
  rw [Char.utf8Size, if_pos (UInt32.le_trans h.2 (by decide))]

theorem utf8Len_of_isDigit {cs : List Char} (h : ∀ c ∈ cs, c.isDigit = true) :
    String.utf8Len cs = cs.length := by
  induction cs with
  | nil => rfl
  | cons c cs ih =>
      obtain ⟨hc, hcs⟩ := List.forall_mem_cons.mp h
      rw [String.utf8Len_cons, ih hcs, utf8Size_of_isDigit hc, List.length_cons]

/-- A digit is a byte. -/
theorem utf8ByteSize_toString_le {n k : Nat} (hk : 0 < k) (h : n < 10 ^ k) :
    (toString n).utf8ByteSize ≤ k := by
  have hlength := (Nat.length_toDigits_le_iff (by decide) hk).mpr h
  rw [Nat.toString_eq_ofList_toDigits, String.utf8ByteSize_ofList, utf8Len_of_isDigit]
  · exact hlength
  · exact fun c mem => Nat.isDigit_of_mem_toDigits (by decide) (by decide) mem

/-- Of a number of 32 bits, generously. -/
theorem utf8ByteSize_nat_le {n : Nat} (h : n < 2 ^ 32) : (toString n).utf8ByteSize ≤ 40 := by
  have hten : n < 10 ^ 10 := Nat.lt_trans h (by decide)
  exact Nat.le_trans (utf8ByteSize_toString_le (by decide) hten) (by decide)

end FarBus.Foundation
