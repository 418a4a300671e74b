/-
  Core/Path.lean --- the order in which a client tries the addresses of a server
  (`crates/farbus-core/src/path.rs`).
-/
import FarBus.Core.Address

set_option autoImplicit false

namespace FarBus.Core

open SocketAddr (isIpv6)

/-- The loop of `connection_order`: the addresses of each family, after those already there. -/
def splitFamilies (addrs v6 v4 : List SocketAddr) : List SocketAddr × List SocketAddr :=
  match addrs with
  | [] => (v6, v4)
  | addr :: addrs =>
      if addr.isIpv6 then splitFamilies addrs (v6 ++ [addr]) v4
      else splitFamilies addrs v6 (v4 ++ [addr])

/-- The first IPv6, the first IPv4, the remaining IPv6, the remaining IPv4. -/
def connectionOrder (addrs : List SocketAddr) : List SocketAddr :=
  let (v6, v4) := splitFamilies addrs [] []
  v6.head?.toList ++ v4.head?.toList ++ v6.tail ++ v4.tail

/-! ## Two lists, their first elements in front -/

section Leaders

variable {α : Type}

def leadersFirst (xs ys : List α) : List α :=
  xs.head?.toList ++ ys.head?.toList ++ xs.tail ++ ys.tail

@[simp] theorem leadersFirst_nil_left (ys : List α) : leadersFirst [] ys = ys := by
  cases ys <;> rfl

@[simp] theorem leadersFirst_nil_right (xs : List α) : leadersFirst xs [] = xs := by
  cases xs <;> simp [leadersFirst]

@[simp] theorem leadersFirst_cons (x y : α) (xs ys : List α) :
    leadersFirst (x :: xs) (y :: ys) = x :: y :: (xs ++ ys) := rfl

theorem leadersFirst_perm (xs ys : List α) : (leadersFirst xs ys).Perm (xs ++ ys) := by
  cases xs with
  | nil => rw [leadersFirst_nil_left, List.nil_append]
  | cons x xs =>
      cases ys with
      | nil => rw [leadersFirst_nil_right, List.append_nil]
      | cons y ys =>
          rw [leadersFirst_cons, List.cons_append]
          exact List.perm_middle.symm.cons x

variable {p : α → Bool} {xs ys : List α}

/-- A test that no element of one of the lists passes does not see their order. -/
theorem filter_leadersFirst (h : (∀ x ∈ xs, p x = false) ∨ ∀ y ∈ ys, p y = false) :
    (leadersFirst xs ys).filter p = xs.filter p ++ ys.filter p := by
  cases xs with
  | nil => simp
  | cons x xs =>
      cases ys with
      | nil => simp
      | cons y ys =>
          rw [leadersFirst_cons, ← List.filter_append, List.cons_append,
            List.filter_cons (x := x), List.filter_cons (x := x)]
          have htails : (y :: (xs ++ ys)).filter p = (xs ++ y :: ys).filter p := by
            rcases h with hxs | hys
            · have hnone : xs.filter p = [] := List.filter_eq_nil_iff.mpr fun x mem => by
                rw [hxs x (.tail _ mem)]
                exact Bool.false_ne_true
              rw [List.filter_append, hnone, List.nil_append, List.filter_cons, List.filter_append,
                hnone, List.nil_append, List.filter_cons]
            · have hy : ¬ p y = true := by
                rw [hys y List.mem_cons_self]
                exact Bool.false_ne_true
              rw [List.filter_cons_of_neg hy, List.filter_append, List.filter_append,
                List.filter_cons_of_neg hy]
          rw [htails]

theorem getElem?_leadersFirst_zero {x : α} (h : xs.head? = some x) :
    (leadersFirst xs ys)[0]? = some x := by
  cases xs with
  | nil => exact nomatch h
  | cons x' xs => cases ys <;> simpa using h

theorem getElem?_leadersFirst_second {y : α} (h : ys.head? = some y) :
    (leadersFirst xs ys)[if xs = [] then 0 else 1]? = some y := by
  cases ys with
  | nil => exact nomatch h
  | cons y' ys => cases xs <;> simpa using h

theorem lt_of_getElem?_append (hxs : ∀ x ∈ xs, p x = true) (hys : ∀ y ∈ ys, p y = false)
    {i j : Nat} {a b : α} (ha : (xs ++ ys)[i]? = some a) (hpa : p a = true)
    (hb : (xs ++ ys)[j]? = some b) (hpb : p b = false) : i < j := by
  have hi : i < xs.length := by
    by_contra hge
    rw [List.getElem?_append_right (Nat.le_of_not_lt hge)] at ha
    rw [hys a (List.mem_of_getElem? ha)] at hpa
    exact Bool.false_ne_true hpa
  have hj : xs.length ≤ j := by
    by_contra hlt
    rw [List.getElem?_append_left (Nat.lt_of_not_le hlt)] at hb
    rw [hxs b (List.mem_of_getElem? hb)] at hpb
    exact Bool.false_ne_true hpb.symm
  exact Nat.lt_of_lt_of_le hi hj

/-- Past the two first elements, the one list precedes the other. -/
theorem lt_of_getElem?_leadersFirst (hxs : ∀ x ∈ xs, p x = true) (hys : ∀ y ∈ ys, p y = false)
    {i j : Nat} {a b : α} (ha : (leadersFirst xs ys)[i]? = some a) (hpa : p a = true)
    (hi : i ≠ 0) (hb : (leadersFirst xs ys)[j]? = some b) (hpb : p b = false)
    (hj : j ≠ if xs = [] then 0 else 1) : i < j := by
  cases xs with
  | nil =>
      rw [leadersFirst_nil_left] at ha
      rw [hys a (List.mem_of_getElem? ha)] at hpa
      exact absurd hpa Bool.false_ne_true
  | cons x xs =>
      cases ys with
      | nil =>
          rw [leadersFirst_nil_right] at hb
          rw [hxs b (List.mem_of_getElem? hb)] at hpb
          exact absurd hpb.symm Bool.false_ne_true
      | cons y ys =>
          obtain ⟨hx, hxs⟩ := List.forall_mem_cons.mp hxs
          obtain ⟨hy, hys⟩ := List.forall_mem_cons.mp hys
          rw [leadersFirst_cons] at ha hb
          -- the first IPv6 address is no IPv4 address, and the other way around
          have hi' : i ≠ 1 := by
            rintro rfl
            rw [← Option.some.inj ha, hy] at hpa
            exact Bool.false_ne_true hpa
          have hj' : j ≠ 0 := by
            rintro rfl
            rw [← Option.some.inj hb, hx] at hpb
            exact Bool.false_ne_true hpb.symm
          obtain ⟨i, rfl⟩ : ∃ i', i = i' + 2 := ⟨i - 2, by omega⟩
          obtain ⟨j, rfl⟩ : ∃ j', j = j' + 2 := ⟨j - 2, by simp at hj; omega⟩
          have hlt := lt_of_getElem?_append hxs hys ha hpa hb hpb
          omega

end Leaders

/-! ## The two families -/

def v6Of (addrs : List SocketAddr) : List SocketAddr := addrs.filter isIpv6

def v4Of (addrs : List SocketAddr) : List SocketAddr := addrs.filter fun addr => !addr.isIpv6

theorem isIpv6_of_mem_v6Of {addrs : List SocketAddr} : ∀ addr ∈ v6Of addrs, addr.isIpv6 = true :=
  fun _ mem => (List.mem_filter.mp mem).2

theorem not_isIpv6_of_mem_v4Of {addrs : List SocketAddr} :
    ∀ addr ∈ v4Of addrs, addr.isIpv6 = false := by
  intro addr mem
  have hfamily := (List.mem_filter.mp mem).2
  rwa [Bool.not_eq_true'] at hfamily

theorem v6Of_eq_nil_iff (addrs : List SocketAddr) :
    v6Of addrs = [] ↔ ∀ addr ∈ addrs, addr.isIpv6 = false := by
  simp [v6Of]

theorem splitFamilies_eq (addrs v6 v4 : List SocketAddr) :
    splitFamilies addrs v6 v4 = (v6 ++ v6Of addrs, v4 ++ v4Of addrs) := by
  induction addrs generalizing v6 v4 with
  | nil => simp [splitFamilies, v6Of, v4Of]
  | cons addr addrs ih =>
      cases hfamily : addr.isIpv6 <;> simp [splitFamilies, v6Of, v4Of, hfamily, ih]

theorem connectionOrder_eq (addrs : List SocketAddr) :
    connectionOrder addrs = leadersFirst (v6Of addrs) (v4Of addrs) := by
  rw [connectionOrder, splitFamilies_eq]
  rfl

/-- The position of the first IPv4 address in the order. -/
def firstV4Position (addrs : List SocketAddr) : Nat := if addrs.any isIpv6 then 1 else 0

theorem firstV4Position_eq (addrs : List SocketAddr) :
    firstV4Position addrs = if v6Of addrs = [] then 0 else 1 := by
  unfold firstV4Position
  by_cases hany : addrs.any isIpv6 = true
  · obtain ⟨addr, mem, hfamily⟩ := List.any_eq_true.mp hany
    have mem' : addr ∈ v6Of addrs := List.mem_filter.mpr ⟨mem, hfamily⟩
    rw [if_pos hany, if_neg (List.ne_nil_of_mem mem')]
  · have hnone : v6Of addrs = [] := (v6Of_eq_nil_iff addrs).mpr fun addr mem => by
      rw [← Bool.not_eq_true]
      exact fun hfamily => hany (List.any_eq_true.mpr ⟨addr, mem, hfamily⟩)
    rw [if_neg hany, if_pos hnone]

/-- What an order of the addresses has to be. -/
structure HappyEyeballs (addrs out : List SocketAddr) : Prop where
  /-- nothing lost or added -/
  perm : out.Perm addrs
  v6Order : out.filter isIpv6 = addrs.filter isIpv6
  v4Order : (out.filter fun addr => !addr.isIpv6) = addrs.filter fun addr => !addr.isIpv6
  firstV6 : (∃ addr ∈ addrs, addr.isIpv6 = true) → ∃ addr, out[0]? = some addr ∧ addr.isIpv6 = true
  firstV4 : ∀ addr, addrs.find? (fun addr => !addr.isIpv6) = some addr →
    out[firstV4Position addrs]? = some addr
  /-- of the addresses at the other places, IPv6 precedes IPv4 -/
  rest : ∀ i j v6 v4, out[i]? = some v6 → v6.isIpv6 = true → i ≠ 0 →
    out[j]? = some v4 → v4.isIpv6 = false → j ≠ firstV4Position addrs → i < j

theorem connectionOrder_happyEyeballs (addrs : List SocketAddr) :
    HappyEyeballs addrs (connectionOrder addrs) := by
  have hv6 : ∀ addr ∈ v6Of addrs, addr.isIpv6 = true := isIpv6_of_mem_v6Of
  have hv4 : ∀ addr ∈ v4Of addrs, addr.isIpv6 = false := not_isIpv6_of_mem_v4Of
  constructor
  case perm =>
    rw [connectionOrder_eq]
    exact (leadersFirst_perm _ _).trans (List.filter_append_perm isIpv6 addrs)
  case v6Order =>
    rw [connectionOrder_eq, filter_leadersFirst (.inr hv4)]
    simp [v6Of, v4Of, List.filter_filter]
  case v4Order =>
    have hv6' : ∀ addr ∈ v6Of addrs, (!addr.isIpv6) = false := fun addr mem => by
      rw [hv6 addr mem, Bool.not_true]
    rw [connectionOrder_eq, filter_leadersFirst (.inl hv6')]
    simp [v6Of, v4Of, List.filter_filter]
  case firstV6 =>
    rintro ⟨addr, mem, hfamily⟩
    have mem' : addr ∈ v6Of addrs := List.mem_filter.mpr ⟨mem, hfamily⟩
    obtain ⟨first, rest, hcons⟩ := List.exists_cons_of_ne_nil (List.ne_nil_of_mem mem')
    refine ⟨first, ?_, hv6 first (by rw [hcons]; exact List.mem_cons_self)⟩
    rw [connectionOrder_eq]
    exact getElem?_leadersFirst_zero (by rw [hcons]; rfl)
  case firstV4 =>
    intro addr hfind
    rw [← List.head?_filter] at hfind
    rw [connectionOrder_eq, firstV4Position_eq]
    exact getElem?_leadersFirst_second hfind
  case rest =>
    intro i j v6 v4 hi hv6Family hi0 hj hv4Family hjFirst
    rw [connectionOrder_eq] at hi hj
    rw [firstV4Position_eq] at hjFirst
    exact lt_of_getElem?_leadersFirst hv6 hv4 hi hv6Family hi0 hj hv4Family hjFirst

example :
    let v4a := SocketAddr.v4 #v[192, 168, 1, 2] 7420
    let v4b := SocketAddr.v4 #v[10, 0, 0, 3] 7420
    let v6a := SocketAddr.v6 #v[0, 0, 0, 0, 0, 0, 0, 1] 7420 0 0
    let v6b := SocketAddr.v6 #v[0xfd00, 0, 0, 0, 0, 0, 0, 2] 7420 0 0
    connectionOrder [v4a, v6a, v4b, v6b] = [v6a, v4a, v6b, v4b] := rfl

end FarBus.Core
