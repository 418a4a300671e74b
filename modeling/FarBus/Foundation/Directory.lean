/-
  Foundation/Directory.lean --- a directory of files, and the replacement of a file by a
  rename.

  A directory maps names to contents.  An operation creates an empty file, appends to one
  or renames one over another, and what is interrupted has performed a prefix of its
  operations.  `writeAtomic` writes under a temporary name and renames.  However much of
  it is performed, the target has its old contents or the new ones, and no other name but
  the temporary one is touched (`perform_take_writeAtomic`).
-/
import Mathlib.Logic.Function.Basic

set_option autoImplicit false

namespace FarBus.Foundation

universe u v

/-- The contents of the files that exist. -/
abbrev Directory (ν : Type u) (β : Type v) : Type (max u v) := ν → Option (List β)

/-- One operation on the files of a directory. -/
inductive FileOp (ν : Type u) (β : Type v) where
  /-- an empty file, in place of any that was there -/
  | create (name : ν)
  | append (name : ν) (item : β)
  | rename (source target : ν)

section

variable {ν : Type u} {β : Type v}

/-! ## Writing under a temporary name -/

/-- The operations before the rename. -/
def writeTemp (temp : ν) (data : List β) : List (FileOp ν β) :=
  .create temp :: data.map (.append temp)

/-- A file is written under the name `temp` and renamed to `target`. -/
def writeAtomic (temp target : ν) (data : List β) : List (FileOp ν β) :=
  writeTemp temp data ++ [.rename temp target]

theorem length_writeTemp (temp : ν) (data : List β) :
    (writeTemp temp data).length = data.length + 1 := by
  rw [writeTemp, List.length_cons, List.length_map]

theorem length_writeAtomic (temp target : ν) (data : List β) :
    (writeAtomic temp target data).length = data.length + 2 := by
  rw [writeAtomic, List.length_append, length_writeTemp]
  rfl

/-! ## The effect on a directory -/

variable [DecidableEq ν]

/-- An operation on a file that does not exist fails. -/
def FileOp.apply (dir : Directory ν β) : FileOp ν β → Directory ν β
  | .create name => Function.update dir name (some [])
  | .append name item =>
      match dir name with
      | some contents => Function.update dir name (some (contents ++ [item]))
      | none => dir
  | .rename source target =>
      match dir source with
      | some contents => Function.update (Function.update dir source none) target (some contents)
      | none => dir

def perform (dir : Directory ν β) (ops : List (FileOp ν β)) : Directory ν β :=
  ops.foldl FileOp.apply dir

theorem perform_append (dir : Directory ν β) (ops ops' : List (FileOp ν β)) :
    perform dir (ops ++ ops') = perform (perform dir ops) ops' := List.foldl_append

/-- Before the rename, nothing but the temporary file is touched. -/
theorem perform_of_mem_writeTemp {temp : ν} {data : List β} {ops : List (FileOp ν β)}
    (h : ∀ op ∈ ops, op ∈ writeTemp temp data) (dir : Directory ν β) {name : ν}
    (hname : name ≠ temp) : perform dir ops name = dir name := by
  induction ops generalizing dir with
  | nil => rfl
  | cons op ops ih =>
      have hrest := ih (fun op' hop => h op' (List.mem_cons_of_mem _ hop)) (op.apply dir)
      refine hrest.trans ?_
      rcases List.mem_cons.mp (h op List.mem_cons_self) with rfl | hop
      · exact Function.update_of_ne hname _ _
      · obtain ⟨item, -, rfl⟩ := List.mem_map.mp hop
        cases hcontents : dir temp with
        | none => simp only [FileOp.apply, hcontents]
        | some contents =>
            simp only [FileOp.apply, hcontents]
            exact Function.update_of_ne hname _ _

theorem perform_appends (name : ν) (data : List β) {dir : Directory ν β} {contents : List β}
    (h : dir name = some contents) :
    perform dir (data.map (.append name)) name = some (contents ++ data) := by
  induction data generalizing dir contents with
  | nil =>
      rw [List.append_nil]
      exact h
  | cons item data ih =>
      have hone : (FileOp.append name item).apply dir name = some (contents ++ [item]) := by
        simp only [FileOp.apply, h, Function.update_self]
      have hrest := ih hone
      rw [List.append_assoc] at hrest
      exact hrest

/-- All of them leave the data under the temporary name. -/
theorem perform_writeTemp (temp : ν) (data : List β) (dir : Directory ν β) :
    perform dir (writeTemp temp data) temp = some data := by
  have hcreated : (FileOp.create temp).apply dir temp = some ([] : List β) :=
    Function.update_self temp _ dir
  exact perform_appends temp data hcreated

theorem perform_writeAtomic (temp target : ν) (data : List β) (dir : Directory ν β) {name : ν}
    (hname : name ≠ temp) :
    perform dir (writeAtomic temp target data) name =
      if name = target then some data else dir name := by
  have hframe : perform dir (writeTemp temp data) name = dir name :=
    perform_of_mem_writeTemp (fun _ => id) dir hname
  rw [writeAtomic, perform_append]
  show (FileOp.rename temp target).apply (perform dir (writeTemp temp data)) name = _
  simp only [FileOp.apply, perform_writeTemp]
  split
  · rename_i heq
    rw [heq]
    exact Function.update_self _ _ _
  · rename_i hne
    rw [Function.update_of_ne hne, Function.update_of_ne hname]
    exact hframe

/-- After any number of the operations, the target has its old contents or all of the new
ones. -/
theorem perform_take_writeAtomic (temp target : ν) (data : List β) (dir : Directory ν β) (n : Nat)
    {name : ν} (hname : name ≠ temp) :
    perform dir ((writeAtomic temp target data).take n) name =
      if name = target ∧ data.length + 2 ≤ n then some data else dir name := by
  by_cases hdone : data.length + 2 ≤ n
  · have hall : (writeAtomic temp target data).take n = writeAtomic temp target data := by
      apply List.take_of_length_le
      rw [length_writeAtomic]
      exact hdone
    rw [hall, perform_writeAtomic temp target data dir hname]
    simp only [hdone, and_true]
  · rw [if_neg fun h => hdone h.2, writeAtomic, List.take_append_of_le_length]
    · exact perform_of_mem_writeTemp (fun _ => List.mem_of_mem_take) dir hname
    · rw [length_writeTemp]
      omega

/-- Two files are written one after the other. -/
theorem perform_take_writeAtomic₂ {temp target temp' target' : ν} (data data' : List β)
    (dir : Directory ν β) (n : Nat) {name : ν} (hname : name ≠ temp) (hname' : name ≠ temp') :
    perform dir ((writeAtomic temp target data ++ writeAtomic temp' target' data').take n) name =
      if name = target' ∧ data.length + 2 + (data'.length + 2) ≤ n then some data'
      else if name = target ∧ data.length + 2 ≤ n then some data
      else dir name := by
  rw [List.take_append, perform_append, perform_take_writeAtomic _ _ _ _ _ hname',
    perform_take_writeAtomic _ _ _ _ _ hname, length_writeAtomic]
  have hsplit : data'.length + 2 ≤ n - (data.length + 2) ↔
      data.length + 2 + (data'.length + 2) ≤ n := by omega
  simp only [hsplit]

end

end FarBus.Foundation
