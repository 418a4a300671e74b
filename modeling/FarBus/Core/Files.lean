/-
  Core/Files.lean --- files and their text, as `crates/farbus-core/src/store.rs` and
  `persist.rs` use them: `write_private_atomic`, which both have, and what they need of
  `std::path` and `str`.

  A directory is a map from names to contents, and `sync_all` and the permissions change
  nothing in it.
-/
import Mathlib.Data.List.DropRight
import FarBus.Foundation.Directory
import FarBus.Protocol.Decode

set_option autoImplicit false

namespace FarBus.Core

open FarBus.Foundation
open FarBus.Protocol

/-! ## Names -/

/-- `Path::file_stem`: what stands before the last dot, if that is not the first character. -/
def fileStem (name : String) : List Char :=
  let before := (name.toList.rdropWhile (· ≠ '.')).dropLast
  if before = [] then name.toList else before

/-- `Path::with_extension`. -/
def withExtension (name extension : String) : String :=
  String.ofList (fileStem name) ++ "." ++ extension

theorem fileStem_extension {stem extension : List Char} (hstem : stem ≠ [])
    (hextension : '.' ∉ extension) :
    fileStem (String.ofList (stem ++ '.' :: extension)) = stem := by
  have hdrop : (stem ++ '.' :: extension).rdropWhile (· ≠ '.') = stem ++ ['.'] := by
    induction extension using List.reverseRecOn with
    | nil => exact List.rdropWhile_concat_neg _ _ _ (by decide)
    | append_singleton extension c ih =>
        rw [List.mem_append, not_or, List.mem_singleton] at hextension
        rw [← List.cons_append, ← List.append_assoc, List.rdropWhile_concat_pos _ _ _ (by
          simpa using Ne.symm hextension.2)]
        exact ih hextension.1
  unfold fileStem
  rw [String.toList_ofList, hdrop, List.dropLast_concat, if_neg hstem]

/-! ## Text -/

/-- The white space of `str::trim`. -/
def isWhitespace (c : Char) : Bool :=
  let n := c.toNat
  (9 ≤ n && n ≤ 13) || n == 0x20 || n == 0x85 || n == 0xa0 || n == 0x1680 ||
    (0x2000 ≤ n && n ≤ 0x200a) || n == 0x2028 || n == 0x2029 || n == 0x202f || n == 0x205f ||
    n == 0x3000

/-- `str::trim`. -/
def trim (s : String) : String :=
  String.ofList ((s.toList.dropWhile isWhitespace).rdropWhile isWhitespace)

theorem trim_eq_self {s : String} (h : ∀ c ∈ s.toList, isWhitespace c = false) : trim s = s := by
  have hleft : s.toList.dropWhile isWhitespace = s.toList := by
    rw [List.dropWhile_eq_self_iff]
    intro hpos
    rw [h _ (List.getElem_mem hpos)]
    exact Bool.false_ne_true
  have hright : s.toList.rdropWhile isWhitespace = s.toList := by
    rw [List.rdropWhile_eq_self_iff]
    intro hne
    rw [h _ (List.getLast_mem hne)]
    exact Bool.false_ne_true
  rw [trim, hleft, hright, String.ofList_toList]

/-- A line that was ended by a line feed. -/
def stripCr (line : List Char) : List Char :=
  if line.getLast? = some '\r' then line.dropLast else line

/-- The lines of the text `line ++ rest`, with no line feed in `line`. -/
def linesFrom (line : List Char) : List Char → List String
  | [] => if line = [] then [] else [String.ofList line]
  | c :: rest =>
      if c = '\n' then String.ofList (stripCr line) :: linesFrom [] rest
      else linesFrom (line ++ [c]) rest

/-- `str::lines`. -/
def lines (text : String) : List String := linesFrom [] text.toList

theorem linesFrom_append {text : List Char} (h : '\n' ∉ text) (line rest : List Char) :
    linesFrom line (text ++ '\n' :: rest) =
      String.ofList (stripCr (line ++ text)) :: linesFrom [] rest := by
  induction text generalizing line with
  | nil => rw [List.nil_append, linesFrom, if_pos rfl, List.append_nil]
  | cons c text ih =>
      rw [List.mem_cons, not_or] at h
      rw [List.cons_append, linesFrom, if_neg (Ne.symm h.1), ih h.2, List.append_assoc]
      rfl

/-- The text has neither line feeds nor carriage returns. -/
def OneLine (s : String) : Prop := ∀ c ∈ s.toList, c ≠ '\n' ∧ c ≠ '\r'

/-- The first line of a text. -/
theorem linesFrom_line {s : String} (h : OneLine s) (rest : List Char) :
    linesFrom [] (s.toList ++ '\n' :: rest) = s :: linesFrom [] rest := by
  have hcr : stripCr s.toList = s.toList := by
    unfold stripCr
    rw [if_neg]
    intro hlast
    exact (h _ (List.mem_of_getLast? hlast)).2 rfl
  rw [linesFrom_append fun hmem => (h _ hmem).1 rfl, List.nil_append, hcr, String.ofList_toList]

/-! ## Reading and writing -/

/-- `fs::read_to_string(..).ok()`. -/
def readToString (dir : Directory String UInt8) (name : String) : Option String := do
  let bytes ← dir name
  (Cursor.fromUtf8 bytes).toOption

theorem readToString_strBytes {dir : Directory String UInt8} {name s : String}
    (h : dir name = some (strBytes s)) : readToString dir name = some s := by
  have hutf8 := (fromUtf8_eq_ok_iff (strBytes s) s).mpr rfl
  rw [readToString, h, Option.bind_eq_bind, Option.bind_some, hutf8]
  rfl

/-- `write_private_atomic`, by the operations it performs on files. -/
def writePrivateAtomic (path : String) (data : Bytes) : List (FileOp String UInt8) :=
  writeAtomic (withExtension path "tmp") path data

end FarBus.Core
