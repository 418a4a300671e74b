/-
  Core/HexText.lean --- which texts the two parsers of 32 bytes in hexadecimal take:
  `FromStr` of `PeerFingerprint` in `crates/farbus-core/src/fingerprint.rs`, and
  `parse_hex32` of `store.rs`.

  Both hand two characters at a time to `u8::from_str_radix`, which takes a plus sign in
  front of a number.
-/
import Mathlib.Data.List.GetD
import FarBus.Core.Fingerprint

set_option autoImplicit false

namespace FarBus.Core

open FarBus.Foundation
open FarBus.Protocol

/-! ## ASCII text -/

theorem utf8EncodeChar_of_lt {c : Char} (h : c.toNat < 128) :
    String.utf8EncodeChar c = [UInt8.ofNat c.toNat] := by
  have hall : ∀ n < 128, String.utf8EncodeChar (Char.ofNat n) = [UInt8.ofNat n] := by
    decide +kernel
  have hchar := hall c.toNat h
  rwa [Char.ofNat_toNat] at hchar

theorem strBytes_of_lt {s : String} (h : ∀ c ∈ s.toList, c.toNat < 128) :
    strBytes s = s.toList.map fun c => UInt8.ofNat c.toNat := by
  have hencoded : strBytes s = s.toList.flatMap String.utf8EncodeChar := by
    rw [← strBytes_ofList, String.ofList_toList]
  rw [hencoded]
  generalize s.toList = chars at h
  induction chars with
  | nil => rfl
  | cons c chars ih =>
      obtain ⟨hc, hchars⟩ := List.forall_mem_cons.mp h
      rw [List.flatMap_cons, utf8EncodeChar_of_lt hc, ih hchars, List.map_cons]
      rfl

theorem strBytes_injective : Function.Injective strBytes := by
  intro s t h
  have hs := (fromUtf8_eq_ok_iff (strBytes s) s).mpr rfl
  rw [h] at hs
  rw [(fromUtf8_eq_ok_iff (strBytes t) t).mpr rfl] at hs
  exact (Except.ok.inj hs).symm

/-- A text whose bytes are all ASCII has ASCII characters only. -/
theorem toNat_lt_of_bytes {s : String} (h : ∀ byte ∈ strBytes s, byte.toNat < 128) :
    ∀ c ∈ s.toList, c.toNat < 128 := by
  have hback : ∀ n < 128, (Char.ofNat n).toNat = n := by decide +kernel
  let chars := (strBytes s).map fun byte => Char.ofNat byte.toNat
  have hchars : ∀ c ∈ chars, c.toNat < 128 := by
    intro c mem
    obtain ⟨byte, hbyte, rfl⟩ := List.mem_map.mp mem
    rw [hback _ (h byte hbyte)]
    exact h byte hbyte
  have hsame : strBytes (String.ofList chars) = strBytes s := by
    rw [strBytes_of_lt (by rwa [String.toList_ofList]), String.toList_ofList, List.map_map]
    refine (List.map_congr_left fun byte hbyte => ?_).trans (List.map_id _)
    dsimp only [Function.comp_apply]
    rw [hback _ (h byte hbyte), UInt8.ofNat_toNat, id]
  rw [← strBytes_injective hsame, String.toList_ofList]
  exact hchars

/-! ## The grammar -/

/-- The value of a hexadecimal digit, of either case. -/
def hexValue (c : Char) : Option Nat :=
  if '0' ≤ c ∧ c ≤ '9' then some (c.toNat - '0'.toNat)
  else if 'a' ≤ c ∧ c ≤ 'f' then some (c.toNat - 'a'.toNat + 10)
  else if 'A' ≤ c ∧ c ≤ 'F' then some (c.toNat - 'A'.toNat + 10)
  else none

def charAt (s : String) (i : Nat) : Char := s.toList.getD i ' '

/-- Exactly 64 hexadecimal digits. -/
def Hex64 (s : String) : Prop :=
  s.toList.length = 64 ∧ ∀ c ∈ s.toList, (hexValue c).isSome = true

instance (s : String) : Decidable (Hex64 s) := inferInstanceAs (Decidable (_ ∧ _))

/-- 64 characters that are digits but for a plus sign in front of some of the 32 pairs, and at
least one. -/
def SignedHex (s : String) : Prop :=
  s.toList.length = 64 ∧
    (∀ i < 32, charAt s (2 * i) = '+' ∨ (hexValue (charAt s (2 * i))).isSome = true) ∧
    (∀ i < 32, (hexValue (charAt s (2 * i + 1))).isSome = true) ∧
    ∃ i < 32, charAt s (2 * i) = '+'

instance (s : String) : Decidable (SignedHex s) := inferInstanceAs (Decidable (_ ∧ _ ∧ _ ∧ _))

/-- Byte `i` is 16 times digit `2 i`, plus digit `2 i + 1`. -/
def HasValues (s : String) (bytes : Bytes32) : Prop :=
  ∀ i : Fin 32, ∃ high low, hexValue (charAt s (2 * i)) = some high ∧
    hexValue (charAt s (2 * i + 1)) = some low ∧ bytes[i].toNat = 16 * high + low

theorem hexValue_some {c : Char} {n : Nat} (h : hexValue c = some n) :
    c.toNat < 128 ∧ n < 16 := by
  have hle : ∀ a b : Char, a ≤ b ↔ a.toNat ≤ b.toNat := fun _ _ => Iff.rfl
  have hcodes : '0'.toNat = 48 ∧ '9'.toNat = 57 ∧ 'a'.toNat = 97 ∧ 'f'.toNat = 102 ∧
      'A'.toNat = 65 ∧ 'F'.toNat = 70 := by decide
  simp only [hexValue, hle] at h
  grind

/-- The code of a digit, as the parsers read it. -/
theorem toDigit16_ofNat {c : Char} (h : c.toNat < 128) :
    toDigit16 (UInt8.ofNat c.toNat) = hexValue c := by
  have hall : ∀ n < 128, toDigit16 (UInt8.ofNat n) = hexValue (Char.ofNat n) := by decide +kernel
  have hchar := hall c.toNat h
  rwa [Char.ofNat_toNat] at hchar

theorem ofNat_eq_plus {c : Char} (h : c.toNat < 128) :
    UInt8.ofNat c.toNat = 43 ↔ c = '+' := by
  have hall : ∀ n < 128, UInt8.ofNat n = 43 ↔ Char.ofNat n = '+' := by decide +kernel
  have hchar := hall c.toNat h
  rwa [Char.ofNat_toNat] at hchar

/-! ## One pair -/

/-- What `u8::from_str_radix` makes of two bytes. -/
def PairBytes (high low byte : UInt8) : Prop :=
  ∃ l, toDigit16 low = some l ∧
    (high = 43 ∧ byte.toNat = l ∨ ∃ h, toDigit16 high = some h ∧ byte.toNat = 16 * h + l)

theorem toDigit16_some {byte : UInt8} {n : Nat} (h : toDigit16 byte = some n) :
    byte.toNat < 128 ∧ n < 16 := by
  unfold toDigit16 at h
  grind

theorem fromStrRadix16_pair (high low byte : UInt8) :
    fromStrRadix16 [high, low] = some byte ↔ PairBytes high low byte := by
  have hbyte : ∀ n < 256, some (UInt8.ofNat n) = some byte ↔ byte.toNat = n := by
    intro n hn
    rw [Option.some.injEq, ← UInt8.toNat_inj, UInt8.toNat_ofNat_of_lt' hn, eq_comm]
  have hplus : toDigit16 43 = none := by decide
  unfold PairBytes fromStrRadix16
  dsimp only
  cases hlow : toDigit16 low with
  | none => by_cases hhigh : high = 43 <;> simp [hhigh, digits16, hlow]
  | some l =>
      obtain ⟨-, hl⟩ := toDigit16_some hlow
      by_cases hhigh : high = 43
      · have hvalue := hbyte l (by omega)
        simpa [hhigh, hplus, digits16, hlow, show l < 256 by omega] using hvalue
      · cases hdigit : toDigit16 high with
        | none => simp [hhigh, digits16, hdigit]
        | some h =>
            obtain ⟨-, hh⟩ := toDigit16_some hdigit
            have hvalue := hbyte (16 * h + l) (by omega)
            simpa [hhigh, digits16, hlow, hdigit, show h < 256 by omega,
              show 16 * h + l < 256 by omega] using hvalue

theorem fromHexChunks_cons_eq_some (high low : UInt8) (rest bytes : Bytes) :
    fromHexChunks (high :: low :: rest) = some bytes ↔
      ∃ byte bytes', bytes = byte :: bytes' ∧ PairBytes high low byte ∧
        fromHexChunks rest = some bytes' := by
  simp only [fromHexChunks, Option.bind_eq_bind, Option.bind_eq_some_iff, Option.some.injEq,
    fromStrRadix16_pair]
  constructor
  · rintro ⟨byte, hbyte, bytes', hrest, rfl⟩
    exact ⟨byte, bytes', rfl, hbyte, hrest⟩
  · rintro ⟨byte, bytes', rfl, hbyte, hrest⟩
    exact ⟨byte, hbyte, bytes', hrest, rfl⟩

theorem fromHexChunks_eq_some_iff (text bytes : Bytes) :
    fromHexChunks text = some bytes ↔
      bytes.length = text.length / 2 ∧ ∀ i < bytes.length,
        PairBytes (text.getD (2 * i) 0) (text.getD (2 * i + 1) 0) (bytes.getD i 0) := by
  induction text using fromHexChunks.induct generalizing bytes with
  | case1 high low rest ih =>
      rw [fromHexChunks_cons_eq_some]
      have hlength : (high :: low :: rest).length / 2 = rest.length / 2 + 1 := by
        rw [List.length_cons, List.length_cons]
        omega
      rw [hlength]
      constructor
      · rintro ⟨byte, bytes, rfl, hbyte, hrest⟩
        obtain ⟨hrestLength, hpairs⟩ := (ih bytes).mp hrest
        refine ⟨congrArg (· + 1) hrestLength, fun i hi => ?_⟩
        cases i with
        | zero => exact hbyte
        | succ i => exact hpairs i (Nat.lt_of_succ_lt_succ hi)
      · rintro ⟨hbytes, hpairs⟩
        cases bytes with
        | nil => exact nomatch hbytes
        | cons byte bytes =>
            refine ⟨byte, bytes, rfl, hpairs 0 (Nat.succ_pos _), (ih bytes).mpr ?_⟩
            exact ⟨Nat.succ.inj hbytes, fun i hi => hpairs (i + 1) (Nat.succ_lt_succ hi)⟩
  | case2 text hshort =>
      have hlength : text.length / 2 = 0 := by
        rcases text with - | ⟨a, - | ⟨b, text⟩⟩
        · rfl
        · exact Nat.div_eq_of_lt (Nat.lt_succ_self 1)
        · exact absurd rfl (hshort a b text)
      have hnone : fromHexChunks text = some [] := by
        rcases text with - | ⟨a, - | ⟨b, text⟩⟩
        · rfl
        · rfl
        · exact absurd rfl (hshort a b text)
      rw [hlength, hnone, Option.some.injEq]
      constructor
      · rintro rfl
        exact ⟨rfl, fun i hi => absurd hi (Nat.not_lt_zero i)⟩
      · exact fun h => (List.eq_nil_of_length_eq_zero h.1).symm

/-! ## The whole text -/

/-- What `u8::from_str_radix` makes of two characters. -/
def PairChars (high low : Char) (byte : UInt8) : Prop :=
  ∃ l, hexValue low = some l ∧
    (high = '+' ∧ byte.toNat = l ∨ ∃ h, hexValue high = some h ∧ byte.toNat = 16 * h + l)

theorem pairBytes_ofNat {high low : Char} (hhigh : high.toNat < 128) (hlow : low.toNat < 128)
    (byte : UInt8) :
    PairBytes (UInt8.ofNat high.toNat) (UInt8.ofNat low.toNat) byte ↔ PairChars high low byte := by
  unfold PairBytes PairChars
  rw [toDigit16_ofNat hhigh, toDigit16_ofNat hlow, ofNat_eq_plus hhigh]

/-- What both parsers accept, and what they make of it. -/
def Reads (s : String) (bytes : Bytes32) : Prop :=
  s.toList.length = 64 ∧
    ∀ i : Fin 32, PairChars (charAt s (2 * i)) (charAt s (2 * i + 1)) bytes[i]

theorem toNat_lt_of_pairBytes {high low byte : UInt8} (h : PairBytes high low byte) :
    high.toNat < 128 ∧ low.toNat < 128 := by
  obtain ⟨l, hlow, ⟨rfl, -⟩ | ⟨n, hhigh, -⟩⟩ := h
  · exact ⟨by decide, (toDigit16_some hlow).1⟩
  · exact ⟨(toDigit16_some hhigh).1, (toDigit16_some hlow).1⟩

theorem toNat_lt_of_pairChars {high low : Char} {byte : UInt8} (h : PairChars high low byte) :
    high.toNat < 128 ∧ low.toNat < 128 := by
  obtain ⟨l, hlow, ⟨rfl, -⟩ | ⟨n, hhigh, -⟩⟩ := h
  · exact ⟨by decide, (hexValue_some hlow).1⟩
  · exact ⟨(hexValue_some hhigh).1, (hexValue_some hlow).1⟩

/-- In a list of 64, what holds of both places of every pair holds of all. -/
theorem forall_mem_of_pairs {α : Type} {l : List α} {P : α → Prop} (default : α)
    (hlength : l.length = 64)
    (h : ∀ i < 32, P (l.getD (2 * i) default) ∧ P (l.getD (2 * i + 1) default)) :
    ∀ a ∈ l, P a := by
  intro a mem
  obtain ⟨i, hi, rfl⟩ := List.getElem_of_mem mem
  obtain ⟨heven, hodd⟩ := h (i / 2) (by omega)
  rcases Nat.mod_two_eq_zero_or_one i with hmod | hmod
  · rwa [show 2 * (i / 2) = i by omega, List.getD_eq_getElem _ _ hi] at heven
  · rwa [show 2 * (i / 2) + 1 = i by omega, List.getD_eq_getElem _ _ hi] at hodd

theorem fromHex32_eq_some_iff (text : Bytes) (bytes : Bytes32) :
    fromHex32 text = some bytes ↔ fromHexChunks text = some bytes.toList := by
  unfold fromHex32
  rw [Option.bind_eq_bind, Option.bind_eq_some_iff]
  constructor
  · rintro ⟨list, hchunks, hlist⟩
    split at hlist
    · rw [← Option.some.inj hlist]
      exact hchunks
    · exact nomatch hlist
  · intro hchunks
    exact ⟨bytes.toList, hchunks, dif_pos Vector.length_toList⟩

theorem fromHex32_of_lt {s : String} (hascii : ∀ c ∈ s.toList, c.toNat < 128)
    (hlength : s.toList.length = 64) (bytes : Bytes32) :
    fromHex32 (strBytes s) = some bytes ↔
      ∀ i : Fin 32, PairChars (charAt s (2 * i)) (charAt s (2 * i + 1)) bytes[i] := by
  have hbytes : bytes.toList.length = 32 := Vector.length_toList
  have hchar : ∀ i < 64, (charAt s i).toNat < 128 ∧
      (strBytes s).getD i 0 = UInt8.ofNat (charAt s i).toNat := by
    intro i hi
    rw [strBytes_of_lt hascii, List.getD_eq_getElem _ _ (by rwa [List.length_map, hlength]),
      List.getElem_map, charAt, List.getD_eq_getElem _ _ (by rwa [hlength])]
    exact ⟨hascii _ (List.getElem_mem _), rfl⟩
  have hpair : ∀ i < 32, ∀ byte,
      PairBytes ((strBytes s).getD (2 * i) 0) ((strBytes s).getD (2 * i + 1) 0) byte ↔
        PairChars (charAt s (2 * i)) (charAt s (2 * i + 1)) byte := by
    intro i hi byte
    obtain ⟨hhigh, hhighByte⟩ := hchar (2 * i) (by omega)
    obtain ⟨hlow, hlowByte⟩ := hchar (2 * i + 1) (by omega)
    rw [hhighByte, hlowByte, pairBytes_ofNat hhigh hlow]
  have hsize : (strBytes s).length = 64 := by rw [strBytes_of_lt hascii, List.length_map, hlength]
  rw [fromHex32_eq_some_iff, fromHexChunks_eq_some_iff, hbytes, hsize]
  constructor
  · intro h i
    have hi := (hpair i i.isLt _).mp (h.2 i i.isLt)
    rwa [List.getD_eq_getElem _ _ (by rw [hbytes]; exact i.isLt)] at hi
  · intro h
    refine ⟨rfl, fun i hi => (hpair i hi _).mpr ?_⟩
    rw [List.getD_eq_getElem _ _ (by rwa [hbytes])]
    exact h ⟨i, hi⟩

theorem fromHex32_iff (s : String) (bytes : Bytes32) :
    s.utf8ByteSize = 64 ∧ fromHex32 (strBytes s) = some bytes ↔ Reads s bytes := by
  constructor
  · rintro ⟨hsize, hread⟩
    have hchunks := (fromHex32_eq_some_iff _ _).mp hread
    have hpairs := ((fromHexChunks_eq_some_iff _ _).mp hchunks).2
    rw [show bytes.toList.length = 32 from Vector.length_toList] at hpairs
    rw [← length_strBytes] at hsize
    have hascii := toNat_lt_of_bytes
      (forall_mem_of_pairs 0 hsize fun i hi => toNat_lt_of_pairBytes (hpairs i hi))
    rw [strBytes_of_lt hascii, List.length_map] at hsize
    exact ⟨hsize, (fromHex32_of_lt hascii hsize bytes).mp hread⟩
  · rintro ⟨hlength, hpairs⟩
    have hascii : ∀ c ∈ s.toList, c.toNat < 128 :=
      forall_mem_of_pairs ' ' hlength fun i hi => toNat_lt_of_pairChars (hpairs ⟨i, hi⟩)
    refine ⟨?_, (fromHex32_of_lt hascii hlength bytes).mpr hpairs⟩
    rw [← length_strBytes, strBytes_of_lt hascii, List.length_map, hlength]

theorem fromStr_eq_ok_iff (s : String) (fingerprint : PeerFingerprint) :
    PeerFingerprint.fromStr s = .ok fingerprint ↔ Reads s fingerprint := by
  rw [← fromHex32_iff]
  unfold PeerFingerprint.fromStr
  by_cases hsize : s.utf8ByteSize = 64
  · rw [if_neg (not_not_intro hsize)]
    cases fromHex32 (strBytes s) <;> simp [hsize]
  · rw [if_pos hsize]
    simp [hsize]

theorem parseHex32_eq_some_iff (s : String) (bytes : Bytes32) :
    parseHex32 s = some bytes ↔ Reads s bytes := by
  rw [← fromHex32_iff]
  unfold parseHex32
  by_cases hsize : s.utf8ByteSize = 64 <;> simp [hsize]

theorem exists_pairChars_iff (high low : Char) :
    (∃ byte, PairChars high low byte) ↔
      (high = '+' ∨ (hexValue high).isSome = true) ∧ (hexValue low).isSome = true := by
  constructor
  · rintro ⟨byte, l, hlow, hhigh⟩
    refine ⟨hhigh.imp And.left ?_, by rw [hlow]; rfl⟩
    rintro ⟨h, hvalue, -⟩
    rw [hvalue]
    rfl
  · rintro ⟨hhigh, hlow⟩
    obtain ⟨l, hlow⟩ := Option.isSome_iff_exists.mp hlow
    obtain ⟨-, hl⟩ := hexValue_some hlow
    have hbyte : ∀ n < 256, (UInt8.ofNat n).toNat = n := fun n hn => UInt8.toNat_ofNat_of_lt' hn
    rcases hhigh with rfl | hhigh
    · exact ⟨UInt8.ofNat l, l, hlow, .inl ⟨rfl, hbyte l (by omega)⟩⟩
    · obtain ⟨h, hhigh⟩ := Option.isSome_iff_exists.mp hhigh
      obtain ⟨-, hh⟩ := hexValue_some hhigh
      exact ⟨UInt8.ofNat (16 * h + l), l, hlow, .inr ⟨h, hhigh, hbyte _ (by omega)⟩⟩

/-- A text is read when every pair of its characters has a value. -/
theorem exists_reads_iff (s : String) :
    (∃ bytes, Reads s bytes) ↔
      s.toList.length = 64 ∧ ∀ i < 32,
        (charAt s (2 * i) = '+' ∨ (hexValue (charAt s (2 * i))).isSome = true) ∧
          (hexValue (charAt s (2 * i + 1))).isSome = true := by
  constructor
  · rintro ⟨bytes, hlength, hpairs⟩
    exact ⟨hlength, fun i hi => (exists_pairChars_iff _ _).mp ⟨_, hpairs ⟨i, hi⟩⟩⟩
  · rintro ⟨hlength, hpairs⟩
    choose byte hbyte using fun i : Fin 32 => (exists_pairChars_iff _ _).mpr (hpairs i i.isLt)
    refine ⟨Vector.ofFn byte, hlength, fun i => ?_⟩
    rw [Fin.getElem_fin, Vector.getElem_ofFn]
    exact hbyte i

theorem charAt_mem {s : String} {i : Nat} (h : i < s.toList.length) : charAt s i ∈ s.toList := by
  rw [charAt, List.getD_eq_getElem _ _ h]
  exact List.getElem_mem h

theorem hex64_iff (s : String) :
    Hex64 s ↔ s.toList.length = 64 ∧ ∀ i < 32,
      (hexValue (charAt s (2 * i))).isSome = true ∧
        (hexValue (charAt s (2 * i + 1))).isSome = true := by
  constructor
  · rintro ⟨hlength, hdigits⟩
    refine ⟨hlength, fun i hi => ⟨hdigits _ (charAt_mem ?_), hdigits _ (charAt_mem ?_)⟩⟩ <;> omega
  · rintro ⟨hlength, hpairs⟩
    exact ⟨hlength, forall_mem_of_pairs ' ' hlength hpairs⟩

theorem Hex64.not_signedHex {s : String} (h : Hex64 s) : ¬ SignedHex s := by
  rintro ⟨-, -, -, i, hi, hplus⟩
  have hdigit := (((hex64_iff s).mp h).2 i hi).1
  rw [hplus] at hdigit
  exact absurd hdigit (by decide)

/-- Both parsers read the 64 digits of the grammar, and beside them the texts with a sign. -/
theorem exists_reads_iff_hex64 (s : String) :
    (∃ bytes, Reads s bytes) ↔ Hex64 s ∨ SignedHex s := by
  rw [exists_reads_iff]
  constructor
  · rintro ⟨hlength, hpairs⟩
    by_cases hsign : ∃ i < 32, charAt s (2 * i) = '+'
    · exact .inr ⟨hlength, fun i hi => (hpairs i hi).1, fun i hi => (hpairs i hi).2, hsign⟩
    · refine .inl ((hex64_iff s).mpr ⟨hlength, fun i hi => ⟨?_, (hpairs i hi).2⟩⟩)
      exact (hpairs i hi).1.resolve_left fun hplus => hsign ⟨i, hi, hplus⟩
  · rintro (hdigits | ⟨hlength, hhigh, hlow, -⟩)
    · obtain ⟨hlength, hpairs⟩ := (hex64_iff s).mp hdigits
      exact ⟨hlength, fun i hi => (hpairs i hi).imp .inr id⟩
    · exact ⟨hlength, fun i hi => ⟨hhigh i hi, hlow i hi⟩⟩

theorem Reads.hasValues {s : String} {bytes : Bytes32} (hdigits : Hex64 s) (h : Reads s bytes) :
    HasValues s bytes := by
  intro i
  obtain ⟨l, hlow, ⟨hplus, -⟩ | ⟨n, hhigh, hvalue⟩⟩ := h.2 i
  · have hdigit := (((hex64_iff s).mp hdigits).2 i i.isLt).1
    rw [hplus] at hdigit
    exact absurd hdigit (by decide)
  · exact ⟨n, l, hhigh, hlow, hvalue⟩

/-! ## What the two parsers are for -/

/-- Exactly the texts of 64 digits are read, by both parsers, as their values. -/
structure ReadsExactly (s : String) : Prop where
  fingerprint : (∃ fingerprint, PeerFingerprint.fromStr s = .ok fingerprint) ↔ Hex64 s
  fingerprintValues : ∀ fingerprint,
    PeerFingerprint.fromStr s = .ok fingerprint → HasValues s fingerprint
  token : (∃ bytes, parseHex32 s = some bytes) ↔ Hex64 s
  tokenValues : ∀ bytes, parseHex32 s = some bytes → HasValues s bytes

/-- A text is read as the grammar says unless a plus sign stands in front of one of its pairs
that is otherwise in the grammar; and what `Display` writes is read back. -/
theorem hex_text_read_iff (s : String) :
    (ReadsExactly s ↔ ¬ SignedHex s) ∧
      ∀ fingerprint : PeerFingerprint,
        PeerFingerprint.fromStr fingerprint.toString = .ok fingerprint ∧
          parseHex32 fingerprint.toString = some fingerprint := by
  refine ⟨⟨fun h hsigned => ?_, fun hsigned => ?_⟩, fun fingerprint =>
    ⟨fingerprint.fromStr_toString, parseHex32_hexString fingerprint⟩⟩
  · obtain ⟨bytes, hreads⟩ := (exists_reads_iff_hex64 s).mpr (.inr hsigned)
    have hdigits := h.fingerprint.mp ⟨bytes, (fromStr_eq_ok_iff s bytes).mpr hreads⟩
    exact hdigits.not_signedHex hsigned
  · have hgrammar : (∃ bytes, Reads s bytes) ↔ Hex64 s :=
      (exists_reads_iff_hex64 s).trans (or_iff_left hsigned)
    have hvalues : ∀ bytes, Reads s bytes → HasValues s bytes :=
      fun bytes hreads => hreads.hasValues (hgrammar.mp ⟨bytes, hreads⟩)
    exact
      { fingerprint := by simpa only [fromStr_eq_ok_iff] using hgrammar
        fingerprintValues := fun bytes h => hvalues bytes ((fromStr_eq_ok_iff s bytes).mp h)
        token := by simpa only [parseHex32_eq_some_iff] using hgrammar
        tokenValues := fun bytes h => hvalues bytes ((parseHex32_eq_some_iff s bytes).mp h) }

namespace Sample

/-- 64 characters: a plus sign and a digit, 32 times. -/
def signedText : String := "+f+f+f+f+f+f+f+f+f+f+f+f+f+f+f+f+f+f+f+f+f+f+f+f+f+f+f+f+f+f+f+f"

end Sample

/-- `+f` is read as 15. -/
theorem signed_text_read :
    ¬ ReadsExactly Sample.signedText ∧ ¬ Hex64 Sample.signedText ∧
      PeerFingerprint.fromStr Sample.signedText = .ok (Vector.replicate 32 15) ∧
      parseHex32 Sample.signedText = some (Vector.replicate 32 15) := by
  have hsigned : SignedHex Sample.signedText := by decide +kernel
  have hdigits : ¬ Hex64 Sample.signedText := fun h => h.not_signedHex hsigned
  have hfingerprint : PeerFingerprint.fromStr Sample.signedText = .ok (Vector.replicate 32 15) := by
    rfl
  refine ⟨fun h => hdigits (h.fingerprint.mp ⟨_, hfingerprint⟩), hdigits, hfingerprint, ?_⟩
  exact (parseHex32_eq_some_iff _ _).mpr ((fromStr_eq_ok_iff _ _).mp hfingerprint)

end FarBus.Core
