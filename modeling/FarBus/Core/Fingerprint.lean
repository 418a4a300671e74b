/-
  Core/Fingerprint.lean --- the text forms of 32 bytes: `Display` and `FromStr` of
  `PeerFingerprint` in `crates/farbus-core/src/fingerprint.rs`, and `parse_hex32` of
  `store.rs`, which reads the same form.

  Both parsers go through `u8::from_str_radix`, two bytes of the text at a time.
-/
import FarBus.Protocol.Decode
import FarBus.Core.Lease

set_option autoImplicit false

namespace FarBus.Core

open FarBus.Foundation
open FarBus.Protocol

/-! ## Writing -/

/-- A digit of `{:x}`. -/
def hexDigit (n : Nat) : Char :=
  if n < 10 then Char.ofNat ('0'.toNat + n) else Char.ofNat ('a'.toNat + (n - 10))

/-- `{:02x}`. -/
def hexByte (byte : UInt8) : List Char := [hexDigit (byte.toNat / 16), hexDigit (byte.toNat % 16)]

def hexString (bytes : Bytes) : String := String.ofList (bytes.flatMap hexByte)

/-- `Display`. -/
def PeerFingerprint.toString (self : PeerFingerprint) : String := hexString self.toList

/-! ## Reading -/

/-- `char::to_digit(16)`, of the character with this code. -/
def toDigit16 (byte : UInt8) : Option Nat :=
  let n := byte.toNat
  if 48 ≤ n ∧ n ≤ 57 then some (n - 48)
  else if 97 ≤ n ∧ n ≤ 102 then some (n - 87)
  else if 65 ≤ n ∧ n ≤ 70 then some (n - 55)
  else none

/-- The digits of `u8::from_str_radix(_, 16)`, most significant first. -/
def digits16 (value : Nat) : Bytes → Option Nat
  | [] => some value
  | byte :: bytes => do
      let digit ← toDigit16 byte
      let value := 16 * value + digit
      if value < 256 then digits16 value bytes else none

/-- `u8::from_str_radix(_, 16)`.  A plus sign may stand before the digits. -/
def fromStrRadix16 (src : Bytes) : Option UInt8 :=
  match src with
  | [] => none
  | [byte] => if byte = 43 ∨ byte = 45 then none else (digits16 0 [byte]).map UInt8.ofNat
  | byte :: bytes =>
      (digits16 0 (if byte = 43 then bytes else byte :: bytes)).map UInt8.ofNat

/-- Every two bytes as one.  The bytes of a character that is not ASCII are no digits, so
the check that a chunk is UTF-8 refuses nothing else. -/
def fromHexChunks : Bytes → Option Bytes
  | high :: low :: rest => do
      let byte ← fromStrRadix16 [high, low]
      let bytes ← fromHexChunks rest
      some (byte :: bytes)
  | _ => some []

/-- The loop of both parsers over the 64 bytes of a text. -/
def fromHex32 (text : Bytes) : Option Bytes32 := do
  let bytes ← fromHexChunks text
  if h : bytes.length = 32 then some ⟨bytes.toArray, by rw [List.size_toArray, h]⟩ else none

inductive FingerprintError where
  | badLength
  | badHex
  deriving DecidableEq, Repr

/-- `FromStr`. -/
def PeerFingerprint.fromStr (s : String) : Except FingerprintError PeerFingerprint :=
  if s.utf8ByteSize ≠ 64 then .error .badLength
  else
    match fromHex32 (strBytes s) with
    | some bytes => .ok bytes
    | none => .error .badHex

def parseHex32 (tokenHex : String) : Option Bytes32 :=
  if tokenHex.utf8ByteSize ≠ 64 then none else fromHex32 (strBytes tokenHex)

/-! ## What is written is read -/

/-- A digit is one byte, no sign, and has its value. -/
theorem hexDigit_spec {n : Nat} (h : n < 16) :
    String.utf8EncodeChar (hexDigit n) = [UInt8.ofNat (hexDigit n).toNat] ∧
      UInt8.ofNat (hexDigit n).toNat ≠ 43 ∧
      toDigit16 (UInt8.ofNat (hexDigit n).toNat) = some n := by
  revert n
  decide

/-- The two digits of a byte, as text. -/
def hexBytes (byte : UInt8) : Bytes :=
  [UInt8.ofNat (hexDigit (byte.toNat / 16)).toNat, UInt8.ofNat (hexDigit (byte.toNat % 16)).toNat]

theorem halves_lt (byte : UInt8) : byte.toNat / 16 < 16 ∧ byte.toNat % 16 < 16 := by
  have hbyte := byte.toNat_lt
  omega

theorem strBytes_hexString (bytes : Bytes) : strBytes (hexString bytes) = bytes.flatMap hexBytes := by
  rw [hexString, strBytes_ofList, List.flatMap_assoc]
  congr 1
  funext byte
  obtain ⟨hhigh, hlow⟩ := halves_lt byte
  rw [hexByte, List.flatMap_cons, List.flatMap_cons, (hexDigit_spec hhigh).1,
    (hexDigit_spec hlow).1]
  rfl

theorem fromStrRadix16_hexBytes (byte : UInt8) : fromStrRadix16 (hexBytes byte) = some byte := by
  obtain ⟨hhigh, hlow⟩ := halves_lt byte
  obtain ⟨-, hsign, hhighValue⟩ := hexDigit_spec hhigh
  obtain ⟨-, -, hlowValue⟩ := hexDigit_spec hlow
  have hvalue : 16 * (byte.toNat / 16) + byte.toNat % 16 = byte.toNat := Nat.div_add_mod _ _
  have hbyte : byte.toNat < 256 := byte.toNat_lt
  have hdigits : digits16 0 (hexBytes byte) = some byte.toNat := by
    simp only [hexBytes, digits16, hhighValue, hlowValue, Option.bind_eq_bind, Option.bind_some,
      Nat.mul_zero, Nat.zero_add, hvalue, hbyte, if_true]
    rw [if_pos (Nat.lt_trans hhigh (by decide))]
  unfold hexBytes at hdigits ⊢
  unfold fromStrRadix16
  dsimp only
  rw [if_neg hsign, hdigits, Option.map_some, UInt8.ofNat_toNat]

theorem fromHexChunks_hexBytes (bytes : Bytes) :
    fromHexChunks (bytes.flatMap hexBytes) = some bytes := by
  induction bytes with
  | nil => rfl
  | cons byte bytes ih =>
      have hbyte := fromStrRadix16_hexBytes byte
      rw [List.flatMap_cons, hexBytes, List.cons_append, List.cons_append, List.nil_append,
        fromHexChunks]
      rw [hexBytes] at hbyte
      rw [hbyte, ih]
      rfl

theorem fromHex32_hexString (bytes : Bytes32) :
    fromHex32 (strBytes (hexString bytes.toList)) = some bytes := by
  rw [strBytes_hexString, fromHex32, fromHexChunks_hexBytes]
  have hlength : bytes.toList.length = 32 := Vector.length_toList
  rw [Option.bind_eq_bind, Option.bind_some, dif_pos hlength]
  exact congrArg some (Vector.toArray_inj.mp rfl)

theorem utf8ByteSize_hexString (bytes : Bytes32) : (hexString bytes.toList).utf8ByteSize = 64 := by
  rw [← length_strBytes, strBytes_hexString, List.length_flatMap]
  simp [hexBytes]

theorem PeerFingerprint.fromStr_toString (self : PeerFingerprint) :
    fromStr self.toString = .ok self := by
  rw [fromStr, toString, utf8ByteSize_hexString, fromHex32_hexString]
  rfl

theorem parseHex32_hexString (bytes : Bytes32) : parseHex32 (hexString bytes.toList) = some bytes := by
  rw [parseHex32, utf8ByteSize_hexString, fromHex32_hexString]
  rfl

end FarBus.Core
