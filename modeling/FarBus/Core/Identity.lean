/-
  Core/Identity.lean --- pairing PINs, after `crates/farbus-core/src/identity.rs`.

  SHA-256 is a parameter, the clock is an argument, and what the random number
  generator returns is an argument too.
-/
import Mathlib.Data.List.Forall2
import FarBus.Protocol.Format
import FarBus.Core.Lease

set_option autoImplicit false

namespace FarBus.Core

open FarBus.Foundation
open FarBus.Protocol

/-- Nanoseconds of the monotonic clock. -/
abbrev Instant : Type := Nat

/-- Nanoseconds. -/
abbrev Duration : Type := Nat

/-- `Duration::from_secs`. -/
def fromSecs (secs : Nat) : Duration := secs * 1000000000

def PIN_TTL : Duration := fromSecs 120

/-- `gen_range(100_000..1_000_000)`, counted from the lower end. -/
abbrev PinDraw : Type := Fin 900000

/-- There is a least draw, `0`. -/
instance neZeroPinDraws : NeZero 900000 := ⟨Nat.succ_ne_zero 899999⟩

/-- A digest function, for SHA-256. -/
abbrev Digest : Type := Bytes → Bytes32

def hashPin (sha256 : Digest) (pin : String) (server : PeerFingerprint) : Bytes32 :=
  sha256 (strBytes "farbus-pin-v1" ++ server.toList ++ strBytes pin)

def constantTimeEq (a b : Bytes) : Bool :=
  if a.length ≠ b.length then false
  else (a.zip b).foldl (fun diff pair => diff ||| (pair.1 ^^^ pair.2)) 0 == 0

/-- The fold stays at zero as long as the bytes agree. -/
theorem foldl_xor_eq_zero (pairs : List (UInt8 × UInt8)) (diff : UInt8) :
    pairs.foldl (fun diff pair => diff ||| (pair.1 ^^^ pair.2)) diff = 0 ↔
      diff = 0 ∧ ∀ pair ∈ pairs, pair.1 = pair.2 := by
  induction pairs generalizing diff with
  | nil => simp
  | cons pair pairs ih =>
      rw [List.foldl_cons, ih, UInt8.or_eq_zero_iff, UInt8.xor_eq_zero_iff, List.forall_mem_cons,
        and_assoc]

/-- Bytes are equal when they are as many and no pair of them differs. -/
theorem constantTimeEq_iff_eq (a b : Bytes) : constantTimeEq a b = true ↔ a = b := by
  unfold constantTimeEq
  split
  · rename_i hlength
    constructor
    · intro h
      cases h
    · intro h
      exact absurd (congrArg List.length h) hlength
  · rename_i hlength
    rw [beq_iff_eq, foldl_xor_eq_zero, ← List.forall₂_eq_eq_eq, List.forall₂_iff_zip]
    constructor
    · rintro ⟨-, hpairs⟩
      exact ⟨Decidable.not_not.mp hlength, fun hmem => hpairs _ hmem⟩
    · rintro ⟨-, hpairs⟩
      exact ⟨rfl, fun pair hmem => hpairs hmem⟩

/-- The check compares all of the bytes. -/
theorem constantTimeEq_iff {a b : Bytes32} :
    constantTimeEq a.toList b.toList = true ↔ a = b := by
  rw [constantTimeEq_iff_eq, Vector.toList_inj]

structure PairingPin where
  pin : String
  hash : Bytes32
  expiresAt : Instant
  attempts : UInt8
  consumed : Bool
  deriving DecidableEq, Repr

namespace PairingPin

def issueWithTtl (sha256 : Digest) (server : PeerFingerprint) (ttl : Duration) (now : Instant)
    (draw : PinDraw) : PairingPin :=
  let pin := toString (100000 + draw.val)
  { pin
    hash := hashPin sha256 pin server
    expiresAt := now + ttl
    attempts := 0
    consumed := false }

def issue (sha256 : Digest) (server : PeerFingerprint) (now : Instant) (draw : PinDraw) :
    PairingPin :=
  issueWithTtl sha256 server PIN_TTL now draw

/-- Replaces this PIN with a fresh one when the current one has expired.  A
locked-out PIN is not reissued; only expiration rotates it. -/
def reissueIfExpired (sha256 : Digest) (self : PairingPin) (server : PeerFingerprint)
    (now : Instant) (draw : PinDraw) : Option String × PairingPin :=
  if now ≤ self.expiresAt ∨ self.attempts ≥ 5 then (none, self)
  else
    let fresh := issue sha256 server now draw
    (some fresh.pin, fresh)

/-- Constant-time PIN check with a five-attempt lockout. -/
def isValid (self : PairingPin) (candidateHash : Bytes32) (now : Instant) : Bool × PairingPin :=
  if self.consumed = true ∨ self.attempts ≥ 5 ∨ now > self.expiresAt then (false, self)
  else if constantTimeEq self.hash.toList candidateHash.toList then
    (true, { self with consumed := true })
  else
    -- `saturating_add(1)`
    (false, { self with attempts := if self.attempts = 255 then 255 else self.attempts + 1 })

end PairingPin

end FarBus.Core
