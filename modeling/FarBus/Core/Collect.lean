/-
  Core/Collect.lean --- what a scan of the local network finds: `collect` of
  `crates/farbus-core/src/discovery.rs`.

  Until its time is up the loop receives datagrams into one buffer, decodes what it can and
  keeps the first beacon of each fingerprint.  What the socket delivers, and what of it
  fails, is given; a datagram longer than the buffer is cut.
-/
import FarBus.Foundation.KeyedList
import FarBus.Core.Discovery
import FarBus.Core.Frame

set_option autoImplicit false

namespace FarBus.Core

open FarBus.Foundation
open FarBus.Protocol

/-- What a beacon is decoded to. -/
abbrev Beacon : Type := PeerFingerprint × SocketAddr × String

/-- What a `recv_from` does. -/
inductive RecvEvent where
  | datagram (bytes : Bytes)
  | failed
  deriving DecidableEq, Repr

/-- A pass of the loop. -/
def collectPass (text : AddressText) (found : List Beacon) : RecvEvent → List Beacon
  | .failed => found
  | .datagram bytes =>
      match decodeBeacon text (bytes.take BEACON_BUFFER) with
      | none => found
      | some entry => if found.any fun old => old.1 == entry.1 then found else found ++ [entry]

/-- `discovery::collect`: the socket is bound to any address, else to the loopback address. -/
def discoveryCollect (text : AddressText) (bindAny bindLoopback : Except IoErrorKind Unit)
    (events : List RecvEvent) : Except IoErrorKind (List Beacon) := do
  match bindAny with
  | .ok () => pure ()
  | .error _ => bindLoopback
  return events.foldl (collectPass text) []

/-! ## What is on the air -/

/-- The beacon of a server is received as one datagram. -/
structure Announces (text : AddressText) (bytes : Bytes) (beacon : Beacon) : Prop where
  encoded : bytes = encodeBeacon text beacon.1 beacon.2.1 beacon.2.2
  addr : (text.display beacon.2.1).utf8ByteSize ≤ 64
  parse : text.parse (text.display beacon.2.1) = some beacon.2.1
  hostname : beacon.2.2.utf8ByteSize ≤ 255

/-- Beacons of servers, one after the other, between failed receives and datagrams that are
no beacons. -/
inductive Airs (text : AddressText) : List RecvEvent → List Beacon → Prop where
  | nil : Airs text [] []
  | failed {events : List RecvEvent} {announced : List Beacon} (airs : Airs text events announced) :
      Airs text (.failed :: events) announced
  | noise {bytes : Bytes} {events : List RecvEvent} {announced : List Beacon}
      (undecodable : decodeBeacon text (bytes.take BEACON_BUFFER) = none)
      (airs : Airs text events announced) : Airs text (.datagram bytes :: events) announced
  | beacon {bytes : Bytes} {beacon : Beacon} {events : List RecvEvent} {announced : List Beacon}
      (announces : Announces text bytes beacon) (airs : Airs text events announced) :
      Airs text (.datagram bytes :: events) (beacon :: announced)

theorem Announces.decodeBeacon_take {text : AddressText} {bytes : Bytes} {beacon : Beacon}
    (h : Announces text bytes beacon) :
    decodeBeacon text (bytes.take BEACON_BUFFER) = some beacon := by
  obtain ⟨fingerprint, listen, hostname⟩ := beacon
  obtain ⟨rfl, haddr, hparse, hhost⟩ := h
  dsimp only at haddr hparse hhost
  have haddr' : (text.display listen).utf8ByteSize ≤ 255 := Nat.le_trans haddr (by decide)
  have hkept : (strBytes hostname).take 255 = strBytes hostname := List.take_of_length_le hhost
  have hfits : (encodeBeacon text fingerprint listen hostname).length ≤ BEACON_BUFFER := by
    have hfp : fingerprint.toList.length = 32 := Vector.length_toList
    have hmagic : BEACON_MAGIC.length = 6 := rfl
    rw [encodeBeacon_eq text fingerprint haddr', beaconOf, hkept]
    simp only [List.length_append, List.length_singleton, hfp, hmagic, length_strBytes]
    unfold BEACON_BUFFER
    omega
  rw [List.take_of_length_le hfits]
  exact decodes_of_cut text fingerprint haddr' hparse hkept

theorem Airs.collectPass_foldl {text : AddressText} {events : List RecvEvent}
    {announced : List Beacon} (h : Airs text events announced) (found : List Beacon) :
    events.foldl (collectPass text) found = pushAllNew Prod.fst announced found := by
  induction h generalizing found with
  | nil => rfl
  | failed _ ih => exact ih found
  | noise undecodable _ ih =>
      rw [List.foldl_cons, collectPass, undecodable]
      exact ih found
  | @beacon bytes beacon events announced announces _ ih =>
      have hpass : collectPass text found (.datagram bytes) = pushNew Prod.fst found beacon := by
        rw [collectPass, announces.decodeBeacon_take, pushNew]
        simp only [List.any_eq_true, beq_iff_eq]
      rw [List.foldl_cons, hpass]
      exact ih (pushNew Prod.fst found beacon)

theorem collect_of_airs {text : AddressText} {bindAny bindLoopback : Except IoErrorKind Unit}
    {events : List RecvEvent} {announced : List Beacon} (airs : Airs text events announced)
    (bound : bindAny = .ok () ∨ bindLoopback = .ok ()) :
    discoveryCollect text bindAny bindLoopback events = .ok (pushAllNew Prod.fst announced []) := by
  rw [← airs.collectPass_foldl]
  unfold discoveryCollect
  rcases bindAny with err | _
  · rcases bound with h | rfl
    · cases h
    · rfl
  · rfl

end FarBus.Core
