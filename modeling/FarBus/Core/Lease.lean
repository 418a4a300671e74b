/-
  Core/Lease.lean --- the lease book of `crates/farbus-core/src/lease.rs`.

  The book maps a device to the peer that holds its exclusive lease.  It is
  changed by four operations, kept here as data (`LeaseOp`) so that a step of the
  server can name the one it performs.  What they can do to one device is said
  once, by `LeaseOp.acquired` and `LeaseOp.lost`.
-/
import FarBus.Foundation.Table
import FarBus.Protocol.Message

set_option autoImplicit false

namespace FarBus.Core

open FarBus.Foundation
open FarBus.Protocol

/-- The SHA-256 fingerprint that names a peer. -/
abbrev PeerFingerprint : Type := Bytes32

structure LeaseBook where
  owners : Std.ExtTreeMap DeviceId PeerFingerprint := {}

inductive LeaseError where
  | alreadyLeased (owner : PeerFingerprint)
  | notOwner (owner : PeerFingerprint)
  | notLeased
  deriving DecidableEq, Repr

namespace LeaseBook

/-- Grants or refreshes an exclusive lease for `peer`. -/
def acquire (self : LeaseBook) (device : DeviceId) (peer : PeerFingerprint) :
    Except LeaseError Unit × LeaseBook :=
  match self.owners[device]? with
  | some owner =>
      if owner = peer then (.ok (), self) else (.error (.alreadyLeased owner), self)
  | none => (.ok (), { self with owners := self.owners.insert device peer })

/-- Releases a lease owned by `peer`. -/
def release (self : LeaseBook) (device : DeviceId) (peer : PeerFingerprint) :
    Except LeaseError Unit × LeaseBook :=
  match self.owners[device]? with
  | some owner =>
      if owner = peer then (.ok (), { self with owners := self.owners.erase device })
      else (.error (.notOwner owner), self)
  | none => (.error .notLeased, self)

def owner (self : LeaseBook) (device : DeviceId) : Option PeerFingerprint :=
  self.owners[device]?

/-- Drops every lease owned by `peer`. -/
def releaseAll (self : LeaseBook) (peer : PeerFingerprint) : LeaseBook :=
  { self with owners := self.owners.filter fun _ owner => owner != peer }

/-- Drops leases for devices that are no longer present. -/
def releaseDevices (self : LeaseBook) (devices : List DeviceId) : LeaseBook :=
  { self with owners := self.owners.filter fun device _ =>
      !devices.any fun removed => removed == device }

/-! ## What the operations do to one device -/

theorem owner_empty (device : DeviceId) : ({} : LeaseBook).owner device = none := by
  simp [owner]

theorem owner_acquire (self : LeaseBook) (device : DeviceId) (peer : PeerFingerprint)
    (other : DeviceId) :
    (self.acquire device peer).2.owner other =
      if other = device then (self.owner device).or (some peer) else self.owner other := by
  unfold acquire owner
  cases hheld : self.owners[device]? with
  | some held =>
      have hsame : self.owners[other]? =
          if other = device then some held else self.owners[other]? := by
        split
        · rename_i h
          rw [h, hheld]
        · rfl
      by_cases hpeer : held = peer
      · simp only [hpeer, if_true, Option.some_or] at hsame ⊢
        exact hsame
      · simp only [hpeer, if_false, Option.some_or]
        exact hsame
  | none => simp only [lookup_insert, Option.none_or]

theorem owner_release (self : LeaseBook) (device : DeviceId) (peer : PeerFingerprint)
    (other : DeviceId) :
    (self.release device peer).2.owner other =
      if other = device ∧ self.owner device = some peer then none else self.owner other := by
  unfold release owner
  cases hheld : self.owners[device]? with
  | some held =>
      by_cases hpeer : held = peer
      · simp only [hpeer, if_true, lookup_erase, and_true]
      · simp [hpeer]
  | none => simp

theorem owner_releaseAll (self : LeaseBook) (peer : PeerFingerprint) (other : DeviceId) :
    (self.releaseAll peer).owner other =
      if self.owner other = some peer then none else self.owner other := by
  unfold releaseAll owner
  rw [Std.ExtTreeMap.getElem?_filter']
  cases self.owners[other]? with
  | none => simp
  | some held => by_cases hpeer : held = peer <;> simp [hpeer]

theorem owner_releaseDevices (self : LeaseBook) (devices : List DeviceId) (other : DeviceId) :
    (self.releaseDevices devices).owner other =
      if other ∈ devices then none else self.owner other := by
  unfold releaseDevices owner
  rw [Std.ExtTreeMap.getElem?_filter']
  cases self.owners[other]? with
  | none => simp
  | some held =>
      by_cases hmem : other ∈ devices
      · simp [hmem]
      · have hany : (devices.any fun removed => removed == other) = false := by
          simpa using fun removed hremoved (h : removed = other) => hmem (h ▸ hremoved)
        simp [hmem, hany]

/-- A refused operation leaves the book as it was. -/
theorem acquire_error {self : LeaseBook} {device : DeviceId} {peer : PeerFingerprint}
    {err : LeaseError} (h : (self.acquire device peer).1 = .error err) :
    (self.acquire device peer).2 = self := by
  unfold acquire at h ⊢
  split at h
  · split at h
    · cases h
    · rename_i hpeer
      simp [hpeer]
  · cases h

theorem release_error {self : LeaseBook} {device : DeviceId} {peer : PeerFingerprint}
    {err : LeaseError} (h : (self.release device peer).1 = .error err) :
    (self.release device peer).2 = self := by
  unfold release at h ⊢
  split at h
  · split at h
    · cases h
    · rename_i hpeer
      simp [hpeer]
  · simp

/-- A lease is granted exactly when nobody else holds it, and then `peer` does. -/
theorem acquire_ok_iff (self : LeaseBook) (device : DeviceId) (peer : PeerFingerprint) :
    (self.acquire device peer).1 = .ok () ↔
      (self.acquire device peer).2.owner device = some peer := by
  rw [owner_acquire, if_pos rfl]
  unfold acquire owner
  cases self.owners[device]? with
  | none => simp
  | some held => by_cases hpeer : held = peer <;> simp [hpeer]

end LeaseBook

/-! ## The operations as data -/

/-- A change of the lease book. -/
inductive LeaseOp where
  | acquire (device : DeviceId) (peer : PeerFingerprint)
  | release (device : DeviceId) (peer : PeerFingerprint)
  | releaseAll (peer : PeerFingerprint)
  | releaseDevices (devices : List DeviceId)

namespace LeaseOp

def apply : LeaseOp → LeaseBook → LeaseBook
  | .acquire device peer, book => (book.acquire device peer).2
  | .release device peer, book => (book.release device peer).2
  | .releaseAll peer, book => book.releaseAll peer
  | .releaseDevices devices, book => book.releaseDevices devices

/-- The operation takes the lease of `peer` on `device` away, if there is one. -/
def Revokes (op : LeaseOp) (device : DeviceId) (peer : PeerFingerprint) : Prop :=
  op = .release device peer ∨ op = .releaseAll peer ∨
    ∃ devices, op = .releaseDevices devices ∧ device ∈ devices

/-- Only `acquire` gives a device to a peer. -/
theorem acquired {op : LeaseOp} {book : LeaseBook} {device : DeviceId} {peer : PeerFingerprint}
    (hbefore : book.owner device ≠ some peer) (hafter : (op.apply book).owner device = some peer) :
    op = .acquire device peer ∧ book.owner device = none := by
  cases op with
  | acquire device' peer' =>
      simp only [apply, LeaseBook.owner_acquire] at hafter
      split at hafter
      · rename_i hdevice
        subst hdevice
        cases hheld : book.owner device with
        | none =>
            rw [hheld, Option.none_or, Option.some.injEq] at hafter
            exact ⟨by rw [hafter], rfl⟩
        | some held =>
            rw [hheld, Option.some_or] at hafter
            exact absurd (hheld.trans hafter) hbefore
      · exact absurd hafter hbefore
  | release device' peer' =>
      simp only [apply, LeaseBook.owner_release] at hafter
      split at hafter
      · cases hafter
      · exact absurd hafter hbefore
  | releaseAll peer' =>
      simp only [apply, LeaseBook.owner_releaseAll] at hafter
      split at hafter
      · cases hafter
      · exact absurd hafter hbefore
  | releaseDevices devices =>
      simp only [apply, LeaseBook.owner_releaseDevices] at hafter
      split at hafter
      · cases hafter
      · exact absurd hafter hbefore

/-- A lease is lost exactly to an operation that revokes it. -/
theorem lost_iff {op : LeaseOp} {book : LeaseBook} {device : DeviceId} {peer : PeerFingerprint}
    (hbefore : book.owner device = some peer) :
    (op.apply book).owner device ≠ some peer ↔ op.Revokes device peer := by
  unfold Revokes
  cases op with
  | acquire device' peer' =>
      simp only [apply, LeaseBook.owner_acquire]
      split
      · rename_i hdevice
        subst hdevice
        simp [hbefore]
      · simp [hbefore]
  | release device' peer' =>
      simp only [apply, LeaseBook.owner_release]
      by_cases hdevice : device = device'
      · subst hdevice
        by_cases hpeer : peer = peer'
        · subst hpeer
          simp [hbefore]
        · have hne : peer' ≠ peer := fun h => hpeer h.symm
          simp [hbefore, hpeer, hne]
      · have hne : device' ≠ device := fun h => hdevice h.symm
        simp [hbefore, hdevice, hne]
  | releaseAll peer' =>
      simp only [apply, LeaseBook.owner_releaseAll, hbefore]
      by_cases hpeer : peer = peer'
      · simp [hpeer]
      · have hne : peer' ≠ peer := fun h => hpeer h.symm
        simp [hpeer, hne]
  | releaseDevices devices =>
      simp only [apply, LeaseBook.owner_releaseDevices, hbefore]
      by_cases hmem : device ∈ devices <;> simp [hmem]

end LeaseOp

end FarBus.Core
