/-
  Core/PinBinding.lean --- a pairing is with the PIN that is shown and the server that
  shows it.

  The PIN in force is the one that was announced last, for two minutes from then on, and
  its hash is made of its text and of the server's fingerprint.  What a client hashes into
  a `PairRequest` is therefore compared with both, and a client that pinned another server
  does not pair.
-/
import FarBus.Core.PinBudget
import FarBus.Core.ClientResults
import FarBus.Core.HexText

set_option autoImplicit false

namespace FarBus.Core

open FarBus.Foundation
open FarBus.Protocol

/-! ## The PIN that is shown -/

/-- What goes out on `pin_updates` in a step of the server. -/
def announcedIn (platform : Platform) (t : Transition World Action) : Option String :=
  let server := t.pre.server
  let now := t.pre.now
  match t.act with
  | .renewExpiredPin draw => (server.renewExpiredPinAt platform now now draw).1
  | .advance s draw =>
      match (t.pre.sessions[s]?).map Session.pc with
      | some (.pairing req) =>
          (server.validatePairingPinAt platform req.pinHash now now now draw.pin).2.1
      | _ => none
  | _ => none

/-- The PIN that was announced last, the first one if none was, and since when. -/
def shownPin (platform : Platform) (start : World) (history : ServerHistory) : String × Instant :=
  (history.findSome? fun t => (announcedIn platform t).map fun pin => (pin, t.pre.now)).getD
    (start.server.pin.pin, start.now)

/-- The PIN in force is the one that is shown. -/
structure Shown (platform : Platform) (start : World) (history : ServerHistory) (w : World) :
    Prop where
  fingerprint : w.server.fingerprint = start.server.fingerprint
  text : w.server.pin.pin = (shownPin platform start history).1
  expires : w.server.pin.expiresAt = (shownPin platform start history).2 + PIN_TTL
  hash : w.server.pin.hash = hashPin platform.sha256 w.server.pin.pin w.server.fingerprint
  drawn : ∃ draw : PinDraw, w.server.pin.pin = toString (100000 + draw.val)
  fresh : w.server.pin.consumed = false

/-- What a step does to the PIN: it keeps it but for the attempts, or announces the new one. -/
inductive PinStep (platform : Platform) (w : World) (pin : PairingPin) : Option String → Prop where
  | kept (text : pin.pin = w.server.pin.pin) (hash : pin.hash = w.server.pin.hash)
      (expires : pin.expiresAt = w.server.pin.expiresAt)
      (consumed : pin.consumed = w.server.pin.consumed) : PinStep platform w pin none
  | issued (draw : PinDraw)
      (fresh : pin = PairingPin.issue platform.sha256 w.server.fingerprint w.now draw) :
      PinStep platform w pin (some pin.pin)

section

variable {platform : Platform} {start w w' : World} {act : Action} {history : ServerHistory}
  {s : Nat} {session : Session}

theorem PinStep.same : PinStep platform w w.server.pin none := .kept rfl rfl rfl rfl

/-- Only `validate_pairing_pin` touches the PIN. -/
theorem Session.AdvanceCases.pin {draw : Draw} {outcome : Outcome}
    (h : session.AdvanceCases platform w.now draw w.server s outcome) :
    outcome.server.fingerprint = w.server.fingerprint ∧
      ((∃ req, session.pc = .pairing req ∧ outcome.server =
          (w.server.validatePairingPinAt platform req.pinHash w.now w.now w.now draw.pin).2.2) ∨
        (∀ req, session.pc ≠ .pairing req) ∧ outcome.server.pin = w.server.pin) := by
  cases h with
  | pinAccepted pc valid | pinRefused pc valid =>
      have hvalidated := valid
      rw [ServerState.validatePairingPin_eq] at hvalidated
      obtain ⟨pin, rfl⟩ := validatePairingPin_frame valid
      exact ⟨rfl, .inl ⟨_, pc, (Prod.mk.inj hvalidated).2.symm⟩⟩
  | replied pc | issued pc | paired pc | tokenUnknown pc | tokenRefused pc | tokenAccepted pc
  | authorizedDevices pc | authorizedAttach pc | authorizedDetach pc | listed pc
  | attachUnknown pc | attached pc | detached pc | tokensExamined pc | urbLeased pc
  | urbRefused pc | urbAbsent pc | urbPresent pc | urbSpawned pc | unlinked pc =>
      refine ⟨rfl, .inr ⟨?_, rfl⟩⟩
      intro req hpairing
      cases pc.symm.trans hpairing

end

namespace Sample

end Sample

end FarBus.Core
