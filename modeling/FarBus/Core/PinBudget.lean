/-
  Core/PinBudget.lean --- what can be tried against one pairing PIN, after
  `crates/farbus-core/src/identity.rs` and `crates/farbus-core/src/session.rs`.

  A run is any sequence of `validate_pairing_pin` and `renew_expired_pin` calls, with
  time passing between them and inside them, and with the rest of the server
  changing as it likes.  Both calls hold the lock of the PIN, so each is one step;
  every reading of the clock in it is its own.  A generation is what is between two
  replacements of the PIN, each of which is announced on `pin_updates`.
-/
import FarBus.Foundation.Epoch
import FarBus.Core.Authorization

set_option autoImplicit false

namespace FarBus.Core

open FarBus.Foundation
open FarBus.Protocol

/-! ## The calls -/

/-- `reissue_if_expired`, which reads the clock again for the new PIN. -/
def PairingPin.reissueIfExpiredAt (sha256 : Digest) (self : PairingPin) (server : PeerFingerprint)
    (now issued : Instant) (draw : PinDraw) : Option String × PairingPin :=
  if now ≤ self.expiresAt ∨ self.attempts ≥ 5 then (none, self)
  else
    let fresh := issue sha256 server issued draw
    (some fresh.pin, fresh)

namespace ServerState

/-- `renew_expired_pin`.  The PIN it returns is also sent on `pin_updates`. -/
def renewExpiredPinAt (platform : Platform) (self : ServerState) (now issued : Instant)
    (draw : PinDraw) : Option String × ServerState :=
  let renewed := self.pin.reissueIfExpiredAt platform.sha256 self.fingerprint now issued draw
  (renewed.1, { self with pin := renewed.2 })

/-- `validate_pairing_pin`: its result, and what it sends on `pin_updates`. -/
def validatePairingPinAt (platform : Platform) (self : ServerState) (candidateHash : Bytes32)
    (now checked issued : Instant) (draw : PinDraw) : Bool × Option String × ServerState :=
  match self.pin.reissueIfExpiredAt platform.sha256 self.fingerprint now checked draw with
  | (some newPin, pin) => (false, some newPin, { self with pin })
  | (none, pin) =>
      match pin.isValid candidateHash checked with
      | (true, _) =>
          let fresh := PairingPin.issue platform.sha256 self.fingerprint issued draw
          (true, some fresh.pin, { self with pin := fresh })
      | (false, pin) => (false, none, { self with pin })

variable {platform : Platform} {self : ServerState} {candidateHash : Bytes32} {now : Instant}
  {draw : PinDraw}

/-- The section of a run of the server is the call during which no time passes. -/
theorem renewExpiredPin_eq :
    self.renewExpiredPin platform now draw = (self.renewExpiredPinAt platform now now draw).2 :=
  rfl

theorem validatePairingPin_eq :
    self.validatePairingPin platform candidateHash now draw =
      ((self.validatePairingPinAt platform candidateHash now now now draw).1,
        (self.validatePairingPinAt platform candidateHash now now now draw).2.2) := by
  have hreissue : self.pin.reissueIfExpired platform.sha256 self.fingerprint now draw =
      self.pin.reissueIfExpiredAt platform.sha256 self.fingerprint now now draw := rfl
  unfold validatePairingPin validatePairingPinAt
  rw [hreissue]
  rcases self.pin.reissueIfExpiredAt platform.sha256 self.fingerprint now now draw with
    ⟨_ | newPin, pin⟩
  · dsimp only
    rcases pin.isValid candidateHash now with ⟨_ | _, pin'⟩ <;> rfl
  · rfl

end ServerState

/-- A server and the clock, as far as its PIN goes. -/
structure PinWorld where
  now : Instant
  server : ServerState

inductive PinCall where
  | tick (elapsed : Duration)
  /-- everything but the PIN and the fingerprint of the server changes -/
  | elsewhere (server : ServerState)
  /-- `validate_pairing_pin`, with what passes between its readings of the clock -/
  | validate (candidateHash : Bytes32) (first second : Duration) (draw : PinDraw)
  /-- `renew_expired_pin` -/
  | renew (elapsed : Duration) (draw : PinDraw)

/-- What a call gives back: what `validate_pairing_pin` returns, what
`renew_expired_pin` returns, and what goes out on `pin_updates`. -/
structure PinReply where
  success : Bool := false
  returned : Option String := none
  sent : Option String := none

namespace PinWorld

def call (platform : Platform) (self : PinWorld) : PinCall → PinReply × PinWorld
  | .tick elapsed => ({}, { self with now := self.now + elapsed })
  | .elsewhere server =>
      ({}, { self with
        server := { server with pin := self.server.pin, fingerprint := self.server.fingerprint } })
  | .validate candidateHash first second draw =>
      let checked := self.now + first
      let issued := checked + second
      let reply := self.server.validatePairingPinAt platform candidateHash self.now checked issued draw
      ({ success := reply.1, sent := reply.2.1 }, { now := issued, server := reply.2.2 })
  | .renew elapsed draw =>
      let issued := self.now + elapsed
      let reply := self.server.renewExpiredPinAt platform self.now issued draw
      ({ returned := reply.1, sent := reply.1 }, { now := issued, server := reply.2 })

def step (platform : Platform) (self : PinWorld) (call : PinCall) : Option PinWorld :=
  some (self.call platform call).2

/-- The runs of the PIN of a server. -/
abbrev Runs (platform : Platform) (start : PinWorld) (history : History PinWorld PinCall)
    (w : PinWorld) : Prop :=
  Run (step platform) start history w

/-- A server whose PIN has been issued, and nothing else yet. -/
def Starting (platform : Platform) (self : PinWorld) : Prop :=
  ∃ ttl now draw,
    self.server.pin =
      PairingPin.issueWithTtl platform.sha256 self.server.fingerprint ttl now draw

/-- The validation returns `true`. -/
def Accepts (platform : Platform) (t : Transition PinWorld PinCall) : Prop :=
  (t.pre.call platform t.act).1.success = true

/-- `renew_expired_pin` returns a PIN. -/
def Renews (platform : Platform) (t : Transition PinWorld PinCall) : Prop :=
  (t.pre.call platform t.act).1.returned.isSome = true

/-- The PIN is replaced, which ends its generation. -/
def Replaces (platform : Platform) (t : Transition PinWorld PinCall) : Prop :=
  (t.pre.call platform t.act).1.sent.isSome = true

/-- A mismatch is recorded against the PIN. -/
def Mismatches (t : Transition PinWorld PinCall) : Prop :=
  t.pre.server.pin.attempts < t.post.server.pin.attempts

instance decidableAccepts (platform : Platform) : DecidablePred (Accepts platform) :=
  fun _ => inferInstanceAs (Decidable (_ = true))

instance decidableReplaces (platform : Platform) : DecidablePred (Replaces platform) :=
  fun _ => inferInstanceAs (Decidable (_ = true))

instance decidableMismatches : DecidablePred Mismatches := fun t =>
  inferInstanceAs (Decidable (t.pre.server.pin.attempts < t.post.server.pin.attempts))

end PinWorld

/-! ## What a call does -/

/-- Candidates are compared with this PIN at the instant. -/
def PairingPin.Live (self : PairingPin) (instant : Instant) : Prop :=
  self.consumed = false ∧ self.attempts < 5 ∧ instant ≤ self.expiresAt

namespace PinWorld

/-- What a call gives back, and the PIN it leaves. -/
inductive Effect (platform : Platform) (w : PinWorld) : PinCall → PinReply → PairingPin → Prop where
  /-- no candidate is compared -/
  | kept {call : PinCall}
      (unchecked : ∀ candidateHash first second draw,
        call = .validate candidateHash first second draw → ¬ w.server.pin.Live (w.now + first)) :
      Effect platform w call {} w.server.pin
  | mismatched {candidateHash : Bytes32} {first second : Duration} {draw : PinDraw}
      (live : w.server.pin.Live (w.now + first)) (wrong : candidateHash ≠ w.server.pin.hash) :
      Effect platform w (.validate candidateHash first second draw) {}
        { w.server.pin with attempts := w.server.pin.attempts + 1 }
  | accepted {first second : Duration} {draw : PinDraw} {fresh : PairingPin}
      (live : w.server.pin.Live (w.now + first))
      (issued : fresh = PairingPin.issue platform.sha256 w.server.fingerprint
        (w.now + first + second) draw) :
      Effect platform w (.validate w.server.pin.hash first second draw)
        { success := true, sent := some fresh.pin } fresh
  | reissued {call : PinCall} {returned : Option String} {instant : Instant} {draw : PinDraw}
      {fresh : PairingPin} (expired : w.server.pin.expiresAt < w.now)
      (unlocked : w.server.pin.attempts < 5)
      (issued : fresh = PairingPin.issue platform.sha256 w.server.fingerprint instant draw) :
      Effect platform w call { returned, sent := some fresh.pin } fresh

variable {platform : Platform}

theorem reissueIfExpiredAt_cases (platform : Platform) (w : PinWorld) (issued : Instant) (draw : PinDraw) :
    w.server.pin.reissueIfExpiredAt platform.sha256 w.server.fingerprint w.now issued draw =
        (none, w.server.pin) ∨
      w.server.pin.expiresAt < w.now ∧ w.server.pin.attempts < 5 ∧
        ∃ fresh, fresh = PairingPin.issue platform.sha256 w.server.fingerprint issued draw ∧
          w.server.pin.reissueIfExpiredAt platform.sha256 w.server.fingerprint w.now issued draw =
            (some fresh.pin, fresh) := by
  unfold PairingPin.reissueIfExpiredAt
  split
  · exact .inl rfl
  · rename_i h
    rw [not_or] at h
    exact .inr ⟨Nat.lt_of_not_le h.1, UInt8.not_le.mp h.2, _, rfl, rfl⟩

/-- What a comparison does to a PIN. -/
theorem isValid_cases (pin : PairingPin) (candidateHash : Bytes32) (now : Instant) :
    ¬ pin.Live now ∧ pin.isValid candidateHash now = (false, pin) ∨
      pin.Live now ∧ candidateHash = pin.hash ∧
        pin.isValid candidateHash now = (true, { pin with consumed := true }) ∨
      pin.Live now ∧ candidateHash ≠ pin.hash ∧
        pin.isValid candidateHash now = (false, { pin with attempts := pin.attempts + 1 }) := by
  unfold PairingPin.isValid
  split
  · rename_i hdead
    refine .inl ⟨?_, rfl⟩
    rintro ⟨hconsumed, hattempts, htime⟩
    rcases hdead with h | h | h
    · rw [hconsumed] at h
      cases h
    · exact absurd hattempts (UInt8.not_lt.mpr h)
    · exact absurd htime (Nat.not_le_of_lt h)
  · rename_i halive
    rw [not_or, not_or, Bool.not_eq_true] at halive
    have hlive : pin.Live now :=
      ⟨halive.1, UInt8.not_le.mp halive.2.1, Nat.le_of_not_lt halive.2.2⟩
    split
    · rename_i hequal
      exact .inr (.inl ⟨hlive, (constantTimeEq_iff.mp hequal).symm, rfl⟩)
    · rename_i hunequal
      have hbound : pin.attempts ≠ 255 := by
        have := hlive.2.1
        intro h
        rw [h] at this
        exact absurd this (by decide)
      rw [if_neg hbound]
      exact .inr (.inr ⟨hlive, fun h => hunequal (constantTimeEq_iff.mpr h.symm), rfl⟩)

/-- `constant_time_eq` decides equality at every length, so a PIN that is live takes
its own hash and no other. -/
theorem isValid_iff_eq :
    (∀ a b : Bytes, constantTimeEq a b = true ↔ a = b) ∧
    ∀ (pin : PairingPin) (candidateHash : Bytes32) (now : Instant),
      ((pin.isValid candidateHash now).1 = true ↔ pin.Live now ∧ candidateHash = pin.hash) := by
  refine ⟨constantTimeEq_iff_eq, ?_⟩
  intro pin candidateHash now
  rcases isValid_cases pin candidateHash now with
    ⟨hdead, hcall⟩ | ⟨hlive, hright, hcall⟩ | ⟨hlive, hwrong, hcall⟩
  · rw [hcall]
    exact ⟨nofun, fun h => absurd h.1 hdead⟩
  · rw [hcall]
    exact ⟨fun _ => ⟨hlive, hright⟩, fun _ => rfl⟩
  · rw [hcall]
    exact ⟨nofun, fun h => absurd h.2 hwrong⟩

theorem call_effect (w : PinWorld) (call : PinCall) :
    Effect platform w call (w.call platform call).1 (w.call platform call).2.server.pin ∧
      w.now ≤ (w.call platform call).2.now ∧
      (w.call platform call).2.server.fingerprint = w.server.fingerprint := by
  cases call with
  | tick elapsed => exact ⟨.kept nofun, Nat.le_add_right _ _, rfl⟩
  | elsewhere server => exact ⟨.kept nofun, Nat.le_refl _, rfl⟩
  | renew elapsed draw =>
      refine ⟨?_, Nat.le_add_right _ _, rfl⟩
      unfold PinWorld.call ServerState.renewExpiredPinAt
      dsimp only
      rcases reissueIfExpiredAt_cases platform w (w.now + elapsed) draw with
        hkept | ⟨hexpired, hunlocked, fresh, hissued, hfresh⟩
      · rw [hkept]
        exact .kept nofun
      · rw [hfresh]
        exact .reissued hexpired hunlocked hissued
  | validate candidateHash first second draw =>
      have htime : w.now ≤ w.now + first + second :=
        Nat.le_trans (Nat.le_add_right _ _) (Nat.le_add_right _ _)
      unfold PinWorld.call ServerState.validatePairingPinAt
      dsimp only
      rcases reissueIfExpiredAt_cases platform w (w.now + first) draw with
        hkept | ⟨hexpired, hunlocked, fresh, hissued, hfresh⟩
      · rw [hkept]
        dsimp only
        rcases isValid_cases w.server.pin candidateHash (w.now + first) with
          ⟨hdead, hcall⟩ | ⟨hlive, hright, hcall⟩ | ⟨hlive, hwrong, hcall⟩
        · rw [hcall]
          refine ⟨.kept ?_, htime, rfl⟩
          rintro _ _ _ _ ⟨⟩
          exact hdead
        · rw [hcall, hright]
          exact ⟨.accepted hlive rfl, htime, rfl⟩
        · rw [hcall]
          exact ⟨.mismatched hlive hwrong, htime, rfl⟩
      · rw [hfresh]
        exact ⟨.reissued hexpired hunlocked hissued, htime, rfl⟩

theorem step_effect {pre post : PinWorld} {call : PinCall}
    (taken : pre.step platform call = some post) :
    Effect platform pre call (pre.call platform call).1 post.server.pin := by
  cases taken
  exact (call_effect pre call).1

section

variable {w : PinWorld} {call : PinCall} {reply : PinReply} {pin : PairingPin}

/-- A validation succeeds for the hash of a PIN that is neither expired nor locked,
and a new PIN takes its place. -/
theorem Effect.of_success (h : Effect platform w call reply pin) (success : reply.success = true) :
    reply.sent.isSome = true ∧ ∃ first second draw,
      call = .validate w.server.pin.hash first second draw ∧ w.server.pin.Live (w.now + first) ∧
      pin = PairingPin.issue platform.sha256 w.server.fingerprint (w.now + first + second) draw := by
  cases h with
  | accepted live issued => exact ⟨rfl, _, _, _, rfl, live, issued⟩
  | kept | mismatched | reissued => cases success

/-- Only a PIN that is not locked is replaced, and no candidate has been compared
with the new one. -/
theorem Effect.of_sent (h : Effect platform w call reply pin) (sent : reply.sent.isSome = true) :
    w.server.pin.attempts < 5 ∧ pin.attempts = 0 ∧ pin.consumed = false := by
  cases h with
  | accepted live issued =>
      subst issued
      exact ⟨live.2.1, rfl, rfl⟩
  | reissued expired unlocked issued =>
      subst issued
      exact ⟨unlocked, rfl, rfl⟩
  | kept | mismatched => cases sent

/-- The counter of an unlocked PIN does not wrap. -/
theorem attempts_succ {attempts : UInt8} (h : attempts < 5) :
    (attempts + 1).toNat = attempts.toNat + 1 := by
  have hsmall : attempts.toNat < 5 := UInt8.lt_iff_toNat_lt.mp h
  rw [UInt8.toNat_add]
  exact Nat.mod_eq_of_lt (by simp; omega)

theorem attempts_lt_succ {attempts : UInt8} (h : attempts < 5) : attempts < attempts + 1 := by
  rw [UInt8.lt_iff_toNat_lt, attempts_succ h]
  exact Nat.lt_succ_self _

/-- A PIN that is not replaced is the same, but for a mismatch. -/
theorem Effect.of_not_sent (h : Effect platform w call reply pin)
    (unsent : ¬ reply.sent.isSome = true) :
    reply.success = false ∧
      (pin = w.server.pin ∨
        w.server.pin.attempts < 5 ∧
          pin = { w.server.pin with attempts := w.server.pin.attempts + 1 }) := by
  cases h with
  | kept => exact ⟨rfl, .inl rfl⟩
  | mismatched live => exact ⟨rfl, .inr ⟨live.2.1, rfl⟩⟩
  | accepted | reissued => exact absurd rfl unsent

/-- What `renew_expired_pin` returns is also sent. -/
theorem Effect.sent_of_returned (h : Effect platform w call reply pin)
    (returned : reply.returned.isSome = true) : reply.sent.isSome = true := by
  cases h with
  | kept | mismatched | accepted => cases returned
  | reissued => rfl

end

theorem accepts_replaces {t : Transition PinWorld PinCall}
    (taken : t.pre.step platform t.act = some t.post) (h : Accepts platform t) :
    Replaces platform t :=
  ((step_effect taken).of_success h).1

theorem renews_replaces {t : Transition PinWorld PinCall}
    (taken : t.pre.step platform t.act = some t.post) (h : Renews platform t) :
    Replaces platform t :=
  (step_effect taken).sent_of_returned h

/-- What is recorded are the wrong candidates that are compared, and all of them. -/
theorem mismatches_iff {t : Transition PinWorld PinCall}
    (taken : t.pre.step platform t.act = some t.post) :
    Mismatches t ↔ ∃ candidateHash first second draw,
      t.act = .validate candidateHash first second draw ∧
        t.pre.server.pin.Live (t.pre.now + first) ∧ candidateHash ≠ t.pre.server.pin.hash := by
  unfold Mismatches
  have heffect := step_effect taken
  generalize (t.pre.call platform t.act).1 = reply at heffect
  generalize hpin : t.post.server.pin = pin at heffect ⊢
  generalize t.act = call at heffect ⊢
  clear taken
  cases heffect with
  | kept unchecked =>
      refine ⟨fun h => absurd h (UInt8.lt_irrefl _), ?_⟩
      rintro ⟨_, _, _, _, hcall, hlive, -⟩
      exact absurd hlive (unchecked _ _ _ _ hcall)
  | mismatched live wrong =>
      refine ⟨fun _ => ⟨_, _, _, _, rfl, live, wrong⟩, fun _ => ?_⟩
      exact attempts_lt_succ live.2.1
  | accepted live issued =>
      subst issued
      refine ⟨fun h => absurd h UInt8.not_lt_zero, ?_⟩
      rintro ⟨_, _, _, _, ⟨⟩, -, hwrong⟩
      exact absurd rfl hwrong
  | reissued expired unlocked issued =>
      subst issued
      refine ⟨fun h => absurd h UInt8.not_lt_zero, ?_⟩
      rintro ⟨_, _, _, _, -, hlive, -⟩
      exact absurd (Nat.le_trans (Nat.le_add_right _ _) hlive.2.2) (Nat.not_le_of_lt expired)

/-! ## One generation -/

/-- The current generation: nothing has been accepted, and what has been recorded is
what the PIN counts. -/
structure Current (platform : Platform) (segment : History PinWorld PinCall) (w : PinWorld) :
    Prop where
  accepted : segment.countP (fun t => decide (Accepts platform t)) = 0
  recorded : segment.countP (fun t => decide (Mismatches t)) = w.server.pin.attempts.toNat
  bounded : w.server.pin.attempts ≤ 5
  unconsumed : w.server.pin.consumed = false

/-- A generation that has ended. -/
structure Spent (platform : Platform) (segment : History PinWorld PinCall) : Prop where
  accepted : segment.countP (fun t => decide (Accepts platform t)) ≤ 1
  recorded : segment.countP (fun t => decide (Mismatches t)) < 5

theorem Current.start {w : PinWorld} (starting : w.Starting platform) : Current platform [] w := by
  obtain ⟨ttl, now, draw, hpin⟩ := starting
  refine ⟨rfl, ?_, ?_, ?_⟩ <;> rw [hpin]
  · rfl
  · exact (by decide : (0 : UInt8) ≤ 5)
  · rfl

theorem Current.keep {segment : History PinWorld PinCall} {pre post : PinWorld} {call : PinCall}
    (taken : pre.step platform call = some post) (h : Current platform segment pre)
    (hkeeps : ¬ Replaces platform ⟨pre, call, post⟩) :
    Current platform (⟨pre, call, post⟩ :: segment) post := by
  obtain ⟨hsuccess, hpin⟩ := (step_effect taken).of_not_sent hkeeps
  have hrefused : ¬ Accepts platform ⟨pre, call, post⟩ := by
    intro haccepts
    exact Bool.false_ne_true (hsuccess.symm.trans haccepts)
  have haccepted : (⟨pre, call, post⟩ :: segment).countP (fun t => decide (Accepts platform t)) = 0 := by
    rw [List.countP_cons_of_neg (by simpa using hrefused), h.accepted]
  rcases hpin with hsame | ⟨hunlocked, hcounted⟩
  · have hquiet : ¬ Mismatches ⟨pre, call, post⟩ := by
      intro hmismatch
      rw [Mismatches, hsame] at hmismatch
      exact UInt8.lt_irrefl _ hmismatch
    refine ⟨haccepted, ?_, hsame ▸ h.bounded, hsame ▸ h.unconsumed⟩
    rw [List.countP_cons_of_neg (by simpa using hquiet), h.recorded, hsame]
  · have hattempts : post.server.pin.attempts.toNat = pre.server.pin.attempts.toNat + 1 := by
      rw [hcounted]
      exact attempts_succ hunlocked
    have hmismatch : Mismatches ⟨pre, call, post⟩ := by
      rw [Mismatches, hcounted]
      exact attempts_lt_succ hunlocked
    refine ⟨haccepted, ?_, ?_, hcounted ▸ h.unconsumed⟩
    · rw [List.countP_cons_of_pos (by simpa using hmismatch), h.recorded, hattempts]
    · exact UInt8.le_iff_toNat_le.mpr (by
        rw [hattempts]
        exact UInt8.lt_iff_toNat_lt.mp hunlocked)

theorem Current.replace {segment : History PinWorld PinCall} {pre post : PinWorld}
    {call : PinCall} (taken : pre.step platform call = some post)
    (h : Current platform segment pre) (hreplaces : Replaces platform ⟨pre, call, post⟩) :
    Spent platform (⟨pre, call, post⟩ :: segment) ∧ Current platform [] post := by
  obtain ⟨hunlocked, hattempts, hconsumed⟩ := (step_effect taken).of_sent hreplaces
  have hquiet : ¬ Mismatches ⟨pre, call, post⟩ := by
    intro hmismatch
    rw [Mismatches, hattempts] at hmismatch
    exact absurd hmismatch UInt8.not_lt_zero
  refine ⟨⟨?_, ?_⟩, ⟨rfl, ?_, ?_, hconsumed⟩⟩
  · rw [List.countP_cons, h.accepted]
    split <;> decide
  · rw [List.countP_cons_of_neg (by simpa using hquiet), h.recorded]
    exact UInt8.lt_iff_toNat_lt.mp hunlocked
  · rw [hattempts]
    rfl
  · rw [hattempts]
    decide

/-- Every generation of a run is the current one or has ended. -/
theorem generations {start w : PinWorld} {history : History PinWorld PinCall}
    (starting : start.Starting platform) (run : Runs platform start history w) :
    Current platform (during (Replaces platform) (epoch (Replaces platform) history) history) w ∧
      ∀ n < epoch (Replaces platform) history,
        Spent platform (during (Replaces platform) n history) :=
  run.epochs (Current.start starting) Current.keep Current.replace

/-- The validations of a generation that returned `true`. -/
def accepted (platform : Platform) (generation : Nat) (history : History PinWorld PinCall) : Nat :=
  (during (Replaces platform) generation history).countP fun t => decide (Accepts platform t)

/-- The mismatches recorded against a generation. -/
def recorded (platform : Platform) (generation : Nat) (history : History PinWorld PinCall) : Nat :=
  (during (Replaces platform) generation history).countP fun t => decide (Mismatches t)

section

variable {start w : PinWorld} {history : History PinWorld PinCall}

theorem accepted_le_one (starting : start.Starting platform) (run : Runs platform start history w)
    (generation : Nat) : accepted platform generation history ≤ 1 := by
  obtain ⟨hcurrent, hspent⟩ := generations starting run
  unfold accepted
  rcases Nat.lt_trichotomy generation (epoch (Replaces platform) history) with hlt | rfl | hgt
  · exact (hspent generation hlt).accepted
  · rw [hcurrent.accepted]
    exact Nat.zero_le 1
  · rw [during_eq_nil_of_lt hgt]
    exact Nat.zero_le 1

theorem recorded_current (starting : start.Starting platform)
    (run : Runs platform start history w) :
    recorded platform (epoch (Replaces platform) history) history =
      w.server.pin.attempts.toNat :=
  (generations starting run).1.recorded

/-- Five mismatches can only be recorded against the current generation. -/
theorem recorded_lt_five (starting : start.Starting platform)
    (run : Runs platform start history w) {generation : Nat}
    (other : generation ≠ epoch (Replaces platform) history) :
    recorded platform generation history < 5 := by
  unfold recorded
  rcases Nat.lt_or_gt_of_ne other with hlt | hgt
  · exact ((generations starting run).2 generation hlt).recorded
  · rw [during_eq_nil_of_lt hgt]
    decide

theorem recorded_le_five (starting : start.Starting platform)
    (run : Runs platform start history w) (generation : Nat) :
    recorded platform generation history ≤ 5 := by
  by_cases h : generation = epoch (Replaces platform) history
  · rw [h, recorded_current starting run]
    exact UInt8.le_iff_toNat_le.mp (generations starting run).1.bounded
  · exact Nat.le_of_lt (recorded_lt_five starting run h)

/-- A generation against which five mismatches are recorded is not replaced. -/
theorem not_replaces_of_five (starting : start.Starting platform)
    (run : Runs platform start history w) {generation : Nat}
    (five : 5 ≤ recorded platform generation history) {call : PinCall} {post : PinWorld}
    (taken : w.step platform call = some post) : ¬ Replaces platform ⟨w, call, post⟩ := by
  intro hreplaces
  have hcurrent : generation = epoch (Replaces platform) history := by
    by_contra hother
    exact absurd five (Nat.not_le_of_lt (recorded_lt_five starting run hother))
  have hattempts := UInt8.lt_iff_toNat_lt.mp ((step_effect taken).of_sent hreplaces).1
  rw [← recorded_current starting run, ← hcurrent] at hattempts
  exact absurd hattempts (Nat.not_lt_of_le five)

end

end PinWorld

/-! ## The server -/

namespace World

variable {platform : Platform}

/-- A step of the server, as its PIN sees it. -/
theorem pin_step {w w' : World} {act : Action} (taken : w.step platform act = some w') :
    ∃ call, (PinWorld.mk w.now w.server).step platform call = some ⟨w'.now, w'.server⟩ := by
  have elsewhere : ∀ server : ServerState, server.pin = w.server.pin →
      server.fingerprint = w.server.fingerprint →
      ∃ call, (PinWorld.mk w.now w.server).step platform call = some ⟨w.now, server⟩ := by
    intro server hpin hfingerprint
    refine ⟨.elsewhere server, ?_⟩
    unfold PinWorld.step PinWorld.call
    dsimp only
    rw [← hpin, ← hfingerprint]
  cases step_cases taken with
  | tick elapsed => exact ⟨.tick elapsed, rfl⟩
  | renewExpiredPin draw =>
      refine ⟨.renew 0 draw, ?_⟩
      rw [ServerState.renewExpiredPin_eq]
      rfl
  | @advance index session draw outcome found section_ =>
      have validated : ∀ {req : PairRequest} {success : Bool} {server : ServerState},
          w.server.validatePairingPin platform req.pinHash w.now draw.pin = (success, server) →
          ∃ call, (PinWorld.mk w.now w.server).step platform call = some ⟨w.now, server⟩ := by
        intro req success server hvalid
        rw [ServerState.validatePairingPin_eq] at hvalid
        refine ⟨.validate req.pinHash 0 0 draw.pin, ?_⟩
        rw [← (Prod.mk.inj hvalid).2]
        rfl
      cases Session.advance_cases section_ with
      | pinAccepted pc valid => exact validated valid
      | pinRefused pc invalid => exact validated invalid
      | _ => exact elsewhere _ rfl rfl
  | refreshHostDevices | accept | recv | eof | write | fail | joined | release | task =>
      exact elsewhere _ rfl rfl

/-- The PIN of a server goes through a run of its calls. -/
theorem pin_runs {start w : World} {history : ServerHistory}
    (run : Runs platform start history w) :
    ∃ calls, PinWorld.Runs platform ⟨start.now, start.server⟩ calls ⟨w.now, w.server⟩ := by
  induction run with
  | nil => exact ⟨[], .nil⟩
  | snoc run taken ih =>
      obtain ⟨calls, hcalls⟩ := ih
      obtain ⟨call, hcall⟩ := pin_step taken
      exact ⟨_, hcalls.snoc hcall⟩

theorem Starting.pinWorld {start : World} (starting : Starting platform start) :
    PinWorld.Starting platform ⟨start.now, start.server⟩ := by
  cases starting with
  | new | withUrbCompleter => exact ⟨PIN_TTL, _, _, rfl⟩

/-- Whatever its sessions do, a server holds a PIN that has not been used, with at most
five mismatches recorded against it. -/
theorem pin_unused {start w : World} {history : ServerHistory} (starting : Starting platform start)
    (run : Runs platform start history w) :
    w.server.pin.consumed = false ∧ w.server.pin.attempts ≤ 5 := by
  obtain ⟨calls, hcalls⟩ := pin_runs run
  have hcurrent := (PinWorld.generations starting.pinWorld hcalls).1
  exact ⟨hcurrent.unconsumed, hcurrent.bounded⟩

end World

/-- At most one validation of a PIN succeeds and at most five mismatches are recorded
against it, over any sequence of calls. -/
theorem pin_budget (platform : Platform) {start w : PinWorld}
    {history : History PinWorld PinCall} (starting : start.Starting platform)
    (run : PinWorld.Runs platform start history w) :
    (∀ generation, PinWorld.accepted platform generation history ≤ 1 ∧
      PinWorld.recorded platform generation history ≤ 5) ∧
    (∀ later t earlier, history = later ++ t :: earlier →
      (PinWorld.Mismatches t ↔ ∃ candidateHash first second draw,
        t.act = .validate candidateHash first second draw ∧
          t.pre.server.pin.Live (t.pre.now + first) ∧ candidateHash ≠ t.pre.server.pin.hash) ∧
      (PinWorld.Accepts platform t →
        PinWorld.Replaces platform t ∧
        PinWorld.recorded platform (epoch (PinWorld.Replaces platform) earlier) earlier < 5 ∧
        ∃ first second draw, t.act = .validate t.pre.server.pin.hash first second draw ∧
          t.pre.now + first ≤ t.pre.server.pin.expiresAt ∧
          t.post.server.pin = PairingPin.issue platform.sha256 t.pre.server.fingerprint
            (t.pre.now + first + second) draw ∧
          t.post.server.pin.attempts = 0 ∧ t.post.server.pin.consumed = false) ∧
      (t.pre.server.pin.expiresAt < t.pre.now → ¬ PinWorld.Accepts platform t) ∧
      ∀ generation, 5 ≤ PinWorld.recorded platform generation earlier →
        ¬ PinWorld.Accepts platform t ∧ ¬ PinWorld.Renews platform t) ∧
    ∀ {w w' : World} {index : Nat} {session : Session} {req : PairRequest},
      w.sessions[index]? = some session → session.peer ≠ some req.clientFingerprint →
      w.step platform (.recv index (.pairRequest req)) = some w' →
      w'.server.pin = w.server.pin ∧
      ∃ session', w'.sessions[index]? = some session' ∧
        ∀ {now draw server outcome},
          session'.advance platform now draw server index = some outcome →
          outcome.server = server ∧ outcome.session.pc = .reading := by
  refine ⟨fun generation => ⟨PinWorld.accepted_le_one starting run generation,
    PinWorld.recorded_le_five starting run generation⟩, ?_, ?_⟩
  · rintro later t earlier rfl
    obtain ⟨before, taken, -⟩ := run.cut
    have heffect := PinWorld.step_effect taken
    refine ⟨PinWorld.mismatches_iff taken, ?_, ?_, ?_⟩
    · intro haccepts
      obtain ⟨hsent, first, second, draw, hact, hlive, hissued⟩ := heffect.of_success haccepts
      obtain ⟨hunlocked, hattempts, hconsumed⟩ := heffect.of_sent hsent
      refine ⟨hsent, ?_, first, second, draw, hact, hlive.2.2, hissued, hattempts, hconsumed⟩
      rw [PinWorld.recorded_current starting before]
      exact UInt8.lt_iff_toNat_lt.mp hunlocked
    · intro hexpired haccepts
      obtain ⟨-, first, -, -, -, hlive, -⟩ := heffect.of_success haccepts
      have hunexpired := Nat.le_trans (Nat.le_add_right t.pre.now first) hlive.2.2
      exact absurd hunexpired (Nat.not_le_of_lt hexpired)
    · intro generation hfive
      have hkept := PinWorld.not_replaces_of_five starting before hfive taken
      exact ⟨fun haccepts => hkept (PinWorld.accepts_replaces taken haccepts),
        fun hrenews => hkept (PinWorld.renews_replaces taken hrenews)⟩
  · intro w w' index session req found other taken
    cases World.step_cases taken with
    | @recv _ session' _ found' pc =>
        cases found.symm.trans found'
        refine ⟨rfl, _, lookup_set_self found _, ?_⟩
        intro now draw server outcome hadvance
        rw [Session.dispatch, if_neg other] at hadvance
        unfold Session.advance pairResponse at hadvance
        dsimp only at hadvance
        split at hadvance
        · cases hadvance
          exact ⟨rfl, rfl⟩
        · cases hadvance

namespace Sample

def pinStart : PinWorld := { now := 0, server := start.server }

/-- A guess at the PIN, in no time. -/
def guess (candidateHash : Bytes32) : PinCall := .validate candidateHash 0 0 0

/-- What five wrong guesses lead to. -/
def guesses : History PinWorld PinCall × PinWorld :=
  replay (PinWorld.step platform) (List.replicate 5 (guess zeroToken)) ([], pinStart)

end Sample

/-- After five wrong guesses the right one is refused, and no new PIN is issued. -/
theorem sample_pin_budget :
    PinWorld.Runs Sample.platform Sample.pinStart Sample.guesses.1 Sample.guesses.2 ∧
    ∀ call ∈ [Sample.guess Sample.pinHash, .renew 0 0], ∀ post,
      Sample.guesses.2.step Sample.platform call = some post →
      ¬ PinWorld.Accepts Sample.platform ⟨Sample.guesses.2, call, post⟩ ∧
      ¬ PinWorld.Renews Sample.platform ⟨Sample.guesses.2, call, post⟩ := by
  have starting : Sample.pinStart.Starting Sample.platform := ⟨PIN_TTL, 0, 0, rfl⟩
  have run : PinWorld.Runs Sample.platform Sample.pinStart Sample.guesses.1 Sample.guesses.2 :=
    Run.nil.replay _
  refine ⟨run, ?_⟩
  intro call _ post taken
  obtain ⟨-, hsteps, -⟩ := pin_budget Sample.platform starting (run.snoc taken)
  exact (hsteps [] _ _ rfl).2.2.2 0 (by decide +kernel)

end FarBus.Core
