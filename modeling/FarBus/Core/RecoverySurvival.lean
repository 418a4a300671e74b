/-
  Core/RecoverySurvival.lean --- which calls survive the loss of the connection.

  A call whose second attempt has lost its pump returns `Closed`, whatever happens
  later.  `recovery_survives` puts this together with the runs in which no second
  attempt is lost: those are the ones in which all calls return their completions.
-/
import FarBus.Core.RecoveryProgress

set_option autoImplicit false

namespace FarBus.Core

open FarBus.Foundation
open FarBus.Protocol

/-! ## Calls that are lost -/

/-- The second attempt of the call fails, or has failed. -/
def RecoveryCall.Doomed (call : RecoveryCall) (w : RecoveryWorld) : Prop :=
  call.attempt = 1 ∧
  match call.pc with
  | .sending pump => ∃ link, w.pumps[pump]? = some link ∧ link.pump = none
  | .waiting pump id =>
      ∃ link urb, w.pumps[pump]? = some link ∧ link.urbs[id]? = some ⟨urb, some (.error .closed)⟩
  | .returned result => result = .error .closed
  | .cloning | .cloned | .locking _ | .connecting _ | .replacing _ _ | .storing _ _ | .greeting _
  | .attaching _ | .backingOff _ _ => False

section

variable {link link' : ClientWorld} {act : ClientAction} {id : Nat} {urb : UrbSubmit}

/-- A pump that has ended does not run again. -/
theorem down_stays (taken : link.step act = some link') (hact : act ≠ .reconnect)
    (down : link.pump = none) : link'.pump = none := by
  cases ClientWorld.step_cases taken with
  | took up | read up =>
      rw [down] at up
      cases up
  | takeFailed | stop => rfl
  | reconnect => exact absurd rfl hact
  | urbDown | urb | unlinkDown | unlink | controlDown | control | receive | complete | reply =>
      exact down

theorem urb_keeps_pump (taken : link.step (.urb urb) = some link') : link'.pump = link.pump := by
  cases ClientWorld.step_cases taken with
  | urbDown | urb => rfl

theorem ok_of_tell {told : Told} (hclosed : ∃ replies, told.urbs = closedAll replies)
    {complete : UrbComplete} (h : (link.tell told).urbs[id]? = some ⟨urb, some (.ok complete)⟩) :
    link.urbs[id]? = some ⟨urb, some (.ok complete)⟩ := by
  obtain ⟨replies, hclosed⟩ := hclosed
  rcases of_deliver h with hbefore | ⟨-, hnow⟩
  · exact hbefore
  · rw [hclosed, lookup_closedAll] at hnow
    split at hnow <;> cases hnow

/-- When a pump ends, everybody who waits is told `Closed`. -/
theorem ended_closes {history : ClientHistory} (run : ClientWorld.Runs history link)
    (hrouted' : Routed link') (taken : link.step act = some link')
    (up : link.pump.isSome = true) (down : link'.pump = none)
    (h : link.urbs[id]? = some ⟨urb, none⟩) :
    link'.urbs[id]? = some ⟨urb, some (.error .closed)⟩ := by
  obtain ⟨answer, hcall⟩ := asked_step taken ⟨none, h⟩
  cases answer with
  | none => exact absurd hcall ((hrouted'.down down).2 id urb)
  | some result =>
      cases result with
      | error err =>
          rw [error_closed (run.snoc taken) hcall] at hcall
          exact hcall
      | ok complete =>
          exfalso
          have hbefore : link.urbs[id]? = some ⟨urb, some (.ok complete)⟩ := by
            cases ClientWorld.step_cases taken with
            | takeFailed =>
                have hcall := ok_of_tell ⟨_, rfl⟩ hcall
                have hcall := ok_of_tell ⟨[], (Pump.writeFailed_pendingUrbs _ _ _).2⟩ hcall
                exact ok_of_tell (Pump.register_closes _ _) hcall
            | stop => exact ok_of_tell ⟨_, rfl⟩ hcall
            | took | read | reconnect => cases down
            | urbDown _ down' | unlinkDown _ down' | controlDown _ down' =>
                rw [down'] at up
                cases up
            | urb _ up' | unlink _ up' | control _ up' =>
                rw [show link.pump = none from down] at up'
                cases up'
            | receive | complete | reply =>
                rw [show link.pump = none from down] at up
                cases up
          rw [h] at hbefore
          cases hbefore

end

section

variable {w w' : RecoveryWorld} {act : RecoveryAction} {history : RecoveryHistory}
  {t : Transition RecoveryWorld RecoveryAction} {index pump : Nat} {call : RecoveryCall}

/-- A call that does not move stays lost. -/
theorem RecoveryCall.Doomed.stays (h : call.Doomed w) (taken : w.step act = some w') :
    call.Doomed w' := by
  obtain ⟨hattempt, h⟩ := h
  refine ⟨hattempt, ?_⟩
  cases hpc : call.pc with
  | sending pump =>
      rw [hpc] at h
      obtain ⟨link, open_, down⟩ := h
      rcases pump_step taken open_ with ⟨hsame, -⟩ | ⟨act', link', open', htaken, hmoved⟩
      · exact ⟨link, hsame, down⟩
      · have hact := pumpAction_ne_reconnect taken (pumpAction_of_transition hmoved)
        exact ⟨link', open', down_stays htaken hact down⟩
  | waiting pump id =>
      rw [hpc] at h
      obtain ⟨link, urb, open_, asked⟩ := h
      rcases pump_step taken open_ with ⟨hsame, -⟩ | ⟨act', link', open', htaken, -⟩
      · exact ⟨link, urb, hsame, asked⟩
      · exact ⟨link', urb, open', answer_stays htaken asked⟩
  | returned result =>
      rw [hpc] at h
      exact h
  | cloning | cloned | locking | connecting | replacing | storing | greeting | attaching
  | backingOff =>
      rw [hpc] at h
      exact h.elim

/-- A call that is lost stays lost. -/
theorem RecoveryCall.Doomed.step (h : call.Doomed w) (found : w.calls[index]? = some call)
    (taken : w.step act = some w') : ∃ call', w'.calls[index]? = some call' ∧ call'.Doomed w' := by
  have hset : ∀ {i : Nat} {call₁ new : RecoveryCall}, w.calls[i]? = some call₁ →
      w'.calls = w.calls.set i new → (call₁ = call → new.Doomed w') →
      ∃ call', w'.calls[index]? = some call' ∧ call'.Doomed w' := by
    intro i call₁ new found₁ hcalls hnew
    rw [hcalls]
    by_cases hi : i = index
    · subst hi
      exact ⟨new, lookup_set_self found₁ new, hnew (Option.some.inj (found₁.symm.trans found))⟩
    · exact ⟨call, (List.getElem?_set_ne hi).trans found, h.stays taken⟩
  obtain ⟨hattempt, hlost⟩ := id h
  cases RecoveryWorld.step_cases taken with
  | call urb =>
      have hlt := (List.getElem?_eq_some_iff.mp found).1
      exact ⟨call, (List.getElem?_append_left hlt).trans found, h.stays taken⟩
  | cloned found₁ pc | sender found₁ pc | locked found₁ pc | connected found₁ pc
  | replaced found₁ pc | stored found₁ pc | greeted found₁ pc | attached found₁ pc
  | gaveUp found₁ pc | backedOff found₁ pc =>
      refine hset found₁ rfl ?_
      rintro rfl
      rw [pc] at hlost
      exact hlost.elim
  | failed found₁ tried =>
      refine hset found₁ rfl ?_
      rintro rfl
      rcases tried with ⟨-, pc⟩ | ⟨-, pc⟩ | ⟨-, pc⟩ <;>
        · rw [pc] at hlost
          exact hlost.elim
  | @sent i pump call₁ link link' found₁ pc open_ htaken =>
      refine hset found₁ rfl ?_
      rintro rfl
      rw [pc] at hlost
      obtain ⟨link₁, open₁, down⟩ := hlost
      obtain rfl := Option.some.inj (open₁.symm.trans open_)
      refine ⟨hattempt, link', call₁.urb, ?_, ?_⟩
      · exact lookup_set_self open_ _
      · cases ClientWorld.step_cases htaken with
        | urbDown => exact List.getElem?_concat_length
        | urb _ up =>
            rw [down] at up
            cases up
  | @resolved i pump id call₁ link asked answer found₁ pc open_ request answered =>
      refine hset found₁ rfl ?_
      rintro rfl
      rw [pc] at hlost
      obtain ⟨link₁, urb, open₁, request₁⟩ := hlost
      obtain rfl := Option.some.inj (open₁.symm.trans open_)
      obtain rfl := Option.some.inj (request₁.symm.trans request)
      cases answered
      have hafter : RecoveryWorld.afterUrb call₁ (urbWithLength (.error .closed)) =
          { call₁ with pc := .returned (.error .closed) } := by
        refine if_neg ?_
        rw [hattempt]
        decide
      rw [hafter]
      exact ⟨hattempt, rfl⟩
  | pump => exact ⟨call, found, h.stays taken⟩

theorem transition_pumps {u : Transition ClientWorld ClientAction}
    (h : pumpTransition pump t = some u) :
    t.pre.pumps[pump]? = some u.pre ∧ t.post.pumps[pump]? = some u.post := by
  obtain ⟨_, -, h⟩ := Option.bind_eq_some_iff.mp h
  obtain ⟨_, -, h⟩ := Option.bind_eq_some_iff.mp h
  obtain ⟨pre, hpre, h⟩ := Option.bind_eq_some_iff.mp h
  obtain ⟨post, hpost, h⟩ := Option.bind_eq_some_iff.mp h
  cases h
  exact ⟨hpre, hpost⟩

/-- No call moves when a pump ends. -/
theorem Ends.calls (h : Ends pump ⟨w, act, w'⟩) (taken : w.step act = some w') :
    w'.calls = w.calls := by
  obtain ⟨pre, act', post, hmoved, up, down⟩ := h
  have haction := pumpAction_of_transition hmoved
  obtain ⟨hpre, hpost⟩ := transition_pumps hmoved
  cases RecoveryWorld.step_cases taken with
  | @sent i pump' call₁ link link' found pc open_ htaken =>
      -- sending a URB ends no pump
      exfalso
      simp only [pumpAction, found, pc, Option.some.injEq, Prod.mk.injEq] at haction
      obtain ⟨rfl, -⟩ := haction
      obtain rfl := Option.some.inj (hpre.symm.trans open_)
      have hsame := lookup_set_self open_ link'
      obtain rfl := Option.some.inj (hsame.symm.trans hpost)
      have hkept := urb_keeps_pump htaken
      dsimp only at up hkept down
      rw [← hkept, down] at up
      cases up
  | pump => rfl
  | failed found tried => rcases tried with ⟨rfl, -⟩ | ⟨rfl, -⟩ | ⟨rfl, -⟩ <;> cases haction
  | call | cloned | sender | resolved | locked | connected | replaced | stored | greeted | attached
  | gaveUp | backedOff => cases haction

/-- Then it is lost. -/
theorem LosesRetry.doomed (h : LosesRetry index ⟨w, act, w'⟩)
    (run : RecoveryWorld.Runs history w) (taken : w.step act = some w')
    (hfree : ∀ t ∈ ⟨w, act, w'⟩ :: history, ¬ CollidesOnPump t) :
    ∃ call, w'.calls[index]? = some call ∧ call.Doomed w' := by
  obtain ⟨call, found, hattempt, ⟨pump, hends, hdepends⟩ | ⟨rfl, pc, link, open_, down⟩⟩ := h
  · refine ⟨call, by rw [hends.calls taken]; exact found, hattempt, ?_⟩
    obtain ⟨pre, act', post, hmoved, up, down⟩ := hends
    obtain ⟨hpre, hpost⟩ := transition_pumps hmoved
    rcases hdepends with pc | ⟨id, link, urb, pc, open_, asked⟩
    · rw [pc]
      exact ⟨post, hpost, down⟩
    · rw [pc]
      obtain rfl := Option.some.inj (hpre.symm.trans open_)
      have hrouted' : Routed post :=
        (routed_run ((pump_run (run.snoc taken)).1 pump post hpost)
          fun u mem => collides_on_pump hfree mem).1
      rcases pump_step taken hpre with ⟨-, hquiet⟩ | ⟨act₁, post₁, hpost₁, htaken, -⟩
      · rw [hquiet] at hmoved
        cases hmoved
      · obtain rfl := Option.some.inj (hpost.symm.trans hpost₁)
        exact ⟨post, urb, hpost,
          ended_closes ((pump_run run).1 pump pre hpre) hrouted' htaken up down asked⟩
  · cases RecoveryWorld.step_cases taken with
    | sender found₁ pc₁ =>
        obtain rfl := Option.some.inj (found.symm.trans found₁)
        exact ⟨_, lookup_set_self found _, hattempt, link, open_, down⟩
    | failed found₁ tried => rcases tried with ⟨hact, -⟩ | ⟨hact, -⟩ | ⟨hact, -⟩ <;> cases hact

theorem doomed_run (run : RecoveryWorld.Runs history w)
    (hfree : ∀ t ∈ history, ¬ CollidesOnPump t) (mem : t ∈ history) (hloses : LosesRetry index t) :
    ∃ call, w.calls[index]? = some call ∧ call.Doomed w := by
  obtain ⟨later, earlier, rfl⟩ := List.append_of_mem mem
  obtain ⟨hearlier, taken, hlater⟩ := run.cut
  have hlost := hloses.doomed hearlier taken fun u hu => hfree u (List.mem_append_right _ hu)
  refine (hlater.maintained (fun w => ∃ call, w.calls[index]? = some call ∧ call.Doomed w)
    hlost ?_).1
  intro u hu htaken hdoomed
  obtain ⟨call, found, hdoomed⟩ := hdoomed
  exact hdoomed.step found htaken

/-! ## The whole run -/

/-- The call has returned its completion: one the server produced for its URB, on one of
the connections. -/
def RecoveryCall.Completed (call : RecoveryCall) (history : RecoveryHistory) : Prop :=
  ∃ complete pump id, call.pc = .returned (.ok complete) ∧
    Produced (pumpHistory pump history) id call.urb complete

/-- Recovery under concurrency.  When only the first connection fails by itself, the
handshakes succeed, the server completes what it receives, and no URB is written under
a number somebody waits under: a call returns nothing but its completion, as long as no
second attempt is lost.  A run stops only when all calls have returned, and all of them
have returned their completions exactly if no second attempt was lost.  It does stop
when there are no new calls. -/
theorem recovery_survives (run : RecoveryWorld.Runs history w)
    (hassumed : ∀ t ∈ history, Assumed t) (hfree : ∀ t ∈ history, ¬ CollidesOnPump t) :
    ((∀ t ∈ history, ∀ index, ¬ LosesRetry index t) →
      (∀ call ∈ w.calls, ∀ result, call.pc = .returned result → call.Completed history) ∧
        (Stuck w → ∀ call ∈ w.calls, call.Completed history)) ∧
      ((∀ call ∈ w.calls, call.Completed history) →
        ∀ t ∈ history, ∀ index, ¬ LosesRetry index t) ∧
      ∀ later w', Run RecoveryWorld.step w later w' → (∀ t ∈ later, ∀ urb, t.act ≠ .call urb) →
        later.length ≤ w.work := by
  refine ⟨?_, ?_, fun later w' => RecoveryWorld.run_bounded⟩
  · intro hkept
    have hsurviving := surviving_run run hassumed hfree hkept
    have hreturned : ∀ (index : Nat) call, w.calls[index]? = some call → ∀ result,
        call.pc = .returned result → call.Completed history := by
      intro index call found result pc
      obtain ⟨-, hsound⟩ := hsurviving.calls index call found
      rw [pc] at hsound
      obtain ⟨complete, pump, id, rfl, hproduced⟩ := hsound
      exact ⟨complete, pump, id, pc, hproduced⟩
    constructor
    · intro call mem
      obtain ⟨index, found⟩ := List.mem_iff_getElem?.mp mem
      exact hreturned index call found
    · intro hstuck call mem
      obtain ⟨index, found⟩ := List.mem_iff_getElem?.mp mem
      obtain ⟨result, pc⟩ := hstuck.returned run hsurviving hfree found
      exact hreturned index call found result pc
  · intro hcompleted t ht index hloses
    obtain ⟨call, found, -, hdoomed⟩ := doomed_run run hfree ht hloses
    obtain ⟨complete, pump, id, pc, -⟩ := hcompleted call (List.mem_of_getElem? found)
    rw [pc] at hdoomed
    cases hdoomed

end

/-! ## Two runs -/

instance (t : Transition RecoveryWorld RecoveryAction) : Decidable (Assumed t) :=
  decidable_of_iff
    ((match t.act with
      | .connect _ result | .hello _ result | .attach _ result => result.isOk
      | .pump pump act =>
          match act with
          | .stop | .take (.error _) => decide (pump = 0) || decide (pump ∈ t.pre.aborted)
          | .complete _ complete => decide (complete.status = 0)
          | _ => true
      | _ => true) = true) <| by
    obtain ⟨pre, act, post⟩ := t
    constructor
    · intro h
      refine ⟨?_, ?_, ?_⟩
      · intro pump act' hact hends
        dsimp only at hact
        subst hact
        rcases hends with rfl | ⟨kind, rfl⟩ <;> simpa using h
      · intro pump index complete hact
        dsimp only at hact
        subst hact
        exact of_decide_eq_true h
      · intro index result hact
        cases result with
        | ok => rfl
        | error err =>
            dsimp only at hact
            rcases hact with rfl | rfl | rfl <;> cases h
    · intro h
      split
      · rename_i index result hact
        rw [h.succeeds index result (.inl hact)]
        rfl
      · rename_i index result hact
        rw [h.succeeds index result (.inr (.inl hact))]
        rfl
      · rename_i index result hact
        rw [h.succeeds index result (.inr (.inr hact))]
        rfl
      · rename_i pump act' hact
        split
        · simpa using h.links pump _ hact (.inl rfl)
        · rename_i kind
          simpa using h.links pump _ hact (.inr ⟨kind, rfl⟩)
        · rename_i index complete
          exact decide_eq_true (h.completes pump index complete hact)
        · rfl
      · rfl

instance (t : Transition RecoveryWorld RecoveryAction) : Decidable (CollidesOnPump t) :=
  decidable_of_iff
    (∃ pump ∈ List.range t.pre.pumps.length, ∃ u ∈ pumpTransition pump t, Collides u) <| by
    constructor
    · intro h
      obtain ⟨pump, -, u, hmoved, hcollides⟩ := h
      exact ⟨pump, u, hmoved, hcollides⟩
    · intro h
      obtain ⟨pump, u, hmoved, hcollides⟩ := h
      have hlt := (List.getElem?_eq_some_iff.mp (transition_pumps hmoved).1).1
      exact ⟨pump, List.mem_range.mpr hlt, u, hmoved, hcollides⟩

instance (pump : Nat) (t : Transition RecoveryWorld RecoveryAction) : Decidable (Ends pump t) :=
  decidable_of_iff
    (∃ u ∈ pumpTransition pump t, u.pre.pump.isSome = true ∧ u.post.pump.isNone = true) <| by
    constructor
    · intro h
      obtain ⟨u, hmoved, up, down⟩ := h
      exact ⟨u.pre, u.act, u.post, hmoved, up, Option.isNone_iff_eq_none.mp down⟩
    · intro h
      obtain ⟨pre, act, post, hmoved, up, down⟩ := h
      exact ⟨_, hmoved, up, Option.isNone_iff_eq_none.mpr down⟩

instance (call : RecoveryCall) (pump : Nat) (w : RecoveryWorld) : Decidable (call.DependsOn pump w) :=
  decidable_of_iff
    ((match call.pc with
      | .sending pump' => decide (pump' = pump)
      | .waiting pump' id =>
          decide (pump' = pump ∧ ∃ link ∈ w.pumps[pump]?, ∃ asked ∈ link.urbs[id]?,
            asked.answer = none)
      | _ => false) = true) <| by
    unfold RecoveryCall.DependsOn
    split
    · rename_i pump' pc
      simp [pc]
    · rename_i pump' id pc
      rw [decide_eq_true_eq]
      constructor
      · intro h
        obtain ⟨rfl, link, open_, ⟨urb, answer⟩, asked, hanswer⟩ := h
        dsimp only at hanswer
        subst hanswer
        exact .inr ⟨id, link, urb, pc, open_, asked⟩
      · intro h
        rcases h with hpc | ⟨id', link, urb, hpc, open_, asked⟩
        · rw [pc] at hpc
          cases hpc
        · rw [pc] at hpc
          cases hpc
          exact ⟨rfl, link, open_, _, asked, rfl⟩
    · rename_i hsending hwaiting
      simp only [Bool.false_eq_true, false_iff]
      rintro (pc | ⟨id, link, urb, pc, -⟩)
      · exact hsending pump pc
      · exact hwaiting pump id pc

instance (index : Nat) (t : Transition RecoveryWorld RecoveryAction) :
    Decidable (LosesRetry index t) :=
  decidable_of_iff
    (∃ call ∈ t.pre.calls[index]?, call.attempt = 1 ∧
      ((∃ pump ∈ List.range t.pre.pumps.length, Ends pump t ∧ call.DependsOn pump t.pre) ∨
        (match t.act with
          | .sender index' => decide (index' = index)
          | _ => false) = true ∧ call.pc = .cloned ∧
          ∃ link ∈ t.pre.pumps[t.pre.cmdTx]?, link.pump.isNone = true)) <| by
    unfold LosesRetry
    refine exists_congr fun call => and_congr_right fun _ => and_congr_right fun _ =>
      or_congr ⟨?_, ?_⟩ ⟨?_, ?_⟩
    · intro h
      obtain ⟨pump, -, hends, hdepends⟩ := h
      exact ⟨pump, hends, hdepends⟩
    · intro h
      obtain ⟨pump, hends, hdepends⟩ := h
      have hlt : pump < t.pre.pumps.length := by
        obtain ⟨pre, act, post, hmoved, -⟩ := hends
        exact (List.getElem?_eq_some_iff.mp (transition_pumps hmoved).1).1
      exact ⟨pump, List.mem_range.mpr hlt, hends, hdepends⟩
    · intro h
      obtain ⟨hact, pc, link, open_, down⟩ := h
      refine ⟨?_, pc, link, open_, Option.isNone_iff_eq_none.mp down⟩
      split at hact
      · rename_i index' hsender
        rw [hsender, of_decide_eq_true hact]
      · cases hact
    · intro h
      obtain ⟨hact, pc, link, open_, down⟩ := h
      refine ⟨?_, pc, link, open_, Option.isNone_iff_eq_none.mpr down⟩
      rw [hact]
      exact decide_eq_true rfl

namespace TwoCalls

def urb (seq : UInt32) : UrbSubmit :=
  { seq, deviceId := 1, endpoint := 1, transfer := .bulk, requestedLength := 8, data := [] }

def completion (seq : UInt32) : UrbComplete := { seq, status := 0, data := [1] }

def after (acts : List RecoveryAction) : RecoveryHistory × RecoveryWorld :=
  replay RecoveryWorld.step acts ([], {})

theorem runs (acts : List RecoveryAction) : RecoveryWorld.Runs (after acts).1 (after acts).2 :=
  Run.nil.replay acts

/-- A call sends its URB, on the pump that is there. -/
def attempt (index : Nat) : List RecoveryAction := [.clone index, .sender index, .send index]

/-- The first half of a reconnect, up to the abort of the old pump. -/
def reconnect (index : Nat) : List RecoveryAction :=
  [.lock index, .connect index (.ok ()), .replace index]

def reattach (index : Nat) : List RecoveryAction :=
  [.store index, .hello index (.ok ()), .attach index (.ok ())]

/-- Two calls wait when the connection drops. -/
def dropped : List RecoveryAction :=
  [.call (urb 7), .call (urb 8)] ++ attempt 0 ++ attempt 1 ++
    [.pump 0 (.take (.ok ())), .pump 0 (.take (.ok ())), .pump 0 .receive, .pump 0 .stop]

def serve (pump : Nat) (seq : UInt32) : List RecoveryAction :=
  [.pump pump (.take (.ok ())), .pump pump .receive, .pump pump (.complete 0 (completion seq)),
    .pump pump .read]

/-- Both reconnect before either tries again. -/
def recovered : List RecoveryAction :=
  dropped ++ [.result 0, .result 1] ++ reconnect 0 ++ reattach 0 ++ reconnect 1 ++
    [.pump 1 .stop] ++ reattach 1 ++ attempt 0 ++ attempt 1 ++ serve 2 7 ++ serve 2 8 ++
    [.result 0, .result 1]

/-- The second one reconnects after the first one has tried again. -/
def lost : List RecoveryAction :=
  dropped ++ [.result 0] ++ reconnect 0 ++ reattach 0 ++ attempt 0 ++
    [.pump 1 (.take (.ok ())), .pump 1 .receive, .result 1] ++ reconnect 1 ++ [.pump 1 .stop] ++
    reattach 1 ++ attempt 1 ++ serve 2 8 ++ [.result 0, .result 1]

end TwoCalls

/-- Both calls return their completions. -/
theorem two_calls_survive :
    (TwoCalls.after TwoCalls.recovered).2.calls.length = 2 ∧
      ∀ call ∈ (TwoCalls.after TwoCalls.recovered).2.calls,
        call.Completed (TwoCalls.after TwoCalls.recovered).1 := by
  have hassumed : ∀ t ∈ (TwoCalls.after TwoCalls.recovered).1, Assumed t := by decide +kernel
  have hfree : ∀ t ∈ (TwoCalls.after TwoCalls.recovered).1, ¬ CollidesOnPump t := by
    decide +kernel
  have hkept : ∀ t ∈ (TwoCalls.after TwoCalls.recovered).1, ∀ index, ¬ LosesRetry index t := by
    have hknown : ∀ t ∈ (TwoCalls.after TwoCalls.recovered).1,
        ∀ index ∈ List.range t.pre.calls.length, ¬ LosesRetry index t := by decide +kernel
    intro t ht index hloses
    obtain ⟨call, found, -⟩ := id hloses
    have hlt := (List.getElem?_eq_some_iff.mp found).1
    exact hknown t ht index (List.mem_range.mpr hlt) hloses
  have hreturned : ∀ call ∈ (TwoCalls.after TwoCalls.recovered).2.calls,
      call.pc = .returned (.ok (TwoCalls.completion call.urb.seq)) := by decide +kernel
  refine ⟨by decide +kernel, ?_⟩
  intro call mem
  have hsurvives := (recovery_survives (TwoCalls.runs TwoCalls.recovered) hassumed hfree).1 hkept
  exact hsurvives.1 call mem _ (hreturned call mem)

/-- The first call's second attempt is lost to the reconnect of the second one: it
returns `Closed`, although only the first connection has failed. -/
theorem retry_lost_to_reconnect :
    ∃ history w, RecoveryWorld.Runs history w ∧ (∀ t ∈ history, Assumed t) ∧
      (∀ t ∈ history, ¬ CollidesOnPump t) ∧
      w.calls = [⟨TwoCalls.urb 7, 1, .returned (.error .closed)⟩,
        ⟨TwoCalls.urb 8, 1, .returned (.ok (TwoCalls.completion 8))⟩] :=
  ⟨_, _, TwoCalls.runs TwoCalls.lost, by decide +kernel, by decide +kernel, by decide +kernel⟩

end FarBus.Core
