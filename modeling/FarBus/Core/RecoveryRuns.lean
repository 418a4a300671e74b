/-
  Core/RecoveryRuns.lean --- runs of `urb_with_recovery` in which no second attempt is
  lost.

  A call that fails for the first time reconnects, whether or not another call has done
  so before, and a reconnect aborts whatever pump is there.  So a call that has
  recovered can lose its second attempt to the reconnect of another, and it has no
  third.  This, and a sender cloned between the abort and the replacement, are the only
  ways in which a call fails when no link does.
-/
import FarBus.Core.CompletionRouting
import FarBus.Core.Recovery

set_option autoImplicit false

namespace FarBus.Core

open FarBus.Foundation
open FarBus.Protocol

abbrev RecoveryHistory : Type := History RecoveryWorld RecoveryAction

/-! ## The pumps' part of a run -/

/-- The pump that moves in a step, and how. -/
def pumpAction (t : Transition RecoveryWorld RecoveryAction) : Option (Nat × ClientAction) :=
  match t.act with
  | .pump pump act => some (pump, act)
  | .send index =>
      match t.pre.calls[index]? with
      | some call =>
          match call.pc with
          | .sending pump => some (pump, .urb call.urb)
          | _ => none
      | none => none
  | _ => none

/-- The step of `pump` in a step of the whole. -/
def pumpTransition (pump : Nat) (t : Transition RecoveryWorld RecoveryAction) :
    Option (Transition ClientWorld ClientAction) := do
  let (pump', act) ← pumpAction t
  guard (pump' = pump)
  let pre ← t.pre.pumps[pump]?
  let post ← t.post.pumps[pump]?
  some ⟨pre, act, post⟩

def pumpHistory (pump : Nat) (history : RecoveryHistory) : ClientHistory :=
  history.filterMap (pumpTransition pump)

section

variable {w w' : RecoveryWorld} {act : RecoveryAction} {history : RecoveryHistory}
  {t : Transition RecoveryWorld RecoveryAction} {pump : Nat} {link link' : ClientWorld}

theorem pumpTransition_of_action {act' : ClientAction} (haction : pumpAction t = some (pump, act'))
    (pre : t.pre.pumps[pump]? = some link) (post : t.post.pumps[pump]? = some link') :
    pumpTransition pump t = some ⟨link, act', link'⟩ := by
  simp [pumpTransition, haction, pre, post]

theorem pumpTransition_none (h : pumpAction t = none) : pumpTransition pump t = none := by
  simp [pumpTransition, h]

theorem pumpTransition_other {pump' : Nat} {act' : ClientAction}
    (haction : pumpAction t = some (pump', act')) (hne : pump' ≠ pump) :
    pumpTransition pump t = none := by
  simp [pumpTransition, haction, hne]

/-- What a step does to the pumps that exist: one moves at most. -/
theorem pump_step (taken : w.step act = some w') (found : w.pumps[pump]? = some link) :
    (w'.pumps[pump]? = some link ∧ pumpTransition pump ⟨w, act, w'⟩ = none) ∨
      ∃ act' link', w'.pumps[pump]? = some link' ∧ link.step act' = some link' ∧
        pumpTransition pump ⟨w, act, w'⟩ = some ⟨link, act', link'⟩ := by
  have hset : ∀ {pump' : Nat} {act' : ClientAction} {old new : ClientWorld},
      w.pumps[pump']? = some old → w'.pumps = w.pumps.set pump' new →
      pumpAction ⟨w, act, w'⟩ = some (pump', act') → old.step act' = some new →
      (w'.pumps[pump]? = some link ∧ pumpTransition pump ⟨w, act, w'⟩ = none) ∨
        ∃ act' link', w'.pumps[pump]? = some link' ∧ link.step act' = some link' ∧
          pumpTransition pump ⟨w, act, w'⟩ = some ⟨link, act', link'⟩ := by
    intro pump' act' old new hold hpumps haction htaken
    by_cases hpump : pump' = pump
    · subst hpump
      obtain rfl := Option.some.inj (found.symm.trans hold)
      have found' : w'.pumps[pump']? = some new := by
        rw [hpumps, lookup_set_self found]
      exact .inr ⟨act', new, found', htaken, pumpTransition_of_action haction found found'⟩
    · refine .inl ⟨?_, pumpTransition_other haction hpump⟩
      rw [hpumps, List.getElem?_set_ne hpump, found]
  cases RecoveryWorld.step_cases taken with
  | sent hcall pc open_ htaken =>
      refine hset open_ rfl ?_ htaken
      simp only [pumpAction, hcall, pc]
  | pump open_ ofPump htaken => exact hset open_ rfl rfl htaken
  | connected =>
      refine .inl ⟨?_, pumpTransition_none rfl⟩
      exact (List.getElem?_append_left (List.getElem?_eq_some_iff.mp found).1).trans found
  | failed hcall tried =>
      refine .inl ⟨found, pumpTransition_none ?_⟩
      rcases tried with ⟨rfl, -⟩ | ⟨rfl, -⟩ | ⟨rfl, -⟩ <;> rfl
  | call | cloned | sender | resolved | locked | replaced | stored | greeted | attached | gaveUp
  | backedOff => exact .inl ⟨found, pumpTransition_none rfl⟩

/-- A pump is spawned by a connection that succeeds. -/
theorem pump_new (taken : w.step act = some w') (hnone : w.pumps[pump]? = none)
    (found' : w'.pumps[pump]? = some link') : link' = {} ∧ pumpAction ⟨w, act, w'⟩ = none := by
  have hset : ∀ {pump' : Nat} {new : ClientWorld}, w'.pumps = w.pumps.set pump' new →
      link' = {} ∧ pumpAction ⟨w, act, w'⟩ = none := by
    intro pump' new hpumps
    rw [hpumps] at found'
    have hlt := (List.getElem?_eq_some_iff.mp found').1
    rw [List.length_set] at hlt
    rw [List.getElem?_eq_none_iff] at hnone
    omega
  have hsame : w'.pumps = w.pumps → link' = {} ∧ pumpAction ⟨w, act, w'⟩ = none := by
    intro hpumps
    rw [hpumps, hnone] at found'
    cases found'
  cases RecoveryWorld.step_cases taken with
  | sent => exact hset rfl
  | pump => exact hset rfl
  | connected =>
      refine ⟨?_, rfl⟩
      have hge := List.getElem?_eq_none_iff.mp hnone
      dsimp only at found'
      rw [List.getElem?_append_right hge, List.getElem?_singleton] at found'
      split at found' <;> cases found'
      rfl
  | call | cloned | sender | resolved | locked | replaced | stored | greeted | attached | failed
  | gaveUp | backedOff => exact hsame rfl

/-- The steps of a pump in a run are a run of that pump. -/
theorem pump_run (run : RecoveryWorld.Runs history w) :
    (∀ pump link, w.pumps[pump]? = some link →
      ClientWorld.Runs (pumpHistory pump history) link) ∧
    ∀ pump, w.pumps[pump]? = none → pumpHistory pump history = [] := by
  induction run with
  | nil =>
      refine ⟨?_, fun _ _ => rfl⟩
      intro pump link found
      rw [List.getElem?_singleton] at found
      split at found <;> cases found
      exact .nil
  | @snoc history pre post act run taken ih =>
      obtain ⟨hruns, hnone⟩ := ih
      constructor
      · intro pump link found'
        cases found : pre.pumps[pump]? with
        | none =>
            obtain ⟨rfl, haction⟩ := pump_new taken found found'
            rw [pumpHistory, List.filterMap_cons, pumpTransition_none haction]
            rw [show history.filterMap (pumpTransition pump) = [] from hnone pump found]
            exact .nil
        | some before =>
            rw [pumpHistory, List.filterMap_cons]
            rcases pump_step taken found with ⟨hsame, hquiet⟩ | ⟨act', after, hafter, htaken, hmoved⟩
            · obtain rfl := Option.some.inj (hsame.symm.trans found')
              rw [hquiet]
              exact hruns pump before found
            · obtain rfl := Option.some.inj (hafter.symm.trans found')
              rw [hmoved]
              exact (hruns pump before found).snoc htaken
      · intro pump found'
        cases found : pre.pumps[pump]? with
        | none =>
            have hquiet : pumpTransition pump ⟨pre, act, post⟩ = none := by
              simp [pumpTransition, found]
            rw [pumpHistory, List.filterMap_cons, hquiet]
            exact hnone pump found
        | some before =>
            rcases pump_step taken found with ⟨hsame, -⟩ | ⟨_, _, hafter, -⟩
            · rw [found'] at hsame
              cases hsame
            · rw [found'] at hafter
              cases hafter

end

/-! ## What a pump tells its callers -/

section

variable {link link' : ClientWorld} {act : ClientAction} {history : ClientHistory} {id : Nat}
  {urb : UrbSubmit}

/-- A call has one answer. -/
theorem answer_stays (taken : link.step act = some link') {result : Except ClientError UrbComplete}
    (h : link.urbs[id]? = some ⟨urb, some result⟩) :
    link'.urbs[id]? = some ⟨urb, some result⟩ := by
  have htell : ∀ {link : ClientWorld} (told : Told), link.urbs[id]? = some ⟨urb, some result⟩ →
      (link.tell told).urbs[id]? = some ⟨urb, some result⟩ := by
    intro link told h
    show (deliver link.urbs told.urbs)[id]? = _
    rw [deliver_getElem?, h]
    rfl
  cases ClientWorld.step_cases taken with
  | urbDown | urb =>
      exact (List.getElem?_append_left (List.getElem?_eq_some_iff.mp h).1).trans h
  | took | read | stop => exact htell _ h
  | takeFailed => exact htell _ (htell _ (htell _ h))
  | unlinkDown | unlink | controlDown | control | reconnect | receive | complete | reply => exact h

/-- A step that gives a call an error ends the pump, if nobody's sender is dropped. -/
theorem ends_of_error (hrouted : Routed link) (taken : link.step act = some link')
    (hfree : ¬ Collides ⟨link, act, link'⟩) (hact : act ≠ .reconnect) {err : ClientError}
    (h : link.urbs[id]? = some ⟨urb, none⟩)
    (h' : link'.urbs[id]? = some ⟨urb, some (.error err)⟩) :
    link.pump.isSome = true ∧ link'.pump = none := by
  have hup : link.pump.isSome = true := by
    cases hpump : link.pump with
    | none => exact absurd h ((hrouted.down hpump).2 id urb)
    | some pump => rfl
  refine ⟨hup, ?_⟩
  have hsame : link'.urbs[id]? = link.urbs[id]? → link'.pump = none := by
    intro heq
    rw [heq, h] at h'
    cases h'
  cases ClientWorld.step_cases taken with
  | urbDown | urb =>
      exact hsame (List.getElem?_append_left (List.getElem?_eq_some_iff.mp h).1)
  | takeFailed | stop => rfl
  | @took pump cmd queue io up head written =>
      apply hsame
      show (deliver link.urbs (pump.register cmd).1.urbs)[id]? = _
      cases cmd with
      | control | unlink => exact congrArg (·[id]?) (deliver_nil link.urbs)
      | urb urb' reply =>
          rw [hrouted.register_urbs up (fresh_of_not_collides head written hfree), deliver_nil]
  | @read pump arriving toClient up head =>
      rcases of_deliver h' with hbefore | ⟨-, htold⟩
      · rw [h] at hbefore
        cases hbefore
      · cases hmsg : isUrbComplete arriving.msg with
        | false =>
            rw [(pump.dispatch_other hmsg).1] at htold
            cases htold
        | true =>
            obtain ⟨complete, hmsg⟩ := exists_of_isUrbComplete hmsg
            rw [hmsg] at htold
            dsimp only [Pump.dispatch] at htold
            split at htold
            · rw [lookup_singleton] at htold
              split at htold <;> cases htold
            · cases htold
  | reconnect => exact absurd rfl hact
  | unlinkDown | unlink | controlDown | control | receive | complete | reply => exact hsame rfl

/-- The only error a call gets is `Closed`. -/
theorem error_closed (run : ClientWorld.Runs history link) {err : ClientError}
    (h : link.urbs[id]? = some ⟨urb, some (.error err)⟩) : err = .closed := by
  induction run with
  | nil => cases h
  | @snoc history pre post act run taken ih =>
      have htell : ∀ {before : ClientWorld} {told : Told},
          (∃ replies, told.urbs = closedAll replies) →
          (before.tell told).urbs[id]? = some ⟨urb, some (.error err)⟩ →
          (before.urbs[id]? = some ⟨urb, some (.error err)⟩ → err = .closed) → err = .closed := by
        intro before told hclosed hnow hbefore
        obtain ⟨replies, hclosed⟩ := hclosed
        rcases of_deliver hnow with hsame | ⟨-, htold⟩
        · exact hbefore hsame
        · rw [hclosed, lookup_closedAll] at htold
          split at htold <;> cases htold
          rfl
      cases ClientWorld.step_cases taken with
      | urbDown | urb =>
          dsimp only at h
          rw [List.getElem?_append] at h
          split at h
          · exact ih h
          · rw [List.getElem?_singleton] at h
            split at h <;> cases h <;> rfl
      | took => exact htell (Pump.register_closes _ _) h ih
      | stop => exact htell ⟨_, rfl⟩ h ih
      | takeFailed =>
          refine htell ⟨_, rfl⟩ h fun h => ?_
          refine htell ⟨[], (Pump.writeFailed_pendingUrbs _ _ _).2⟩ h fun h => ?_
          exact htell (Pump.register_closes _ _) h ih
      | @read pump arriving toClient up head =>
          rcases of_deliver h with hbefore | ⟨-, htold⟩
          · exact ih hbefore
          · cases hmsg : isUrbComplete arriving.msg with
            | false =>
                rw [(pump.dispatch_other hmsg).1] at htold
                cases htold
            | true =>
                obtain ⟨complete, hmsg⟩ := exists_of_isUrbComplete hmsg
                rw [hmsg] at htold
                dsimp only [Pump.dispatch] at htold
                split at htold
                · rw [lookup_singleton] at htold
                  split at htold <;> cases htold
                · cases htold
      | unlinkDown | unlink | controlDown | control | reconnect | receive | complete | reply =>
          exact ih h

end

/-! ## The conditions -/

/-- What is supposed of the links and the server: of the first connection nothing, while
every later pump ends only after it was aborted or by what it was given to write; every
connect, `hello` and `attach` succeeds, and every URB is completed with status 0. -/
structure Assumed (t : Transition RecoveryWorld RecoveryAction) : Prop where
  links : ∀ pump act, t.act = .pump pump act → (act = .stop ∨ ∃ kind, act = .take (.error kind)) →
    pump = 0 ∨ pump ∈ t.pre.aborted
  completes : ∀ pump index complete, t.act = .pump pump (.complete index complete) →
    complete.status = 0
  succeeds : ∀ index result, t.act = .connect index result ∨ t.act = .hello index result ∨
    t.act = .attach index result → result = .ok ()

/-- In `t`, a URB is written to a pump on which another call waits under its number. -/
def CollidesOnPump (t : Transition RecoveryWorld RecoveryAction) : Prop :=
  ∃ pump u, pumpTransition pump t = some u ∧ Collides u

/-- In `t`, `pump` ends. -/
def Ends (pump : Nat) (t : Transition RecoveryWorld RecoveryAction) : Prop :=
  ∃ pre act post, pumpTransition pump t = some ⟨pre, act, post⟩ ∧ pre.pump.isSome = true ∧
    post.pump = none

/-- The call has a sender of `pump`, or waits for an answer on it. -/
def RecoveryCall.DependsOn (call : RecoveryCall) (pump : Nat) (w : RecoveryWorld) : Prop :=
  call.pc = .sending pump ∨ ∃ id link urb, call.pc = .waiting pump id ∧
    w.pumps[pump]? = some link ∧ link.urbs[id]? = some ⟨urb, none⟩

/-- In `t`, the second attempt of the call at `index` is lost: its pump ends, or it takes
the sender of a pump that has ended. -/
def LosesRetry (index : Nat) (t : Transition RecoveryWorld RecoveryAction) : Prop :=
  ∃ call, t.pre.calls[index]? = some call ∧ call.attempt = 1 ∧
    ((∃ pump, Ends pump t ∧ call.DependsOn pump t.pre) ∨
      t.act = .sender index ∧ call.pc = .cloned ∧
        ∃ link, t.pre.pumps[t.pre.cmdTx]? = some link ∧ link.pump = none)

/-! ## Calls that are not lost -/

/-- How far a call has come, in a run in which nobody's second attempt is lost. -/
def RecoveryCall.Sound (history : RecoveryHistory) (w : RecoveryWorld) (call : RecoveryCall) :
    Prop :=
  call.attempt ≤ 1 ∧
  match call.pc with
  | .cloning | .cloned => True
  | .sending pump =>
      ∃ link, w.pumps[pump]? = some link ∧ (call.attempt = 1 → link.pump.isSome = true)
  | .waiting pump id =>
      ∃ link answer, w.pumps[pump]? = some link ∧ link.urbs[id]? = some ⟨call.urb, answer⟩ ∧
        (call.attempt = 1 → ∀ err, answer ≠ some (.error err))
  | .locking _ | .connecting _ | .greeting _ | .attaching _ => call.attempt = 1
  | .replacing _ pump | .storing _ pump => call.attempt = 1 ∧ pump < w.pumps.length
  | .backingOff _ _ => False
  | .returned result => ∃ complete pump id, result = .ok complete ∧
      Produced (pumpHistory pump history) id call.urb complete

/-- All calls are. -/
structure Surviving (history : RecoveryHistory) (w : RecoveryWorld) : Prop where
  cmdTx : w.cmdTx < w.pumps.length
  calls : ∀ (index : Nat) call, w.calls[index]? = some call → call.Sound history w

section

variable {w w' : RecoveryWorld} {act : RecoveryAction} {history : RecoveryHistory}
  {t : Transition RecoveryWorld RecoveryAction} {pump index : Nat} {link link' : ClientWorld}
  {call : RecoveryCall}

theorem pumps_length (taken : w.step act = some w') : w.pumps.length ≤ w'.pumps.length := by
  cases RecoveryWorld.step_cases taken with
  | sent | pump => exact Nat.le_of_eq List.length_set.symm
  | connected =>
      rw [List.length_append]
      exact Nat.le_add_right _ _
  | call | cloned | sender | resolved | locked | replaced | stored | greeted | attached | failed
  | gaveUp | backedOff => exact Nat.le_refl _

theorem pumpHistory_grows {pump id : Nat} {urb : UrbSubmit} {complete : UrbComplete}
    (h : Produced (pumpHistory pump history) id urb complete)
    (t : Transition RecoveryWorld RecoveryAction) :
    Produced (pumpHistory pump (t :: history)) id urb complete := by
  rw [pumpHistory, List.filterMap_cons]
  split
  · exact h
  · exact h.later _

theorem collides_on_pump {u : Transition ClientWorld ClientAction}
    (h : ∀ t ∈ history, ¬ CollidesOnPump t) (mem : u ∈ pumpHistory pump history) : ¬ Collides u := by
  obtain ⟨t, ht, hmoved⟩ := List.mem_filterMap.mp mem
  exact fun hcollides => h t ht ⟨pump, u, hmoved, hcollides⟩

theorem pumpAction_of_transition {u : Transition ClientWorld ClientAction}
    (h : pumpTransition pump t = some u) : pumpAction t = some (pump, u.act) := by
  obtain ⟨⟨pump', act'⟩, haction, h⟩ := Option.bind_eq_some_iff.mp h
  obtain ⟨_, hpump, h⟩ := Option.bind_eq_some_iff.mp h
  obtain ⟨pre, -, h⟩ := Option.bind_eq_some_iff.mp h
  obtain ⟨post, -, h⟩ := Option.bind_eq_some_iff.mp h
  cases h
  have hpump : pump' = pump := by simpa [guard] using hpump
  rw [haction, hpump]

/-- What a pump's server completes, it completes with status 0. -/
theorem completes_of_pumpAction (h : Assumed t) {i : Nat} {complete : UrbComplete}
    (haction : pumpAction t = some (pump, .complete i complete)) : complete.status = 0 := by
  unfold pumpAction at haction
  split at haction
  · rename_i hact
    cases haction
    exact h.completes _ _ _ hact
  · split at haction
    · split at haction <;> cases haction
    · cases haction
  · cases haction

theorem pumpAction_ne_reconnect (taken : w.step act = some w') {act' : ClientAction}
    (h : pumpAction ⟨w, act, w'⟩ = some (pump, act')) : act' ≠ .reconnect := by
  rintro rfl
  cases RecoveryWorld.step_cases taken with
  | sent found pc => simp [pumpAction, found, pc] at h
  | pump open_ ofPump =>
      simp only [pumpAction, Option.some.injEq, Prod.mk.injEq] at h
      rw [h.2] at ofPump
      cases ofPump
  | failed found tried => rcases tried with ⟨rfl, -⟩ | ⟨rfl, -⟩ | ⟨rfl, -⟩ <;> cases h
  | call | cloned | sender | resolved | connected | locked | replaced | stored | greeted | attached
  | gaveUp | backedOff => cases h

/-- A call that does not move stays sound, as long as its second attempt is not lost. -/
theorem RecoveryCall.Sound.stays (h : call.Sound history w) (run : RecoveryWorld.Runs history w)
    (taken : w.step act = some w') (hfree : ∀ t ∈ ⟨w, act, w'⟩ :: history, ¬ CollidesOnPump t)
    (hkept : ¬ LosesRetry index ⟨w, act, w'⟩) (found : w.calls[index]? = some call) :
    call.Sound (⟨w, act, w'⟩ :: history) w' := by
  obtain ⟨hattempt, h⟩ := h
  refine ⟨hattempt, ?_⟩
  cases hpc : call.pc with
  | cloning | cloned => trivial
  | sending pump =>
      rw [hpc] at h
      obtain ⟨link, hlink, halive⟩ := h
      rcases pump_step taken hlink with ⟨hsame, -⟩ | ⟨act', link', hlink', htaken, hmoved⟩
      · exact ⟨link, hsame, halive⟩
      · refine ⟨link', hlink', fun hretry => ?_⟩
        cases hdown : link'.pump with
        | some pump' => rfl
        | none =>
            exact absurd ⟨call, found, hretry,
              .inl ⟨pump, ⟨link, act', link', hmoved, halive hretry, hdown⟩, .inl hpc⟩⟩ hkept
  | waiting pump id =>
      rw [hpc] at h
      obtain ⟨link, answer, hlink, hasked, hnot⟩ := h
      rcases pump_step taken hlink with ⟨hsame, -⟩ | ⟨act', link', hlink', htaken, hmoved⟩
      · exact ⟨link, answer, hsame, hasked, hnot⟩
      · obtain ⟨answer', hasked'⟩ := asked_step htaken ⟨answer, hasked⟩
        refine ⟨link', answer', hlink', hasked', ?_⟩
        intro hretry err herr
        subst herr
        cases answer with
        | some result =>
            rw [answer_stays htaken hasked] at hasked'
            cases hasked'
            exact hnot hretry err rfl
        | none =>
            have hrouted := (routed_run ((pump_run run).1 pump link hlink) fun u mem =>
              collides_on_pump (fun t ht => hfree t (List.mem_cons_of_mem _ ht)) mem).1
            have hnocollision : ¬ Collides ⟨link, act', link'⟩ := fun hcollides =>
              hfree _ List.mem_cons_self ⟨pump, _, hmoved, hcollides⟩
            obtain ⟨hup, hdown⟩ := ends_of_error hrouted htaken hnocollision
              (pumpAction_ne_reconnect taken (pumpAction_of_transition hmoved)) hasked hasked'
            exact hkept ⟨call, found, hretry, .inl ⟨pump, ⟨link, act', link', hmoved, hup, hdown⟩,
              .inr ⟨id, link, call.urb, hpc, hlink, hasked⟩⟩⟩
  | locking | connecting | greeting | attaching =>
      rw [hpc] at h
      exact h
  | replacing retries pump | storing retries pump =>
      rw [hpc] at h
      exact ⟨h.1, Nat.lt_of_lt_of_le h.2 (pumps_length taken)⟩
  | backingOff retries last =>
      rw [hpc] at h
      exact h
  | returned result =>
      rw [hpc] at h
      obtain ⟨complete, pump, id, hresult, hproduced⟩ := h
      exact ⟨complete, pump, id, hresult, pumpHistory_grows hproduced _⟩

/-! ## One step -/

theorem RecoveryCall.Sound.of_pc {call' : RecoveryCall} (h : call.Sound history w)
    (hattempt : call'.attempt = call.attempt)
    (hpc : call'.pc = .cloning ∨ call'.pc = .cloned) : call'.Sound history w := by
  refine ⟨hattempt ▸ h.1, ?_⟩
  rcases hpc with hpc | hpc <;> rw [hpc] <;> trivial

/-- A URB is put into the channel of a pump that runs, or fails at once. -/
theorem RecoveryCall.Sound.sent (h : call.Sound history w) (pc : call.pc = .sending pump)
    (open_ : w.pumps[pump]? = some link) (taken : link.step (.urb call.urb) = some link')
    (found' : w'.pumps[pump]? = some link') (t : Transition RecoveryWorld RecoveryAction) :
    RecoveryCall.Sound (t :: history) w' { call with pc := .waiting pump link.urbs.length } := by
  obtain ⟨hattempt, h⟩ := h
  rw [pc] at h
  obtain ⟨link₁, hlink, halive⟩ := h
  obtain rfl := Option.some.inj (hlink.symm.trans open_)
  refine ⟨hattempt, ?_⟩
  cases ClientWorld.step_cases taken with
  | urbDown _ down =>
      refine ⟨_, _, found', List.getElem?_concat_length, fun hretry => ?_⟩
      have halive := halive hretry
      rw [down] at halive
      cases halive
  | urb => exact ⟨_, _, found', List.getElem?_concat_length, fun _ _ => nofun⟩

/-- A call gets its completion, or fails for the first time because its pump has ended. -/
theorem RecoveryCall.Sound.resolved (h : call.Sound history w) (run : RecoveryWorld.Runs history w)
    (hfree : ∀ t ∈ history, ¬ CollidesOnPump t) (hassumed : ∀ t ∈ history, Assumed t)
    {id : Nat} (pc : call.pc = .waiting pump id) (open_ : w.pumps[pump]? = some link)
    {asked : ClientCall UrbSubmit UrbComplete} (request : link.urbs[id]? = some asked)
    {answer : Except ClientError UrbComplete} (answered : asked.answer = some answer) :
    (RecoveryWorld.afterUrb call (urbWithLength answer)).Sound history w := by
  obtain ⟨hattempt, h⟩ := h
  rw [pc] at h
  obtain ⟨link₁, answer₁, hlink, hasked, hnot⟩ := h
  obtain rfl := Option.some.inj (hlink.symm.trans open_)
  obtain rfl := Option.some.inj (hasked.symm.trans request)
  dsimp only at answered
  subst answered
  have hrun := (pump_run run).1 pump link₁ hlink
  cases answer with
  | error err =>
      obtain rfl := error_closed hrun hasked
      have hfirst : call.attempt = 0 := by
        have hretry : call.attempt ≠ 1 := fun hretry => hnot hretry .closed rfl
        omega
      have hafter : RecoveryWorld.afterUrb call (urbWithLength (.error .closed)) =
          { call with attempt := call.attempt + 1, pc := .locking RECONNECT_RETRIES } :=
        if_pos ⟨rfl, hfirst⟩
      rw [hafter, hfirst]
      exact ⟨Nat.le_refl 1, rfl⟩
  | ok complete =>
      have hproduced := (routed_run hrun fun u mem => collides_on_pump hfree mem).2 id call.urb
        complete hasked
      have hstatus : complete.status = 0 := by
        obtain ⟨u, mem, index, hact, -⟩ := hproduced
        obtain ⟨t, ht, hmoved⟩ := List.mem_filterMap.mp mem
        have haction := pumpAction_of_transition hmoved
        rw [hact] at haction
        exact completes_of_pumpAction (hassumed t ht) haction
      have hok : urbWithLength (.ok complete) = .ok complete := by
        show (if complete.status = LEASE_DENIED then _ else _) = _
        rw [hstatus]
        rfl
      rw [hok]
      exact ⟨hattempt, complete, pump, id, rfl, hproduced⟩

/-- Where no pump moves, only the history grows. -/
theorem RecoveryCall.Sound.same_pumps (h : call.Sound history w) (hpumps : w'.pumps = w.pumps)
    (t : Transition RecoveryWorld RecoveryAction) : call.Sound (t :: history) w' := by
  obtain ⟨hattempt, h⟩ := h
  refine ⟨hattempt, ?_⟩
  rw [hpumps]
  cases hpc : call.pc with
  | returned result =>
      rw [hpc] at h
      obtain ⟨complete, pump, id, hresult, hproduced⟩ := h
      exact ⟨complete, pump, id, hresult, pumpHistory_grows hproduced t⟩
  | cloning | cloned | sending | waiting | locking | connecting | replacing | storing | greeting
  | attaching | backingOff =>
      rw [hpc] at h
      exact h

theorem Surviving.step (h : Surviving history w) (run : RecoveryWorld.Runs history w)
    (taken : w.step act = some w') (hassumed : ∀ t ∈ ⟨w, act, w'⟩ :: history, Assumed t)
    (hfree : ∀ t ∈ ⟨w, act, w'⟩ :: history, ¬ CollidesOnPump t)
    (hkept : ∀ index, ¬ LosesRetry index ⟨w, act, w'⟩) :
    Surviving (⟨w, act, w'⟩ :: history) w' := by
  have hstays : ∀ {i : Nat} {call' : RecoveryCall}, w.calls[i]? = some call' →
      call'.Sound (⟨w, act, w'⟩ :: history) w' :=
    fun {i} _ found => (h.calls i _ found).stays run taken hfree (hkept i) found
  -- one call moves at most
  have hset : ∀ {index : Nat} {call new : RecoveryCall}, w.calls[index]? = some call →
      w'.calls = w.calls.set index new → new.Sound (⟨w, act, w'⟩ :: history) w' →
      ∀ (i : Nat) call', w'.calls[i]? = some call' → call'.Sound (⟨w, act, w'⟩ :: history) w' := by
    intro index call new found hcalls hsound i call' found'
    rw [hcalls] at found'
    rcases lookup_set_cases found found' with ⟨-, -, rfl⟩ | ⟨-, hold⟩
    · exact hsound
    · exact hstays hold
  have hcmdTx : w'.cmdTx = w.cmdTx → w'.cmdTx < w'.pumps.length := by
    intro hsame
    rw [hsame]
    exact Nat.lt_of_lt_of_le h.cmdTx (pumps_length taken)
  cases RecoveryWorld.step_cases taken with
  | call urb =>
      refine ⟨hcmdTx rfl, ?_⟩
      intro i call' found'
      rw [List.getElem?_append] at found'
      split at found'
      · exact hstays found'
      · rw [List.getElem?_singleton] at found'
        split at found' <;> cases found'
        exact ⟨Nat.zero_le 1, trivial⟩
  | cloned found pc free =>
      exact ⟨hcmdTx rfl, hset found rfl ((hstays found).of_pc rfl (.inr rfl))⟩
  | @sender index call found pc =>
      refine ⟨hcmdTx rfl, hset found rfl ⟨(h.calls index call found).1, ?_⟩⟩
      obtain ⟨link, hlink⟩ : ∃ link, w.pumps[w.cmdTx]? = some link :=
        ⟨_, List.getElem?_eq_getElem h.cmdTx⟩
      refine ⟨link, hlink, fun hretry => ?_⟩
      cases hdown : link.pump with
      | some pump => rfl
      | none => exact absurd ⟨call, found, hretry, .inr ⟨rfl, pc, _, hlink, hdown⟩⟩ (hkept index)
  | @sent index pump call link link' found pc open_ htaken =>
      refine ⟨hcmdTx rfl, hset found rfl ((h.calls index call found).sent pc open_ htaken ?_ _)⟩
      exact lookup_set_self open_ _
  | @resolved index pump id call link asked answer found pc open_ request answered =>
      have hsound := (h.calls index call found).resolved run
        (fun t ht => hfree t (List.mem_cons_of_mem _ ht))
        (fun t ht => hassumed t (List.mem_cons_of_mem _ ht)) pc open_ request answered
      exact ⟨hcmdTx rfl, hset found rfl (hsound.same_pumps rfl _)⟩
  | @locked index retries call found pc free =>
      obtain ⟨hattempt, hretry⟩ := h.calls index call found
      rw [pc] at hretry
      exact ⟨hcmdTx rfl, hset found rfl ⟨hattempt, hretry⟩⟩
  | @connected index retries call found pc =>
      obtain ⟨hattempt, hretry⟩ := h.calls index call found
      rw [pc] at hretry
      refine ⟨hcmdTx rfl, hset found rfl ⟨hattempt, hretry, ?_⟩⟩
      show w.pumps.length < (w.pumps ++ [({} : ClientWorld)]).length
      rw [List.length_append]
      exact Nat.lt_succ_self _
  | @replaced index retries pump call found pc =>
      obtain ⟨hattempt, hretry⟩ := h.calls index call found
      rw [pc] at hretry
      exact ⟨hcmdTx rfl, hset found rfl ⟨hattempt, hretry⟩⟩
  | @stored index retries pump call found pc =>
      obtain ⟨hattempt, hretry⟩ := h.calls index call found
      rw [pc] at hretry
      exact ⟨hretry.2, hset found rfl ⟨hattempt, hretry.1⟩⟩
  | @greeted index retries call found pc =>
      obtain ⟨hattempt, hretry⟩ := h.calls index call found
      rw [pc] at hretry
      exact ⟨hcmdTx rfl, hset found rfl ⟨hattempt, hretry⟩⟩
  | attached found pc =>
      exact ⟨hcmdTx rfl, hset found rfl ((hstays found).of_pc rfl (.inl rfl))⟩
  | failed found tried =>
      have hsucceeds := (hassumed _ List.mem_cons_self).succeeds
      rcases tried with ⟨rfl, -⟩ | ⟨rfl, -⟩ | ⟨rfl, -⟩
      · cases hsucceeds _ _ (.inl rfl)
      · cases hsucceeds _ _ (.inr (.inl rfl))
      · cases hsucceeds _ _ (.inr (.inr rfl))
  | @gaveUp index call last found pc | @backedOff index retries call last found pc =>
      obtain ⟨-, hnot⟩ := h.calls index call found
      rw [pc] at hnot
      exact absurd hnot id
  | pump => exact ⟨hcmdTx rfl, fun _ _ found' => hstays found'⟩

theorem surviving_run (run : RecoveryWorld.Runs history w) (hassumed : ∀ t ∈ history, Assumed t)
    (hfree : ∀ t ∈ history, ¬ CollidesOnPump t)
    (hkept : ∀ t ∈ history, ∀ index, ¬ LosesRetry index t) : Surviving history w := by
  induction run with
  | nil => exact ⟨Nat.zero_lt_one, nofun⟩
  | snoc run taken ih =>
      have h := ih (fun t ht => hassumed t (List.mem_cons_of_mem _ ht))
        (fun t ht => hfree t (List.mem_cons_of_mem _ ht))
        (fun t ht => hkept t (List.mem_cons_of_mem _ ht))
      exact h.step run taken hassumed hfree (hkept _ List.mem_cons_self)

end

end FarBus.Core
