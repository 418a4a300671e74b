/-
  Core/CompletionRouting.lean --- which call a URB completion reaches.

  The pump finds the caller of a completion by its sequence number alone, and the
  forwarder passes the sequence numbers of USB/IP clients through.  They are unique on
  one USB/IP connection, and all connections share one pump: registering a URB while
  another one waits under the same number drops the other's sender and leaves its
  completion to the newcomer.  `completion_routing` says that completions are routed
  right exactly in the runs in which this does not happen.
-/
import Mathlib.Data.List.Perm.Basic
import FarBus.Foundation.Correlation
import FarBus.Core.Client
import FarBus.Core.UsbipForward

set_option autoImplicit false

namespace FarBus.Core

open FarBus.Foundation
open FarBus.Protocol

abbrev ClientHistory : Type := History ClientWorld ClientAction

/-! ## URBs in transit -/

def Sent.submitted (self : Sent) : Option (UInt32 × Nat) :=
  match self.msg with
  | .urbSubmit urb => some (urb.seq, self.call)
  | _ => none

def Outstanding.entry (self : Outstanding) : UInt32 × Nat := (self.urb.seq, self.call)

def Arriving.completed (self : Arriving) : Option (UInt32 × Nat) :=
  match self.msg with
  | .urbComplete complete => self.call.map fun call => (complete.seq, call)
  | _ => none

namespace ClientWorld

/-- The URBs between being written and having their completions read. -/
def transit (w : ClientWorld) : List (UInt32 × Nat) :=
  w.toServer.filterMap Sent.submitted ++ w.outstanding.map Outstanding.entry ++
    w.toClient.filterMap Arriving.completed

/-- The calls whose URBs are still in the command channel. -/
def queuedUrbs (w : ClientWorld) : List Nat := w.queue.filterMap ClientCmd.urbReply

/-- The call is for `urb`. -/
def Asked (w : ClientWorld) (id : Nat) (urb : UrbSubmit) : Prop :=
  ∃ answer, w.urbs[id]? = some ⟨urb, answer⟩

/-- The URB of the call was written under `seq`, and the call has not returned. -/
def Waiting (w : ClientWorld) (id : Nat) (seq : UInt32) : Prop :=
  ∃ urb, w.urbs[id]? = some ⟨urb, none⟩ ∧ urb.seq = seq ∧ id ∉ w.queuedUrbs

/-- `urb_with_length` has returned `result` to the call. -/
def Returns (w : ClientWorld) (id : Nat) (urb : UrbSubmit)
    (result : Except ClientError UrbComplete) : Prop :=
  ∃ answer, w.urbs[id]? = some ⟨urb, some answer⟩ ∧ urbWithLength answer = result

end ClientWorld

/-- The server produced `complete` for the URB of the call. -/
def Produced (history : ClientHistory) (id : Nat) (urb : UrbSubmit) (complete : UrbComplete) :
    Prop :=
  ∃ t ∈ history, ∃ index, t.act = .complete index complete ∧
    t.pre.outstanding[index]? = some ⟨urb, id⟩

/-- In `t`, the pump writes a URB while another one waits under the same number. -/
def Collides (t : Transition ClientWorld ClientAction) : Prop :=
  ∃ urb id queue other, t.act = .take (.ok ()) ∧ t.pre.queue = .urb urb id :: queue ∧
    t.pre.Waiting other urb.seq

instance (w : ClientWorld) (id : Nat) (seq : UInt32) : Decidable (w.Waiting id seq) :=
  decidable_of_iff
    (∃ call ∈ w.urbs[id]?, call.answer = none ∧ call.request.seq = seq ∧ id ∉ w.queuedUrbs) <| by
    constructor
    · intro h
      obtain ⟨⟨urb, answer⟩, hcall, hanswer, hseq, hnot⟩ := h
      dsimp only at hanswer
      subst hanswer
      exact ⟨urb, hcall, hseq, hnot⟩
    · intro h
      obtain ⟨urb, hcall, hseq, hnot⟩ := h
      exact ⟨_, hcall, rfl, hseq, hnot⟩

instance (history : ClientHistory) (id : Nat) (urb : UrbSubmit) (complete : UrbComplete) :
    Decidable (Produced history id urb complete) :=
  decidable_of_iff
    (∃ t ∈ history, (match t.act with
      | .complete index complete' =>
          decide (complete' = complete) && decide (t.pre.outstanding[index]? = some ⟨urb, id⟩)
      | _ => false) = true) <| by
    unfold Produced
    apply exists_congr
    intro t
    apply and_congr_right
    intro _
    split
    · rename_i index complete' hact
      rw [Bool.and_eq_true, decide_eq_true_eq, decide_eq_true_eq]
      constructor
      · intro h
        obtain ⟨rfl, hfound⟩ := h
        exact ⟨index, hact, hfound⟩
      · intro h
        obtain ⟨index', hact', hfound⟩ := h
        rw [hact] at hact'
        cases hact'
        exact ⟨rfl, hfound⟩
    · rename_i hact
      simp only [Bool.false_eq_true, false_iff, not_exists]
      intro index h
      exact hact index complete h.1

instance (t : Transition ClientWorld ClientAction) : Decidable (Collides t) :=
  decidable_of_iff
    ((match t.act, t.pre.queue with
      | .take (.ok ()), .urb urb _ :: _ =>
          (List.range t.pre.urbs.length).any fun other => t.pre.Waiting other urb.seq
      | _, _ => false) = true) <| by
    unfold Collides
    split
    · rename_i urb id queue hact hqueue
      rw [List.any_eq_true]
      constructor
      · intro h
        obtain ⟨other, -, hwaiting⟩ := h
        exact ⟨urb, id, queue, other, hact, hqueue, of_decide_eq_true hwaiting⟩
      · intro h
        obtain ⟨urb', id', queue', other, -, hqueue', hwaiting⟩ := h
        rw [hqueue] at hqueue'
        cases hqueue'
        refine ⟨other, ?_, decide_eq_true hwaiting⟩
        obtain ⟨urb', hcall, -⟩ := hwaiting
        exact List.mem_range.mpr (List.getElem?_eq_some_iff.mp hcall).1
    · rename_i hact
      simp only [Bool.false_eq_true, false_iff]
      intro h
      obtain ⟨urb, id, queue, other, hact', hqueue, -⟩ := h
      exact hact urb id queue hact' hqueue

/-- In `t`, the connection goes down: reading or writing fails, or it is replaced. -/
def LinkFails (t : Transition ClientWorld ClientAction) : Prop :=
  t.act = .stop ∨ ∃ kind, t.act = .take (.error kind)

/-- In `t`, the call returns `Closed` although the connection is up and stays up. -/
def ClosedWhileUp (id : Nat) (t : Transition ClientWorld ClientAction) : Prop :=
  t.pre.pump.isSome = true ∧ ¬ LinkFails t ∧
    ∃ urb, t.post.Returns id urb (.error .closed) ∧ ¬ t.pre.Returns id urb (.error .closed)

section

variable {w w' : ClientWorld} {act : ClientAction} {history : ClientHistory}
  {t : Transition ClientWorld ClientAction} {id : Nat} {urb : UrbSubmit} {complete : UrbComplete}

theorem Produced.later (h : Produced history id urb complete)
    (t : Transition ClientWorld ClientAction) : Produced (t :: history) id urb complete := by
  obtain ⟨u, hu, hproduced⟩ := h
  exact ⟨u, List.mem_cons_of_mem _ hu, hproduced⟩

/-! ## Where completions come from -/

/-- What is in the channel and on the links belongs to the calls it is marked with. -/
structure Traced (history : ClientHistory) (w : ClientWorld) : Prop where
  queued : ∀ urb id, .urb urb id ∈ w.queue → w.Asked id urb
  sent : ∀ sent ∈ w.toServer, ∀ urb, sent.msg = .urbSubmit urb → w.Asked sent.call urb
  outstanding : ∀ out ∈ w.outstanding, w.Asked out.call out.urb
  arriving : ∀ arriving ∈ w.toClient, ∀ complete, arriving.msg = .urbComplete complete →
    ∃ id urb, arriving.call = some id ∧ w.Asked id urb ∧ Produced history id urb complete

theorem ClientWorld.Asked.append (h : w.Asked id urb)
    (call : ClientCall UrbSubmit UrbComplete) :
    ({ w with urbs := w.urbs ++ [call] } : ClientWorld).Asked id urb := by
  obtain ⟨answer, h⟩ := h
  exact ⟨answer, by rw [List.getElem?_append_left (List.getElem?_eq_some_iff.mp h).1, h]⟩

theorem ClientWorld.Asked.tell (h : w.Asked id urb) (told : Told) : (w.tell told).Asked id urb := by
  obtain ⟨answer, h⟩ := h
  exact deliver_request told.urbs h

/-- What a call is for does not change. -/
theorem asked_step (taken : w.step act = some w') (h : w.Asked id urb) : w'.Asked id urb := by
  cases ClientWorld.step_cases taken with
  | urbDown | urb => exact h.append _
  | took | read => exact h.tell _
  | takeFailed => exact ((h.tell _).tell _).tell _
  | stop => exact h.tell _
  | unlinkDown | unlink | controlDown | control | reconnect | receive | complete | reply => exact h

theorem Traced.queued_step (h : Traced history w) (taken : w.step act = some w') {urb : UrbSubmit}
    {id : Nat} (mem : .urb urb id ∈ w'.queue) : w'.Asked id urb := by
  have hlift : .urb urb id ∈ w.queue → w'.Asked id urb :=
    fun mem => asked_step taken (h.queued urb id mem)
  cases ClientWorld.step_cases taken with
  | urb submitted up =>
      rcases List.mem_append.mp mem with mem | mem
      · exact hlift mem
      · rw [List.mem_singleton] at mem
        cases mem
        exact ⟨none, by rw [List.getElem?_concat_length]⟩
  | unlink | control =>
      rcases List.mem_append.mp mem with mem | mem
      · exact hlift mem
      · rw [List.mem_singleton] at mem
        cases mem
  | took up head written =>
      apply hlift
      rw [head]
      exact List.mem_cons_of_mem _ mem
  | takeFailed | stop => cases mem
  | urbDown | unlinkDown | controlDown | read | reconnect | receive | complete | reply =>
      exact hlift mem

theorem ClientCmd.eq_urb_of_message {cmd : ClientCmd} (h : cmd.message = .urbSubmit urb) :
    cmd = .urb urb cmd.reply := by
  cases cmd with
  | control req reply => cases req <;> cases h
  | urb submitted reply =>
      cases h
      rfl
  | unlink unlink reply => cases h

theorem Traced.sent_step (h : Traced history w) (taken : w.step act = some w') {sent : Sent}
    (mem : sent ∈ w'.toServer) (hmsg : sent.msg = .urbSubmit urb) : w'.Asked sent.call urb := by
  have hlift : sent ∈ w.toServer → w'.Asked sent.call urb :=
    fun mem => asked_step taken (h.sent sent mem urb hmsg)
  cases ClientWorld.step_cases taken with
  | @took pump cmd queue io up head written =>
      rcases List.mem_append.mp mem with mem | mem
      · exact hlift mem
      · rw [List.mem_singleton] at mem
        subst mem
        apply asked_step taken
        apply h.queued
        rw [head, ← ClientCmd.eq_urb_of_message hmsg]
        exact List.mem_cons_self
  | receive head =>
      apply hlift
      rw [head]
      exact List.mem_cons_of_mem _ mem
  | reconnect => cases mem
  | urbDown | urb | unlinkDown | unlink | controlDown | control | takeFailed | read | stop
  | complete | reply => exact hlift mem

theorem Traced.outstanding_step (h : Traced history w) (taken : w.step act = some w')
    {out : Outstanding} (mem : out ∈ w'.outstanding) : w'.Asked out.call out.urb := by
  have hlift : out ∈ w.outstanding → w'.Asked out.call out.urb :=
    fun mem => asked_step taken (h.outstanding out mem)
  cases ClientWorld.step_cases taken with
  | @receive sent toServer head =>
      dsimp only at mem
      split at mem
      · rename_i urb hmsg
        rcases List.mem_append.mp mem with mem | mem
        · exact hlift mem
        · rw [List.mem_singleton] at mem
          subst mem
          apply asked_step taken
          apply h.sent sent _ urb hmsg
          rw [head]
          exact List.mem_cons_self
      · exact hlift mem
  | complete found seq => exact hlift (List.mem_of_mem_eraseIdx mem)
  | reconnect => cases mem
  | urbDown | urb | unlinkDown | unlink | controlDown | control | took | takeFailed | read | stop
  | reply => exact hlift mem

theorem Traced.arriving_step (h : Traced history w) (taken : w.step act = some w')
    {arriving : Arriving} (mem : arriving ∈ w'.toClient)
    (hmsg : arriving.msg = .urbComplete complete) :
    ∃ id urb, arriving.call = some id ∧ w'.Asked id urb ∧
      Produced (⟨w, act, w'⟩ :: history) id urb complete := by
  have hlift : arriving ∈ w.toClient → ∃ id urb, arriving.call = some id ∧ w'.Asked id urb ∧
      Produced (⟨w, act, w'⟩ :: history) id urb complete := by
    intro mem
    obtain ⟨id, urb, hcall, hasked, hproduced⟩ := h.arriving arriving mem complete hmsg
    exact ⟨id, urb, hcall, asked_step taken hasked, hproduced.later _⟩
  cases ClientWorld.step_cases taken with
  | @complete index complete' completed found seq =>
      rcases List.mem_append.mp mem with mem | mem
      · exact hlift mem
      · rw [List.mem_singleton] at mem
        subst mem
        cases hmsg
        refine ⟨completed.call, completed.urb, rfl, ?_, _, List.mem_cons_self, index, rfl, found⟩
        exact asked_step taken (h.outstanding completed (List.mem_of_getElem? found))
  | reply other =>
      rcases List.mem_append.mp mem with mem | mem
      · exact hlift mem
      · rw [List.mem_singleton] at mem
        subst mem
        dsimp only at hmsg
        rw [hmsg] at other
        cases other
  | read up head =>
      apply hlift
      rw [head]
      exact List.mem_cons_of_mem _ mem
  | reconnect => cases mem
  | urbDown | urb | unlinkDown | unlink | controlDown | control | took | takeFailed | stop
  | receive => exact hlift mem

theorem Traced.step (h : Traced history w) (taken : w.step act = some w') :
    Traced (⟨w, act, w'⟩ :: history) w' where
  queued _ _ mem := h.queued_step taken mem
  sent _ mem _ hmsg := h.sent_step taken mem hmsg
  outstanding _ mem := h.outstanding_step taken mem
  arriving _ mem _ hmsg := h.arriving_step taken mem hmsg

theorem traced_run (run : ClientWorld.Runs history w) : Traced history w := by
  refine run.history_invariant Traced ⟨?_, ?_, ?_, ?_⟩ ?_
  · intro urb id mem
    cases mem
  · intro sent mem
    cases mem
  · intro out mem
    cases mem
  · intro arriving mem
    cases mem
  · intro history pre act post _ h taken
    exact h.step taken

/-! ## What a step does to the URBs in transit -/

theorem transit_take {cmd : ClientCmd} (toServer : w'.toServer = w.toServer ++ [⟨cmd.message, cmd.reply⟩])
    (outstanding : w'.outstanding = w.outstanding) (toClient : w'.toClient = w.toClient) :
    w'.transit.Perm (((⟨cmd.message, cmd.reply⟩ : Sent).submitted).toList ++ w.transit) := by
  unfold ClientWorld.transit
  rw [toServer, outstanding, toClient, List.filterMap_append, List.append_assoc, List.append_assoc]
  refine (List.perm_append_comm_assoc _ _ _).trans ?_
  rw [← List.append_assoc (w.toServer.filterMap Sent.submitted)]
  apply List.Perm.append_right
  cases hsubmitted : (⟨cmd.message, cmd.reply⟩ : Sent).submitted <;> simp [hsubmitted]

theorem transit_takeOther {cmd : ClientCmd} (other : cmd.urbReply = none)
    (toServer : w'.toServer = w.toServer ++ [⟨cmd.message, cmd.reply⟩])
    (outstanding : w'.outstanding = w.outstanding) (toClient : w'.toClient = w.toClient) :
    w'.transit.Perm w.transit := by
  have hnone : (⟨cmd.message, cmd.reply⟩ : Sent).submitted = none := by
    cases cmd with
    | control req reply => cases req <;> rfl
    | urb urb reply => cases other
    | unlink unlink reply => rfl
  have htransit := transit_take toServer outstanding toClient
  rw [hnone] at htransit
  exact htransit

theorem transit_read {arriving : Arriving} {toClient : List Arriving}
    (head : w.toClient = arriving :: toClient) (toServer : w'.toServer = w.toServer)
    (outstanding : w'.outstanding = w.outstanding) (htoClient : w'.toClient = toClient) :
    w.transit.Perm (arriving.completed.toList ++ w'.transit) := by
  have harriving : w.toClient.filterMap Arriving.completed =
      arriving.completed.toList ++ toClient.filterMap Arriving.completed := by
    rw [head, List.filterMap_cons]
    cases arriving.completed <;> rfl
  unfold ClientWorld.transit
  rw [toServer, outstanding, htoClient, harriving]
  exact List.perm_append_comm_assoc _ _ _

theorem transit_readOther {arriving : Arriving} {toClient : List Arriving}
    (head : w.toClient = arriving :: toClient) (other : isUrbComplete arriving.msg = false)
    (toServer : w'.toServer = w.toServer) (outstanding : w'.outstanding = w.outstanding)
    (htoClient : w'.toClient = toClient) : w'.transit.Perm w.transit := by
  have htransit := transit_read head toServer outstanding htoClient
  have hnone : arriving.completed = none := by
    unfold Arriving.completed
    split
    · rename_i hmsg
      rw [hmsg] at other
      cases other
    · rfl
  rw [hnone] at htransit
  exact htransit.symm

theorem transit_receive {sent : Sent} {toServer : List Sent} (head : w.toServer = sent :: toServer)
    (htoServer : w'.toServer = toServer) (toClient : w'.toClient = w.toClient)
    (outstanding : w'.outstanding = match sent.msg with
      | .urbSubmit urb => w.outstanding ++ [⟨urb, sent.call⟩]
      | _ => w.outstanding) : w'.transit.Perm w.transit := by
  have hsent : (sent :: toServer).filterMap Sent.submitted =
      sent.submitted.toList ++ toServer.filterMap Sent.submitted := by
    rw [List.filterMap_cons]
    cases sent.submitted <;> rfl
  have houtstanding : w'.outstanding.map Outstanding.entry =
      w.outstanding.map Outstanding.entry ++ sent.submitted.toList := by
    rw [outstanding]
    unfold Sent.submitted
    split
    · rw [List.map_append]
      rfl
    · rw [Option.toList_none, List.append_nil]
  unfold ClientWorld.transit
  rw [head, htoServer, toClient, hsent, houtstanding, ← List.append_assoc]
  apply List.Perm.append_right
  rw [List.append_assoc sent.submitted.toList]
  exact List.perm_append_comm

theorem transit_complete {index : Nat} {completed : Outstanding}
    (found : w.outstanding[index]? = some completed) (seq : complete.seq = completed.urb.seq)
    (toServer : w'.toServer = w.toServer)
    (outstanding : w'.outstanding = w.outstanding.eraseIdx index)
    (toClient : w'.toClient = w.toClient ++ [⟨.urbComplete complete, some completed.call⟩]) :
    w'.transit.Perm w.transit := by
  obtain ⟨hlt, hfound⟩ := List.getElem?_eq_some_iff.mp found
  have hperm := (List.getElem_cons_eraseIdx_perm hlt).map Outstanding.entry
  rw [hfound, List.map_cons] at hperm
  have harriving : w'.toClient.filterMap Arriving.completed =
      w.toClient.filterMap Arriving.completed ++ [completed.entry] := by
    rw [toClient, List.filterMap_append]
    unfold Outstanding.entry
    rw [← seq]
    rfl
  unfold ClientWorld.transit
  rw [toServer, outstanding, harriving, ← List.append_assoc]
  refine (List.perm_append_singleton _ _).trans ?_
  refine List.Perm.trans ?_ ((hperm.append_left _).append_right _)
  rw [← List.cons_append]
  exact List.perm_middle.symm.append_right _

theorem transit_reply {msg : Message} (toServer : w'.toServer = w.toServer)
    (outstanding : w'.outstanding = w.outstanding)
    (toClient : w'.toClient = w.toClient ++ [⟨msg, none⟩]) : w'.transit.Perm w.transit := by
  have hnone : [(⟨msg, none⟩ : Arriving)].filterMap Arriving.completed = [] := by
    rw [List.filterMap_cons]
    unfold Arriving.completed
    cases msg <;> rfl
  unfold ClientWorld.transit
  rw [toServer, outstanding, toClient, List.filterMap_append, hnone, List.append_nil]

/-! ## Who waits under which number -/

/-- The pump's table, the calls that wait and the URBs in transit agree. -/
structure Routed (w : ClientWorld) : Prop where
  queued : ∀ urb id, .urb urb id ∈ w.queue → w.urbs[id]? = some ⟨urb, none⟩
  once : w.queuedUrbs.Nodup
  correlated : ∀ pump, w.pump = some pump →
    Correlated w.Waiting (fun seq => pump.pendingUrbs[seq]?) w.transit
  down : w.pump = none → w.queue = [] ∧ ∀ (id : Nat) urb, w.urbs[id]? ≠ some ⟨urb, none⟩

theorem ClientWorld.mem_queuedUrbs {urb : UrbSubmit} {id : Nat} (h : .urb urb id ∈ w.queue) :
    id ∈ w.queuedUrbs :=
  List.mem_filterMap.mpr ⟨_, h, rfl⟩

theorem ClientWorld.exists_of_mem_queuedUrbs (h : id ∈ w.queuedUrbs) :
    ∃ urb, .urb urb id ∈ w.queue := by
  obtain ⟨cmd, mem, hreply⟩ := List.mem_filterMap.mp h
  cases cmd with
  | control req reply => cases hreply
  | urb urb reply =>
      cases hreply
      exact ⟨urb, mem⟩
  | unlink unlink reply => cases hreply

/-- Steps that concern no URB, or only move one along. -/
theorem Routed.frame (h : Routed w) (urbs : w'.urbs = w.urbs)
    (queue : ∀ urb id, .urb urb id ∈ w'.queue → .urb urb id ∈ w.queue)
    (queuedUrbs : w'.queuedUrbs = w.queuedUrbs)
    (pump : ∀ pump', w'.pump = some pump' →
      ∃ pump, w.pump = some pump ∧ pump'.pendingUrbs = pump.pendingUrbs)
    (transit : w'.transit.Perm w.transit)
    (down : w'.pump = none → w.pump = none ∧ w'.queue = w.queue) : Routed w' where
  queued urb id mem := by
    rw [urbs]
    exact h.queued urb id (queue urb id mem)
  once := by
    rw [queuedUrbs]
    exact h.once
  correlated pump' up' := by
    obtain ⟨pump, up, hpending⟩ := pump pump' up'
    rw [hpending]
    apply ((h.correlated pump up).perm transit).congr
    intro id seq
    unfold ClientWorld.Waiting
    rw [urbs, queuedUrbs]
  down hdown := by
    obtain ⟨hdown, hqueue⟩ := down hdown
    rw [hqueue, urbs]
    exact h.down hdown

/-- Without its pump, a client has nobody waiting. -/
theorem routed_shutdown {pump : Pump}
    (h : ∀ (id : Nat) urb, w.urbs[id]? = some ⟨urb, none⟩ →
      (∃ seq : UInt32, pump.pendingUrbs[seq]? = some id) ∨ id ∈ w.queuedUrbs) :
    Routed (w.shutdown pump) where
  queued urb id mem := by cases mem
  once := List.nodup_nil
  correlated pump up := by cases up
  down _ := by
    refine ⟨rfl, ?_⟩
    intro id urb hcall
    obtain ⟨hbefore, hnone⟩ := (deliver_unanswered_iff urb).mp hcall
    unfold Pump.shutdown at hnone
    rw [lookup_closedAll] at hnone
    split at hnone
    · cases hnone
    · rename_i hnot
      apply hnot
      rcases h id urb hbefore with ⟨seq, hpending⟩ | hqueued
      · exact List.mem_append_left _ ((mem_values_iff _ _).mpr ⟨seq, hpending⟩)
      · exact List.mem_append_right _ hqueued

/-- A call that has not returned is in the channel or in the pump's table. -/
theorem Routed.unanswered (h : Routed w) {pump : Pump} (up : w.pump = some pump)
    (hcall : w.urbs[id]? = some ⟨urb, none⟩) :
    pump.pendingUrbs[urb.seq]? = some id ∨ id ∈ w.queuedUrbs := by
  by_cases hqueued : id ∈ w.queuedUrbs
  · exact .inr hqueued
  · exact .inl (((h.correlated pump up).pending_iff urb.seq id).mpr ⟨urb, hcall, rfl, hqueued⟩)

theorem Routed.call (h : Routed w) {pump : Pump} (up : w.pump = some pump) (urb : UrbSubmit) :
    Routed { w with
      urbs := w.urbs ++ [⟨urb, none⟩]
      queue := w.queue ++ [.urb urb w.urbs.length] } where
  queued urb' id mem := by
    rcases List.mem_append.mp mem with mem | mem
    · have hcall := h.queued urb' id mem
      rw [List.getElem?_append_left (List.getElem?_eq_some_iff.mp hcall).1, hcall]
    · rw [List.mem_singleton] at mem
      cases mem
      rw [List.getElem?_concat_length]
  once := by
    unfold ClientWorld.queuedUrbs
    rw [List.filterMap_append, List.nodup_append]
    refine ⟨h.once, List.nodup_cons.mpr ⟨List.not_mem_nil, List.nodup_nil⟩, ?_⟩
    intro id mem id' mem'
    obtain ⟨urb', hqueued⟩ := ClientWorld.exists_of_mem_queuedUrbs mem
    have hlt := (List.getElem?_eq_some_iff.mp (h.queued urb' id hqueued)).1
    rw [List.mem_singleton.mp mem']
    exact Nat.ne_of_lt hlt
  correlated pump' up' := by
    rw [up] at up'
    cases up'
    apply (h.correlated pump up).congr
    intro id seq
    -- the new call is in the channel, so it does not wait yet
    have hqueue : ∀ id, id ∈ (w.queue ++ [ClientCmd.urb urb w.urbs.length]).filterMap ClientCmd.urbReply ↔
        id ∈ w.queuedUrbs ∨ id = w.urbs.length := by
      intro id
      rw [List.filterMap_append, List.mem_append]
      exact or_congr Iff.rfl List.mem_singleton
    constructor
    · intro hwaiting
      obtain ⟨urb', hcall, hseq, hnot⟩ := hwaiting
      rw [ClientWorld.queuedUrbs, hqueue, not_or] at hnot
      refine ⟨urb', ?_, hseq, hnot.1⟩
      rw [List.getElem?_append] at hcall
      split at hcall
      · exact hcall
      · rename_i hge
        rw [List.getElem?_singleton, if_neg] at hcall
        · cases hcall
        · have hne := hnot.2
          omega
    · intro hwaiting
      obtain ⟨urb', hcall, hseq, hnot⟩ := hwaiting
      have hlt := (List.getElem?_eq_some_iff.mp hcall).1
      refine ⟨urb', ?_, hseq, ?_⟩
      · rw [List.getElem?_append_left hlt, hcall]
      · rw [ClientWorld.queuedUrbs, hqueue, not_or]
        exact ⟨hnot, Nat.ne_of_lt hlt⟩
  down hdown := by
    rw [up] at hdown
    cases hdown

/-- Nobody waits under a number that is not in the table. -/
theorem Routed.pending_eq_none (h : Routed w) {pump : Pump} (up : w.pump = some pump)
    {seq : UInt32} (fresh : ∀ other, ¬ w.Waiting other seq) : pump.pendingUrbs[seq]? = none := by
  rw [Option.eq_none_iff_forall_ne_some]
  intro other hother
  exact fresh other (((h.correlated pump up).pending_iff seq other).mp hother)

theorem fresh_of_not_collides {queue : List ClientCmd} {io : Except IoErrorKind Unit}
    {msg : Message} (head : w.queue = .urb urb id :: queue) (written : writeMessage io msg = .ok ())
    (hfree : ¬ Collides ⟨w, .take io, w'⟩) : ∀ other, ¬ w.Waiting other urb.seq := by
  intro other hwaiting
  rw [io_of_writeMessage written] at hfree
  exact hfree ⟨urb, id, queue, other, rfl, head, hwaiting⟩

/-- Registering a sender under such a number drops no other. -/
theorem Routed.register_urbs (h : Routed w) {pump : Pump} (up : w.pump = some pump)
    (fresh : ∀ other, ¬ w.Waiting other urb.seq) : (pump.register (.urb urb id)).1.urbs = [] := by
  simp only [Pump.register, h.pending_eq_none up fresh, Option.toList_none, closedAll,
    List.map_nil]

/-- A URB is written under a number nobody waits under. -/
theorem Routed.take (h : Routed w) {pump pump' : Pump} {queue : List ClientCmd}
    (up : w.pump = some pump) (head : w.queue = .urb urb id :: queue)
    (fresh : ∀ other, ¬ w.Waiting other urb.seq) (hurbs : w'.urbs = w.urbs)
    (hqueue : w'.queue = queue) (up' : w'.pump = some pump')
    (hpending : pump'.pendingUrbs = pump.pendingUrbs.insert urb.seq id)
    (htransit : w'.transit.Perm ((urb.seq, id) :: w.transit)) : Routed w' := by
  have hcall : w.urbs[id]? = some ⟨urb, none⟩ := by
    apply h.queued
    rw [head]
    exact List.mem_cons_self
  have honce : w.queuedUrbs = id :: w'.queuedUrbs := by
    unfold ClientWorld.queuedUrbs
    rw [head, hqueue]
    rfl
  have hnodup := h.once
  rw [honce, List.nodup_cons] at hnodup
  refine ⟨?_, hnodup.2, ?_, ?_⟩
  · intro urb' id' mem
    rw [hurbs]
    apply h.queued
    rw [head, ← hqueue]
    exact List.mem_cons_of_mem _ mem
  · intro pump'' up''
    rw [up', Option.some.injEq] at up''
    subst up''
    apply Correlated.perm _ htransit
    apply (h.correlated pump up).send (h.pending_eq_none up fresh)
    · intro seq
      rw [hpending, lookup_insert]
    · intro id' seq
      unfold ClientWorld.Waiting
      rw [hurbs, honce]
      constructor
      · intro hwaiting
        obtain ⟨urb', hcall', hseq, hnot⟩ := hwaiting
        by_cases hid : id' = id
        · subst hid
          rw [hcall, Option.some.injEq] at hcall'
          cases hcall'
          exact .inl ⟨rfl, hseq.symm⟩
        · refine .inr ⟨urb', hcall', hseq, ?_⟩
          rw [List.mem_cons, not_or]
          exact ⟨hid, hnot⟩
      · intro hwaiting
        rcases hwaiting with ⟨hid, hseq⟩ | ⟨urb', hcall', hseq, hnot⟩
        · subst hid hseq
          exact ⟨urb, hcall, rfl, hnodup.1⟩
        · exact ⟨urb', hcall', hseq, fun mem => hnot (List.mem_cons_of_mem _ mem)⟩
  · intro hdown
    rw [up'] at hdown
    cases hdown

/-- A completion is given to the call it is for. -/
theorem Routed.read (h : Routed w) {pump pump' : Pump} {arriving : Arriving}
    {toClient : List Arriving} (up : w.pump = some pump) (head : w.toClient = arriving :: toClient)
    (hcompleted : arriving.completed = some (complete.seq, id))
    (hurbs : w'.urbs = deliver w.urbs [(id, .ok complete)]) (hqueue : w'.queue = w.queue)
    (up' : w'.pump = some pump')
    (hpending : pump'.pendingUrbs = pump.pendingUrbs.erase complete.seq)
    (toServer : w'.toServer = w.toServer) (outstanding : w'.outstanding = w.outstanding)
    (htoClient : w'.toClient = toClient) : Routed w' := by
  have htransit := transit_read head toServer outstanding htoClient
  rw [hcompleted, Option.toList_some, List.singleton_append] at htransit
  have hcorrelated := (h.correlated pump up).perm htransit.symm
  obtain ⟨urb, hcall, hseq, hnot⟩ :=
    (hcorrelated.pending_iff complete.seq id).mp hcorrelated.pending_head
  have hqueued : w'.queuedUrbs = w.queuedUrbs := by
    unfold ClientWorld.queuedUrbs
    rw [hqueue]
  -- the calls that have not returned are those of before, without this one
  have hunanswered : ∀ (id' : Nat) urb', w'.urbs[id']? = some ⟨urb', none⟩ ↔
      w.urbs[id']? = some ⟨urb', none⟩ ∧ id' ≠ id := by
    intro id' urb'
    rw [hurbs, deliver_unanswered_iff, lookup_singleton]
    simp only [ite_eq_right_iff, reduceCtorEq, imp_false, ne_eq]
  refine ⟨?_, ?_, ?_, ?_⟩
  · intro urb' id' mem
    rw [hqueue] at mem
    apply (hunanswered id' urb').mpr
    refine ⟨h.queued urb' id' mem, ?_⟩
    intro hid
    subst hid
    exact hnot (ClientWorld.mem_queuedUrbs mem)
  · rw [hqueued]
    exact h.once
  · intro pump'' up''
    rw [up', Option.some.injEq] at up''
    subst up''
    apply hcorrelated.reply
    · intro seq
      rw [hpending, lookup_erase]
    · intro id' seq
      unfold ClientWorld.Waiting
      rw [hqueued]
      constructor
      · intro hwaiting
        obtain ⟨urb', hcall', hseq', hnot'⟩ := hwaiting
        obtain ⟨hcall', hid⟩ := (hunanswered id' urb').mp hcall'
        refine ⟨⟨urb', hcall', hseq', hnot'⟩, ?_⟩
        intro heq
        have hfound := (hcorrelated.pending_iff seq id').mpr ⟨urb', hcall', hseq', hnot'⟩
        rw [heq, hcorrelated.pending_head, Option.some.injEq] at hfound
        exact hid hfound.symm
      · intro hwaiting
        obtain ⟨⟨urb', hcall', hseq', hnot'⟩, hne⟩ := hwaiting
        refine ⟨urb', (hunanswered id' urb').mpr ⟨hcall', ?_⟩, hseq', hnot'⟩
        intro hid
        subst hid
        rw [hcall, Option.some.injEq] at hcall'
        cases hcall'
        exact hne (hseq'.symm.trans hseq)
  · intro hdown
    rw [up'] at hdown
    cases hdown

/-! ## One step -/

theorem Routed.urbDown (h : Routed w) (down : w.pump = none) (urb : UrbSubmit) :
    Routed { w with urbs := w.urbs ++ [⟨urb, some (.error .closed)⟩] } := by
  obtain ⟨hqueue, hanswered⟩ := h.down down
  refine ⟨?_, h.once, ?_, ?_⟩
  · intro urb' id mem
    rw [hqueue] at mem
    cases mem
  · intro pump up
    rw [down] at up
    cases up
  · refine fun _ => ⟨hqueue, ?_⟩
    intro id urb' hcall
    rw [List.getElem?_append] at hcall
    split at hcall
    · exact hanswered id urb' hcall
    · rw [List.getElem?_singleton] at hcall
      split at hcall <;> cases hcall

/-- A command that is not a URB is taken. -/
theorem Routed.takeOther (h : Routed w) {pump pump' : Pump} {cmd : ClientCmd}
    {queue : List ClientCmd} (up : w.pump = some pump) (head : w.queue = cmd :: queue)
    (other : cmd.urbReply = none) (hurbs : w'.urbs = w.urbs) (hqueue : w'.queue = queue)
    (up' : w'.pump = some pump') (hpending : pump'.pendingUrbs = pump.pendingUrbs)
    (htransit : w'.transit.Perm w.transit) : Routed w' := by
  refine h.frame hurbs ?_ ?_ ?_ htransit ?_
  · intro urb id mem
    rw [head, ← hqueue]
    exact List.mem_cons_of_mem _ mem
  · unfold ClientWorld.queuedUrbs
    rw [head, hqueue, List.filterMap_cons, other]
  · intro pump'' up''
    rw [up', Option.some.injEq] at up''
    subst up''
    exact ⟨pump, up, hpending⟩
  · intro hdown
    rw [up'] at hdown
    cases hdown

theorem Routed.reconnect (h : Routed w) (down : w.pump = none) :
    Routed { w with pump := some {}, toServer := [], outstanding := [], toClient := [] } := by
  obtain ⟨hqueue, hanswered⟩ := h.down down
  refine ⟨h.queued, h.once, ?_, nofun⟩
  intro pump up
  cases up
  apply Correlated.empty
  · intro seq
    exact Std.ExtTreeMap.getElem?_empty
  · intro id seq hwaiting
    obtain ⟨urb, hcall, -⟩ := hwaiting
    exact hanswered id urb hcall

theorem Pump.writeFailed_pendingUrbs (pump : Pump) (cmd : ClientCmd) (err : FrameError) :
    (pump.writeFailed cmd err).2.pendingUrbs = pump.pendingUrbs ∧
      (pump.writeFailed cmd err).1.urbs = [] := by
  unfold Pump.writeFailed
  split
  · split <;> exact ⟨rfl, rfl⟩
  · exact ⟨rfl, rfl⟩
  · exact ⟨rfl, rfl⟩

/-- The write fails after the sender was registered. -/
theorem Routed.takeFailed (h : Routed w) {pump : Pump} {cmd : ClientCmd}
    {queue : List ClientCmd} (up : w.pump = some pump) (head : w.queue = cmd :: queue)
    (err : FrameError) :
    Routed ((({ w.tell (pump.register cmd).1 with queue } : ClientWorld).tell
      ((pump.register cmd).2.writeFailed cmd err).1).shutdown
      ((pump.register cmd).2.writeFailed cmd err).2) := by
  apply routed_shutdown
  intro id urb hcall
  obtain ⟨hpending, hnone⟩ := Pump.writeFailed_pendingUrbs (pump.register cmd).2 cmd err
  rw [hpending]
  obtain ⟨hcall, -⟩ := (deliver_unanswered_iff urb).mp hcall
  obtain ⟨hcall, htold⟩ := (deliver_unanswered_iff urb).mp hcall
  have hqueued : w.queuedUrbs = (cmd :: queue).filterMap ClientCmd.urbReply := by
    unfold ClientWorld.queuedUrbs
    rw [head]
  have hunanswered := h.unanswered up hcall
  rw [hqueued] at hunanswered
  cases cmd with
  | control | unlink => exact hunanswered.imp_left fun hfound => ⟨urb.seq, hfound⟩
  | urb taken reply =>
      rcases hunanswered with hfound | hmem
      · by_cases hseq : urb.seq = taken.seq
        · -- the sender that was dropped
          rw [hseq] at hfound
          simp only [Pump.register, hfound, Option.toList_some, lookup_closedAll,
            List.mem_singleton, if_true, reduceCtorEq] at htold
        · refine .inl ⟨urb.seq, ?_⟩
          simp only [Pump.register]
          rw [lookup_insert, if_neg hseq, hfound]
      · rcases List.mem_cons.mp hmem with heq | hmem
        · refine .inl ⟨taken.seq, ?_⟩
          simp only [Pump.register]
          rw [lookup_insert, if_pos rfl, heq]
        · exact .inr hmem

theorem exists_of_isUrbComplete {msg : Message} (h : isUrbComplete msg = true) :
    ∃ complete, msg = .urbComplete complete := by
  unfold isUrbComplete at h
  split at h
  · exact ⟨_, rfl⟩
  · cases h

theorem Pump.dispatch_other (pump : Pump) {msg : Message} (h : isUrbComplete msg = false) :
    (pump.dispatch msg).1.urbs = [] ∧ (pump.dispatch msg).2.pendingUrbs = pump.pendingUrbs := by
  unfold Pump.dispatch
  split
  · cases h
  · split <;> exact ⟨rfl, rfl⟩
  · split <;> exact ⟨rfl, rfl⟩

/-- The completion at the head of the link finds the call it is for. -/
theorem Routed.dispatch_complete (h : Routed w) (htraced : Traced history w) {pump : Pump}
    {arriving : Arriving} {toClient : List Arriving} (up : w.pump = some pump)
    (head : w.toClient = arriving :: toClient) (hmsg : arriving.msg = .urbComplete complete) :
    ∃ id urb, arriving.completed = some (complete.seq, id) ∧ w.Asked id urb ∧
      Produced history id urb complete ∧ pump.dispatch arriving.msg =
        ({ urbs := [(id, .ok complete)] },
          { pump with pendingUrbs := pump.pendingUrbs.erase complete.seq }) := by
  have hmem : arriving ∈ w.toClient := by
    rw [head]
    exact List.mem_cons_self
  obtain ⟨id, urb, hcall, hasked, hproduced⟩ := htraced.arriving arriving hmem complete hmsg
  have hcompleted : arriving.completed = some (complete.seq, id) := by
    unfold Arriving.completed
    rw [hmsg, hcall]
    rfl
  refine ⟨id, urb, hcompleted, hasked, hproduced, ?_⟩
  have hpending : pump.pendingUrbs[complete.seq]? = some id := by
    apply (h.correlated pump up).registered (complete.seq, id)
    apply List.mem_append_right
    exact List.mem_filterMap.mpr ⟨arriving, hmem, hcompleted⟩
  rw [hmsg]
  simp only [Pump.dispatch, hpending]

/-- The pump's table keeps agreeing as long as no number is written again while somebody
waits under it. -/
theorem Routed.step (h : Routed w) (htraced : Traced history w) (taken : w.step act = some w')
    (hfree : ¬ Collides ⟨w, act, w'⟩) : Routed w' := by
  cases ClientWorld.step_cases taken with
  | urbDown urb down => exact h.urbDown down urb
  | urb urb up => exact h.call up urb
  | unlinkDown | controlDown =>
      exact h.frame rfl (fun _ _ mem => mem) rfl (fun pump up => ⟨pump, up, rfl⟩) (List.Perm.refl _)
        fun hdown => ⟨hdown, rfl⟩
  | unlink unlink up | control req up =>
      refine h.frame rfl ?_ ?_ (fun pump up => ⟨pump, up, rfl⟩) (List.Perm.refl _) ?_
      · intro urb id mem
        rcases List.mem_append.mp mem with mem | mem
        · exact mem
        · rw [List.mem_singleton] at mem
          cases mem
      · unfold ClientWorld.queuedUrbs
        rw [List.filterMap_append]
        exact List.append_nil _
      · intro hdown
        rw [up] at hdown
        cases hdown
  | @took pump cmd queue io up head written =>
      cases cmd with
      | control req reply =>
          exact h.takeOther up head rfl (deliver_nil _) rfl rfl rfl (transit_takeOther rfl rfl rfl rfl)
      | unlink unlink reply =>
          exact h.takeOther up head rfl (deliver_nil _) rfl rfl rfl (transit_takeOther rfl rfl rfl rfl)
      | urb urb reply =>
          have hfresh := fresh_of_not_collides head written hfree
          refine h.take up head hfresh ?_ rfl rfl rfl (@transit_take w _ (.urb urb reply) rfl rfl rfl)
          simp only [ClientWorld.tell, h.register_urbs up hfresh, deliver_nil]
  | takeFailed up head failed => exact h.takeFailed up head _
  | @read pump arriving toClient up head =>
      cases hmsg : isUrbComplete arriving.msg with
      | false =>
          obtain ⟨htold, hpending⟩ := pump.dispatch_other hmsg
          refine h.frame ?_ (fun _ _ mem => mem) rfl ?_ ?_ nofun
          · simp only [ClientWorld.tell, htold, deliver_nil]
          · intro pump' up'
            cases up'
            exact ⟨pump, up, hpending⟩
          · exact transit_readOther head hmsg rfl rfl rfl
      | true =>
          obtain ⟨complete, hmsg⟩ := exists_of_isUrbComplete hmsg
          obtain ⟨id, urb, hcompleted, -, -, hdispatch⟩ := h.dispatch_complete htraced up head hmsg
          refine h.read up head hcompleted ?_ rfl rfl ?_ rfl rfl rfl
          · simp only [ClientWorld.tell, hdispatch]
          · rw [hdispatch]
  | stop up =>
      apply routed_shutdown
      intro id urb hcall
      exact (h.unanswered up hcall).imp_left fun hfound => ⟨urb.seq, hfound⟩
  | reconnect down => exact h.reconnect down
  | receive head =>
      exact h.frame rfl (fun _ _ mem => mem) rfl (fun pump up => ⟨pump, up, rfl⟩)
        (transit_receive head rfl rfl rfl) fun hdown => ⟨hdown, rfl⟩
  | complete found seq =>
      exact h.frame rfl (fun _ _ mem => mem) rfl (fun pump up => ⟨pump, up, rfl⟩)
        (transit_complete found seq rfl rfl rfl) fun hdown => ⟨hdown, rfl⟩
  | reply other =>
      refine h.frame rfl (fun _ _ mem => mem) rfl (fun pump up => ⟨pump, up, rfl⟩) ?_
        fun hdown => ⟨hdown, rfl⟩
      exact transit_reply rfl rfl rfl

/-- Every completion a call has got was produced for it. -/
def Answered (history : ClientHistory) (w : ClientWorld) : Prop :=
  ∀ (id : Nat) urb complete, w.urbs[id]? = some ⟨urb, some (.ok complete)⟩ →
    Produced history id urb complete

theorem Answered.append (h : Answered history w) {call : ClientCall UrbSubmit UrbComplete}
    (hcall : ∀ complete, call.answer ≠ some (.ok complete)) :
    Answered history { w with urbs := w.urbs ++ [call] } := by
  intro id urb complete hfound
  rw [List.getElem?_append] at hfound
  split at hfound
  · exact h id urb complete hfound
  · rw [List.getElem?_singleton] at hfound
    split at hfound
    · rw [Option.some.injEq] at hfound
      rw [hfound] at hcall
      exact absurd rfl (hcall complete)
    · cases hfound

/-- Nobody is told anything but `Closed`. -/
theorem Answered.tell (h : Answered history w) {told : Told}
    (hclosed : ∃ replies, told.urbs = closedAll replies) : Answered history (w.tell told) := by
  obtain ⟨replies, hclosed⟩ := hclosed
  intro id urb complete hfound
  rcases of_deliver hfound with hbefore | ⟨-, hnow⟩
  · exact h id urb complete hbefore
  · rw [hclosed, lookup_closedAll] at hnow
    split at hnow <;> cases hnow

theorem Pump.register_closes (pump : Pump) (cmd : ClientCmd) :
    ∃ replies, (pump.register cmd).1.urbs = closedAll replies := by
  cases cmd with
  | control | unlink => exact ⟨[], rfl⟩
  | urb => exact ⟨_, rfl⟩

theorem Answered.step (h : Answered history w) (hrouted : Routed w) (htraced : Traced history w)
    (taken : w.step act = some w') : Answered (⟨w, act, w'⟩ :: history) w' := by
  have hbefore : Answered (⟨w, act, w'⟩ :: history) w :=
    fun id urb complete hfound => (h id urb complete hfound).later _
  cases ClientWorld.step_cases taken with
  | urbDown | urb => exact hbefore.append fun _ => nofun
  | took => exact hbefore.tell (Pump.register_closes _ _)
  | takeFailed =>
      refine (Answered.tell ?_ ⟨[], (Pump.writeFailed_pendingUrbs _ _ _).2⟩).tell ⟨_, rfl⟩
      exact hbefore.tell (Pump.register_closes _ _)
  | stop => exact hbefore.tell ⟨_, rfl⟩
  | @read pump arriving toClient up head =>
      cases hmsg : isUrbComplete arriving.msg with
      | false => exact hbefore.tell ⟨[], (pump.dispatch_other hmsg).1⟩
      | true =>
          obtain ⟨complete, hmsg⟩ := exists_of_isUrbComplete hmsg
          obtain ⟨id, urb, -, hasked, hproduced, hdispatch⟩ :=
            hrouted.dispatch_complete htraced up head hmsg
          intro id' urb' complete' hfound
          rcases of_deliver hfound with hfound | ⟨hcall, hnow⟩
          · exact hbefore id' urb' complete' hfound
          · rw [hdispatch, lookup_singleton] at hnow
            split at hnow
            · rename_i hid
              cases hnow
              subst hid
              obtain ⟨answer, hasked⟩ := hasked
              rw [hcall, Option.some.injEq] at hasked
              cases hasked
              exact hproduced.later _
            · cases hnow
  | unlinkDown | unlink | controlDown | control | reconnect | receive | complete | reply =>
      exact hbefore

/-! ## Whole runs -/

theorem routed_run (run : ClientWorld.Runs history w) (hfree : ∀ t ∈ history, ¬ Collides t) :
    Routed w ∧ Answered history w := by
  induction run with
  | nil =>
      refine ⟨⟨nofun, List.nodup_nil, ?_, nofun⟩, nofun⟩
      intro pump up
      cases up
      apply Correlated.empty
      · intro seq
        exact Std.ExtTreeMap.getElem?_empty
      · intro id seq hwaiting
        obtain ⟨urb, hcall, -⟩ := hwaiting
        cases hcall
  | snoc run taken ih =>
      obtain ⟨hrouted, hanswered⟩ := ih fun t ht => hfree t (List.mem_cons_of_mem _ ht)
      have htraced := traced_run run
      exact ⟨hrouted.step htraced taken (hfree _ List.mem_cons_self),
        hanswered.step hrouted htraced taken⟩

theorem returns_closed_iff :
    w.Returns id urb (.error .closed) ↔ w.urbs[id]? = some ⟨urb, some (.error .closed)⟩ := by
  constructor
  · intro h
    obtain ⟨answer, hcall, hresult⟩ := h
    cases answer with
    | error err =>
        cases hresult
        exact hcall
    | ok complete =>
        dsimp only [urbWithLength, bind, Except.bind] at hresult
        split at hresult <;> cases hresult
  · intro h
    exact ⟨_, h, rfl⟩

theorem returns_ok (h : w.Returns id urb (.ok complete)) :
    w.urbs[id]? = some ⟨urb, some (.ok complete)⟩ := by
  obtain ⟨answer, hcall, hresult⟩ := h
  cases answer with
  | error err => cases hresult
  | ok complete' =>
      dsimp only [urbWithLength, bind, Except.bind] at hresult
      split at hresult
      · cases hresult
      · cases hresult
        exact hcall

/-- While the connection is up, only a collision makes a call return `Closed`. -/
theorem not_closedWhileUp (hrouted : Routed w) (htraced : Traced history w)
    (hencodable : ∀ cmd ∈ w.queue, Encodable cmd.message)
    (taken : w.step act = some w') (hfree : ¬ Collides ⟨w, act, w'⟩) :
    ¬ ClosedWhileUp id ⟨w, act, w'⟩ := by
  intro h
  obtain ⟨hpre, hlink, urb, hafter, hbefore⟩ := h
  rw [returns_closed_iff] at hafter hbefore
  dsimp only at hpre hafter hbefore
  cases ClientWorld.step_cases taken with
  | urbDown urb' down | reconnect down =>
      rw [down] at hpre
      cases hpre
  | urb urb' up =>
      rw [List.getElem?_append] at hafter
      split at hafter
      · exact hbefore hafter
      · rw [List.getElem?_singleton] at hafter
        split at hafter <;> cases hafter
  | @took pump cmd queue io up head written =>
      apply hbefore
      rw [← hafter]
      cases cmd with
      | control | unlink => exact congrArg (·[id]?) (deliver_nil w.urbs).symm
      | urb urb' reply =>
          have hfresh := fresh_of_not_collides head written hfree
          simp only [ClientWorld.tell, hrouted.register_urbs up hfresh, deliver_nil]
  | @takeFailed pump cmd queue io err up head failed =>
      cases io with
      | error kind => exact hlink (.inr ⟨kind, rfl⟩)
      | ok =>
          have hmem : cmd ∈ w.queue := by
            rw [head]
            exact List.mem_cons_self
          rw [writeMessage_of_encodable (hencodable cmd hmem)] at failed
          cases failed
  | stop => exact hlink (.inl rfl)
  | @read pump arriving toClient up head =>
      cases hmsg : isUrbComplete arriving.msg with
      | false =>
          apply hbefore
          rw [← hafter]
          simp only [ClientWorld.tell, (pump.dispatch_other hmsg).1, deliver_nil]
      | true =>
          obtain ⟨complete, hmsg⟩ := exists_of_isUrbComplete hmsg
          obtain ⟨id', urb', -, -, -, hdispatch⟩ := hrouted.dispatch_complete htraced up head hmsg
          rcases of_deliver hafter with hsame | ⟨-, hnow⟩
          · exact hbefore hsame
          · rw [hdispatch, lookup_singleton] at hnow
            split at hnow <;> cases hnow
  | unlinkDown | unlink | controlDown | control | receive | complete | reply =>
      exact hbefore hafter

/-- A collision makes the call that was there first return `Closed`. -/
theorem Collides.closedWhileUp (h : Collides t) (hrouted : Routed t.pre)
    (hencodable : ∀ cmd ∈ t.pre.queue, Encodable cmd.message)
    (taken : t.pre.step t.act = some t.post) : ∃ id, ClosedWhileUp id t := by
  obtain ⟨urb, id, queue, other, hact, head, hwaiting⟩ := h
  obtain ⟨pre, act, post⟩ := t
  dsimp only at hact head hwaiting hrouted hencodable taken ⊢
  subst hact
  have hmem : .urb urb id ∈ pre.queue := by
    rw [head]
    exact List.mem_cons_self
  have hwritten := writeMessage_of_encodable (hencodable _ hmem)
  cases ClientWorld.step_cases taken with
  | @took pump cmd queue' io' up head' written' =>
      rw [head, List.cons.injEq] at head'
      obtain ⟨rfl, rfl⟩ := head'
      have hpending := ((hrouted.correlated pump up).pending_iff urb.seq other).mpr hwaiting
      obtain ⟨urb', hcall, -, -⟩ := hwaiting
      refine ⟨other, by rw [up]; rfl, ?_, urb', ?_, ?_⟩
      · intro hlink
        rcases hlink with hlink | ⟨kind, hlink⟩ <;> cases hlink
      · rw [returns_closed_iff]
        apply deliver_of_unanswered hcall
        simp only [Pump.register, hpending, Option.toList_some, lookup_closedAll,
          List.mem_singleton, if_true]
      · rw [returns_closed_iff, hcall]
        nofun
  | @takeFailed pump cmd queue' io' err up head' failed =>
      rw [head, List.cons.injEq] at head'
      obtain ⟨rfl, rfl⟩ := head'
      rw [hwritten] at failed
      cases failed

theorem ClientWorld.Asked.of_append {call : ClientCall UrbSubmit UrbComplete}
    (h : ({ w with urbs := w.urbs ++ [call] } : ClientWorld).Asked id urb) :
    w.Asked id urb ∨ call.request = urb := by
  obtain ⟨answer, hcall⟩ := h
  rw [List.getElem?_append] at hcall
  split at hcall
  · exact .inl ⟨answer, hcall⟩
  · rw [List.getElem?_singleton] at hcall
    split at hcall
    · rw [Option.some.injEq] at hcall
      rw [hcall]
      exact .inr rfl
    · cases hcall

theorem ClientWorld.Asked.of_tell {told : Told} (h : (w.tell told).Asked id urb) :
    w.Asked id urb := by
  obtain ⟨answer, hcall⟩ := h
  unfold ClientWorld.tell at hcall
  rw [deliver_getElem?] at hcall
  obtain ⟨⟨request, answer'⟩, hbefore, heq⟩ := Option.map_eq_some_iff.mp hcall
  cases heq
  exact ⟨answer', hbefore⟩

/-- A call is there already, or is made now. -/
theorem asked_of_step (taken : w.step act = some w') (h : w'.Asked id urb) :
    w.Asked id urb ∨ act = .urb urb := by
  cases ClientWorld.step_cases taken with
  | urbDown urb' down | urb urb' up =>
      rcases ClientWorld.Asked.of_append h with hbefore | hrequest
      · exact .inl hbefore
      · rw [← hrequest]
        exact .inr rfl
  | took | read | stop => exact .inl (ClientWorld.Asked.of_tell h)
  | takeFailed =>
      have h := ClientWorld.Asked.of_tell h
      have h := ClientWorld.Asked.of_tell h
      exact .inl (ClientWorld.Asked.of_tell h)
  | unlinkDown | unlink | controlDown | control | reconnect | receive | complete | reply =>
      exact .inl h

/-- Every call was made. -/
theorem called_of_asked (run : ClientWorld.Runs history w) (h : w.Asked id urb) :
    ∃ t ∈ history, t.act = .urb urb := by
  induction run with
  | nil =>
      obtain ⟨answer, hcall⟩ := h
      cases hcall
  | @snoc history pre post act run taken ih =>
      rcases asked_of_step taken h with hbefore | hact
      · obtain ⟨t, ht, hact⟩ := ih hbefore
        exact ⟨t, List.mem_cons_of_mem _ ht, hact⟩
      · exact ⟨_, List.mem_cons_self, hact⟩

/-- The commands of forwarded URBs can be written. -/
theorem queue_encodable (run : ClientWorld.Runs history w)
    (hforward : ∀ t ∈ history, ∀ urb, t.act = .urb urb → Forwarded urb) :
    ∀ cmd ∈ w.queue, Encodable cmd.message := by
  intro cmd mem
  apply ClientCmd.encodable
  intro urb reply hcmd
  rw [hcmd] at mem
  obtain ⟨t, ht, hact⟩ := called_of_asked run ((traced_run run).queued urb reply mem)
  exact (hforward t ht urb hact).encodable

theorem not_collides_of_never_closed (run : ClientWorld.Runs history w)
    (hforward : ∀ t ∈ history, ∀ urb, t.act = .urb urb → Forwarded urb)
    (h : ∀ t ∈ history, ∀ id, ¬ ClosedWhileUp id t) : ∀ t ∈ history, ¬ Collides t := by
  induction run with
  | nil => simp
  | @snoc history pre post act run taken ih =>
      have hforward' := fun t ht => hforward t (List.mem_cons_of_mem _ ht)
      have hfree := ih hforward' fun t ht => h t (List.mem_cons_of_mem _ ht)
      intro t ht
      rcases List.mem_cons.mp ht with rfl | ht
      · intro hcollides
        obtain ⟨id, hclosed⟩ := hcollides.closedWhileUp (routed_run run hfree).1
          (queue_encodable run hforward') taken
        exact h _ List.mem_cons_self id hclosed
      · exact hfree t ht

theorem never_closed_of_not_collides (run : ClientWorld.Runs history w)
    (hforward : ∀ t ∈ history, ∀ urb, t.act = .urb urb → Forwarded urb)
    (h : ∀ t ∈ history, ¬ Collides t) : ∀ t ∈ history, ∀ id, ¬ ClosedWhileUp id t := by
  induction run with
  | nil => simp
  | @snoc history pre post act run taken ih =>
      have hforward' := fun t ht => hforward t (List.mem_cons_of_mem _ ht)
      have hfree : ∀ t ∈ history, ¬ Collides t := fun t ht => h t (List.mem_cons_of_mem _ ht)
      intro t ht id
      rcases List.mem_cons.mp ht with rfl | ht
      · exact not_closedWhileUp (routed_run run hfree).1 (traced_run run)
          (queue_encodable run hforward') taken (h _ List.mem_cons_self)
      · exact ih hforward' hfree t ht id

/-- Completion routing.  In a run in which the USB/IP connections forward URBs, every
call that returns a completion returns the one that the server produced for its own
URB, and no call returns `Closed` while the connection is up, exactly if the pump
never writes a URB while another one waits under the same sequence number. -/
theorem completion_routing (run : ClientWorld.Runs history w)
    (hforward : ∀ t ∈ history, ∀ urb, t.act = .urb urb → Forwarded urb) :
    ((∀ id urb complete, w.Returns id urb (.ok complete) → Produced history id urb complete) ∧
      ∀ t ∈ history, ∀ id, ¬ ClosedWhileUp id t) ↔ ∀ t ∈ history, ¬ Collides t := by
  constructor
  · intro h
    exact not_collides_of_never_closed run hforward h.2
  · intro hfree
    refine ⟨?_, never_closed_of_not_collides run hforward hfree⟩
    intro id urb complete hreturns
    exact (routed_run run hfree).2 id urb complete (returns_ok hreturns)

end

namespace Connections

/-- An IN transfer of eight bytes on endpoint 1. -/
def command (seqnum : UInt32) : UsbipCmdSubmit :=
  { seqnum, devid := 1, direction := 1, ep := 1, transferFlags := 0, transferBufferLength := 8
    startFrame := 0, numberOfPackets := 0, interval := 4, setup := Vector.replicate 8 0 }

/-- What the connection that has imported `deviceId` makes of it. -/
def urb (deviceId : DeviceId) (seqnum : UInt32) : UrbSubmit :=
  { seq := seqnum, deviceId, endpoint := 1, transfer := .bulk, requestedLength := 8, data := [] }

theorem forwardUrb_command (deviceId : DeviceId) (seqnum : UInt32) :
    forwardUrb deviceId (command seqnum) [] = some (urb deviceId seqnum) := by
  have hep : (1 : UInt32) &&& 0x80 = 0 := by decide
  simp [forwardUrb, command, urb, MAX_TRANSFER, urbSubmitData, forwardTransfer, hep]

theorem forwarded (deviceId : DeviceId) (seqnum : UInt32) : Forwarded (urb deviceId seqnum) :=
  ⟨deviceId, command seqnum, [], rfl, forwardUrb_command deviceId seqnum⟩

def after (acts : List ClientAction) : ClientHistory × ClientWorld :=
  replay ClientWorld.step acts ([], {})

theorem runs (acts : List ClientAction) : ClientWorld.Runs (after acts).1 (after acts).2 :=
  Run.nil.replay acts

/-- The URB of a call is one of those of the two connections. -/
def knownUrb : ClientAction → Bool
  | .urb submit => submit = urb 1 7 || submit = urb 2 7 || submit = urb 2 8
  | _ => true

theorem forwarded_of_knownUrb {history : ClientHistory}
    (h : ∀ t ∈ history, knownUrb t.act = true) :
    ∀ t ∈ history, ∀ submit, t.act = .urb submit → Forwarded submit := by
  intro t ht submit hact
  have hknown := h t ht
  rw [hact] at hknown
  simp only [knownUrb, Bool.or_eq_true, decide_eq_true_eq] at hknown
  rcases hknown with (rfl | rfl) | rfl <;> exact forwarded _ _

def completion (seq : UInt32) (byte : UInt8) : UrbComplete := { seq, status := 0, data := [byte] }

/-- Two connections with different numbers; the second one's URB is completed first. -/
def distinct : List ClientAction :=
  [.urb (urb 1 7), .urb (urb 2 8), .take (.ok ()), .take (.ok ()), .receive, .receive,
    .complete 1 (completion 8 2), .read]

/-- Two connections that both use the number 7; the first one's URB has been written. -/
def equal : List ClientAction := [.urb (urb 1 7), .urb (urb 2 7), .take (.ok ())]

/-- The second one's is written too. -/
def collision : Transition ClientWorld ClientAction :=
  ⟨(after equal).2, .take (.ok ()), ((after equal).2.step (.take (.ok ()))).getD {}⟩

/-- The server completes the first one's. -/
def mixedUp : ClientHistory × ClientWorld :=
  replay ClientWorld.step [.receive, .receive, .complete 0 (completion 7 1), .read]
    ([], collision.post)

end Connections

theorem connections_completion_routing :
    ∃ history w, ClientWorld.Runs history w ∧
      w.Returns 1 (Connections.urb 2 8) (.ok (Connections.completion 8 2)) ∧
      Produced history 1 (Connections.urb 2 8) (Connections.completion 8 2) := by
  have run := Connections.runs Connections.distinct
  have hforward := Connections.forwarded_of_knownUrb
    (show ∀ t ∈ (Connections.after Connections.distinct).1, Connections.knownUrb t.act = true by
      decide +kernel)
  have hfree : ∀ t ∈ (Connections.after Connections.distinct).1, ¬ Collides t := by decide +kernel
  have hreturns : (Connections.after Connections.distinct).2.Returns 1 (Connections.urb 2 8)
      (.ok (Connections.completion 8 2)) :=
    ⟨.ok (Connections.completion 8 2), by decide +kernel, by decide +kernel⟩
  exact ⟨_, _, run, hreturns, ((completion_routing run hforward).mpr hfree).1 _ _ _ hreturns⟩

/-- The connections for devices 1 and 2 both submit under the number 7.  The first call
returns `Closed` although the connection is up, and the second one returns the
completion of the first one's URB. -/
theorem completion_of_other_connection :
    ∃ later earlier w, ClientWorld.Runs (later ++ Connections.collision :: earlier) w ∧
      (∀ t ∈ later ++ Connections.collision :: earlier, ∀ submit, t.act = .urb submit →
        Forwarded submit) ∧
      ClosedWhileUp 0 Connections.collision ∧
      w.Returns 1 (Connections.urb 2 7) (.ok (Connections.completion 7 1)) ∧
      Produced (later ++ Connections.collision :: earlier) 0 (Connections.urb 1 7)
        (Connections.completion 7 1) ∧
      ¬ Produced (later ++ Connections.collision :: earlier) 1 (Connections.urb 2 7)
        (Connections.completion 7 1) := by
  have run : ClientWorld.Runs (Connections.collision :: (Connections.after Connections.equal).1)
      Connections.collision.post :=
    (Connections.runs Connections.equal).snoc_getD (by decide +kernel)
  have hclosed : ClosedWhileUp 0 Connections.collision := by
    refine ⟨by decide +kernel, ?_, Connections.urb 1 7, ?_, ?_⟩
    · intro hlink
      rcases hlink with hlink | ⟨kind, hlink⟩ <;> cases hlink
    · exact returns_closed_iff.mpr (by decide +kernel)
    · rw [returns_closed_iff]
      decide +kernel
  refine ⟨Connections.mixedUp.1, (Connections.after Connections.equal).1, Connections.mixedUp.2,
    run.trans (Run.nil.replay _), ?_, hclosed, ?_, ?_, ?_⟩
  · apply Connections.forwarded_of_knownUrb
    decide +kernel
  · exact ⟨.ok (Connections.completion 7 1), by decide +kernel, by decide +kernel⟩
  · decide +kernel
  · decide +kernel

end FarBus.Core
