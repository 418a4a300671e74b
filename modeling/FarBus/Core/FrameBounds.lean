/-
  Core/FrameBounds.lean --- the frame reader takes nothing of the next frame.

  The states are those in which a pass of the loop of `read_message` begins, over
  any number of calls on one reader.  The invariant is `FramedReader.Within`: the
  buffer holds no more than a header, or no more than the frame its header
  announces.  A frame is cut as soon as it is whole, so what is cut is the whole
  buffer, and a reader that is dropped between two frames drops no byte: the free
  function `read_message`, which makes a new reader for each call, returns what one
  reader returns.
-/
import FarBus.Foundation.Transition
import FarBus.Core.Frame

set_option autoImplicit false

namespace FarBus.Core

open FarBus.Foundation
open FarBus.Protocol

/-! ## The free function -/

/-- The free function `read_message`: its reader is new, and is dropped with the call. -/
def freeReadMessage (schedule : List ReadEvent) (stream : Bytes) : Call :=
  readMessage schedule FramedReader.new stream

/-- The outcomes of `calls` successive calls of the free function. -/
def freeOutcomes : Nat → List ReadEvent → Bytes → List (Option (Except FrameError Message))
  | 0, _, _ => []
  | calls + 1, schedule, stream =>
      let call := freeReadMessage schedule stream
      call.outcome :: freeOutcomes calls call.schedule call.stream

/-- A message, or an error that is not the one of the length field. -/
def tookFrame : Option (Except FrameError Message) → Bool
  | some (.ok _) => true
  | some (.error (.protocol (.payloadTooLarge _ _))) => false
  | some (.error (.protocol _)) => true
  | some (.error (.io _)) => false
  | none => false

/-! ## The loop as a transition system -/

inductive LoopMove where
  /-- the loop goes round with the bytes of a read -/
  | readOn
  /-- the call ends, and `read_message` is called again on the reader -/
  | callAgain
  deriving DecidableEq, Repr

namespace LoopState

def step (w : LoopState) (move : LoopMove) : Option LoopState :=
  match move, w.pass with
  | .readOn, .inr next => some next
  | .callAgain, .inl call => some ⟨call.schedule, call.reader, call.stream⟩
  | _, _ => none

/-- The first pass on a new reader. -/
def start (schedule : List ReadEvent) (stream : Bytes) : LoopState :=
  ⟨schedule, FramedReader.new, stream⟩

/-- `bytes_needed` is consulted: there is no frame to be decoded. -/
def Consults (w : LoopState) : Prop := w.reader.tryDecodeFrame.1 = .ok none

/-- No message and no protocol error is returned. -/
def Silent (t : Transition LoopState LoopMove) : Prop :=
  ∀ call, t.pre.pass = .inl call → reported call.outcome = none

/-- The reads that gave at least one byte. -/
def reads (history : History LoopState LoopMove) : Nat :=
  history.countP (fun t => t.act = .readOn)

end LoopState

/-- The call ended at the length field, which it leaves in the buffer. -/
def Call.Oversized (call : Call) : Prop :=
  MAX_PAYLOAD < announcedLen call.reader.buffer ∧
    call.outcome =
      some (.error (.protocol (.payloadTooLarge (announcedLen call.reader.buffer) MAX_PAYLOAD)))

/-! ## What is asked for -/

/-- What `bytes_needed` answers is at least one byte, and with the bytes that are
there no more than the header, or than the frame the header announces. -/
structure FramedReader.Asks (reader : FramedReader) (needed : Nat) : Prop where
  answer : reader.bytesNeeded = .ok needed
  positive : 1 ≤ needed
  header : reader.buffer.length < HEADER_LEN → reader.buffer.length + needed ≤ HEADER_LEN
  payload : HEADER_LEN ≤ reader.buffer.length →
    announcedLen reader.buffer ≤ MAX_PAYLOAD ∧
      reader.buffer.length + needed ≤ HEADER_LEN + announcedLen reader.buffer

theorem asks_of_splitFrame_none {self : FramedReader} (h : splitFrame self.buffer = none) :
    ∃ needed, self.Asks needed := by
  obtain ⟨needed, hneeded⟩ := bytesNeeded_of_splitFrame_none h
  refine ⟨needed, hneeded, bytesNeeded_pos hneeded, ?_, ?_⟩
  · intro hheader
    unfold FramedReader.bytesNeeded at hneeded
    rw [if_pos hheader] at hneeded
    cases hneeded
    omega
  · intro hheader
    unfold splitFrame at h
    rw [if_neg (Nat.not_lt.mpr hheader)] at h
    split at h
    · cases h
    rename_i hsmall
    split at h
    · rename_i hpart
      unfold FramedReader.bytesNeeded at hneeded
      rw [if_neg (Nat.not_lt.mpr hheader), if_neg hsmall] at hneeded
      -- the guard `max(1)` changes nothing where a part of the frame is missing
      cases hneeded
      omega
    · cases h

theorem splitFrame_eq_none_of_consults {w : LoopState} (h : w.Consults) :
    splitFrame w.reader.buffer = none := by
  unfold LoopState.Consults at h
  rw [tryDecodeFrame_eq] at h
  cases hsplit : splitFrame w.reader.buffer with
  | none => rfl
  | some cut =>
      obtain ⟨report, rest⟩ := cut
      rw [hsplit] at h
      cases report <;> cases h

/-! ## The invariant -/

/-- No more than a header, or no more than the frame the header announces. -/
def FramedReader.Within (self : FramedReader) : Prop :=
  self.buffer.length ≤ HEADER_LEN ∨
    announcedLen self.buffer ≤ MAX_PAYLOAD ∧
      self.buffer.length ≤ HEADER_LEN + announcedLen self.buffer

namespace FramedReader.Within

variable {self : FramedReader}

theorem length_le (h : self.Within) : self.buffer.length ≤ HEADER_LEN + MAX_PAYLOAD := by
  rcases h with h | ⟨hsmall, h⟩
  · exact Nat.le_add_right_of_le h
  · omega

/-- A read gives no more than it was asked for. -/
theorem append {needed : Nat} (asks : self.Asks needed) {chunk : Bytes}
    (hchunk : chunk.length ≤ needed) : FramedReader.Within ⟨self.buffer ++ chunk⟩ := by
  unfold FramedReader.Within
  rw [List.length_append]
  rcases Nat.lt_or_ge self.buffer.length HEADER_LEN with hheader | hheader
  · have := asks.header hheader
    exact .inl (by omega)
  · obtain ⟨hsmall, hpayload⟩ := asks.payload hheader
    rw [announcedLen_append hheader]
    exact .inr ⟨hsmall, by omega⟩

/-- What is cut off is the whole buffer, or nothing at an oversized length field. -/
theorem of_cut (h : self.Within) {report : Except Error Message} {rest : Bytes}
    (hcut : splitFrame self.buffer = some (report, rest)) :
    rest = [] ∧ report = decode self.buffer ∨
      rest = self.buffer ∧ MAX_PAYLOAD < announcedLen self.buffer ∧
        report = .error (.payloadTooLarge (announcedLen self.buffer) MAX_PAYLOAD) := by
  unfold splitFrame at hcut
  split at hcut
  · cases hcut
  rename_i hheader
  split at hcut
  · rename_i hlarge
    cases hcut
    exact .inr ⟨rfl, hlarge, rfl⟩
  rename_i hsmall
  split at hcut
  · cases hcut
  rename_i hwhole
  cases hcut
  have hframe : self.buffer.length ≤ HEADER_LEN + announcedLen self.buffer := by
    rcases h with h | ⟨-, h⟩
    · omega
    · exact h
  refine .inl ⟨List.drop_eq_nil_of_le hframe, ?_⟩
  rw [List.take_of_length_le hframe]

end FramedReader.Within

namespace LoopState

variable {w next : LoopState} {call : Call}

/-- One pass. -/
theorem within_of_pass (hw : w.reader.Within) :
    (∀ call, w.pass = .inl call → call.reader.Within) ∧
      ∀ next, w.pass = .inr next → next.reader.Within := by
  have heffect := w.pass_effect
  constructor
  · intro call hpass
    rw [hpass] at heffect
    cases heffect with
    | cut whole =>
        rcases hw.of_cut whole with ⟨hrest, -⟩ | ⟨hrest, -⟩
        · rw [hrest]
          exact .inl (Nat.zero_le _)
        · rw [hrest]
          exact hw
    | waits => exact hw
    | stops => exact hw
  · intro next hpass
    rw [hpass] at heffect
    cases heffect with
    | @reads n needed _ part asked =>
        obtain ⟨answer, hasks⟩ := asks_of_splitFrame_none part
        obtain rfl : answer = needed := Except.ok.inj (hasks.answer.symm.trans asked)
        refine .append hasks ?_
        rw [List.length_take]
        omega

theorem within_of_step {move : LoopMove} (hw : w.reader.Within)
    (taken : w.step move = some next) : next.reader.Within := by
  unfold step at taken
  split at taken
  · rename_i hpass
    cases taken
    exact (within_of_pass hw).2 _ hpass
  · rename_i hpass
    cases taken
    exact (within_of_pass hw).1 _ hpass
  · cases taken

/-- Whatever the reads were, and however many calls ended. -/
theorem within_of_run {schedule : List ReadEvent} {stream : Bytes}
    {history : History LoopState LoopMove} (run : Run step (start schedule stream) history w) :
    w.reader.Within :=
  run.invariant (fun w => w.reader.Within) (.inl (Nat.zero_le _))
    (fun _ _ _ hw taken => within_of_step hw taken)

/-- A call that reports something has decoded the whole buffer, or stopped at an
oversized length field. -/
theorem report_cases (hw : w.reader.Within) (hpass : w.pass = .inl call)
    {report : Except Error Message} (hreport : reported call.outcome = some report) :
    report = decode w.reader.buffer ∧ call.reader.buffer = [] ∨ call.Oversized := by
  have heffect := w.pass_effect
  rw [hpass] at heffect
  cases heffect with
  | @cut result rest whole =>
      rw [reported_returned] at hreport
      cases hreport
      rcases hw.of_cut whole with ⟨hrest, hdecode⟩ | ⟨hrest, hlarge, herror⟩
      · exact .inl ⟨hdecode, hrest⟩
      · refine .inr ⟨?_, ?_⟩
        · rw [hrest]
          exact hlarge
        · rw [hrest, herror]
          rfl
  | waits => cases hreport
  | stops _ _ silent =>
      rw [silent] at hreport
      cases hreport

/-! ## Productive reads -/

/-- Where nothing is reported, every productive read makes the buffer longer. -/
theorem length_add_reads_le {history : History LoopState LoopMove} (run : Run step w history next)
    (silent : ∀ t ∈ history, Silent t) :
    w.reader.buffer.length + reads history ≤ next.reader.buffer.length := by
  induction run with
  | nil => exact Nat.le_refl _
  | @snoc history state next move run taken ih =>
      have hbefore := ih (fun t ht => silent t (List.mem_cons_of_mem _ ht))
      have hsilent := silent _ List.mem_cons_self
      have heffect := state.pass_effect
      unfold reads at hbefore ⊢
      unfold step at taken
      split at taken
      · rename_i hpass
        cases taken
        rw [hpass] at heffect
        rw [List.countP_cons_of_pos (by rfl)]
        cases heffect with
        | reads _ _ _ hnonempty =>
            rw [List.length_append]
            omega
      · rename_i call hpass
        cases taken
        rw [List.countP_cons_of_neg (by simp)]
        have hcall := hsilent call hpass
        rw [hpass] at heffect
        cases heffect with
        | cut =>
            rw [reported_returned] at hcall
            cases hcall
        | waits => exact hbefore
        | stops => exact hbefore
      · cases taken

end LoopState

/-! ## Calls are runs -/

/-- A call goes round until a pass ends it. -/
theorem run_readMessage (schedule : List ReadEvent) (self : FramedReader) (stream : Bytes) :
    ∃ history last, Run LoopState.step ⟨schedule, self, stream⟩ history last ∧
      last.pass = .inl (readMessage schedule self stream) := by
  apply readMessage_induct
    (P := fun w call => ∃ history last, Run LoopState.step w history last ∧ last.pass = .inl call)
  · intro w call hpass
    exact ⟨[], w, .nil, hpass⟩
  · rintro w next call hpass ⟨history, last, run, hlast⟩
    have taken : w.step .readOn = some next := by
      unfold LoopState.step
      rw [hpass]
    exact ⟨_, last, (Run.nil.snoc taken).trans run, hlast⟩

/-- The state between two calls. -/
def CallSequence.between (calls : CallSequence) : LoopState :=
  ⟨calls.schedule, calls.reader, calls.stream⟩

theorem run_readMessages (calls : Nat) (schedule : List ReadEvent) (self : FramedReader)
    (stream : Bytes) :
    ∃ history, Run LoopState.step ⟨schedule, self, stream⟩ history
      (readMessages calls schedule self stream).between := by
  induction calls generalizing schedule self stream with
  | zero => exact ⟨[], .nil⟩
  | succ calls ih =>
      obtain ⟨history, last, run, hlast⟩ := run_readMessage schedule self stream
      have taken : last.step .callAgain = some
          ⟨(readMessage schedule self stream).schedule, (readMessage schedule self stream).reader,
            (readMessage schedule self stream).stream⟩ := by
        unfold LoopState.step
        rw [hlast]
      obtain ⟨later, hlater⟩ := ih (readMessage schedule self stream).schedule
        (readMessage schedule self stream).reader (readMessage schedule self stream).stream
      exact ⟨_, (run.snoc taken).trans hlater⟩

/-! ## The free function against one reader -/

theorem reported_of_tookFrame {outcome : Option (Except FrameError Message)}
    (h : tookFrame outcome = true) : ∃ report, reported outcome = some report := by
  rcases outcome with _ | ⟨_ | _⟩ | msg
  · cases h
  · exact ⟨_, rfl⟩
  · cases h
  · exact ⟨_, rfl⟩

/-- A new reader that took a frame has nothing left in its buffer. -/
theorem buffer_eq_nil_of_tookFrame {schedule : List ReadEvent} {stream : Bytes}
    (h : tookFrame (readMessage schedule FramedReader.new stream).outcome = true) :
    (readMessage schedule FramedReader.new stream).reader.buffer = [] := by
  obtain ⟨history, last, run, hlast⟩ := run_readMessage schedule FramedReader.new stream
  obtain ⟨report, hreport⟩ := reported_of_tookFrame h
  rcases LoopState.report_cases (LoopState.within_of_run run) hlast hreport with
    ⟨-, hempty⟩ | ⟨-, hlarge⟩
  · exact hempty
  · rw [hlarge] at h
    cases h

/-- As long as each call leaves nothing in the buffer, a new reader is as good. -/
theorem freeOutcomes_eq (calls : Nat) (schedule : List ReadEvent) (stream : Bytes)
    (hempty : ∀ earlier < calls,
      (readMessages (earlier + 1) schedule FramedReader.new stream).reader.buffer = []) :
    freeOutcomes (calls + 1) schedule stream =
      (readMessages (calls + 1) schedule FramedReader.new stream).outcomes := by
  induction calls generalizing schedule stream with
  | zero => rfl
  | succ calls ih =>
      have hnew : (readMessage schedule FramedReader.new stream).reader = FramedReader.new :=
        congrArg FramedReader.mk (hempty 0 (Nat.succ_pos _))
      have hlater := ih (readMessage schedule FramedReader.new stream).schedule
        (readMessage schedule FramedReader.new stream).stream (by
          intro earlier hlt
          have h := hempty (earlier + 1) (Nat.succ_lt_succ hlt)
          rw [readMessages, hnew] at h
          exact h)
      rw [freeOutcomes, readMessages, hnew]
      exact congrArg _ hlater

theorem buffers_eq_nil_of_tookFrame (calls : Nat) (schedule : List ReadEvent) (stream : Bytes)
    (htook : ∀ outcome ∈ (readMessages calls schedule FramedReader.new stream).outcomes,
      tookFrame outcome = true) :
    ∀ earlier < calls,
      (readMessages (earlier + 1) schedule FramedReader.new stream).reader.buffer = [] := by
  induction calls generalizing schedule stream with
  | zero => exact fun _ h => absurd h (Nat.not_lt_zero _)
  | succ calls ih =>
      rw [readMessages] at htook
      have hfirst := buffer_eq_nil_of_tookFrame (htook _ List.mem_cons_self)
      have hnew : (readMessage schedule FramedReader.new stream).reader = FramedReader.new :=
        congrArg FramedReader.mk hfirst
      rw [hnew] at htook
      intro earlier hlt
      cases earlier with
      | zero => exact hfirst
      | succ earlier =>
          rw [readMessages, hnew]
          exact ih _ _ (fun outcome hmem => htook outcome (List.mem_cons_of_mem _ hmem)) earlier
            (Nat.lt_of_succ_lt_succ hlt)

/-- The frame reader never reads past the current frame.  In every state that any
schedule of reads and any number of calls lead to, the buffer is within the frame it
has begun, and what is asked for is at least a byte and stays within it as well; a
call that reports anything but an oversized length field has decoded the whole
buffer and leaves it empty; and between two reports there are no more productive
reads than a frame can have bytes.  Therefore the free function returns what one
reader returns, as far as the calls leave nothing in the buffer: up to the first one
that took no frame, and that one included. -/
theorem frameReader_bounded (schedule : List ReadEvent) (stream : Bytes) :
    (∀ history w, Run LoopState.step (LoopState.start schedule stream) history w →
      w.reader.Within ∧
      (w.Consults → ∃ needed, w.reader.Asks needed) ∧
      (∀ call report, w.pass = .inl call → reported call.outcome = some report →
        report = decode w.reader.buffer ∧ call.reader.buffer = [] ∨ call.Oversized) ∧
      (∀ later next, Run LoopState.step w later next → (∀ t ∈ later, LoopState.Silent t) →
        LoopState.reads later ≤ HEADER_LEN + MAX_PAYLOAD)) ∧
    (∀ calls, ∃ history w,
      let run := readMessages calls schedule FramedReader.new stream
      Run LoopState.step (LoopState.start schedule stream) history w ∧
        w.pass = .inl (readMessage run.schedule run.reader run.stream)) ∧
    (∀ calls,
      (∀ earlier < calls,
        (readMessages (earlier + 1) schedule FramedReader.new stream).reader.buffer = []) →
      freeOutcomes (calls + 1) schedule stream =
        (readMessages (calls + 1) schedule FramedReader.new stream).outcomes) ∧
    (∀ calls,
      (∀ outcome ∈ (readMessages calls schedule FramedReader.new stream).outcomes,
        tookFrame outcome = true) →
      freeOutcomes (calls + 1) schedule stream =
        (readMessages (calls + 1) schedule FramedReader.new stream).outcomes) := by
  refine ⟨?_, ?_, fun calls => freeOutcomes_eq calls schedule stream, ?_⟩
  · intro history w run
    have hwithin := LoopState.within_of_run run
    refine ⟨hwithin, ?_, fun _ _ hpass => LoopState.report_cases hwithin hpass, ?_⟩
    · intro hconsults
      exact asks_of_splitFrame_none (splitFrame_eq_none_of_consults hconsults)
    · intro later next hlater hsilent
      have hlonger := LoopState.length_add_reads_le hlater hsilent
      have hbound := (LoopState.within_of_run (run.trans hlater)).length_le
      omega
  · intro calls
    obtain ⟨history, run⟩ := run_readMessages calls schedule FramedReader.new stream
    obtain ⟨later, w, hlater, hpass⟩ := run_readMessage _ _ _
    exact ⟨_, w, run.trans hlater, hpass⟩
  · intro calls htook
    exact freeOutcomes_eq calls schedule stream
      (buffers_eq_nil_of_tookFrame calls schedule stream htook)

/-- Two frames in pieces and the beginning of a third one. -/
theorem frameReader_bounded_two_frames :
    freeOutcomes 3 (List.replicate 9 (.deliver 6))
        (frameBytes (.detach 7) ++ frameBytes (.detach 8) ++ [70, 66]) =
      (readMessages 3 (List.replicate 9 (.deliver 6)) FramedReader.new
        (frameBytes (.detach 7) ++ frameBytes (.detach 8) ++ [70, 66])).outcomes :=
  (frameReader_bounded _ _).2.2.2 2 (by decide +kernel)

end FarBus.Core
