/-
  Core/Frame.lean --- the buffered frame reader of `crates/farbus-core/src/frame.rs`.

  `FramedReader::read_message` is a loop around `reader.read(..).await`.  What the
  underlying stream does is a schedule of read events: a read delivers at most
  the requested number of bytes (none at the end of the stream), fails, or is
  dropped while pending, which is how `tokio::select!` cancels the call.  Calls
  follow each other on one reader, so a partial frame of one call is the
  beginning of the next.

  The reference is `splitFrames`, which cuts the whole stream at once.
  `readMessages_eq_splitFrames` says that the two report the same messages and
  protocol errors, whatever the schedule.
-/
import FarBus.Protocol.Canonical

set_option autoImplicit false

namespace FarBus.Core

open FarBus.Foundation
open FarBus.Protocol

/-! ## The reader -/

/-- The kinds of `std::io::Error` the callers distinguish. -/
inductive IoErrorKind where
  | unexpectedEof
  | other
  deriving DecidableEq, Repr

inductive FrameError where
  | protocol (err : Error)
  | io (kind : IoErrorKind)
  deriving DecidableEq, Repr

/-- A reader that keeps the bytes of a partial frame. -/
structure FramedReader where
  buffer : Bytes := []
  deriving DecidableEq, Repr

/-- The length field of a frame, bytes 6 to 9. -/
def announcedLen (bytes : Bytes) : Nat := ofBe ((bytes.drop 6).take 4)

namespace FramedReader

/-- `FramedReader::new`. -/
def new : FramedReader := {}

def bytesNeeded (self : FramedReader) : Except FrameError Nat :=
  if self.buffer.length < HEADER_LEN then .ok (HEADER_LEN - self.buffer.length)
  else
    let payloadLen := announcedLen self.buffer
    if payloadLen > MAX_PAYLOAD then
      .error (.protocol (.payloadTooLarge payloadLen MAX_PAYLOAD))
    else .ok (max (HEADER_LEN + payloadLen - self.buffer.length) 1)

/-- Decodes a complete frame at the front of the buffer.  The frame is drained
before it is decoded, so a frame that does not decode is gone too. -/
def tryDecodeFrame (self : FramedReader) :
    Except FrameError (Option Message) × FramedReader :=
  if self.buffer.length < HEADER_LEN then (.ok none, self)
  else
    let payloadLen := announcedLen self.buffer
    if payloadLen > MAX_PAYLOAD then
      (.error (.protocol (.payloadTooLarge payloadLen MAX_PAYLOAD)), self)
    else
      let frameLen := HEADER_LEN + payloadLen
      if self.buffer.length < frameLen then (.ok none, self)
      else
        let drained := { self with buffer := self.buffer.drop frameLen }
        match decode (self.buffer.take frameLen) with
        | .ok msg => (.ok (some msg), drained)
        | .error err => (.error (.protocol err), drained)

end FramedReader

/-- What one `reader.read(&mut chunk).await` does. -/
inductive ReadEvent where
  /-- resolves with the next `n` bytes, as far as they exist and were asked for -/
  | deliver (n : Nat)
  /-- resolves with an I/O error -/
  | failed
  /-- never resolves: the `read_message` future is dropped -/
  | cancelled
  deriving DecidableEq, Repr

/-- A call of `read_message` and what it left behind.  The outcome is `none` when
the call was dropped or is still waiting. -/
structure Call where
  outcome : Option (Except FrameError Message)
  reader : FramedReader
  stream : Bytes
  schedule : List ReadEvent

/-- `FramedReader::read_message` on the bytes `stream` still has to deliver. -/
def readMessage : List ReadEvent → FramedReader → Bytes → Call
  | schedule, self, stream =>
      match self.tryDecodeFrame with
      | (.error err, self) => ⟨some (.error err), self, stream, schedule⟩
      | (.ok (some msg), self) => ⟨some (.ok msg), self, stream, schedule⟩
      | (.ok none, self) =>
          match self.bytesNeeded with
          | .error err => ⟨some (.error err), self, stream, schedule⟩
          | .ok needed =>
              match schedule with
              | [] => ⟨none, self, stream, []⟩
              | .cancelled :: rest => ⟨none, self, stream, rest⟩
              | .failed :: rest => ⟨some (.error (.io .other)), self, stream, rest⟩
              | .deliver n :: rest =>
                  let chunk := stream.take (min n needed)
                  if chunk.length = 0 then
                    ⟨some (.error (.io .unexpectedEof)), self, stream, rest⟩
                  else
                    readMessage rest { self with buffer := self.buffer ++ chunk }
                      (stream.drop chunk.length)

/-- Where the loop of `read_message` stands at the beginning of a pass. -/
structure LoopState where
  schedule : List ReadEvent
  reader : FramedReader
  stream : Bytes

/-- The body of the loop: the call ends, or the loop goes round. -/
def LoopState.pass (w : LoopState) : Call ⊕ LoopState :=
  match w.reader.tryDecodeFrame with
  | (.error err, reader) => .inl ⟨some (.error err), reader, w.stream, w.schedule⟩
  | (.ok (some msg), reader) => .inl ⟨some (.ok msg), reader, w.stream, w.schedule⟩
  | (.ok none, reader) =>
      match reader.bytesNeeded with
      | .error err => .inl ⟨some (.error err), reader, w.stream, w.schedule⟩
      | .ok needed =>
          match w.schedule with
          | [] => .inl ⟨none, reader, w.stream, []⟩
          | .cancelled :: rest => .inl ⟨none, reader, w.stream, rest⟩
          | .failed :: rest => .inl ⟨some (.error (.io .other)), reader, w.stream, rest⟩
          | .deliver n :: rest =>
              let chunk := w.stream.take (min n needed)
              if chunk.length = 0 then
                .inl ⟨some (.error (.io .unexpectedEof)), reader, w.stream, rest⟩
              else
                .inr ⟨rest, { reader with buffer := reader.buffer ++ chunk },
                  w.stream.drop chunk.length⟩

/-- Successive calls on one reader. -/
structure CallSequence where
  outcomes : List (Option (Except FrameError Message))
  reader : FramedReader
  stream : Bytes
  schedule : List ReadEvent

/-- `calls` successive calls of `read_message`. -/
def readMessages : Nat → List ReadEvent → FramedReader → Bytes → CallSequence
  | 0, schedule, self, stream => ⟨[], self, stream, schedule⟩
  | calls + 1, schedule, self, stream =>
      let call := readMessage schedule self stream
      let later := readMessages calls call.schedule call.reader call.stream
      { later with outcomes := call.outcome :: later.outcomes }

/-- The messages and protocol errors among the outcomes of calls. -/
def reported : Option (Except FrameError Message) → Option (Except Error Message)
  | some (.ok msg) => some (.ok msg)
  | some (.error (.protocol err)) => some (.error err)
  | some (.error (.io _)) => none
  | none => none

def CallSequence.reports (calls : CallSequence) : List (Except Error Message) :=
  calls.outcomes.filterMap reported

/-! ## The reference splitter -/

/-- Cut one frame off the front of a whole stream.  An oversized length field is
reported and nothing is cut, so it is reported again by the next cut. -/
def splitFrame (stream : Bytes) : Option (Except Error Message × Bytes) :=
  if stream.length < HEADER_LEN then none
  else if announcedLen stream > MAX_PAYLOAD then
    some (.error (.payloadTooLarge (announcedLen stream) MAX_PAYLOAD), stream)
  else if stream.length < HEADER_LEN + announcedLen stream then none
  else
    some (decode (stream.take (HEADER_LEN + announcedLen stream)),
      stream.drop (HEADER_LEN + announcedLen stream))

/-- What the first `cuts` cuts of a stream report. -/
def splitFrames : Nat → Bytes → List (Except Error Message)
  | 0, _ => []
  | cuts + 1, stream =>
      match splitFrame stream with
      | none => []
      | some (report, rest) => report :: splitFrames cuts rest

/-! ## One call -/

theorem announcedLen_append {buffer : Bytes} (h : HEADER_LEN ≤ buffer.length) (rest : Bytes) :
    announcedLen (buffer ++ rest) = announcedLen buffer := by
  unfold HEADER_LEN at h
  unfold announcedLen
  rw [List.drop_append_of_le_length (by omega),
    List.take_append_of_le_length (by rw [List.length_drop]; omega)]

/-- A frame that is whole in the buffer is the first frame of the stream. -/
theorem splitFrame_append {buffer rest : Bytes} {report : Except Error Message}
    (h : splitFrame buffer = some (report, rest)) (more : Bytes) :
    splitFrame (buffer ++ more) = some (report, rest ++ more) := by
  unfold splitFrame at h ⊢
  split at h
  · cases h
  rename_i hlen
  have hheader : HEADER_LEN ≤ buffer.length := by omega
  rw [announcedLen_append hheader, if_neg (by rw [List.length_append]; omega)]
  split at h
  · rename_i hlarge
    obtain ⟨rfl, rfl⟩ := Prod.mk.inj (Option.some.inj h)
    rw [if_pos hlarge]
  rename_i hlarge
  split at h
  · cases h
  rename_i hwhole
  obtain ⟨rfl, rfl⟩ := Prod.mk.inj (Option.some.inj h)
  rw [if_neg hlarge, if_neg (by rw [List.length_append]; omega),
    List.take_append_of_le_length (by omega), List.drop_append_of_le_length (by omega)]

/-- `try_decode_frame` cuts its buffer like the reference splitter. -/
theorem tryDecodeFrame_eq (self : FramedReader) :
    self.tryDecodeFrame =
      match splitFrame self.buffer with
      | none => (.ok none, self)
      | some (.ok msg, rest) => (.ok (some msg), ⟨rest⟩)
      | some (.error err, rest) => (.error (.protocol err), ⟨rest⟩) := by
  unfold FramedReader.tryDecodeFrame splitFrame
  by_cases hlen : self.buffer.length < HEADER_LEN
  · simp only [if_pos hlen]
  by_cases hlarge : announcedLen self.buffer > MAX_PAYLOAD
  · simp only [if_neg hlen, if_pos hlarge]
  by_cases hpart : self.buffer.length < HEADER_LEN + announcedLen self.buffer
  · simp only [if_neg hlen, if_neg hlarge, if_pos hpart]
  simp only [if_neg hlen, if_neg hlarge, if_neg hpart]
  cases decode (self.buffer.take (HEADER_LEN + announcedLen self.buffer)) <;> rfl

/-- Where no frame can be cut, more bytes are asked for. -/
theorem bytesNeeded_of_splitFrame_none {self : FramedReader}
    (h : splitFrame self.buffer = none) : ∃ needed, self.bytesNeeded = .ok needed := by
  unfold splitFrame at h
  unfold FramedReader.bytesNeeded
  split
  · exact ⟨_, rfl⟩
  · rename_i hlen
    rw [if_neg hlen] at h
    split at h
    · cases h
    · rename_i hlarge
      rw [if_neg hlarge]
      exact ⟨_, rfl⟩

theorem bytesNeeded_pos {self : FramedReader} {needed : Nat}
    (h : self.bytesNeeded = .ok needed) : 0 < needed := by
  unfold FramedReader.bytesNeeded at h
  split at h
  · cases h
    omega
  · dsimp only at h
    split at h
    · cases h
    · cases h
      omega

/-- A read that delivers something, as long as something is left. -/
def ReadEvent.delivers : ReadEvent → Bool
  | .deliver n => 0 < n
  | .failed => false
  | .cancelled => false

/-- What a call returns for a report of the splitter. -/
def returned : Except Error Message → Except FrameError Message
  | .ok msg => .ok msg
  | .error err => .error (.protocol err)

theorem reported_returned (report : Except Error Message) :
    reported (some (returned report)) = some report := by
  cases report <;> rfl

/-- What a pass does: it cuts a frame and returns, returns without a message or a
protocol error and keeps its bytes, or moves some of the bytes it needs from the
stream to the buffer. -/
inductive PassEffect (w : LoopState) : Call ⊕ LoopState → Prop where
  | cut {report : Except Error Message} {rest : Bytes}
      (whole : splitFrame w.reader.buffer = some (report, rest)) :
      PassEffect w (.inl ⟨some (returned report), ⟨rest⟩, w.stream, w.schedule⟩)
  | waits (part : splitFrame w.reader.buffer = none) (last : w.schedule = []) :
      PassEffect w (.inl ⟨none, w.reader, w.stream, []⟩)
  | stops {outcome : Option (Except FrameError Message)} {event : ReadEvent}
      {rest : List ReadEvent} (part : splitFrame w.reader.buffer = none)
      (next : w.schedule = event :: rest) (silent : reported outcome = none)
      (idle : event.delivers = true → w.stream = []) :
      PassEffect w (.inl ⟨outcome, w.reader, w.stream, rest⟩)
  | reads {n needed : Nat} {rest : List ReadEvent}
      (part : splitFrame w.reader.buffer = none) (asked : w.reader.bytesNeeded = .ok needed)
      (next : w.schedule = .deliver n :: rest)
      (nonempty : (w.stream.take (min n needed)).length ≠ 0) :
      PassEffect w (.inr ⟨rest, ⟨w.reader.buffer ++ w.stream.take (min n needed)⟩,
        w.stream.drop (w.stream.take (min n needed)).length⟩)

theorem LoopState.pass_effect (w : LoopState) : PassEffect w w.pass := by
  unfold LoopState.pass
  rw [tryDecodeFrame_eq]
  cases hsplit : splitFrame w.reader.buffer with
  | some cut =>
      obtain ⟨report, rest⟩ := cut
      cases report with
      | error err => exact .cut hsplit
      | ok msg => exact .cut hsplit
  | none =>
      obtain ⟨needed, hneeded⟩ := bytesNeeded_of_splitFrame_none hsplit
      simp only [hneeded]
      split
      · rename_i hschedule
        exact .waits hsplit hschedule
      · rename_i hschedule
        exact .stops hsplit hschedule rfl nofun
      · rename_i hschedule
        exact .stops hsplit hschedule rfl nofun
      · rename_i n rest hschedule
        split
        · rename_i hempty
          refine .stops hsplit hschedule rfl ?_
          -- an empty read of at least one byte is the end of the stream
          intro hdelivers
          have hn : 0 < n := of_decide_eq_true hdelivers
          have hpos := bytesNeeded_pos hneeded
          rw [List.length_take] at hempty
          exact List.length_eq_zero_iff.mp (by omega)
        · rename_i hnonempty
          exact .reads hsplit hneeded hschedule hnonempty

/-- A call is a pass and, if the loop goes round, the same call from there. -/
theorem readMessage_eq_pass (w : LoopState) :
    readMessage w.schedule w.reader w.stream =
      match w.pass with
      | .inl call => call
      | .inr next => readMessage next.schedule next.reader next.stream := by
  obtain ⟨schedule, self, stream⟩ := w
  unfold LoopState.pass
  rw [readMessage.eq_def]
  dsimp only
  cases self.tryDecodeFrame with
  | mk result self =>
      rcases result with err | _ | msg
      · rfl
      · dsimp only
        cases self.bytesNeeded with
        | error err => rfl
        | ok needed =>
            rcases schedule with _ | ⟨_ | _ | _, rest⟩
            · rfl
            · dsimp only
              split <;> rfl
            · rfl
            · rfl
      · rfl

/-- A pass that goes round has used up a read. -/
theorem LoopState.schedule_lt_of_pass {w next : LoopState} (h : w.pass = .inr next) :
    next.schedule.length < w.schedule.length := by
  have heffect := w.pass_effect
  rw [h] at heffect
  cases heffect with
  | reads _ _ hnext =>
      rw [hnext]
      exact Nat.lt_succ_self _

/-- The loop rule: what a pass that ends the call establishes, and a pass that goes
round hands back, is established by the call. -/
theorem readMessage_induct {P : LoopState → Call → Prop}
    (ended : ∀ w call, w.pass = .inl call → P w call)
    (passed : ∀ w next call, w.pass = .inr next → P next call → P w call)
    (schedule : List ReadEvent) (self : FramedReader) (stream : Bytes) :
    P ⟨schedule, self, stream⟩ (readMessage schedule self stream) := by
  generalize hlength : schedule.length = n
  induction n using Nat.strongRecOn generalizing schedule self stream with
  | _ n ih =>
      have hcall := readMessage_eq_pass ⟨schedule, self, stream⟩
      cases hpass : LoopState.pass ⟨schedule, self, stream⟩ with
      | inl call =>
          rw [hpass] at hcall
          exact hcall ▸ ended _ call hpass
      | inr next =>
          rw [hpass] at hcall
          have hlt := LoopState.schedule_lt_of_pass hpass
          rw [hlength] at hlt
          exact hcall ▸ passed _ next _ hpass (ih _ hlt _ _ _ rfl)

/-- What a call has to establish: it either reports what the reference splitter
cuts off the bytes `ahead` of it, or reports nothing, loses no byte and holds no
complete frame. -/
def CallSpec (ahead : Bytes) (call : Call) : Prop :=
  match reported call.outcome with
  | some report => splitFrame ahead = some (report, call.reader.buffer ++ call.stream)
  | none =>
      call.reader.buffer ++ call.stream = ahead ∧ splitFrame call.reader.buffer = none

theorem take_append_drop_length_take (stream : Bytes) (n : Nat) :
    stream.take n ++ stream.drop (stream.take n).length = stream := by
  rw [List.length_take]
  rcases Nat.le_total n stream.length with h | h
  · rw [Nat.min_eq_left h, List.take_append_drop]
  · rw [Nat.min_eq_right h, List.take_of_length_le h, List.drop_length, List.append_nil]

/-- A read moves bytes from the stream to the buffer and leaves the bytes ahead of
the call as they were. -/
theorem readMessage_spec (schedule : List ReadEvent) (self : FramedReader) (stream : Bytes) :
    CallSpec (self.buffer ++ stream) (readMessage schedule self stream) := by
  apply readMessage_induct (P := fun w call => CallSpec (w.reader.buffer ++ w.stream) call)
  · intro w call hpass
    have heffect := w.pass_effect
    rw [hpass] at heffect
    unfold CallSpec
    cases heffect with
    | cut whole =>
        rw [reported_returned]
        exact splitFrame_append whole w.stream
    | waits part => exact ⟨rfl, part⟩
    | stops part _ silent =>
        simp only [silent]
        exact ⟨trivial, part⟩
  · intro w next call hpass hlater
    have heffect := w.pass_effect
    rw [hpass] at heffect
    cases heffect with
    | @reads n needed =>
        have hmove : (w.reader.buffer ++ w.stream.take (min n needed)) ++
            w.stream.drop (w.stream.take (min n needed)).length
              = w.reader.buffer ++ w.stream := by
          rw [List.append_assoc, take_append_drop_length_take]
        dsimp only at hlater
        rw [hmove] at hlater
        exact hlater

/-! ## Successive calls -/

theorem splitFrames_of_splitFrame {stream rest : Bytes} {report : Except Error Message}
    (h : splitFrame stream = some (report, rest)) (cuts : Nat) :
    splitFrames (cuts + 1) stream = report :: splitFrames cuts rest := by
  simp [splitFrames, h]

theorem splitFrames_of_splitFrame_none {stream : Bytes} (h : splitFrame stream = none)
    (cuts : Nat) : splitFrames cuts stream = [] := by
  cases cuts with
  | zero => rfl
  | succ cuts => simp [splitFrames, h]

/-- However many calls were made, they reported as many cuts of the stream. -/
theorem reports_eq_splitFrames (calls : Nat) (schedule : List ReadEvent) (self : FramedReader)
    (stream : Bytes) :
    let run := readMessages calls schedule self stream
    run.reports = splitFrames run.reports.length (self.buffer ++ stream) := by
  induction calls generalizing schedule self stream with
  | zero => rfl
  | succ calls ih =>
      have hcall := readMessage_spec schedule self stream
      unfold CallSpec at hcall
      simp only [readMessages, CallSequence.reports, List.filterMap_cons]
      generalize readMessage schedule self stream = call at hcall ⊢
      have hlater := ih call.schedule call.reader call.stream
      simp only [CallSequence.reports] at hlater
      cases hreport : reported call.outcome with
      | none =>
          rw [hreport] at hcall
          simp only [hcall.1] at hlater
          exact hlater
      | some report =>
          rw [hreport] at hcall
          simp only [List.length_cons, splitFrames_of_splitFrame hcall]
          exact congrArg _ hlater

/-! ## Progress -/

/-- The schedule delivers the whole stream. -/
def Delivers (schedule : List ReadEvent) (stream : Bytes) : Prop :=
  stream.length ≤ schedule.countP ReadEvent.delivers

/-- An event is needed only where it delivers something. -/
theorem Delivers.tail {event : ReadEvent} {schedule : List ReadEvent} {stream : Bytes}
    (h : Delivers (event :: schedule) stream) (idle : event.delivers = true → stream = []) :
    Delivers schedule stream := by
  unfold Delivers at h ⊢
  by_cases hdelivers : event.delivers = true
  · rw [idle hdelivers]
    exact Nat.zero_le _
  · rwa [List.countP_cons_of_neg hdelivers] at h

/-- A silent call used up an event of the schedule, if there was one. -/
def CallProgress (schedule : List ReadEvent) (call : Call) : Prop :=
  call.schedule.length ≤ schedule.length ∧
    (reported call.outcome = none → schedule ≠ [] → call.schedule.length < schedule.length)

theorem readMessage_progress (schedule : List ReadEvent) (self : FramedReader)
    (stream : Bytes) (hdelivers : Delivers schedule stream) :
    CallProgress schedule (readMessage schedule self stream) ∧
      Delivers (readMessage schedule self stream).schedule
        (readMessage schedule self stream).stream := by
  revert hdelivers
  apply readMessage_induct (P := fun w call => Delivers w.schedule w.stream →
    CallProgress w.schedule call ∧ Delivers call.schedule call.stream)
  · intro w call hpass hdelivers
    have heffect := w.pass_effect
    rw [hpass] at heffect
    unfold CallProgress
    cases heffect with
    | cut =>
        rw [reported_returned]
        exact ⟨⟨Nat.le_refl _, nofun⟩, hdelivers⟩
    | waits _ last =>
        rw [last] at hdelivers ⊢
        exact ⟨⟨Nat.le_refl _, fun _ h => absurd rfl h⟩, hdelivers⟩
    | @stops _ event rest _ hnext _ idle =>
        rw [hnext] at hdelivers ⊢
        exact ⟨⟨Nat.le_succ _, fun _ _ => Nat.lt_succ_self _⟩, hdelivers.tail idle⟩
  · intro w next call hpass hlater hdelivers
    have heffect := w.pass_effect
    rw [hpass] at heffect
    cases heffect with
    | @reads n needed rest _ _ hnext hnonempty =>
        have hmoved : Delivers rest (w.stream.drop (w.stream.take (min n needed)).length) := by
          unfold Delivers at hdelivers ⊢
          rw [hnext, List.countP_cons] at hdelivers
          rw [List.length_drop]
          split at hdelivers <;> omega
        obtain ⟨⟨hle, -⟩, hdelivered⟩ := hlater hmoved
        have hlt := Nat.lt_of_le_of_lt hle (LoopState.schedule_lt_of_pass hpass)
        exact ⟨⟨Nat.le_of_lt hlt, fun _ _ => hlt⟩, hdelivered⟩

/-- With the stream delivered and enough calls made, no cut goes unreported.  Each
call reports a cut or uses up an event; a call that is silent with no event left
has the whole stream in its buffer and finds no frame there. -/
theorem splitFrames_prefix_reports (cuts calls : Nat) (schedule : List ReadEvent)
    (self : FramedReader) (stream : Bytes) (hdelivers : Delivers schedule stream)
    (hcalls : schedule.length + cuts ≤ calls) :
    splitFrames cuts (self.buffer ++ stream) <+:
      (readMessages calls schedule self stream).reports := by
  induction calls generalizing cuts schedule self stream with
  | zero =>
      obtain rfl : cuts = 0 := by omega
      exact List.nil_prefix
  | succ calls ih =>
      have hcall := readMessage_spec schedule self stream
      obtain ⟨⟨hle, hlt⟩, hlater⟩ := readMessage_progress schedule self stream hdelivers
      unfold CallSpec at hcall
      simp only [readMessages, CallSequence.reports, List.filterMap_cons]
      generalize readMessage schedule self stream = call at hcall hle hlt hlater ⊢
      cases hreport : reported call.outcome with
      | some report =>
          rw [hreport] at hcall
          cases cuts with
          | zero => exact List.nil_prefix
          | succ cuts =>
              rw [splitFrames_of_splitFrame hcall, List.cons_prefix_cons]
              exact ⟨rfl, ih cuts call.schedule call.reader call.stream hlater (by omega)⟩
      | none =>
          rw [hreport] at hcall
          obtain ⟨hahead, hnone⟩ := hcall
          by_cases hschedule : schedule = []
          · subst hschedule
            have hstream : call.stream = [] := by
              unfold Delivers at hlater
              rw [List.length_eq_zero_iff.mp (Nat.le_zero.mp hle)] at hlater
              exact List.length_eq_zero_iff.mp (Nat.le_zero.mp hlater)
            rw [hstream, List.append_nil] at hahead
            rw [← hahead, splitFrames_of_splitFrame_none hnone]
            exact List.nil_prefix
          · have hshorter := hlt hreport hschedule
            rw [← hahead]
            exact ih cuts call.schedule call.reader call.stream hlater (by omega)

/-! ## The reader against the reference -/

/-- An encoded message in front of a stream is the first cut. -/
theorem splitFrame_of_encode {msg : Message} {frame : Bytes} (h : encode msg = .ok frame)
    (rest : Bytes) : splitFrame (frame ++ rest) = some (.ok msg, rest) := by
  have hdecode := (decode_eq_ok_iff_encode frame msg).mpr h
  obtain ⟨hheader, -, -, hle, hlen, -⟩ := (decode_eq_ok_iff_header frame msg).mp hdecode
  have hannounced : HEADER_LEN + announcedLen frame = frame.length := hlen.symm
  have hsmall : ¬ announcedLen frame > MAX_PAYLOAD := Nat.not_lt.mpr hle
  have hsplit : splitFrame frame = some (.ok msg, []) := by
    unfold splitFrame
    rw [if_neg (by omega), if_neg hsmall, if_neg (by omega), hannounced,
      List.take_length, List.drop_length, hdecode]
  simpa using splitFrame_append hsplit rest

/-- The frames of a list of messages, cut one after the other. -/
theorem splitFrames_flatten {msgs : List Message} {frames : List Bytes}
    (h : List.Forall₂ (fun msg frame => encode msg = .ok frame) msgs frames) (cuts : Nat) :
    splitFrames cuts frames.flatten = (msgs.take cuts).map .ok := by
  induction h generalizing cuts with
  | nil =>
      rw [List.flatten_nil, splitFrames_of_splitFrame_none (by decide), List.take_nil]
      rfl
  | @cons msg frame msgs frames hencode hframes ih =>
      cases cuts with
      | zero => rfl
      | succ cuts =>
          rw [List.flatten_cons, splitFrames_of_splitFrame (splitFrame_of_encode hencode _),
            ih, List.take_succ_cons, List.map_cons]

/-- The reports do not depend on how the stream is cut into reads.  Any number of
calls, under any schedule, reports an initial part of what the reference splitter
reports on the whole stream; when the schedule delivers the stream, every report
of the splitter is made by enough calls.  On a stream of encoded messages these
are the messages. -/
theorem readMessages_eq_splitFrames (schedule : List ReadEvent) (stream : Bytes) :
    (∀ calls,
      let run := readMessages calls schedule FramedReader.new stream
      run.reports = splitFrames run.reports.length stream) ∧
    (Delivers schedule stream → ∀ cuts calls, schedule.length + cuts ≤ calls →
      splitFrames cuts stream <+: (readMessages calls schedule FramedReader.new stream).reports) ∧
    (∀ msgs frames, List.Forall₂ (fun msg frame => encode msg = .ok frame) msgs frames →
      stream = frames.flatten →
      (∀ calls, (readMessages calls schedule FramedReader.new stream).reports <+:
        msgs.map .ok) ∧
      (Delivers schedule stream → ∀ calls, schedule.length + msgs.length ≤ calls →
        (readMessages calls schedule FramedReader.new stream).reports = msgs.map .ok)) := by
  have hsafe := fun calls => reports_eq_splitFrames calls schedule FramedReader.new stream
  have hlive := fun hdelivers cuts calls =>
    splitFrames_prefix_reports cuts calls schedule FramedReader.new stream hdelivers
  refine ⟨hsafe, hlive, ?_⟩
  intro msgs frames hframes hstream
  have hinitial : ∀ calls,
      (readMessages calls schedule FramedReader.new stream).reports <+: msgs.map .ok := by
    intro calls
    have hcalls : (readMessages calls schedule FramedReader.new stream).reports = _ :=
      hsafe calls
    have hcuts := splitFrames_flatten hframes
      (readMessages calls schedule FramedReader.new stream).reports.length
    rw [← hstream] at hcuts
    rw [hcalls, show FramedReader.new.buffer ++ stream = stream from rfl, hcuts, List.map_take]
    exact List.take_prefix _ _
  refine ⟨hinitial, ?_⟩
  intro hdelivers calls hcalls
  have hall := hlive hdelivers msgs.length calls hcalls
  rw [show FramedReader.new.buffer ++ stream = stream from rfl, hstream,
    splitFrames_flatten hframes, List.take_length, ← hstream] at hall
  exact (hinitial calls).eq_of_length_le hall.length_le

/-- Two frames read in pieces that cross their boundary, with a dropped call and an
early end of stream in between. -/
theorem readMessages_two_frames_in_pieces :
    (readMessages 33 (.deliver 3 :: .cancelled :: .deliver 0 :: List.replicate 28 (.deliver 9))
      FramedReader.new (frameBytes (.detach 7) ++ frameBytes (.detach 8))).reports
      = [.ok (.detach 7), .ok (.detach 8)] := by
  have hencode : ∀ id, encode (.detach id) = .ok (frameBytes (.detach id)) := fun id =>
    (encode_eq_ok_iff _ _).mpr ⟨⟨trivial, by simp [payloadBytes, MAX_PAYLOAD]⟩, rfl⟩
  have hframes : List.Forall₂ (fun msg frame => encode msg = .ok frame)
      [.detach 7, .detach 8] [frameBytes (.detach 7), frameBytes (.detach 8)] :=
    .cons (hencode 7) (.cons (hencode 8) .nil)
  apply ((readMessages_eq_splitFrames _ _).2.2 _ _ hframes rfl).2
  · unfold Delivers
    decide
  · decide

end FarBus.Core
