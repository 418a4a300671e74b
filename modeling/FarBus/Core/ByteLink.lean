/-
  Core/ByteLink.lean --- one direction of a connection, byte by byte: `write_message` at
  one end, a `FramedReader` at the other (`crates/farbus-core/src/frame.rs`).

  `write_message` encodes its message and gives the frame to `write_all`, which the stream
  takes in pieces of its own choice.  The reader gets pieces of another choice, its call
  may be dropped between any two of them, and both ends go on at the same time.

  `refines_channel` says that all this is a channel of messages: the order of what is
  written and read is that of a run of `Channel`.  `delivers_all` says that the bytes on
  the way become messages after boundedly many steps.
-/
import FarBus.Core.Client
import FarBus.Foundation.Channel

set_option autoImplicit false

namespace FarBus.Core

open FarBus.Foundation
open FarBus.Protocol

structure ByteLink where
  /-- what `write_all` has not handed over yet -/
  writing : Bytes := []
  /-- the bytes on the way -/
  wire : Bytes := []
  /-- the writer has gone -/
  closed : Bool := false
  reader : FramedReader := FramedReader.new

inductive ByteLinkAction where
  /-- `write_message` is called -/
  | write (msg : Message)
  /-- the stream takes the next bytes of the frame -/
  | accept (n : Nat)
  /-- the writer is dropped, with the rest of its frame -/
  | close
  /-- a pass of the loop of `read_message`, and what its read does -/
  | read (event : ReadEvent)

namespace ByteLink

/-- A pass that finds a frame does not read.  Where one does, an open stream leaves it
waiting, rather than deliver nothing. -/
def permits (self : ByteLink) : ReadEvent → Bool
  | .deliver n =>
      (splitFrame self.reader.buffer).isSome || 0 < n && (self.wire != [] || self.closed)
  | .failed | .cancelled => true

/-- The pass, and what it makes the call return. -/
def readPass (self : ByteLink) (event : ReadEvent) :
    Option (Except FrameError Message) × ByteLink :=
  match LoopState.pass ⟨[event], self.reader, self.wire⟩ with
  | .inl call => (call.outcome, { self with reader := call.reader, wire := call.stream })
  | .inr next => (none, { self with reader := next.reader, wire := next.stream })

def step (self : ByteLink) : ByteLinkAction → Option ByteLink
  | .write msg =>
      if self.closed || self.writing != [] then none
      else
        match encode msg with
        | .error _ => some self
        | .ok frame => some { self with writing := frame }
  | .accept n =>
      if self.closed then none
      else some { self with
        wire := self.wire ++ self.writing.take n
        writing := self.writing.drop n }
  | .close => if self.closed then none else some { self with writing := [], closed := true }
  | .read event => if self.permits event then some (self.readPass event).2 else none

abbrev Runs (history : History ByteLink ByteLinkAction) (link : ByteLink) : Prop :=
  Run step {} history link

/-- What a step of the link returns to the caller of `read_message`. -/
def returns (t : Transition ByteLink ByteLinkAction) : Option (Except FrameError Message) :=
  match t.act with
  | .read event => (t.pre.readPass event).1
  | .write _ | .accept _ | .close => none

/-- What a step of the link is to a channel of messages. -/
def seen (t : Transition ByteLink ByteLinkAction) : List (ChannelEvent Message) :=
  match t.act with
  | .write msg =>
      match encode msg with
      | .error _ => []
      | .ok _ => [.send msg]
  | .accept _ => []
  | .close => [.close (t.pre.writing != [])]
  | .read event =>
      match (t.pre.readPass event).1 with
      | some (.ok msg) => [.receive msg]
      | some (.error (.io .unexpectedEof)) => [.ended]
      | some (.error (.io .other)) => []
      | some (.error (.protocol _)) => []
      | none => []

/-! ## The bytes and the messages -/

/-- The frames of messages. -/
abbrev Frames (msgs : List Message) (frames : List Bytes) : Prop :=
  List.Forall₂ (fun msg frame => encode msg = .ok frame) msgs frames

/-- The link against the channel: the bytes that were taken and not yet decoded are the
frames of the messages in flight, and what a writer that is gone left of its last one. -/
structure Carries (link : ByteLink) (channel : Channel Message) : Prop where
  bytes : ∃ frames scrap, Frames channel.inFlight frames ∧
    link.reader.buffer ++ link.wire ++ link.writing = frames.flatten ++ scrap ∧
    splitFrame scrap = none ∧ (link.closed = false → scrap = []) ∧
    (link.writing ≠ [] → ∃ earlier last, frames = earlier ++ [last] ∧ link.writing <:+ last)
  closed_eq : channel.closed = link.closed
  idle_of_closed : link.closed = true → link.writing = []

theorem carries_start : Carries {} {} :=
  ⟨⟨[], [], .nil, rfl, by decide, fun _ => rfl, fun h => absurd rfl h⟩, rfl, nofun⟩

/-- Part of a frame is not cut. -/
theorem splitFrame_of_encode_part {msg : Message} {frame start rest : Bytes}
    (h : encode msg = .ok frame) (hparts : frame = start ++ rest) (hrest : rest ≠ []) :
    splitFrame start = none := by
  cases hsplit : splitFrame start with
  | none => rfl
  | some cut =>
      obtain ⟨report, left⟩ := cut
      have hwhole := splitFrame_append hsplit rest
      have hframe := splitFrame_of_encode h []
      rw [List.append_nil, hparts, hwhole] at hframe
      have hleft : left ++ rest = [] := (Prod.mk.inj (Option.some.inj hframe)).2
      exact absurd (List.append_eq_nil_iff.mp hleft).2 hrest

/-- Without its last frame, a list of messages has lost its last. -/
theorem Frames.of_append_last {msgs : List Message} {earlier : List Bytes} {last : Bytes}
    (h : Frames msgs (earlier ++ [last])) :
    ∃ msgs' msg, msgs = msgs' ++ [msg] ∧ Frames msgs' earlier ∧ encode msg = .ok last := by
  have hearlier := List.forall₂_take_append msgs earlier [last] h
  have hlast := List.forall₂_drop_append msgs earlier [last] h
  generalize hdrop : msgs.drop earlier.length = dropped at hlast
  cases hlast with
  | cons hmsg hnil =>
      cases hnil
      exact ⟨_, _, by rw [← hdrop, List.take_append_drop], hearlier, hmsg⟩

/-! ## A pass of the reader -/

/-- What a pass of the reader does, with the bytes it moves. -/
inductive ReadCases (link : ByteLink) :
    ReadEvent → Option (Except FrameError Message) → ByteLink → Prop where
  | receives {event : ReadEvent} {msg : Message} {rest : Bytes}
      (whole : splitFrame link.reader.buffer = some (.ok msg, rest)) :
      ReadCases link event (some (.ok msg)) { link with reader := ⟨rest⟩ }
  | refuses {event : ReadEvent} {err : Error} {rest : Bytes}
      (whole : splitFrame link.reader.buffer = some (.error err, rest)) :
      ReadCases link event (some (.error (.protocol err))) { link with reader := ⟨rest⟩ }
  | ended {n : Nat} (part : splitFrame link.reader.buffer = none)
      (closed : link.closed = true) (empty : link.wire = []) :
      ReadCases link (.deliver n) (some (.error (.io .unexpectedEof))) link
  | failed (part : splitFrame link.reader.buffer = none) :
      ReadCases link .failed (some (.error (.io .other))) link
  | cancelled (part : splitFrame link.reader.buffer = none) :
      ReadCases link .cancelled none link
  | moves {n k : Nat} (part : splitFrame link.reader.buffer = none) (some_bytes : 0 < k)
      (there : k ≤ link.wire.length) :
      ReadCases link (.deliver n) none
        { link with
          reader := ⟨link.reader.buffer ++ link.wire.take k⟩
          wire := link.wire.drop k }

theorem readPass_cases {link : ByteLink} {event : ReadEvent}
    (permitted : link.permits event = true) :
    ReadCases link event (link.readPass event).1 (link.readPass event).2 := by
  unfold readPass LoopState.pass
  rw [tryDecodeFrame_eq]
  cases hsplit : splitFrame link.reader.buffer with
  | some cut =>
      obtain ⟨report, rest⟩ := cut
      cases report with
      | error err => exact .refuses hsplit
      | ok msg => exact .receives hsplit
  | none =>
      obtain ⟨needed, hneeded⟩ := bytesNeeded_of_splitFrame_none hsplit
      have hpos := bytesNeeded_pos hneeded
      simp only [hneeded]
      cases event with
      | failed => exact .failed hsplit
      | cancelled => exact .cancelled hsplit
      | deliver n =>
          simp only [permits, hsplit, Option.isSome_none, Bool.false_or, Bool.and_eq_true,
            Bool.or_eq_true, decide_eq_true_eq, bne_iff_ne] at permitted
          obtain ⟨hn, havailable⟩ := permitted
          have hlength := List.length_take (i := min n needed) (l := link.wire)
          by_cases hempty : (link.wire.take (min n needed)).length = 0
          · have hwire : link.wire = [] := List.length_eq_zero_iff.mp (by omega)
            simp only [if_pos hempty]
            exact .ended hsplit (havailable.resolve_left (not_not_intro hwire)) hwire
          · simp only [if_neg hempty]
            have hmoved := ReadCases.moves (n := n) hsplit (Nat.pos_of_ne_zero hempty)
              (List.length_take_le' _ _)
            rw [List.length_take, ← List.take_eq_take_min] at hmoved
            rwa [List.length_take]

/-! ## The steps are those of a channel -/

/-- What a step of the link has to come with: a run of the channel that takes what is
seen of the step. -/
def Matches (events : List (ChannelEvent Message)) (channel : Channel Message)
    (link : ByteLink) : Prop :=
  ∃ history channel', Run Channel.step channel history channel' ∧ labels history = events ∧
    Carries link channel'

theorem Matches.none {channel : Channel Message} {link : ByteLink} (h : Carries link channel) :
    Matches [] channel link := ⟨[], channel, .nil, rfl, h⟩

theorem Matches.one {channel channel' : Channel Message} {event : ChannelEvent Message}
    {link : ByteLink} (taken : channel.step event = some channel') (h : Carries link channel') :
    Matches [event] channel link :=
  ⟨[⟨channel, event, channel'⟩], channel', .snoc .nil taken, rfl, h⟩

variable {link : ByteLink} {channel : Channel Message}

theorem Carries.write (h : Carries link channel) (hopen : link.closed = false)
    (hidle : link.writing = []) {msg : Message} {frame : Bytes} (hencode : encode msg = .ok frame) :
    Matches [.send msg] channel { link with writing := frame } := by
  obtain ⟨frames, scrap, hframes, hbytes, -, hwhole, -⟩ := h.bytes
  have hsend := Channel.step_send (h.closed_eq.trans hopen) msg
  refine .one hsend ⟨⟨frames ++ [frame], [], ?_, ?_, by decide, fun _ => rfl, ?_⟩, ?_, ?_⟩
  · exact List.rel_append hframes (.cons hencode .nil)
  · rw [hidle, hwhole hopen, List.append_nil, List.append_nil] at hbytes
    rw [hbytes, List.flatten_append, List.flatten_singleton, List.append_nil]
  · exact fun _ => ⟨frames, frame, rfl, List.suffix_refl frame⟩
  · exact h.closed_eq
  · intro hclosed
    rw [hopen] at hclosed
    cases hclosed

theorem Carries.accept (h : Carries link channel) (hopen : link.closed = false) (n : Nat) :
    Carries { link with wire := link.wire ++ link.writing.take n
                        writing := link.writing.drop n } channel := by
  obtain ⟨frames, scrap, hframes, hbytes, hscrap, hwhole, hlast⟩ := h.bytes
  refine ⟨⟨frames, scrap, hframes, ?_, hscrap, hwhole, ?_⟩, h.closed_eq, ?_⟩
  · rw [← hbytes]
    simp only [List.append_assoc, List.take_append_drop]
  · intro hleft
    obtain ⟨earlier, last, hframes, hsuffix⟩ := hlast fun hnone => hleft (by rw [hnone, List.drop_nil])
    exact ⟨earlier, last, hframes, (List.drop_suffix n _).trans hsuffix⟩
  · intro hclosed
    rw [hopen] at hclosed
    cases hclosed

theorem Carries.close (h : Carries link channel) (hopen : link.closed = false) :
    Matches [.close (link.writing != [])] channel { link with writing := [], closed := true } := by
  obtain ⟨frames, scrap, hframes, hbytes, hscrap, hwhole, hlast⟩ := h.bytes
  have hclosed := h.closed_eq.trans hopen
  rw [hwhole hopen, List.append_nil] at hbytes
  by_cases hidle : link.writing = []
  · have hstep : channel.step (.close (link.writing != [])) = some { channel with closed := true } := by
      simp [Channel.step, hclosed, hidle]
    refine .one hstep ⟨⟨frames, [], hframes, ?_, by decide, fun _ => rfl, fun h => absurd rfl h⟩,
      rfl, fun _ => rfl⟩
    rw [hidle] at hbytes
    rw [hbytes, List.append_nil]
  · -- what is left of the last frame on the way is no frame
    obtain ⟨earlier, last, rfl, start, hparts⟩ := hlast hidle
    obtain ⟨msgs, msg, hflight, hearlier, hencode⟩ := Frames.of_append_last hframes
    have hstep : channel.step (.close (link.writing != [])) =
        some { inFlight := msgs, closed := true } := by
      simp [Channel.step, hclosed, hidle, hflight]
    have hscrap := splitFrame_of_encode_part hencode hparts.symm hidle
    refine .one hstep ⟨⟨earlier, start, hearlier, ?_, hscrap, fun hopen => ?_,
      fun h => absurd rfl h⟩, rfl, fun _ => rfl⟩
    · rw [List.flatten_append, List.flatten_singleton, ← hparts, ← List.append_assoc] at hbytes
      rw [List.append_nil, List.append_cancel_right hbytes]
    · cases hopen

/-- What is cut off the buffer is the frame of the first message in flight. -/
theorem Carries.cut (h : Carries link channel) {report : Except Error Message} {rest : Bytes}
    (whole : splitFrame link.reader.buffer = some (report, rest)) :
    ∃ msg, report = .ok msg ∧ Matches [.receive msg] channel { link with reader := ⟨rest⟩ } := by
  obtain ⟨frames, scrap, hframes, hbytes, hscrap, hwhole, hlast⟩ := h.bytes
  have hsplit := splitFrame_append whole (link.wire ++ link.writing)
  rw [← List.append_assoc, hbytes] at hsplit
  generalize hflight : channel.inFlight = msgs at hframes
  cases hframes with
  | nil =>
      rw [List.flatten_nil, List.nil_append, hscrap] at hsplit
      cases hsplit
  | @cons msg frame msgs frames hencode hframes =>
      rw [List.flatten_cons, List.append_assoc, splitFrame_of_encode hencode] at hsplit
      obtain ⟨hreport, hrest⟩ := Prod.mk.inj (Option.some.inj hsplit)
      refine ⟨msg, hreport.symm, .one (Channel.step_receive hflight)
        ⟨⟨frames, scrap, hframes, ?_, hscrap, hwhole, ?_⟩, h.closed_eq, h.idle_of_closed⟩⟩
      · rw [hrest, ← List.append_assoc]
      · intro hleft
        obtain ⟨earlier, last, hlast, hsuffix⟩ := hlast hleft
        cases earlier with
        | cons head earlier =>
            exact ⟨earlier, last, (List.cons.inj hlast).2, hsuffix⟩
        | nil =>
            -- the only frame was in the buffer, so nothing of it is left to write
            have hopen : link.closed = false :=
              Bool.eq_false_iff.mpr fun hclosed => hleft (h.idle_of_closed hclosed)
            obtain rfl : msgs = [] := by
              cases hframes with
              | nil => rfl
              | cons => cases hlast
            cases hframes
            rw [hwhole hopen] at hrest
            exact absurd (List.append_eq_nil_iff.mp (List.append_eq_nil_iff.mp hrest.symm).2).2 hleft

/-- At the end of the stream nothing is in flight. -/
theorem Carries.inFlight_eq_nil (h : Carries link channel)
    (part : splitFrame (link.reader.buffer ++ link.wire ++ link.writing) = none) :
    channel.inFlight = [] := by
  obtain ⟨frames, scrap, hframes, hbytes, -⟩ := h.bytes
  rw [hbytes] at part
  generalize channel.inFlight = msgs at hframes
  cases hframes with
  | nil => rfl
  | cons hencode =>
      rw [List.flatten_cons, List.append_assoc, splitFrame_of_encode hencode] at part
      cases part

/-- Every step of the link is what is seen of it to the channel. -/
theorem Carries.step {act : ByteLinkAction} {post : ByteLink} (h : Carries link channel)
    (taken : link.step act = some post) :
    Matches (seen ⟨link, act, post⟩) channel post ∧
      ∀ err, returns ⟨link, act, post⟩ ≠ some (.error (.protocol err)) := by
  cases act with
  | write msg =>
      refine ⟨?_, nofun⟩
      dsimp only [ByteLink.step] at taken
      split at taken
      · cases taken
      · rename_i hfree
        simp only [Bool.or_eq_true, bne_iff_ne, not_or, Bool.not_eq_true, ne_eq, not_not] at hfree
        unfold seen
        cases hencode : encode msg with
        | error err =>
            simp only [hencode] at taken ⊢
            cases taken
            exact .none h
        | ok frame =>
            simp only [hencode] at taken ⊢
            cases taken
            exact h.write hfree.1 hfree.2 hencode
  | accept n =>
      refine ⟨?_, nofun⟩
      dsimp only [ByteLink.step] at taken
      split at taken
      · cases taken
      · rename_i hopen
        cases taken
        exact .none (h.accept (Bool.eq_false_iff.mpr hopen) n)
  | close =>
      refine ⟨?_, nofun⟩
      dsimp only [ByteLink.step] at taken
      split at taken
      · cases taken
      · rename_i hopen
        cases taken
        exact h.close (Bool.eq_false_iff.mpr hopen)
  | read event =>
      dsimp only [ByteLink.step] at taken
      split at taken
      · rename_i permitted
        cases taken
        dsimp only [seen, returns]
        have hcases := readPass_cases permitted
        generalize (link.readPass event).1 = outcome at hcases ⊢
        generalize (link.readPass event).2 = post at hcases ⊢
        cases hcases with
        | receives whole =>
            obtain ⟨msg, hreport, hmatches⟩ := h.cut whole
            cases hreport
            exact ⟨hmatches, nofun⟩
        | refuses whole =>
            obtain ⟨msg, hreport, -⟩ := h.cut whole
            cases hreport
        | ended part closed empty =>
            have hflight : channel.inFlight = [] := h.inFlight_eq_nil (by
              rw [empty, h.idle_of_closed closed, List.append_nil, List.append_nil]
              exact part)
            exact ⟨.one (Channel.step_ended (h.closed_eq.trans closed) hflight) h, nofun⟩
        | failed part => exact ⟨.none h, nofun⟩
        | cancelled part => exact ⟨.none h, nofun⟩
        | @moves n k part _ _ =>
            refine ⟨.none ?_, nofun⟩
            obtain ⟨frames, scrap, hframes, hbytes, hrest⟩ := h.bytes
            refine ⟨⟨frames, scrap, hframes, ?_, hrest⟩, h.closed_eq, h.idle_of_closed⟩
            rw [← hbytes, List.append_assoc link.reader.buffer, List.take_append_drop]
      · cases taken

/-- Whatever pieces the bytes are taken and read in, whoever is dropped in between and
however the two ends interleave: what the callers see is a run of a channel of
messages, and no frame is ever found that does not decode. -/
theorem refines_channel {history : History ByteLink ByteLinkAction} {link : ByteLink}
    (run : Runs history link) :
    (∃ history' channel, Run Channel.step {} history' channel ∧
      labels history' = collect seen history ∧ Carries link channel) ∧
    ∀ t ∈ history, ∀ err, returns t ≠ some (.error (.protocol err)) := by
  have hsimulates : ∀ {history link}, Runs history link →
      ∃ history' channel, Run Channel.step {} history' channel ∧
        labels history' = collect seen history ∧ Carries link channel :=
    fun run => run.simulates (fun h taken => (h.step taken).1) carries_start
  refine ⟨hsimulates run, ?_⟩
  intro t mem
  obtain ⟨later, earlier, rfl⟩ := List.append_of_mem mem
  obtain ⟨hearlier, taken, -⟩ := run.cut
  obtain ⟨_, channel, _, _, hcarries⟩ := hsimulates hearlier
  exact (hcarries.step taken).2

/-- A writer that is dropped in its second frame: the first message arrives, then the end
of the stream. -/
theorem refines_channel_torn :
    let reached := replay step [.write (.detach 7), .accept 18, .write (.detach 8), .accept 5,
      .read (.deliver 10), .close, .read (.deliver 10), .read (.deliver 1), .read (.deliver 9),
      .read (.deliver 9)] ([], {})
    Channel.torn (collect seen reached.1) = true ∧
      (∃ history' channel, Run Channel.step {} history' channel ∧
        labels history' = collect seen reached.1 ∧ Carries reached.2 channel) ∧
      ∀ t ∈ reached.1, ∀ err, returns t ≠ some (.error (.protocol err)) :=
  ⟨by decide, refines_channel (Run.nil.replay _)⟩

/-! ## The bytes get there -/

/-- How far the bytes have still to go: out of the writer, off the wire, and out of the
buffer. -/
def weight (self : ByteLink) : Nat :=
  3 * self.writing.length + 2 * self.wire.length + self.reader.buffer.length

/-- Whether a step takes bytes further. -/
def moves (t : Transition ByteLink ByteLinkAction) : Bool :=
  match t.act with
  | .accept n => 0 < n && t.pre.writing != []
  | .read (.deliver _) => t.pre.wire != [] || (splitFrame t.pre.reader.buffer).isSome
  | .write _ | .close | .read .failed | .read .cancelled => false

theorem length_lt_of_splitFrame {buffer rest : Bytes} {msg : Message}
    (h : splitFrame buffer = some (.ok msg, rest)) : rest.length < buffer.length := by
  unfold splitFrame at h
  split at h
  · cases h
  rename_i hlen
  split at h
  · cases h
  split at h
  · cases h
  obtain ⟨-, rfl⟩ := Prod.mk.inj (Option.some.inj h)
  unfold HEADER_LEN at hlen ⊢
  rw [List.length_drop]
  omega

theorem Carries.weight_lt {act : ByteLinkAction} {post : ByteLink} (h : Carries link channel)
    (taken : link.step act = some post) (hmoves : moves ⟨link, act, post⟩ = true) :
    weight post < weight link := by
  unfold weight
  cases act with
  | write msg => cases hmoves
  | close => cases hmoves
  | accept n =>
      simp only [moves, Bool.and_eq_true, decide_eq_true_eq, bne_iff_ne] at hmoves
      have hlength : 0 < link.writing.length := List.length_pos_iff.mpr hmoves.2
      dsimp only [ByteLink.step] at taken
      split at taken
      · cases taken
      · cases taken
        simp only [List.length_append, List.length_take, List.length_drop]
        omega
  | read event =>
      dsimp only [ByteLink.step] at taken
      split at taken
      · rename_i permitted
        cases taken
        have hcases := readPass_cases permitted
        cases event with
        | failed => cases hmoves
        | cancelled => cases hmoves
        | deliver n =>
            simp only [moves, Bool.or_eq_true, bne_iff_ne] at hmoves
            generalize (link.readPass (.deliver n)).1 = outcome at hcases
            generalize (link.readPass (.deliver n)).2 = post at hcases ⊢
            cases hcases with
            | receives whole =>
                have hshorter := length_lt_of_splitFrame whole
                dsimp only
                omega
            | refuses whole =>
                obtain ⟨msg, hreport, -⟩ := h.cut whole
                cases hreport
            | ended part closed empty =>
                rw [part] at hmoves
                exact hmoves.elim (absurd empty) nofun
            | moves part some_bytes there =>
                simp only [List.length_append, List.length_take, List.length_drop]
                omega
      · cases taken

/-- Where nothing moves any more, no message is in flight. -/
theorem Carries.drained (h : Carries link channel)
    (still : ∀ act post, link.step act = some post → moves ⟨link, act, post⟩ = false) :
    channel.inFlight = [] := by
  have hwriting : link.writing = [] := by
    by_contra hleft
    have hopen : link.closed = false :=
      Bool.eq_false_iff.mpr fun hclosed => hleft (h.idle_of_closed hclosed)
    have hstill := still (.accept 1) _ (if_neg (by rw [hopen]; nofun))
    simp [moves, hleft] at hstill
  have hwire : link.wire = [] := by
    by_contra hleft
    have hstill := still (.read (.deliver 1)) _ (if_pos (by simp [permits, hleft]))
    simp [moves, hleft] at hstill
  have hpart : splitFrame link.reader.buffer = none := by
    by_contra hcut
    have hwhole := Option.isSome_iff_ne_none.mpr hcut
    have hstill := still (.read (.deliver 1)) _ (if_pos (by simp [permits, hwhole]))
    simp [moves, hwhole] at hstill
  apply h.inFlight_eq_nil
  rwa [hwriting, hwire, List.append_nil, List.append_nil]

/-- From wherever the link is, the bytes can be moved a bounded number of times only, and
once nothing moves any more every message has been received, in order; but for the last
one, if the writer went in the middle of it. -/
theorem delivers_all {history later : History ByteLink ByteLinkAction} {link link' : ByteLink}
    (run : Runs history link) (run' : Run step link later link') (hmoves : ∀ t ∈ later, moves t = true) :
    let events := collect seen (later ++ history)
    later.length + weight link' ≤ weight link ∧
    Channel.received events <+: Channel.sent events ∧
    ((∀ act post, link'.step act = some post → moves ⟨link', act, post⟩ = false) →
      (Channel.sent events).length =
        (Channel.received events).length + (Channel.torn events).toNat) := by
  intro events
  have hbound : later.length + weight link' ≤ weight link := by
    refine run'.length_le weight fun t mem taken => ?_
    obtain ⟨after, before, rfl⟩ := List.append_of_mem mem
    obtain ⟨⟨_, channel, _, _, hcarries⟩, -⟩ := refines_channel (run.trans run'.cut.1)
    exact hcarries.weight_lt taken (hmoves t mem)
  obtain ⟨⟨history', channel, channelRun, hlabels, hcarries⟩, -⟩ :=
    refines_channel (run.trans run')
  obtain ⟨⟨lost, hsent, hlost⟩, -⟩ := Channel.accounted channelRun
  rw [hlabels] at hsent hlost
  refine ⟨hbound, ⟨channel.inFlight ++ lost, ?_⟩, ?_⟩
  · rw [← List.append_assoc]
    exact hsent.symm
  · intro still
    rw [hcarries.drained still, List.append_nil] at hsent
    rw [hsent, List.length_append, hlost]

/-- A frame of eighteen bytes, taken in three pieces and read in four, with a dropped call
in between. -/
theorem delivers_all_in_pieces :
    let started := replay step [.write (.detach 7), .accept 4, .read .cancelled] ([], {})
    let ended := replay step [.read (.deliver 3), .accept 9, .read (.deliver 9), .read (.deliver 9),
      .accept 9, .read (.deliver 9), .read (.deliver 9)] ([], started.2)
    let events := collect seen (ended.1 ++ started.1)
    Channel.received events = [.detach 7] ∧ Channel.received events <+: Channel.sent events :=
  ⟨by decide, (delivers_all (Run.nil.replay _) (Run.nil.replay _) (by decide)).2.1⟩

end ByteLink

end FarBus.Core
