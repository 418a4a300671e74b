/-
  Core/UsbipPdu.lean --- the headers of USB/IP commands and replies, from
  `crates/farbus-protocol/src/usbip.rs`, and where the URB loops put what they echo.

  A submit header and its reply are read back from what they encode to, whatever follows,
  and encode back to the bytes they were read from.  An unlink is only read and its reply
  only written, so what is compared there is the reply with the command it answers.
-/
import FarBus.Core.UsbipReplies

set_option autoImplicit false

namespace FarBus.Core

open FarBus.Foundation
open FarBus.Protocol

/-- The reply has what identifies the command where the command has it, then the status,
then nothing. -/
structure EchoesUnlink (header : Bytes) (status : Int32) (reply : Bytes) : Prop where
  length : reply.length = 48
  word : readU32Be reply 0 = .ok USBIP_RET_UNLINK
  echoed : (reply.drop 4).take 16 = (header.drop 4).take 16
  status : (reply.drop 20).take 4 = i32Be status
  rest : reply.drop 24 = List.replicate 24 0

/-- The fields of a command are the words that the reply repeats. -/
def UnlinkFields (cmd : UsbipCmdUnlink) (bytes : Bytes) : Prop :=
  readU32Be bytes 4 = .ok cmd.seqnum ∧ readU32Be bytes 8 = .ok cmd.devid ∧
    readU32Be bytes 12 = .ok cmd.direction ∧ readU32Be bytes 16 = .ok cmd.ep

theorem unlinkFields_retUnlink (cmd : UsbipCmdUnlink) (status : Int32) :
    UnlinkFields cmd (retUnlink cmd status).encode := by
  simp only [UnlinkFields, UsbipRetUnlink.encode, retUnlink, readU32Be_skip, readU32Be_head,
    and_self]

theorem unlinkFields_of_decode {header : Bytes} {cmd : UsbipCmdUnlink}
    (h : UsbipCmdUnlink.decode header = .ok cmd) : UnlinkFields cmd header := by
  unfold UsbipCmdUnlink.decode at h
  split at h
  · cases h
  · simp only [bind_eq_ok_iff] at h
    obtain ⟨seqnum, hseqnum, devid, hdevid, direction, hdirection, ep, hep, _, -, h⟩ := h
    cases h
    exact ⟨hseqnum, hdevid, hdirection, hep⟩

theorem echoesUnlink {header : Bytes} {cmd : UsbipCmdUnlink} (hlength : header.length = 48)
    (h : UsbipCmdUnlink.decode header = .ok cmd) (status : Int32) :
    EchoesUnlink header status (retUnlink cmd status).encode := by
  obtain ⟨cmd', hdecode, hwords⟩ := UsbipCmdUnlink.decode_words hlength
  rw [h, Except.ok.injEq] at hdecode
  subst hdecode
  have hfields : (u32Be cmd.seqnum ++ u32Be cmd.devid ++ u32Be cmd.direction ++
      u32Be cmd.ep).length = 16 := by
    simp
  have hreply : (retUnlink cmd status).encode = u32Be USBIP_RET_UNLINK ++
      ((u32Be cmd.seqnum ++ u32Be cmd.devid ++ u32Be cmd.direction ++ u32Be cmd.ep) ++
        (i32Be status ++ List.replicate 24 0)) := by
    simp only [UsbipRetUnlink.encode, retUnlink, List.append_assoc]
  have hheader : header.drop 4 =
      (u32Be cmd.seqnum ++ u32Be cmd.devid ++ u32Be cmd.direction ++ u32Be cmd.ep) ++
        (u32Be cmd.unlinkSeqnum ++ header.drop 24) := by
    rw [hwords]
    simp only [List.append_assoc]
  refine ⟨UsbipRetUnlink.length_encode _, readU32Be_head _ _, ?_, ?_, ?_⟩
  · rw [hreply, List.drop_left' (length_u32Be _), List.take_left' hfields, hheader,
      List.take_left' hfields]
  · rw [hreply, ← List.append_assoc, List.drop_left' (by simp), List.take_left' (length_i32Be _)]
  · rw [hreply, ← List.append_assoc, ← List.append_assoc, List.drop_left' (by simp)]

/-- The unlink is read by both loops. -/
theorem readCommand_unlink {header : Bytes} {cmd : UsbipCmdUnlink} (hlength : header.length = 48)
    (hword : readU32Be header 0 = .ok USBIP_CMD_UNLINK)
    (h : UsbipCmdUnlink.decode header = .ok cmd) (rest : Bytes) :
    readCommand (header ++ rest) = some (.unlink cmd, rest) := by
  rw [readCommand, readExact_append hlength]
  simp only [Option.bind_eq_bind, Option.bind_some, hword, Except.toOption, if_true, h]
  rfl

/-- Both PDUs round-trip in both directions, and what an unlink echoes stays where it is. -/
theorem usbip_pdu_codec :
    (∀ (cmd : UsbipCmdSubmit) (rest : Bytes),
      UsbipCmdSubmit.decode (cmd.encode ++ rest) = .ok cmd) ∧
    (∀ (ret : UsbipRetSubmit) (rest : Bytes),
      UsbipRetSubmit.decode (ret.encode ++ rest) = .ok ret) ∧
    (∀ bytes : Bytes, bytes.length = 48 → readU32Be bytes 0 = .ok USBIP_CMD_SUBMIT →
      ∃ cmd, UsbipCmdSubmit.decode bytes = .ok cmd ∧ cmd.encode = bytes) ∧
    (∀ bytes : Bytes, bytes.length = 48 → readU32Be bytes 0 = .ok USBIP_RET_SUBMIT →
      ∃ ret, UsbipRetSubmit.decode bytes = .ok ret ∧ ret.encode = bytes) ∧
    (∀ header : Bytes, header.length = 48 → readU32Be header 0 = .ok USBIP_CMD_UNLINK →
      ∃ cmd, UsbipCmdUnlink.decode header = .ok cmd ∧ UnlinkFields cmd header ∧
        (∀ rest, readCommand (header ++ rest) = some (.unlink cmd, rest)) ∧
        ∀ status, UnlinkFields cmd (retUnlink cmd status).encode ∧
          EchoesUnlink header status (retUnlink cmd status).encode) ∧
    ∀ (loop : UrbLoop) (deviceId : DeviceId) (input : Bytes)
      (history : History UsbipConn UsbipAction) (w : UsbipConn),
      loop = serveUrbs deviceId ∨ loop = forwardUrbs deviceId →
      UsbipConn.Runs loop input history w →
      ∀ out ∈ w.queue ++ w.written, ∀ cmd, out.command = .unlink cmd →
        ∀ header, header.length = 48 → UsbipCmdUnlink.decode header = .ok cmd →
          ∃ status, UnlinkFields cmd out.bytes ∧ EchoesUnlink header status out.bytes := by
  refine ⟨UsbipCmdSubmit.decode_append, UsbipRetSubmit.decode_append,
    fun _ => UsbipCmdSubmit.encode_decoded, fun _ => UsbipRetSubmit.encode_decoded, ?_, ?_⟩
  · intro header hlength hword
    obtain ⟨cmd, hdecode, -⟩ := UsbipCmdUnlink.decode_words hlength
    exact ⟨cmd, hdecode, unlinkFields_of_decode hdecode,
      readCommand_unlink hlength hword hdecode,
      fun status => ⟨unlinkFields_retUnlink cmd status, echoesUnlink hlength hdecode status⟩⟩
  · intro loop deviceId input history w hloop run out mem cmd hcommand header hlength hdecode
    have hfits : loop.Fits := by
      rcases hloop with rfl | rfl
      · exact serveUrbs_fits deviceId
      · exact forwardUrbs_fits deviceId
    have hreplying := replying_run hfits run
    have hreplies : RepliesTo out := by
      rcases List.mem_append.mp mem with hqueue | hwritten
      · exact hreplying.queue out hqueue
      · exact hreplying.written out hwritten
    cases hreplies with
    | submit => cases hcommand
    | unlink cmd' status =>
        cases hcommand
        exact ⟨status, unlinkFields_retUnlink cmd status, echoesUnlink hlength hdecode status⟩

/-- The unlink of the sample connection, read and answered. -/
theorem sample_usbip_pdu_codec :
    UsbipCmdSubmit.decode (Sample.outSubmit.encode ++ [5, 6]) = .ok Sample.outSubmit ∧
    ∃ cmd, UsbipCmdUnlink.decode (Sample.unlinkBytes Sample.unlink) = .ok cmd ∧
      EchoesUnlink (Sample.unlinkBytes Sample.unlink) (-2) (retUnlink cmd (-2)).encode := by
  obtain ⟨hsubmit, -, -, -, hunlink, -⟩ := usbip_pdu_codec
  obtain ⟨cmd, hdecode, -, -, hechoes⟩ :=
    hunlink (Sample.unlinkBytes Sample.unlink) (by decide +kernel) (by decide +kernel)
  exact ⟨hsubmit _ _, cmd, hdecode, (hechoes (-2)).2⟩

end FarBus.Core
