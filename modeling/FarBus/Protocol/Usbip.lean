/-
  Protocol/Usbip.lean --- the USB/IP side of the wire, from
  `crates/farbus-protocol/src/usbip.rs`.

  Commands and replies have headers of 48 bytes: a command word, then big-endian fields
  at fixed offsets.  A header is decoded by offset and encoded by filling a buffer from
  the front, so the encoded header is the concatenation of its fields.
-/
import FarBus.Protocol.Decode

set_option autoImplicit false

namespace FarBus.Protocol

open FarBus.Foundation

def USBIP_VERSION : UInt16 := 0x0111

def OP_REQ_DEVLIST : UInt16 := 0x8005

def OP_REP_DEVLIST : UInt16 := 0x0005

def OP_REQ_IMPORT : UInt16 := 0x8003

def OP_REP_IMPORT : UInt16 := 0x0003

def USBIP_CMD_SUBMIT : UInt32 := 0x00000001

def USBIP_RET_SUBMIT : UInt32 := 0x00000003

def USBIP_CMD_UNLINK : UInt32 := 0x00000002

def USBIP_RET_UNLINK : UInt32 := 0x00000004

structure UsbipCmdSubmit where
  seqnum : UInt32
  devid : UInt32
  direction : UInt32
  ep : UInt32
  transferFlags : UInt32
  transferBufferLength : UInt32
  startFrame : UInt32
  numberOfPackets : UInt32
  interval : UInt32
  setup : Vector UInt8 8
  deriving DecidableEq, Repr

structure UsbipRetSubmit where
  seqnum : UInt32
  devid : UInt32
  direction : UInt32
  ep : UInt32
  status : Int32
  actualLength : UInt32
  startFrame : UInt32
  numberOfPackets : UInt32
  errorCount : Int32
  setup : Vector UInt8 8
  deriving DecidableEq, Repr

structure UsbipCmdUnlink where
  seqnum : UInt32
  devid : UInt32
  direction : UInt32
  ep : UInt32
  unlinkSeqnum : UInt32
  deriving DecidableEq, Repr

structure UsbipRetUnlink where
  seqnum : UInt32
  devid : UInt32
  direction : UInt32
  ep : UInt32
  status : Int32
  deriving DecidableEq, Repr

inductive UsbipError where
  | truncated
  | version (version : UInt16)
  deriving DecidableEq, Repr

/-! ## The headers -/

def readU32Be (slice : Bytes) (offset : Nat) : Except UsbipError UInt32 :=
  if slice.length < offset + 4 then .error .truncated
  else .ok (UInt32.ofNat (ofBe ((slice.drop offset).take 4)))

def readI32Be (slice : Bytes) (offset : Nat) : Except UsbipError Int32 :=
  if slice.length < offset + 4 then .error .truncated
  else .ok (UInt32.ofNat (ofBe ((slice.drop offset).take 4))).toInt32

/-- `setup.copy_from_slice(&bytes[40..48])`, of a slice that is long enough. -/
def readSetup (slice : Bytes) : Vector UInt8 8 := Vector.ofFn fun i => (slice.drop 40).getD i 0

namespace UsbipCmdSubmit

def encode (self : UsbipCmdSubmit) : Bytes :=
  u32Be USBIP_CMD_SUBMIT ++ (u32Be self.seqnum ++ (u32Be self.devid ++ (u32Be self.direction ++
    (u32Be self.ep ++ (u32Be self.transferFlags ++ (u32Be self.transferBufferLength ++
      (u32Be self.startFrame ++ (u32Be self.numberOfPackets ++ (u32Be self.interval ++
        self.setup.toList)))))))))

def decode (bytes : Bytes) : Except UsbipError UsbipCmdSubmit :=
  if bytes.length < 48 then .error .truncated
  else do
    let setup := readSetup bytes
    let seqnum ← readU32Be bytes 4
    let devid ← readU32Be bytes 8
    let direction ← readU32Be bytes 12
    let ep ← readU32Be bytes 16
    let transferFlags ← readU32Be bytes 20
    let transferBufferLength ← readU32Be bytes 24
    let startFrame ← readU32Be bytes 28
    let numberOfPackets ← readU32Be bytes 32
    let interval ← readU32Be bytes 36
    return { seqnum, devid, direction, ep, transferFlags, transferBufferLength, startFrame,
             numberOfPackets, interval, setup }

end UsbipCmdSubmit

namespace UsbipRetSubmit

def encode (self : UsbipRetSubmit) : Bytes :=
  u32Be USBIP_RET_SUBMIT ++ (u32Be self.seqnum ++ (u32Be self.devid ++ (u32Be self.direction ++
    (u32Be self.ep ++ (i32Be self.status ++ (u32Be self.actualLength ++ (u32Be self.startFrame ++
      (u32Be self.numberOfPackets ++ (i32Be self.errorCount ++ self.setup.toList)))))))))

def decode (bytes : Bytes) : Except UsbipError UsbipRetSubmit :=
  if bytes.length < 48 then .error .truncated
  else do
    let setup := readSetup bytes
    let seqnum ← readU32Be bytes 4
    let devid ← readU32Be bytes 8
    let direction ← readU32Be bytes 12
    let ep ← readU32Be bytes 16
    let status ← readI32Be bytes 20
    let actualLength ← readU32Be bytes 24
    let startFrame ← readU32Be bytes 28
    let numberOfPackets ← readU32Be bytes 32
    let errorCount ← readI32Be bytes 36
    return { seqnum, devid, direction, ep, status, actualLength, startFrame, numberOfPackets,
             errorCount, setup }

end UsbipRetSubmit

def UsbipCmdUnlink.decode (bytes : Bytes) : Except UsbipError UsbipCmdUnlink :=
  if bytes.length < 48 then .error .truncated
  else do
    let seqnum ← readU32Be bytes 4
    let devid ← readU32Be bytes 8
    let direction ← readU32Be bytes 12
    let ep ← readU32Be bytes 16
    let unlinkSeqnum ← readU32Be bytes 20
    return { seqnum, devid, direction, ep, unlinkSeqnum }

/-- The rest of the 48 bytes stays zero. -/
def UsbipRetUnlink.encode (self : UsbipRetUnlink) : Bytes :=
  u32Be USBIP_RET_UNLINK ++ (u32Be self.seqnum ++ (u32Be self.devid ++ (u32Be self.direction ++
    (u32Be self.ep ++ (i32Be self.status ++ List.replicate 24 0)))))

/-! ## What is encoded is decoded -/

theorem readU32Be_head (x : UInt32) (rest : Bytes) : readU32Be (u32Be x ++ rest) 0 = .ok x := by
  have hlength : ¬ (u32Be x ++ rest).length < 0 + 4 := by
    rw [List.length_append, length_u32Be]
    omega
  rw [readU32Be, if_neg hlength, List.drop_zero, List.take_left' (length_u32Be x),
    ofNat_ofBe_u32Be]

theorem readU32Be_skip (x : UInt32) (rest : Bytes) (offset : Nat) :
    readU32Be (u32Be x ++ rest) (offset + 4) = readU32Be rest offset := by
  have hdrop : (u32Be x ++ rest).drop (offset + 4) = rest.drop offset := by
    rw [Nat.add_comm, ← List.drop_drop, List.drop_left' (length_u32Be x)]
  have hlength : (u32Be x ++ rest).length < offset + 4 + 4 ↔ rest.length < offset + 4 := by
    rw [List.length_append, length_u32Be]
    omega
  simp only [readU32Be, hdrop, hlength]

theorem readI32Be_eq (slice : Bytes) (offset : Nat) :
    readI32Be slice offset = (readU32Be slice offset).map UInt32.toInt32 := by
  unfold readI32Be readU32Be
  split <;> rfl

theorem readSetup_append {fields : Bytes} (h : fields.length = 40) (setup : Vector UInt8 8)
    (rest : Bytes) : readSetup (fields ++ (setup.toList ++ rest)) = setup := by
  unfold readSetup
  rw [List.drop_left' h]
  exact ofFn_getD_append setup 0 rest

theorem UsbipCmdSubmit.length_encode (cmd : UsbipCmdSubmit) : cmd.encode.length = 48 := by
  simp [UsbipCmdSubmit.encode]

theorem UsbipRetSubmit.length_encode (ret : UsbipRetSubmit) : ret.encode.length = 48 := by
  simp [UsbipRetSubmit.encode]

theorem UsbipRetUnlink.length_encode (ret : UsbipRetUnlink) : ret.encode.length = 48 := by
  simp [UsbipRetUnlink.encode]

theorem UsbipCmdSubmit.decode_append (cmd : UsbipCmdSubmit) (rest : Bytes) :
    decode (cmd.encode ++ rest) = .ok cmd := by
  have hlength : ¬ (cmd.encode ++ rest).length < 48 := by
    rw [List.length_append, cmd.length_encode]
    omega
  have hsetup : readSetup (cmd.encode ++ rest) = cmd.setup := by
    rw [UsbipCmdSubmit.encode]
    simp only [← List.append_assoc]
    rw [List.append_assoc]
    exact readSetup_append (by simp) cmd.setup rest
  rw [decode, if_neg hlength, hsetup]
  simp only [UsbipCmdSubmit.encode, List.append_assoc, readU32Be_skip, readU32Be_head]
  rfl

theorem UsbipRetSubmit.decode_append (ret : UsbipRetSubmit) (rest : Bytes) :
    decode (ret.encode ++ rest) = .ok ret := by
  have hlength : ¬ (ret.encode ++ rest).length < 48 := by
    rw [List.length_append, ret.length_encode]
    omega
  have hsetup : readSetup (ret.encode ++ rest) = ret.setup := by
    rw [UsbipRetSubmit.encode]
    simp only [← List.append_assoc]
    rw [List.append_assoc]
    exact readSetup_append (by simp) ret.setup rest
  rw [decode, if_neg hlength, hsetup]
  simp only [UsbipRetSubmit.encode, List.append_assoc, i32Be, readI32Be_eq, readU32Be_skip,
    readU32Be_head]
  simp [Except.map, bind, Except.bind, pure, Except.pure]

theorem UsbipRetSubmit.decode_encoded (ret : UsbipRetSubmit) : decode ret.encode = .ok ret := by
  have hdecode := ret.decode_append []
  rwa [List.append_nil] at hdecode

/-! ## What is decoded is encoded -/

theorem readU32Be_total {slice : Bytes} {offset : Nat} (h : offset + 4 ≤ slice.length) :
    ∃ x, readU32Be slice offset = .ok x :=
  ⟨_, if_neg (Nat.not_lt.mpr h)⟩

/-- A field that was read is the next four bytes. -/
theorem drop_of_readU32Be {slice : Bytes} {offset : Nat} {x : UInt32}
    (h : readU32Be slice offset = .ok x) :
    slice.drop offset = u32Be x ++ slice.drop (offset + 4) := by
  unfold readU32Be at h
  split at h
  · cases h
  · rename_i hlength
    have htake : ((slice.drop offset).take 4).length = 4 := by
      rw [List.length_take, List.length_drop]
      omega
    have hbytes : u32Be x = (slice.drop offset).take 4 := by
      rw [← Except.ok.inj h, u32Be, UInt32.toNat_ofNat', Nat.mod_eq_of_lt]
      · exact toBe_ofBe_of_length htake
      · have hlt := ofBe_lt ((slice.drop offset).take 4)
        rw [htake] at hlt
        exact hlt
    rw [hbytes, ← List.drop_drop, List.take_append_drop]

theorem readSetup_toList {slice : Bytes} (h : slice.length = 48) :
    (readSetup slice).toList = slice.drop 40 := by
  unfold readSetup
  apply List.ext_getElem
  · rw [Vector.length_toList, List.length_drop, h]
  · intro i hleft hright
    rw [Vector.getElem_toList, Vector.getElem_ofFn, List.getD_eq_getElem?_getD,
      List.getElem?_eq_getElem hright, Option.getD_some]

/-- A header of the command is what its fields encode to. -/
theorem UsbipCmdSubmit.encode_decoded {bytes : Bytes} (hlength : bytes.length = 48)
    (hword : readU32Be bytes 0 = .ok USBIP_CMD_SUBMIT) :
    ∃ cmd, decode bytes = .ok cmd ∧ cmd.encode = bytes := by
  have hread : ∀ offset, offset + 4 ≤ 48 → ∃ x, readU32Be bytes offset = .ok x :=
    fun offset h => readU32Be_total (by omega)
  obtain ⟨seqnum, hseqnum⟩ := hread 4 (by omega)
  obtain ⟨devid, hdevid⟩ := hread 8 (by omega)
  obtain ⟨direction, hdirection⟩ := hread 12 (by omega)
  obtain ⟨ep, hep⟩ := hread 16 (by omega)
  obtain ⟨transferFlags, hflags⟩ := hread 20 (by omega)
  obtain ⟨transferBufferLength, hbuffer⟩ := hread 24 (by omega)
  obtain ⟨startFrame, hframe⟩ := hread 28 (by omega)
  obtain ⟨numberOfPackets, hpackets⟩ := hread 32 (by omega)
  obtain ⟨interval, hinterval⟩ := hread 36 (by omega)
  refine ⟨{ seqnum, devid, direction, ep, transferFlags, transferBufferLength, startFrame,
            numberOfPackets, interval, setup := readSetup bytes }, ?_, ?_⟩
  · rw [decode, if_neg (by omega)]
    simp only [hseqnum, hdevid, hdirection, hep, hflags, hbuffer, hframe, hpackets, hinterval]
    rfl
  · simp only [encode]
    rw [readSetup_toList hlength, ← drop_of_readU32Be hinterval, ← drop_of_readU32Be hpackets,
      ← drop_of_readU32Be hframe, ← drop_of_readU32Be hbuffer, ← drop_of_readU32Be hflags,
      ← drop_of_readU32Be hep, ← drop_of_readU32Be hdirection, ← drop_of_readU32Be hdevid,
      ← drop_of_readU32Be hseqnum, ← drop_of_readU32Be hword, List.drop_zero]

theorem UsbipRetSubmit.encode_decoded {bytes : Bytes} (hlength : bytes.length = 48)
    (hword : readU32Be bytes 0 = .ok USBIP_RET_SUBMIT) :
    ∃ ret, decode bytes = .ok ret ∧ ret.encode = bytes := by
  have hread : ∀ offset, offset + 4 ≤ 48 → ∃ x, readU32Be bytes offset = .ok x :=
    fun offset h => readU32Be_total (by omega)
  obtain ⟨seqnum, hseqnum⟩ := hread 4 (by omega)
  obtain ⟨devid, hdevid⟩ := hread 8 (by omega)
  obtain ⟨direction, hdirection⟩ := hread 12 (by omega)
  obtain ⟨ep, hep⟩ := hread 16 (by omega)
  obtain ⟨status, hstatus⟩ := hread 20 (by omega)
  obtain ⟨actualLength, hactual⟩ := hread 24 (by omega)
  obtain ⟨startFrame, hframe⟩ := hread 28 (by omega)
  obtain ⟨numberOfPackets, hpackets⟩ := hread 32 (by omega)
  obtain ⟨errorCount, herrors⟩ := hread 36 (by omega)
  refine ⟨{ seqnum, devid, direction, ep, status := status.toInt32, actualLength, startFrame,
            numberOfPackets, errorCount := errorCount.toInt32, setup := readSetup bytes }, ?_, ?_⟩
  · rw [decode, if_neg (by omega)]
    simp only [readI32Be_eq, hseqnum, hdevid, hdirection, hep, hstatus, hactual, hframe, hpackets,
      herrors]
    rfl
  · simp only [encode, i32Be, UInt32.toUInt32_toInt32]
    rw [readSetup_toList hlength, ← drop_of_readU32Be herrors, ← drop_of_readU32Be hpackets,
      ← drop_of_readU32Be hframe, ← drop_of_readU32Be hactual, ← drop_of_readU32Be hstatus,
      ← drop_of_readU32Be hep, ← drop_of_readU32Be hdirection, ← drop_of_readU32Be hdevid,
      ← drop_of_readU32Be hseqnum, ← drop_of_readU32Be hword, List.drop_zero]

/-- The fields of an unlink are the five words after the command. -/
theorem UsbipCmdUnlink.decode_words {bytes : Bytes} (hlength : bytes.length = 48) :
    ∃ cmd : UsbipCmdUnlink, decode bytes = .ok cmd ∧
      bytes.drop 4 = u32Be cmd.seqnum ++ (u32Be cmd.devid ++ (u32Be cmd.direction ++
        (u32Be cmd.ep ++ (u32Be cmd.unlinkSeqnum ++ bytes.drop 24)))) := by
  have hread : ∀ offset, offset + 4 ≤ 48 → ∃ x, readU32Be bytes offset = .ok x :=
    fun offset h => readU32Be_total (by omega)
  obtain ⟨seqnum, hseqnum⟩ := hread 4 (by omega)
  obtain ⟨devid, hdevid⟩ := hread 8 (by omega)
  obtain ⟨direction, hdirection⟩ := hread 12 (by omega)
  obtain ⟨ep, hep⟩ := hread 16 (by omega)
  obtain ⟨unlinkSeqnum, hunlink⟩ := hread 20 (by omega)
  refine ⟨{ seqnum, devid, direction, ep, unlinkSeqnum }, ?_, ?_⟩
  · rw [decode, if_neg (by omega)]
    simp only [hseqnum, hdevid, hdirection, hep, hunlink]
    rfl
  · rw [drop_of_readU32Be hseqnum, drop_of_readU32Be hdevid, drop_of_readU32Be hdirection,
      drop_of_readU32Be hep, drop_of_readU32Be hunlink]

/-! ## A URB from a command -/

/-- Assembles a URB's `data` and `requested_length` from a USB/IP header.  IN transfers
carry an empty `data`; the host's length is in `requested_length`. -/
def urbSubmitData (ep direction : UInt32) (setup : Vector UInt8 8) (transferBufferLength : UInt32)
    (outPayload : Bytes) : Bytes × UInt32 :=
  if ep = 0 then
    (setup.toList ++ (if direction = 0 then outPayload else []), transferBufferLength)
  else if direction = 0 then (outPayload, transferBufferLength)
  else ([], transferBufferLength)

theorem length_urbSubmitData_le (ep direction : UInt32) (setup : Vector UInt8 8)
    (transferBufferLength : UInt32) (outPayload : Bytes) :
    (urbSubmitData ep direction setup transferBufferLength outPayload).1.length ≤
      8 + outPayload.length := by
  unfold urbSubmitData
  split
  · rw [List.length_append, Vector.length_toList]
    split
    · exact Nat.le_refl _
    · exact Nat.le_add_right _ _
  · split
    · exact Nat.le_add_left _ _
    · exact Nat.zero_le _

end FarBus.Protocol
