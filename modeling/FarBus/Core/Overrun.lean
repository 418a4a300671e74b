/-
  Core/Overrun.lean --- how much data a completion brings back.

  The caller of a URB has a buffer of `requested_length` bytes.  Some backends size their
  answers by other things: the emulator by what it imitates, a control read of the host
  path by the length in the setup packet, and all other reads by the requested length but
  never by less than one byte.  The loops pass the data on whole and announce its length.
  So a completion overruns the buffer exactly where the backend's size is the larger one.
-/
import FarBus.Core.UsbipReplies

set_option autoImplicit false

namespace FarBus.Core

open FarBus.Foundation
open FarBus.Protocol

/-- The data of the completion fits in the buffer of the caller. -/
def FitsBuffer (submit : UrbSubmit) (complete : UrbComplete) : Prop :=
  complete.data.length ≤ submit.requestedLength.toNat

theorem fitsBuffer_of_nil {submit : UrbSubmit} {complete : UrbComplete} (h : complete.data = []) :
    FitsBuffer submit complete := by
  rw [FitsBuffer, h]
  exact Nat.zero_le _

theorem fitsBuffer_failedUrb (submit : UrbSubmit) (seq : UInt32) :
    FitsBuffer submit (failedUrb seq) := fitsBuffer_of_nil rfl

/-! ## The emulator -/

/-- The URBs whose buffer is shorter than the emulator's answer: a descriptor of eighteen
bytes, a report of eight, or the one byte that a bulk read brings at least. -/
def EmulatorOverruns (submit : UrbSubmit) : Prop :=
  match submit.transfer with
  | .control =>
      submit.data.length ≥ 8 ∧ submit.data.getD 1 0 = 0x06 ∧ submit.requestedLength.toNat < 18
  | .interrupt => isIn submit.endpoint ∧ submit.requestedLength.toNat < 8
  | .bulk => isIn submit.endpoint ∧ submit.requestedLength.toNat = 0
  | .isochronous => False

theorem controlComplete_fits_iff (submit : UrbSubmit) :
    FitsBuffer submit (controlComplete submit) ↔
      ¬ (submit.data.length ≥ 8 ∧ submit.data.getD 1 0 = 0x06 ∧
        submit.requestedLength.toNat < 18) := by
  unfold controlComplete
  split
  · rename_i hasked
    have hlength : (if submit.deviceId = 1 then hidKeyboardDescriptor
        else if submit.deviceId = 2 then serialDescriptor else massStorageDescriptor).length = 18 := by
      split
      · rfl
      · split <;> rfl
    simp only [FitsBuffer, completed, hlength, hasked.1, hasked.2, true_and, Nat.not_lt]
  · rename_i hother
    refine iff_of_true (fitsBuffer_of_nil rfl) ?_
    rintro ⟨hlength, hrequest, -⟩
    exact hother ⟨hlength, hrequest⟩

theorem interruptComplete_fits_iff (submit : UrbSubmit) :
    FitsBuffer submit (interruptComplete submit) ↔
      ¬ (isIn submit.endpoint ∧ submit.requestedLength.toNat < 8) := by
  unfold interruptComplete
  split
  · rename_i hin
    simp only [FitsBuffer, completed, hin, true_and, Nat.not_lt, List.length_cons, List.length_nil]
  · rename_i hout
    exact iff_of_true (fitsBuffer_of_nil rfl) fun hin => hout hin.1

theorem bulkComplete_fits_iff (submit : UrbSubmit) :
    FitsBuffer submit (bulkComplete submit) ↔
      ¬ (isIn submit.endpoint ∧ submit.requestedLength.toNat = 0) := by
  unfold bulkComplete
  split
  · rename_i hin
    simp only [FitsBuffer, completed, hin, true_and, List.length_map, List.length_range]
    omega
  · rename_i hout
    exact iff_of_true (fitsBuffer_of_nil rfl) fun hin => hout hin.1

theorem completeUrb_fits_iff (submit : UrbSubmit) :
    FitsBuffer submit (completeUrb submit) ↔ ¬ EmulatorOverruns submit := by
  unfold completeUrb EmulatorOverruns
  cases submit.transfer with
  | control => exact controlComplete_fits_iff submit
  | interrupt => exact interruptComplete_fits_iff submit
  | bulk => exact bulkComplete_fits_iff submit
  | isochronous => exact iff_of_true (fitsBuffer_of_nil rfl) not_false

/-! ## The host path -/

/-- The device has more data for a read than the caller's buffer holds. -/
def Libusb.ReadsPast (libusb : Libusb) (submit : UrbSubmit) : Prop :=
  ∃ bytes, libusb.read = some bytes ∧ submit.requestedLength.toNat < bytes.length

/-- The control reads whose buffer is longer than the caller's. -/
def ControlOverruns (submit : UrbSubmit) : Prop :=
  isIn (submit.data.getD 0 0) ∧
    submit.requestedLength.toNat <
      max ((submit.data.getD 6 0).toNat + 256 * (submit.data.getD 7 0).toNat) 1

/-- The bulk and interrupt reads whose buffer is longer than the caller's. -/
def StreamOverruns (submit : UrbSubmit) : Prop :=
  isIn submit.endpoint ∧ submit.requestedLength.toNat = 0

def HostOverruns (submit : UrbSubmit) : Prop :=
  match submit.transfer with
  | .control => ControlOverruns submit
  | .bulk | .interrupt => StreamOverruns submit
  | .isochronous => False

/-- libusb reads at most as much as it has room for. -/
theorem hostRead_fits_iff (libusb : Libusb) (submit : UrbSubmit) (size : Nat) :
    FitsBuffer submit (hostRead libusb submit size) ↔
      ¬ (submit.requestedLength.toNat < size ∧ libusb.ReadsPast submit) := by
  unfold hostRead Libusb.ReadsPast
  split
  · rename_i bytes hread
    simp only [FitsBuffer, completed, List.length_take, hread, Option.some.injEq, exists_eq_left']
    omega
  · rename_i hread
    refine iff_of_true (fitsBuffer_failedUrb _ _) ?_
    rintro ⟨-, bytes, hbytes, -⟩
    rw [hread] at hbytes
    cases hbytes

theorem hostWrite_fits (libusb : Libusb) (submit : UrbSubmit) :
    FitsBuffer submit (hostWrite libusb submit) := by
  unfold hostWrite
  split <;> exact fitsBuffer_of_nil rfl

theorem control_fits_iff {libusb : Libusb} {submit : UrbSubmit} {complete : UrbComplete}
    (h : control libusb submit = some complete) :
    FitsBuffer submit complete ↔ ¬ (ControlOverruns submit ∧ libusb.ReadsPast submit) := by
  unfold control at h
  split at h
  · cases h
  · dsimp only at h
    split at h
    · rename_i hin
      cases h
      -- a length in two bytes is below the cap
      have hword : (submit.data.getD 6 0).toNat + 256 * (submit.data.getD 7 0).toNat < 65536 := by
        have hlow := (submit.data.getD 6 0).toNat_lt
        have hhigh := (submit.data.getD 7 0).toNat_lt
        omega
      rw [hostRead_fits_iff, Nat.min_eq_left (Nat.le_of_lt hword), ControlOverruns, hin]
      simp only [true_and]
    · rename_i hout
      cases h
      exact iff_of_true (hostWrite_fits libusb submit) fun hover => hout hover.1.1

theorem stream_fits_iff (libusb : Libusb) (submit : UrbSubmit) :
    FitsBuffer submit (stream libusb submit) ↔
      ¬ (StreamOverruns submit ∧ libusb.ReadsPast submit) := by
  unfold stream StreamOverruns
  split
  · rename_i hin
    have hsize : submit.requestedLength.toNat < min (max submit.requestedLength.toNat 1) 65536 ↔
        submit.requestedLength.toNat = 0 := by omega
    rw [hostRead_fits_iff, hsize, hin]
    simp only [true_and]
  · rename_i hout
    exact iff_of_true (hostWrite_fits libusb submit) fun hover => hout hover.1.1

/-! ## A session's backend -/

/-- The host path takes the URB. -/
def HostTakes (libusb : Libusb) (submit : UrbSubmit) (devices : List LocalDevice) : Prop :=
  (tryHost libusb submit devices).isSome = true

theorem tryHost_fits_iff {libusb : Libusb} {submit : UrbSubmit} {devices : List LocalDevice}
    {complete : UrbComplete} (h : tryHost libusb submit devices = some complete) :
    FitsBuffer submit complete ↔ ¬ (HostOverruns submit ∧ libusb.ReadsPast submit) := by
  obtain ⟨device, -, h⟩ := Option.bind_eq_some_iff.mp h
  obtain ⟨_, -, h⟩ := Option.bind_eq_some_iff.mp h
  obtain ⟨list, -, h⟩ := Option.bind_eq_some_iff.mp h
  obtain ⟨usbDev, -, h⟩ := Option.bind_eq_some_iff.mp h
  obtain ⟨_, -, h⟩ := Option.bind_eq_some_iff.mp h
  unfold HostOverruns
  cases htransfer : submit.transfer with
  | control =>
      rw [htransfer] at h
      exact control_fits_iff h
  | bulk | interrupt =>
      rw [htransfer] at h
      cases h
      exact stream_fits_iff libusb submit
  | isochronous =>
      rw [htransfer] at h
      cases h
      exact iff_of_true (fitsBuffer_of_nil rfl) fun hover => hover.1

/-- The URBs that a session's backend answers with more than their buffer holds. -/
def BackendOverruns (libusb : Libusb) (submit : UrbSubmit) (devices : List LocalDevice) : Prop :=
  HostTakes libusb submit devices ∧ HostOverruns submit ∧ libusb.ReadsPast submit ∨
    ¬ HostTakes libusb submit devices ∧
      (∃ device ∈ devices, device.info.id = submit.deviceId ∧ device.backend = .emulated) ∧
      EmulatorOverruns submit

theorem completeHostOrEmulated_fits_iff (libusb : Libusb) (submit : UrbSubmit)
    (devices : List LocalDevice) :
    FitsBuffer submit (completeHostOrEmulated libusb submit devices) ↔
      ¬ BackendOverruns libusb submit devices := by
  unfold completeHostOrEmulated BackendOverruns HostTakes
  split
  · rename_i complete htried
    rw [tryHost_fits_iff htried, htried]
    simp only [Option.isSome_some, true_and, not_true_eq_false, false_and, or_false]
  · rename_i htried
    rw [htried]
    split
    · rename_i hemulated
      obtain ⟨device, mem, hdevice⟩ := List.any_eq_true.mp hemulated
      have hexists : ∃ device ∈ devices,
          device.info.id = submit.deviceId ∧ device.backend = .emulated :=
        ⟨device, mem, by simpa using hdevice⟩
      rw [completeUrb_fits_iff]
      simp only [hexists, Option.isSome_none, Bool.false_eq_true, false_and, not_false_eq_true,
        true_and, false_or]
    · rename_i hnone
      refine iff_of_true (fitsBuffer_failedUrb _ _) ?_
      rintro (⟨htakes, -⟩ | ⟨-, ⟨device, mem, hdevice⟩, -⟩)
      · cases htakes
      · exact hnone (List.any_eq_true.mpr ⟨device, mem, by simpa using hdevice⟩)

/-! ## Commands -/

/-- The endpoint of the command's URB has the direction bit. -/
def AddressedIn (cmd : UsbipCmdSubmit) : Prop := cmd.ep &&& 0x80 ≠ 0 ∧ cmd.ep.toNat < 256

/-- The length in a setup packet, `wLength`. -/
def setupLength (setup : Vector UInt8 8) : Nat := setup[6].toNat + 256 * setup[7].toNat

/-- The submits that the emulator answers with more than their buffer holds. -/
def EmulatedOverrun (cmd : UsbipCmdSubmit) : Prop :=
  cmd.ep = 0 ∧ cmd.setup[1] = 0x06 ∧ cmd.transferBufferLength.toNat < 18 ∨
    AddressedIn cmd ∧ cmd.transferBufferLength.toNat < 8

/-- The submits for which the host path reads into a longer buffer than theirs. -/
def HostOverrun (cmd : UsbipCmdSubmit) : Prop :=
  cmd.ep = 0 ∧ isIn cmd.setup[0] ∧
      cmd.transferBufferLength.toNat < max (setupLength cmd.setup) 1 ∨
    AddressedIn cmd ∧ cmd.transferBufferLength.toNat = 0

theorem and_direction_eq_zero_iff (ep : UInt32) : ep.toUInt8 &&& 0x80 = 0 ↔ ep &&& 0x80 = 0 := by
  have hbyte : ep.toUInt8 &&& 0x80 = (ep &&& 0x80).toUInt8 := (UInt32.toUInt8_and ep 0x80).symm
  have hle : (ep &&& 0x80).toNat ≤ 128 := by
    rw [UInt32.toNat_and]
    exact Nat.and_le_right
  rw [hbyte, ← UInt8.toNat_inj, ← UInt32.toNat_inj, UInt32.toNat_toUInt8,
    Nat.mod_eq_of_lt (by omega)]
  rfl

section

variable (deviceId : DeviceId) (cmd : UsbipCmdSubmit) (outPayload : Bytes)

theorem isIn_usbipUrb : isIn (usbipUrb deviceId cmd outPayload).endpoint = true ↔ AddressedIn cmd := by
  unfold usbipUrb AddressedIn isIn
  dsimp only
  split
  · rename_i hbyte
    rw [bne_iff_ne, ne_eq, and_direction_eq_zero_iff]
    simp only [hbyte, and_true, ne_eq]
  · rename_i hlong
    exact iff_of_false (by decide) fun hin => hlong hin.2

theorem requestedLength_usbipUrb :
    (usbipUrb deviceId cmd outPayload).requestedLength = cmd.transferBufferLength := by
  unfold usbipUrb urbSubmitData
  dsimp only
  split
  · rfl
  · split <;> rfl

/-- A control URB starts with the setup packet. -/
theorem data_usbipUrb (h : cmd.ep = 0) :
    ∃ rest, (usbipUrb deviceId cmd outPayload).data = cmd.setup.toList ++ rest := by
  unfold usbipUrb urbSubmitData
  rw [if_pos h]
  exact ⟨_, rfl⟩

theorem getD_usbipUrb (h : cmd.ep = 0) {i : Nat} (hi : i < 8) :
    (usbipUrb deviceId cmd outPayload).data.getD i 0 = cmd.setup[i] := by
  obtain ⟨rest, hdata⟩ := data_usbipUrb deviceId cmd outPayload h
  rw [hdata, getD_toList_append cmd.setup 0 rest hi]

theorem length_data_usbipUrb (h : cmd.ep = 0) :
    8 ≤ (usbipUrb deviceId cmd outPayload).data.length := by
  obtain ⟨rest, hdata⟩ := data_usbipUrb deviceId cmd outPayload h
  rw [hdata, List.length_append, Vector.length_toList]
  exact Nat.le_add_right _ _

/-- Which transfer the loops make of a command. -/
theorem forwardTransfer_cases :
    cmd.ep = 0 ∧ forwardTransfer cmd = .control ∨
    (cmd.ep &&& 0x80 ≠ 0 ∧ cmd.transferBufferLength.toNat ≤ 64) ∧
      forwardTransfer cmd = .interrupt ∨
    cmd.ep ≠ 0 ∧ ¬ (cmd.ep &&& 0x80 ≠ 0 ∧ cmd.transferBufferLength.toNat ≤ 64) ∧
      forwardTransfer cmd = .bulk := by
  unfold forwardTransfer
  split
  · rename_i hzero
    exact .inl ⟨hzero, rfl⟩
  · rename_i hne
    split
    · rename_i hshort
      exact .inr (.inl ⟨hshort, rfl⟩)
    · rename_i hlong
      exact .inr (.inr ⟨hne, hlong, rfl⟩)

theorem ne_zero_of_direction {cmd : UsbipCmdSubmit} (h : cmd.ep &&& 0x80 ≠ 0) : cmd.ep ≠ 0 := by
  intro hzero
  apply h
  rw [hzero]
  rfl

theorem emulatorOverruns_usbipUrb :
    EmulatorOverruns (usbipUrb deviceId cmd outPayload) ↔ EmulatedOverrun cmd := by
  have hurb : (usbipUrb deviceId cmd outPayload).transfer = forwardTransfer cmd := rfl
  unfold EmulatorOverruns EmulatedOverrun
  rw [hurb, requestedLength_usbipUrb, isIn_usbipUrb]
  rcases forwardTransfer_cases cmd with ⟨hzero, htransfer⟩ | ⟨hshort, htransfer⟩ |
    ⟨hne, hlong, htransfer⟩
  · have hout : ¬ AddressedIn cmd := fun hin => ne_zero_of_direction hin.1 hzero
    have hlength := length_data_usbipUrb deviceId cmd outPayload hzero
    rw [htransfer]
    simp only [hzero, hout, getD_usbipUrb deviceId cmd outPayload hzero (by decide : 1 < 8), hlength,
      true_and, false_and, or_false]
  · have hne := ne_zero_of_direction hshort.1
    rw [htransfer]
    simp only [hne, false_and, false_or]
  · -- a read of no bytes is an interrupt transfer
    have hread : AddressedIn cmd → ¬ cmd.transferBufferLength.toNat ≤ 64 :=
      fun hin hle => hlong ⟨hin.1, hle⟩
    rw [htransfer]
    simp only [hne, false_and, false_or]
    constructor
    · rintro ⟨hin, hnone⟩
      exact absurd (by omega) (hread hin)
    · rintro ⟨hin, hshort⟩
      exact absurd (by omega) (hread hin)

theorem hostOverruns_usbipUrb :
    HostOverruns (usbipUrb deviceId cmd outPayload) ↔ HostOverrun cmd := by
  have hurb : (usbipUrb deviceId cmd outPayload).transfer = forwardTransfer cmd := rfl
  unfold HostOverruns HostOverrun ControlOverruns StreamOverruns setupLength
  rw [hurb, requestedLength_usbipUrb, isIn_usbipUrb]
  rcases forwardTransfer_cases cmd with ⟨hzero, htransfer⟩ | ⟨hshort, htransfer⟩ |
    ⟨hne, hlong, htransfer⟩
  · have hout : ¬ AddressedIn cmd := fun hin => ne_zero_of_direction hin.1 hzero
    have hget : ∀ i (hi : i < 8),
        (usbipUrb deviceId cmd outPayload).data.getD i 0 = cmd.setup[i] :=
      fun i hi => getD_usbipUrb deviceId cmd outPayload hzero hi
    rw [htransfer]
    simp only [hzero, hout, hget 0 (by decide), hget 6 (by decide), hget 7 (by decide), true_and,
      false_and, or_false]
  · have hne := ne_zero_of_direction hshort.1
    rw [htransfer]
    simp only [hne, false_and, false_or]
  · rw [htransfer]
    simp only [hne, false_and, false_or]

/-- What a session's backend answers a forwarded submit overruns its buffer. -/
def ForwardedOverrun (libusb : Libusb) (devices : List LocalDevice) : Prop :=
  HostTakes libusb (usbipUrb deviceId cmd outPayload) devices ∧ HostOverrun cmd ∧
      libusb.ReadsPast (usbipUrb deviceId cmd outPayload) ∨
    ¬ HostTakes libusb (usbipUrb deviceId cmd outPayload) devices ∧
      (∃ device ∈ devices, device.info.id = deviceId ∧ device.backend = .emulated) ∧
      EmulatedOverrun cmd

theorem backendOverruns_usbipUrb (libusb : Libusb) (devices : List LocalDevice) :
    BackendOverruns libusb (usbipUrb deviceId cmd outPayload) devices ↔
      ForwardedOverrun deviceId cmd outPayload libusb devices := by
  unfold BackendOverruns ForwardedOverrun
  rw [hostOverruns_usbipUrb, emulatorOverruns_usbipUrb]
  rfl

/-- The length that a reply announces is that of the data, and is compared so. -/
theorem actualLength_le_iff {complete : UrbComplete} (h : complete.data.length < 2 ^ 32) :
    (retSubmit cmd complete).actualLength ≤ cmd.transferBufferLength ↔
      FitsBuffer (usbipUrb deviceId cmd outPayload) complete := by
  rw [UInt32.le_iff_toNat_le, actualLength_toNat h, FitsBuffer, requestedLength_usbipUrb]

end

/-! ## Replies in a run -/

/-- The call of a task of the submit has returned `result`. -/
def Returned (history : History UsbipConn UsbipAction) (cmd : UsbipCmdSubmit) (outPayload : Bytes)
    (result : Except ClientError UrbComplete) : Prop :=
  ∃ t ∈ history, ∃ index task, t.act = .complete index (.urb result) ∧
    t.pre.tasks[index]? = some task ∧ task.command = .submit cmd outPayload

/-- If the reply is one to a submit, it was made of what a call for it returned. -/
def MadeOfResult (loop : UrbLoop) (history : History UsbipConn UsbipAction) (out : Outgoing) :
    Prop :=
  ∀ cmd outPayload, out.command = .submit cmd outPayload →
    ∃ result, Returned history cmd outPayload result ∧
      loop.mayReturn (usbipUrb loop.deviceId cmd outPayload) result = true ∧
      out.bytes = retSubmitBytes cmd (urbOrFailed cmd result)

section

variable {loop : UrbLoop} {input : Bytes} {history : History UsbipConn UsbipAction}
  {w : UsbipConn} {out : Outgoing} {cmd : UsbipCmdSubmit} {outPayload : Bytes}

theorem madeOfResult_run (run : UsbipConn.Runs loop input history w) :
    AllReplies (MadeOfResult loop history) w := by
  refine run.history_invariant (fun history w => AllReplies (MadeOfResult loop history) w)
    (.nil _ input) ?_
  intro history pre act post _ h taken
  refine h.step taken ?_ ?_ ?_
  · intro out hmade cmd outPayload hcommand
    obtain ⟨result, ⟨t, mem, hreturned⟩, hrest⟩ := hmade cmd outPayload hcommand
    exact ⟨result, ⟨t, List.mem_cons_of_mem _ mem, hreturned⟩, hrest⟩
  · intro unlink cmd outPayload hcommand
    cases hcommand
  · intro index result task bytes hact found returned reply cmd outPayload hcommand
    dsimp only at hcommand
    rw [hcommand] at returned reply
    cases result with
    | unlink => cases reply
    | urb result =>
        cases reply
        exact ⟨result, ⟨_, List.mem_cons_self, index, task, hact, found, hcommand⟩, returned, rfl⟩

/-- A reply to a submit, as the client reads it. -/
theorem ret_of_run (hfits : loop.Fits) (run : UsbipConn.Runs loop input history w)
    (mem : out ∈ w.queue ++ w.written) (hcommand : out.command = .submit cmd outPayload) :
    ∃ ret data result, readReply out.bytes = some (.submit ret data, []) ∧
      Returned history cmd outPayload result ∧
      loop.mayReturn (usbipUrb loop.deviceId cmd outPayload) result = true ∧
      ret.actualLength.toNat = (urbOrFailed cmd result).data.length ∧
      (ret.actualLength ≤ cmd.transferBufferLength ↔
        FitsBuffer (usbipUrb loop.deviceId cmd outPayload) (urbOrFailed cmd result)) := by
  have hreplies := madeOfResult_run run
  have hmade : MadeOfResult loop history out := by
    rcases List.mem_append.mp mem with mem | mem
    · exact hreplies.queue out mem
    · exact hreplies.written out mem
  obtain ⟨result, hreturned, hmay, hbytes⟩ := hmade cmd outPayload hcommand
  have hlength : (urbOrFailed cmd result).data.length < 2 ^ 32 := by
    cases result with
    | ok complete => exact hfits _ _ hmay
    | error err => exact Nat.two_pow_pos 32
  have hread := readReply_retSubmitBytes hlength cmd []
  rw [List.append_nil, ← hbytes] at hread
  exact ⟨_, _, result, hread, hreturned, hmay, actualLength_toNat hlength cmd,
    actualLength_le_iff loop.deviceId cmd outPayload hlength⟩

end

/-! ## Completions and buffers -/

/-- Completions fit in the buffers of their callers exactly where the backend does not
make its answer longer: call by call for the emulator and for the three transfers of the
host path, and for every reply to a submit in every run of either loop.  `serve_urbs` has
the emulator behind it; `forward_urbs` passes on what its call returned, so its reply
fits where that does, and where it is what a session's backend made of the URB, exactly
where that backend does not overrun. -/
theorem completions_fit_iff (submit : UrbSubmit) (deviceId : DeviceId) (input : Bytes)
    (history : History UsbipConn UsbipAction) (w : UsbipConn) :
    (FitsBuffer submit (completeUrb submit) ↔ ¬ EmulatorOverruns submit) ∧
    (∀ libusb,
      (∀ complete, control libusb submit = some complete →
        (FitsBuffer submit complete ↔ ¬ (ControlOverruns submit ∧ libusb.ReadsPast submit))) ∧
      (FitsBuffer submit (bulk libusb submit) ↔
        ¬ (StreamOverruns submit ∧ libusb.ReadsPast submit)) ∧
      (FitsBuffer submit (interrupt libusb submit) ↔
        ¬ (StreamOverruns submit ∧ libusb.ReadsPast submit))) ∧
    (UsbipConn.Runs (serveUrbs deviceId) input history w →
      ∀ out ∈ w.queue ++ w.written, ∀ cmd outPayload, out.command = .submit cmd outPayload →
        ∃ ret data, readReply out.bytes = some (.submit ret data, []) ∧
          ret.actualLength.toNat =
            (completeUrb (usbipUrb deviceId cmd outPayload)).data.length ∧
          (ret.actualLength ≤ cmd.transferBufferLength ↔ ¬ EmulatedOverrun cmd)) ∧
    (UsbipConn.Runs (forwardUrbs deviceId) input history w →
      ∀ out ∈ w.queue ++ w.written, ∀ cmd outPayload, out.command = .submit cmd outPayload →
        ∃ ret data result, readReply out.bytes = some (.submit ret data, []) ∧
          Returned history cmd outPayload result ∧
          ret.actualLength.toNat = (urbOrFailed cmd result).data.length ∧
          (ret.actualLength ≤ cmd.transferBufferLength ↔
            FitsBuffer (usbipUrb deviceId cmd outPayload) (urbOrFailed cmd result)) ∧
          ∀ libusb devices,
            result = .ok (completeHostOrEmulated libusb (usbipUrb deviceId cmd outPayload)
              devices) →
            (ret.actualLength ≤ cmd.transferBufferLength ↔
              ¬ ForwardedOverrun deviceId cmd outPayload libusb devices)) := by
  refine ⟨completeUrb_fits_iff submit, fun libusb => ⟨fun complete h => control_fits_iff h,
    stream_fits_iff libusb submit, stream_fits_iff libusb submit⟩, ?_, ?_⟩
  · intro run out mem cmd outPayload hcommand
    obtain ⟨ret, data, result, hread, -, hmay, hlength, hfits⟩ :=
      ret_of_run (serveUrbs_fits deviceId) run mem hcommand
    obtain rfl : result = .ok (completeUrb (usbipUrb deviceId cmd outPayload)) :=
      of_decide_eq_true hmay
    have hoverrun := emulatorOverruns_usbipUrb deviceId cmd outPayload
    exact ⟨ret, data, hread, hlength,
      hfits.trans ((completeUrb_fits_iff _).trans (not_congr hoverrun))⟩
  · intro run out mem cmd outPayload hcommand
    obtain ⟨ret, data, result, hread, hreturned, -, hlength, hfits⟩ :=
      ret_of_run (forwardUrbs_fits deviceId) run mem hcommand
    refine ⟨ret, data, result, hread, hreturned, hlength, hfits, ?_⟩
    rintro libusb devices rfl
    have hoverrun := backendOverruns_usbipUrb deviceId cmd outPayload libusb devices
    exact hfits.trans ((completeHostOrEmulated_fits_iff libusb _ devices).trans
      (not_congr hoverrun))

namespace Sample

/-- The first request of an enumeration: eight bytes of the device descriptor. -/
def getDescriptor (length : UInt32) : UsbipCmdSubmit :=
  { inSubmit with
    ep := 0
    transferBufferLength := length
    setup := #v[0x80, 0x06, 0, 1, 0, 0, length.toUInt8, 0] }

/-- The submit is served. -/
def described (length : UInt32) : History UsbipConn UsbipAction × UsbipConn :=
  replay (UsbipConn.step serving)
    [.read, .complete 0 (.urb (.ok (completeUrb (usbipUrb 1 (getDescriptor length) [])))),
      .send 0, .write]
    ([], { input := (getDescriptor length).encode })

theorem runs_described (length : UInt32) :
    UsbipConn.Runs serving (getDescriptor length).encode (described length).1
      (described length).2 :=
  Run.nil.replay _

/-- What is written for it. -/
def descriptorReply (length : UInt32) : Outgoing :=
  { bytes := retSubmitBytes (getDescriptor length)
      (completeUrb (usbipUrb 1 (getDescriptor length) []))
    command := .submit (getDescriptor length) [] }

end Sample

theorem sample_completions_fit :
    ∃ ret data, readReply (Sample.descriptorReply 18).bytes = some (.submit ret data, []) ∧
      ret.actualLength ≤ (Sample.getDescriptor 18).transferBufferLength := by
  have hwritten : (Sample.described 18).2.written = [Sample.descriptorReply 18] := by
    decide +kernel
  have mem : Sample.descriptorReply 18 ∈
      (Sample.described 18).2.queue ++ (Sample.described 18).2.written := by
    rw [hwritten]
    exact List.mem_append_right _ List.mem_cons_self
  have hfits : ¬ EmulatedOverrun (Sample.getDescriptor 18) := by
    unfold EmulatedOverrun AddressedIn
    decide
  have hserved := (completions_fit_iff (usbipUrb 1 (Sample.getDescriptor 18) []) 1 _ _ _).2.2.1
    (Sample.runs_described 18)
  obtain ⟨ret, data, hread, -, hiff⟩ := hserved _ mem _ _ rfl
  exact ⟨ret, data, hread, hiff.mpr hfits⟩

/-- The whole descriptor is announced to a client that asked for eight bytes of it. -/
theorem descriptor_overruns_buffer :
    ¬ ∀ deviceId input history w, UsbipConn.Runs (serveUrbs deviceId) input history w →
      ∀ out ∈ w.written, ∀ cmd outPayload ret data rest, out.command = .submit cmd outPayload →
        readReply out.bytes = some (.submit ret data, rest) →
        ret.actualLength ≤ cmd.transferBufferLength := by
  intro hclaim
  have hwritten : (Sample.described 8).2.written = [Sample.descriptorReply 8] := by
    decide +kernel
  have mem : Sample.descriptorReply 8 ∈ (Sample.described 8).2.written := by
    rw [hwritten]
    exact List.mem_cons_self
  have hlength : (completeUrb (usbipUrb 1 (Sample.getDescriptor 8) [])).data.length < 2 ^ 32 := by
    decide
  have hread := readReply_retSubmitBytes hlength (Sample.getDescriptor 8) []
  rw [List.append_nil] at hread
  have hle := hclaim 1 _ _ _ (Sample.runs_described 8) _ mem _ _ _ _ _ rfl hread
  exact absurd hle (by decide)

end FarBus.Core
