/-
  Core/Discovery.lean --- the beacons of `crates/farbus-core/src/discovery.rs`.

  A beacon carries the text of an address and a host name, each behind its length in one
  byte.  The encoder cuts a long host name after 255 bytes, wherever that is in a
  character, and the decoder takes no text that is not UTF-8.
-/
import FarBus.Foundation.Text
import FarBus.Protocol.Decode
import FarBus.Core.Address
import FarBus.Core.Lease

set_option autoImplicit false

namespace FarBus.Core

open FarBus.Foundation
open FarBus.Protocol

/-- `b"FARBD1"`. -/
def BEACON_MAGIC : Bytes := [0x46, 0x41, 0x52, 0x42, 0x44, 0x31]

/-- The receive buffer of `collect`. -/
def BEACON_BUFFER : Nat := 512

def encodeBeacon (text : AddressText) (fingerprint : PeerFingerprint) (listen : SocketAddr)
    (hostname : String) : Bytes :=
  let addr := text.display listen
  -- `u8::try_from(addr.len()).unwrap_or(0)`
  let addrLen := if addr.utf8ByteSize < 256 then UInt8.ofNat addr.utf8ByteSize else 0
  let hostLen := UInt8.ofNat (min hostname.utf8ByteSize 255)
  BEACON_MAGIC ++ fingerprint.toList ++ [addrLen] ++ (strBytes addr).take addrLen.toNat ++
    [hostLen] ++ (strBytes hostname).take hostLen.toNat

/-- `bytes.get(from..from + n)`. -/
def getRange (bytes : Bytes) (start n : Nat) : Option Bytes :=
  if start + n ≤ bytes.length then some ((bytes.drop start).take n) else none

/-- `fp.copy_from_slice(slice)`, of a slice that is long enough. -/
def copyBytes32 (slice : Bytes) : Bytes32 := Vector.ofFn fun i => slice.getD i 0

def decodeBeacon (text : AddressText) (bytes : Bytes) :
    Option (PeerFingerprint × SocketAddr × String) :=
  if bytes.length < BEACON_MAGIC.length + 32 + 2 then none
  else if bytes.take BEACON_MAGIC.length ≠ BEACON_MAGIC then none
  else do
    let fp := copyBytes32 (bytes.drop BEACON_MAGIC.length)
    let cur := BEACON_MAGIC.length + 32
    let addrLen ← bytes[cur]?
    let cur := cur + 1
    let addr ← (Cursor.fromUtf8 (← getRange bytes cur addrLen.toNat)).toOption
    let listen ← text.parse addr
    let cur := cur + addrLen.toNat
    let hostLen ← bytes[cur]?
    let cur := cur + 1
    let hostname ← (Cursor.fromUtf8 (← getRange bytes cur hostLen.toNat)).toOption
    some (fp, listen, hostname)

/-! ## What the decoder reads of a beacon -/

theorem copyBytes32_append (v : Bytes32) (rest : Bytes) : copyBytes32 (v.toList ++ rest) = v :=
  ofFn_getD_append v 0 rest

theorem getRange_append {front field : Bytes} {start n : Nat} (hfront : front.length = start)
    (hfield : field.length = n) (rest : Bytes) :
    getRange (front ++ (field ++ rest)) start n = some field := by
  have hlength : start + n ≤ (front ++ (field ++ rest)).length := by
    simp only [List.length_append]
    omega
  rw [getRange, if_pos hlength, List.drop_left' hfront, List.take_left' hfield]

theorem getElem?_append_middle {front : Bytes} {i : Nat} (h : front.length = i) (byte : UInt8)
    (rest : Bytes) : (front ++ byte :: rest)[i]? = some byte := by
  rw [← h, List.getElem?_append_right (Nat.le_refl _), Nat.sub_self, List.getElem?_cons_zero]

/-- A beacon of an address and the bytes of a host name. -/
def beaconOf (fingerprint : PeerFingerprint) (addr : String) (host : Bytes) : Bytes :=
  BEACON_MAGIC ++ fingerprint.toList ++ [UInt8.ofNat addr.utf8ByteSize] ++ strBytes addr ++
    [UInt8.ofNat host.length] ++ host

section Fields

variable (fingerprint : PeerFingerprint) (addr : String) (host : Bytes)

/-- A beacon up to the length of its address, and up to the length of its host name. -/
def beaconAddrFront : Bytes :=
  BEACON_MAGIC ++ fingerprint.toList ++ [UInt8.ofNat addr.utf8ByteSize]

def beaconHostFront : Bytes :=
  beaconAddrFront fingerprint addr ++ strBytes addr ++ [UInt8.ofNat host.length]

theorem length_beaconAddrFront :
    (beaconAddrFront fingerprint addr).length = BEACON_MAGIC.length + 32 + 1 := by
  have hfp : fingerprint.toList.length = 32 := Vector.length_toList
  rw [beaconAddrFront, List.length_append, List.length_append, hfp, List.length_singleton]

theorem length_beaconHostFront :
    (beaconHostFront fingerprint addr host).length =
      BEACON_MAGIC.length + 32 + 1 + addr.utf8ByteSize + 1 := by
  rw [beaconHostFront, List.length_append, List.length_append, length_beaconAddrFront,
    length_strBytes, List.length_singleton]

theorem beaconOf_magic :
    (beaconOf fingerprint addr host).take BEACON_MAGIC.length = BEACON_MAGIC := by
  simp only [beaconOf, List.append_assoc]
  exact List.take_left' rfl

theorem beaconOf_fingerprint :
    copyBytes32 ((beaconOf fingerprint addr host).drop BEACON_MAGIC.length) = fingerprint := by
  simp only [beaconOf, List.append_assoc]
  rw [List.drop_left' rfl]
  exact copyBytes32_append fingerprint _

theorem beaconOf_addrLen :
    (beaconOf fingerprint addr host)[BEACON_MAGIC.length + 32]? =
      some (UInt8.ofNat addr.utf8ByteSize) := by
  have hfp : fingerprint.toList.length = 32 := Vector.length_toList
  have hcut : beaconOf fingerprint addr host = (BEACON_MAGIC ++ fingerprint.toList) ++
      UInt8.ofNat addr.utf8ByteSize :: (strBytes addr ++ UInt8.ofNat host.length :: host) := by
    simp [beaconOf]
  rw [hcut]
  exact getElem?_append_middle (by rw [List.length_append, hfp]) _ _

theorem beaconOf_addr :
    getRange (beaconOf fingerprint addr host) (BEACON_MAGIC.length + 32 + 1) addr.utf8ByteSize =
      some (strBytes addr) := by
  have hcut : beaconOf fingerprint addr host = beaconAddrFront fingerprint addr ++
      (strBytes addr ++ UInt8.ofNat host.length :: host) := by
    simp [beaconOf, beaconAddrFront]
  rw [hcut]
  exact getRange_append (length_beaconAddrFront fingerprint addr) (length_strBytes addr) _

theorem beaconOf_hostLen :
    (beaconOf fingerprint addr host)[BEACON_MAGIC.length + 32 + 1 + addr.utf8ByteSize]? =
      some (UInt8.ofNat host.length) := by
  have hcut : beaconOf fingerprint addr host =
      (beaconAddrFront fingerprint addr ++ strBytes addr) ++ UInt8.ofNat host.length :: host := by
    simp [beaconOf, beaconAddrFront]
  rw [hcut]
  refine getElem?_append_middle ?_ _ _
  rw [List.length_append, length_beaconAddrFront, length_strBytes]

theorem beaconOf_host :
    getRange (beaconOf fingerprint addr host)
      (BEACON_MAGIC.length + 32 + 1 + addr.utf8ByteSize + 1) host.length = some host := by
  have hcut : beaconOf fingerprint addr host =
      beaconHostFront fingerprint addr host ++ (host ++ []) := by
    simp [beaconOf, beaconHostFront, beaconAddrFront]
  rw [hcut]
  exact getRange_append (length_beaconHostFront fingerprint addr host) rfl _

theorem le_length_beaconOf :
    ¬ (beaconOf fingerprint addr host).length < BEACON_MAGIC.length + 32 + 2 := by
  have hfp : fingerprint.toList.length = 32 := Vector.length_toList
  simp only [beaconOf, List.length_append, List.length_singleton, hfp]
  omega

end Fields

/-- Of such a beacon everything but the host name is always read. -/
theorem decodeBeacon_beaconOf (text : AddressText) (fingerprint : PeerFingerprint) {addr : String}
    {listen : SocketAddr} (haddr : addr.utf8ByteSize ≤ 255) (hparse : text.parse addr = some listen)
    {host : Bytes} (hhost : host.length ≤ 255) :
    decodeBeacon text (beaconOf fingerprint addr host) =
      (Cursor.fromUtf8 host).toOption.map fun hostname => (fingerprint, listen, hostname) := by
  have haddrLen : (UInt8.ofNat addr.utf8ByteSize).toNat = addr.utf8ByteSize :=
    UInt8.toNat_ofNat_of_lt' (Nat.lt_succ_of_le haddr)
  have hhostLen : (UInt8.ofNat host.length).toNat = host.length :=
    UInt8.toNat_ofNat_of_lt' (Nat.lt_succ_of_le hhost)
  have hutf8 : Cursor.fromUtf8 (strBytes addr) = .ok addr := (fromUtf8_eq_ok_iff _ _).mpr rfl
  rw [decodeBeacon, if_neg (le_length_beaconOf fingerprint addr host),
    if_neg (not_not.mpr (beaconOf_magic fingerprint addr host))]
  simp only [beaconOf_addrLen, haddrLen, beaconOf_addr, hutf8, hparse, beaconOf_hostLen, hhostLen,
    beaconOf_host, beaconOf_fingerprint, Option.bind_eq_bind, Option.bind_some, Except.toOption]
  cases Cursor.fromUtf8 host <;> rfl

/-! ## The cut host name -/

theorem encodeBeacon_eq (text : AddressText) (fingerprint : PeerFingerprint) {listen : SocketAddr}
    (haddr : (text.display listen).utf8ByteSize ≤ 255) (hostname : String) :
    encodeBeacon text fingerprint listen hostname =
      beaconOf fingerprint (text.display listen) ((strBytes hostname).take 255) := by
  have haddrLen : (UInt8.ofNat (text.display listen).utf8ByteSize).toNat =
      (text.display listen).utf8ByteSize :=
    UInt8.toNat_ofNat_of_lt' (Nat.lt_succ_of_le haddr)
  have hkept : ((strBytes hostname).take 255).length = min hostname.utf8ByteSize 255 := by
    rw [List.length_take, length_strBytes, Nat.min_comm]
  have hhostLen : (UInt8.ofNat (min hostname.utf8ByteSize 255)).toNat =
      min hostname.utf8ByteSize 255 :=
    UInt8.toNat_ofNat_of_lt' (Nat.lt_succ_of_le (Nat.min_le_right _ _))
  have hhost : (strBytes hostname).take (min hostname.utf8ByteSize 255) =
      (strBytes hostname).take 255 := by
    rw [Nat.min_comm, ← List.take_take, ← length_strBytes, List.take_length]
  rw [encodeBeacon, beaconOf, if_pos (Nat.lt_succ_of_le haddr), haddrLen, hhostLen, hhost, hkept,
    ← length_strBytes (text.display listen), List.take_length, length_strBytes]

/-- A character of the text ends after `n` bytes. -/
def CutsAt (s : String) (n : Nat) : Prop :=
  ∃ start rest, s = start ++ rest ∧ start.utf8ByteSize = n

/-- Of a text that repeats one character. -/
theorem CutsAt.of_replicate {n k : Nat} {c : Char}
    (h : CutsAt (String.ofList (List.replicate n c)) k) : ∃ m, k = m * c.utf8Size := by
  obtain ⟨start, rest, hrest, hstart⟩ := h
  have hprefix : start.toList <+: List.replicate n c := by
    refine ⟨rest.toList, ?_⟩
    rw [← String.toList_append, ← hrest, String.toList_ofList]
  obtain ⟨-, hchars⟩ := List.prefix_replicate_iff.mp hprefix
  have hcount := utf8ByteSize_replicate start.toList.length c
  rw [← hchars, String.ofList_toList, hstart] at hcount
  exact ⟨_, hcount⟩

section

variable (text : AddressText) (fingerprint : PeerFingerprint) {listen : SocketAddr}

/-- The beacon is read as what it was written for, and fits the receive buffer. -/
def BeaconDecodes (listen : SocketAddr) (hostname : String) : Prop :=
  (∃ h, decodeBeacon text (encodeBeacon text fingerprint listen hostname) =
      some (fingerprint, listen, h) ∧
    (∃ rest, hostname = h ++ rest) ∧ (hostname.utf8ByteSize ≤ 255 → h = hostname)) ∧
  ((text.display listen).utf8ByteSize ≤ 64 →
    (encodeBeacon text fingerprint listen hostname).length ≤ BEACON_BUFFER)

variable (haddr : (text.display listen).utf8ByteSize ≤ 255)
  (hparse : text.parse (text.display listen) = some listen)

include haddr hparse

theorem decodeBeacon_encodeBeacon (hostname : String) :
    decodeBeacon text (encodeBeacon text fingerprint listen hostname) =
      (Cursor.fromUtf8 ((strBytes hostname).take 255)).toOption.map fun h =>
        (fingerprint, listen, h) := by
  rw [encodeBeacon_eq text fingerprint haddr]
  exact decodeBeacon_beaconOf text fingerprint haddr hparse (List.length_take_le _ _)

/-- What is decoded of a long host name is 255 bytes of it. -/
theorem cutsAt_of_beaconDecodes {hostname : String}
    (h : BeaconDecodes text fingerprint listen hostname) :
    hostname.utf8ByteSize ≤ 255 ∨ CutsAt hostname 255 := by
  obtain ⟨⟨kept, hdecode, ⟨rest, hrest⟩, -⟩, -⟩ := h
  rw [decodeBeacon_encodeBeacon text fingerprint haddr hparse] at hdecode
  rcases Nat.lt_or_ge 255 hostname.utf8ByteSize with hlong | hshort
  · right
    refine ⟨kept, rest, hrest, ?_⟩
    cases hutf8 : Cursor.fromUtf8 ((strBytes hostname).take 255) with
    | error err =>
        rw [hutf8] at hdecode
        cases hdecode
    | ok found =>
        rw [hutf8] at hdecode
        cases hdecode
        have hbytes := (fromUtf8_eq_ok_iff _ _).mp hutf8
        rw [← length_strBytes, ← hbytes, List.length_take, length_strBytes]
        omega
  · exact .inl hshort

theorem decodes_of_cut {hostname kept : String} (hkept : (strBytes hostname).take 255 = strBytes kept) :
    decodeBeacon text (encodeBeacon text fingerprint listen hostname) =
      some (fingerprint, listen, kept) := by
  have hutf8 : Cursor.fromUtf8 (strBytes kept) = .ok kept := (fromUtf8_eq_ok_iff _ _).mpr rfl
  rw [decodeBeacon_encodeBeacon text fingerprint haddr hparse, hkept, hutf8]
  rfl

/-- A beacon decodes exactly if its host name is short, or the cut is between characters. -/
theorem beacon_decodes_iff (hostname : String) :
    BeaconDecodes text fingerprint listen hostname ↔
      hostname.utf8ByteSize ≤ 255 ∨ CutsAt hostname 255 := by
  constructor
  · exact cutsAt_of_beaconDecodes text fingerprint haddr hparse
  · intro h
    refine ⟨?_, ?_⟩
    · by_cases hshort : hostname.utf8ByteSize ≤ 255
      · have hkept : (strBytes hostname).take 255 = strBytes hostname := by
          rw [List.take_of_length_le]
          exact hshort
        have hrest : hostname = hostname ++ "" := String.append_empty.symm
        exact ⟨hostname, decodes_of_cut text fingerprint haddr hparse hkept, ⟨"", hrest⟩,
          fun _ => rfl⟩
      · obtain ⟨start, rest, hrest, hstart⟩ := h.resolve_left hshort
        have hkept : (strBytes hostname).take 255 = strBytes start := by
          have hlength : (strBytes start).length = 255 := hstart
          rw [hrest, strBytes_append, List.take_left' hlength]
        exact ⟨start, decodes_of_cut text fingerprint haddr hparse hkept, ⟨rest, hrest⟩,
          fun hle => absurd hle hshort⟩
    · intro hsize
      have hfp : fingerprint.toList.length = 32 := Vector.length_toList
      have hmagic : BEACON_MAGIC.length = 6 := rfl
      have hkept := List.length_take_le 255 (strBytes hostname)
      rw [encodeBeacon_eq text fingerprint haddr, beaconOf]
      simp only [List.length_append, List.length_singleton, hfp, hmagic, length_strBytes]
      unfold BEACON_BUFFER
      omega

end

namespace Sample

def loopbackAddr : SocketAddr := .v4 LOCALHOST 7420

/-- As `std` writes and reads this address. -/
def loopbackText : AddressText :=
  { display := fun _ => "127.0.0.1:7420"
    parse := fun s => if s = "127.0.0.1:7420" then some loopbackAddr else none
    toSocketAddrs := fun _ => .error "" }

/-- 256 bytes, two to a character. -/
def longHostname : String := String.ofList (List.replicate 128 'é')

end Sample

theorem sample_beacon_decodes :
    BeaconDecodes Sample.loopbackText (Vector.replicate 32 7) Sample.loopbackAddr "farbus-pi" :=
  (beacon_decodes_iff Sample.loopbackText _ (by decide) (by decide) "farbus-pi").mpr
    (.inl (by decide))

theorem long_hostname_undecodable :
    ¬ BeaconDecodes Sample.loopbackText (Vector.replicate 32 7) Sample.loopbackAddr
      Sample.longHostname := by
  intro h
  have hsize : Sample.longHostname.utf8ByteSize = 128 * 'é'.utf8Size := utf8ByteSize_replicate _ _
  have hchar : 'é'.utf8Size = 2 := by decide
  rcases cutsAt_of_beaconDecodes _ _ (by decide) (by decide) h with hshort | hcut
  · omega
  · obtain ⟨m, hm⟩ := hcut.of_replicate
    rw [hchar] at hm
    omega

end FarBus.Core
