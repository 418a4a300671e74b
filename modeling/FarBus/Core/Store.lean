/-
  Core/Store.lean --- the sessions a client keeps on disk, after
  `crates/farbus-core/src/store.rs`.

  `save_session` replaces two files, the session of its fingerprint and then `latest`.  A
  call that is cut off has performed a number of the operations on files, with the file
  contents written byte by byte, so that every point of a crash is one of these numbers.

  Whatever calls were made and wherever they were cut off, the directory holds, for each
  fingerprint, the last session whose file was renamed, and in `latest` the fingerprint
  of the last call that got to its end (`Stores`).  Loading reads them back.
-/
import FarBus.Core.Files
import FarBus.Core.Fingerprint

set_option autoImplicit false

namespace FarBus.Core

open FarBus.Foundation
open FarBus.Protocol

/-- `SocketAddr`, by its `Display` and `FromStr`: the text is one line, and parses back. -/
structure SocketAddrText (Addr : Type) where
  display : Addr → String
  parse : String → Option Addr
  parse_display : ∀ addr, parse (display addr) = some addr
  oneLine : ∀ addr, OneLine (display addr)

structure StoredSession (Addr : Type) where
  addr : Addr
  fingerprint : PeerFingerprint
  authToken : Bytes32
  clientSecret : Option Bytes32
  deriving DecidableEq

variable {Addr : Type}

/-! ## Saving -/

/-- The text of a session file. -/
def StoredSession.content (format : SocketAddrText Addr) (self : StoredSession Addr) : String :=
  format.display self.addr ++ "\n" ++ self.fingerprint.toString ++ "\n" ++
    hexString self.authToken.toList ++ "\n" ++
    match self.clientSecret with
    | some secret => hexString secret.toList ++ "\n"
    | none => ""

def sessionPath (fingerprint : PeerFingerprint) : String := fingerprint.toString ++ ".session"

/-- The operations of `save_session` on files. -/
def saveSession (format : SocketAddrText Addr) (session : StoredSession Addr) :
    List (FileOp String UInt8) :=
  writePrivateAtomic (sessionPath session.fingerprint) (strBytes (session.content format)) ++
    writePrivateAtomic "latest" (strBytes session.fingerprint.toString)

/-- A call of `save_session`, cut off after this many operations. -/
structure Save (Addr : Type) where
  session : StoredSession Addr
  steps : Nat

def Save.run (format : SocketAddrText Addr) (dir : Directory String UInt8) (self : Save Addr) :
    Directory String UInt8 :=
  perform dir ((saveSession format self.session).take self.steps)

/-- What calls of `save_session` leave in a directory that was empty. -/
def afterSaves (format : SocketAddrText Addr) (saves : List (Save Addr)) :
    Directory String UInt8 :=
  saves.foldl (Save.run format) fun _ => none

/-! ## Loading -/

/-- The lines of a session file. -/
def parseSession (format : SocketAddrText Addr) (lines : List String) :
    Option (StoredSession Addr) := do
  let addr ← lines[0]? >>= format.parse
  let fingerprint ← lines[1]? >>= fun line => (PeerFingerprint.fromStr line).toOption
  let authToken ← lines[2]? >>= parseHex32
  let clientSecret := lines[3]? >>= parseHex32
  some { addr, fingerprint, authToken, clientSecret }

def loadSession (format : SocketAddrText Addr) (dir : Directory String UInt8)
    (fingerprint : Option PeerFingerprint) : Option (StoredSession Addr) := do
  let fp ← match fingerprint with
    | some fp => some fp
    | none => do
        let latest ← readToString dir "latest"
        (PeerFingerprint.fromStr (trim latest)).toOption
  let text ← readToString dir (sessionPath fp)
  parseSession format (lines text)

/-! ## What is stored -/

/-- The session file was renamed. -/
def Save.storesSession (format : SocketAddrText Addr) (self : Save Addr) : Bool :=
  (writePrivateAtomic (sessionPath self.session.fingerprint)
    (strBytes (self.session.content format))).length ≤ self.steps

/-- `latest` was renamed. -/
def Save.storesLatest (format : SocketAddrText Addr) (self : Save Addr) : Bool :=
  (saveSession format self.session).length ≤ self.steps

/-- The session of the last call for a fingerprint whose session file was renamed. -/
def lastStored (format : SocketAddrText Addr) (saves : List (Save Addr))
    (fingerprint : PeerFingerprint) : Option (StoredSession Addr) :=
  (saves.filter fun save => save.session.fingerprint = fingerprint ∧
    save.storesSession format = true).getLast?.map Save.session

/-- The fingerprint of the last call whose `latest` was renamed. -/
def lastLatest (format : SocketAddrText Addr) (saves : List (Save Addr)) : Option PeerFingerprint :=
  (saves.filter (Save.storesLatest format)).getLast?.map fun save => save.session.fingerprint

/-- The directory holds these sessions, and this latest fingerprint. -/
structure Stores (format : SocketAddrText Addr) (dir : Directory String UInt8)
    (stored : PeerFingerprint → Option (StoredSession Addr)) (latest : Option PeerFingerprint) :
    Prop where
  session : ∀ fingerprint, dir (sessionPath fingerprint) =
    (stored fingerprint).map fun session => strBytes (session.content format)
  latest : dir "latest" = latest.map fun fingerprint => strBytes fingerprint.toString
  own : ∀ fingerprint session, stored fingerprint = some session →
    session.fingerprint = fingerprint

/-! ## The names do not clash -/

theorem length_toString (fingerprint : PeerFingerprint) :
    fingerprint.toString.toList.length = 64 := by
  unfold PeerFingerprint.toString hexString
  rw [String.toList_ofList, List.length_flatMap]
  simp [hexByte]

/-- A character of a hexadecimal text is a digit. -/
theorem of_mem_hexString {bytes : Bytes} {c : Char} (h : c ∈ (hexString bytes).toList) :
    (c ≠ '\n' ∧ c ≠ '\r') ∧ c ≠ '.' ∧ isWhitespace c = false := by
  have hdigit : ∀ n < 16, (hexDigit n ≠ '\n' ∧ hexDigit n ≠ '\r') ∧ hexDigit n ≠ '.' ∧
      isWhitespace (hexDigit n) = false := by decide
  unfold hexString at h
  rw [String.toList_ofList, List.mem_flatMap] at h
  obtain ⟨byte, -, hc⟩ := h
  obtain ⟨hhigh, hlow⟩ := halves_lt byte
  rcases List.mem_cons.mp hc with rfl | hc
  · exact hdigit _ hhigh
  · rw [List.mem_singleton.mp hc]
    exact hdigit _ hlow

theorem toString_injective {fingerprint fingerprint' : PeerFingerprint}
    (h : fingerprint.toString = fingerprint'.toString) : fingerprint = fingerprint' := by
  have hparsed := fingerprint.fromStr_toString
  rw [h, fingerprint'.fromStr_toString] at hparsed
  exact (Except.ok.inj hparsed).symm

theorem sessionPath_inj {fingerprint fingerprint' : PeerFingerprint} :
    sessionPath fingerprint = sessionPath fingerprint' ↔ fingerprint = fingerprint' := by
  refine ⟨fun h => toString_injective (String.append_left_inj _ |>.mp h), fun h => by rw [h]⟩

theorem withExtension_sessionPath (fingerprint : PeerFingerprint) :
    withExtension (sessionPath fingerprint) "tmp" = fingerprint.toString ++ ".tmp" := by
  have hpath : sessionPath fingerprint =
      String.ofList (fingerprint.toString.toList ++ '.' :: "session".toList) := by
    rw [String.ofList_append, String.ofList_toList]
    rfl
  have hne : fingerprint.toString.toList ≠ [] := by
    intro hnil
    have hlength := length_toString fingerprint
    rw [hnil] at hlength
    cases hlength
  have hstem := fileStem_extension hne (by decide : '.' ∉ "session".toList)
  rw [withExtension, hpath, hstem, String.ofList_toList, String.append_assoc]
  rfl

theorem withExtension_latest : withExtension "latest" "tmp" = "latest.tmp" := by decide

/-- Neither file is where the other one, or any temporary file, is. -/
theorem sessionPath_ne (fingerprint fingerprint' : PeerFingerprint) :
    sessionPath fingerprint ≠ fingerprint'.toString ++ ".tmp" ∧
      sessionPath fingerprint ≠ "latest.tmp" ∧ sessionPath fingerprint ≠ "latest" ∧
      "latest" ≠ fingerprint'.toString ++ ".tmp" := by
  have hpath : (sessionPath fingerprint).toList.length = 72 := by
    rw [sessionPath, String.toList_append, List.length_append, length_toString]
    rfl
  have htemp : (fingerprint'.toString ++ ".tmp").toList.length = 68 := by
    rw [String.toList_append, List.length_append, length_toString]
    rfl
  refine ⟨?_, ?_, ?_, ?_⟩ <;> intro heq
  · rw [heq, htemp] at hpath
    cases hpath
  · rw [heq] at hpath
    exact absurd hpath (by decide)
  · rw [heq] at hpath
    exact absurd hpath (by decide)
  · rw [← heq] at htemp
    exact absurd htemp (by decide)

/-! ## One call -/

section

variable (format : SocketAddrText Addr) (dir : Directory String UInt8) (save : Save Addr)

theorem Save.run_sessionPath (fingerprint : PeerFingerprint) :
    save.run format dir (sessionPath fingerprint) =
      if save.session.fingerprint = fingerprint ∧ save.storesSession format = true then
        some (strBytes (save.session.content format))
      else dir (sessionPath fingerprint) := by
  obtain ⟨htemp, hlatestTemp, hlatest, -⟩ := sessionPath_ne fingerprint save.session.fingerprint
  rw [← withExtension_sessionPath] at htemp
  rw [← withExtension_latest] at hlatestTemp
  rw [Save.run, saveSession, writePrivateAtomic, writePrivateAtomic,
    perform_take_writeAtomic₂ _ _ _ _ htemp hlatestTemp, if_neg fun h => hlatest h.1]
  simp only [Save.storesSession, writePrivateAtomic, length_writeAtomic, sessionPath_inj,
    decide_eq_true_eq, @eq_comm _ fingerprint]

theorem Save.run_latest :
    save.run format dir "latest" =
      if save.storesLatest format = true then some (strBytes save.session.fingerprint.toString)
      else dir "latest" := by
  obtain ⟨-, -, hsession, htemp⟩ :=
    sessionPath_ne save.session.fingerprint save.session.fingerprint
  rw [← withExtension_sessionPath] at htemp
  have hlatestTemp : "latest" ≠ withExtension "latest" "tmp" := by decide
  rw [Save.run, saveSession, writePrivateAtomic, writePrivateAtomic,
    perform_take_writeAtomic₂ _ _ _ _ htemp hlatestTemp]
  simp only [Save.storesLatest, saveSession, writePrivateAtomic, List.length_append,
    length_writeAtomic, decide_eq_true_eq, true_and, Ne.symm hsession, false_and, if_false]

end

/-! ## Any number of calls -/

theorem getLast?_filter_concat {α : Type} (p : α → Bool) (items : List α) (item : α) :
    ((items ++ [item]).filter p).getLast? =
      if p item = true then some item else (items.filter p).getLast? := by
  rw [List.filter_append]
  by_cases h : p item = true
  · rw [if_pos h, List.filter_cons_of_pos h, List.filter_nil, List.getLast?_concat]
  · rw [if_neg h, List.filter_cons_of_neg h, List.filter_nil, List.append_nil]

theorem lastStored_concat (format : SocketAddrText Addr) (saves : List (Save Addr))
    (save : Save Addr) (fingerprint : PeerFingerprint) :
    lastStored format (saves ++ [save]) fingerprint =
      if save.session.fingerprint = fingerprint ∧ save.storesSession format = true then
        some save.session
      else lastStored format saves fingerprint := by
  unfold lastStored
  rw [getLast?_filter_concat]
  simp only [decide_eq_true_eq]
  split <;> rfl

theorem lastLatest_concat (format : SocketAddrText Addr) (saves : List (Save Addr))
    (save : Save Addr) :
    lastLatest format (saves ++ [save]) =
      if save.storesLatest format = true then some save.session.fingerprint
      else lastLatest format saves := by
  unfold lastLatest
  rw [getLast?_filter_concat]
  split <;> rfl

theorem stores_afterSaves (format : SocketAddrText Addr) (saves : List (Save Addr)) :
    Stores format (afterSaves format saves) (lastStored format saves)
      (lastLatest format saves) := by
  induction saves using List.reverseRecOn with
  | nil => exact ⟨fun _ => rfl, rfl, fun _ _ h => by cases h⟩
  | append_singleton saves save ih =>
      have hrun : afterSaves format (saves ++ [save]) = save.run format (afterSaves format saves) :=
        List.foldl_concat ..
      rw [hrun]
      refine ⟨?_, ?_, ?_⟩
      · intro fingerprint
        rw [Save.run_sessionPath, lastStored_concat, ih.session]
        split <;> rfl
      · rw [Save.run_latest, lastLatest_concat, ih.latest]
        split <;> rfl
      · intro fingerprint session hstored
        rw [lastStored_concat] at hstored
        split at hstored
        · rename_i hsave
          cases hstored
          exact hsave.1
        · exact ih.own fingerprint session hstored

/-! ## Loading reads back what was saved -/

theorem oneLine_hexString (bytes : Bytes) : OneLine (hexString bytes) :=
  fun _ hc => (of_mem_hexString hc).1

theorem lines_content (format : SocketAddrText Addr) (session : StoredSession Addr) :
    lines (session.content format) =
      [format.display session.addr, session.fingerprint.toString,
        hexString session.authToken.toList] ++
        (session.clientSecret.map fun secret => hexString secret.toList).toList := by
  have hfeed : "\n".toList = ['\n'] := rfl
  have hfingerprint : OneLine session.fingerprint.toString := oneLine_hexString _
  unfold lines StoredSession.content
  simp only [String.toList_append, hfeed, List.append_assoc, List.cons_append, List.nil_append]
  rw [linesFrom_line (format.oneLine _), linesFrom_line hfingerprint,
    linesFrom_line (oneLine_hexString _)]
  cases session.clientSecret with
  | none => rfl
  | some secret =>
      dsimp only
      rw [String.toList_append, hfeed, linesFrom_line (oneLine_hexString _)]
      rfl

theorem parseSession_content (format : SocketAddrText Addr) (session : StoredSession Addr) :
    parseSession format (lines (session.content format)) = some session := by
  rw [lines_content]
  obtain ⟨addr, fingerprint, authToken, clientSecret⟩ := session
  unfold parseSession
  cases clientSecret with
  | none =>
      simp [format.parse_display, fingerprint.fromStr_toString, parseHex32_hexString,
        Except.toOption]
  | some secret =>
      simp [format.parse_display, fingerprint.fromStr_toString, parseHex32_hexString,
        Except.toOption]

theorem loadSession_some {format : SocketAddrText Addr} {dir : Directory String UInt8}
    {stored : PeerFingerprint → Option (StoredSession Addr)} {latest : Option PeerFingerprint}
    (h : Stores format dir stored latest) (fingerprint : PeerFingerprint) :
    loadSession format dir (some fingerprint) = stored fingerprint := by
  have hfile := h.session fingerprint
  unfold loadSession
  cases hstored : stored fingerprint with
  | none =>
      rw [hstored, Option.map_none] at hfile
      simp [readToString, hfile]
  | some session =>
      rw [hstored, Option.map_some] at hfile
      simp [readToString_strBytes hfile, parseSession_content]

theorem loadSession_none {format : SocketAddrText Addr} {dir : Directory String UInt8}
    {stored : PeerFingerprint → Option (StoredSession Addr)} {latest : Option PeerFingerprint}
    (h : Stores format dir stored latest) :
    loadSession format dir none = latest.bind stored := by
  cases latest with
  | none =>
      have hfile := h.latest
      simp [loadSession, readToString, hfile]
  | some fingerprint =>
      have hfile := h.latest
      have htrim : trim fingerprint.toString = fingerprint.toString :=
        trim_eq_self fun c hc => (of_mem_hexString hc).2.2
      have hload : loadSession format dir none = loadSession format dir (some fingerprint) := by
        simp [loadSession, readToString_strBytes hfile, htrim, fingerprint.fromStr_toString,
          Except.toOption]
      rw [hload, loadSession_some h]
      rfl

/-- A call that renames `latest` has renamed the session file. -/
theorem Save.storesSession_of_storesLatest {format : SocketAddrText Addr} {save : Save Addr}
    (h : save.storesLatest format = true) : save.storesSession format = true := by
  unfold Save.storesLatest saveSession at h
  rw [decide_eq_true_eq, List.length_append] at h
  unfold Save.storesSession
  rw [decide_eq_true_eq]
  exact Nat.le_trans (Nat.le_add_right _ _) h

/-- The latest fingerprint has a session. -/
theorem lastStored_of_latest (format : SocketAddrText Addr) (saves : List (Save Addr))
    {fingerprint : PeerFingerprint} (h : lastLatest format saves = some fingerprint) :
    (lastStored format saves fingerprint).isSome = true := by
  induction saves using List.reverseRecOn with
  | nil => cases h
  | append_singleton saves save ih =>
      rw [lastLatest_concat] at h
      rw [lastStored_concat]
      split
      · rfl
      · rename_i hother
        split at h
        · rename_i hlatest
          cases h
          exact absurd ⟨rfl, Save.storesSession_of_storesLatest hlatest⟩ hother
        · exact ih h

/-- The store is a crash-safe map.  After any calls of `save_session`, each cut off
anywhere, loading a fingerprint gives the session of the last call for it whose session
file was renamed; loading the latest gives what is stored for the last call whose `latest`
was renamed; and one more call leaves what is loaded for other fingerprints alone. -/
theorem session_store_crash_safe (format : SocketAddrText Addr) (saves : List (Save Addr)) :
    (∀ fingerprint, loadSession format (afterSaves format saves) (some fingerprint) =
      lastStored format saves fingerprint) ∧
    (loadSession format (afterSaves format saves) none =
      (lastLatest format saves).bind (lastStored format saves)) ∧
    (∀ fingerprint, lastLatest format saves = some fingerprint →
      (lastStored format saves fingerprint).isSome = true) ∧
    ∀ (save : Save Addr) (fingerprint : PeerFingerprint), save.session.fingerprint ≠ fingerprint →
      loadSession format (save.run format (afterSaves format saves)) (some fingerprint) =
        loadSession format (afterSaves format saves) (some fingerprint) := by
  have hstores := stores_afterSaves format saves
  refine ⟨loadSession_some hstores, loadSession_none hstores,
    fun _ => lastStored_of_latest format saves, ?_⟩
  intro save fingerprint hother
  have hfile := save.run_sessionPath format (afterSaves format saves) fingerprint
  rw [if_neg fun h => hother h.1] at hfile
  simp only [loadSession, readToString, hfile, Option.bind_eq_bind, Option.bind_some]

namespace Sample

/-- One address. -/
def loopback : SocketAddrText Unit where
  display _ := "127.0.0.1:3240"
  parse text := if text = "127.0.0.1:3240" then some () else none
  parse_display _ := rfl
  oneLine _ := by
    have hall : "127.0.0.1:3240".toList.all (fun c => decide (c ≠ '\n' ∧ c ≠ '\r')) = true := by
      decide
    exact fun c mem => of_decide_eq_true (List.all_eq_true.mp hall c mem)

def savedSession (n : UInt8) : StoredSession Unit :=
  { addr := (), fingerprint := Vector.replicate 32 7, authToken := Vector.replicate 32 n
    clientSecret := none }

/-- A session is saved, and saving the next one is cut off while its file is written. -/
def cutOff : List (Save Unit) := [⟨savedSession 1, 300⟩, ⟨savedSession 2, 40⟩]

end Sample

theorem sample_session_store_crash_safe :
    loadSession Sample.loopback (afterSaves Sample.loopback Sample.cutOff) none =
      some (Sample.savedSession 1) := by
  obtain ⟨-, hlatest, -⟩ := session_store_crash_safe Sample.loopback Sample.cutOff
  rw [hlatest]
  decide +kernel

end FarBus.Core
