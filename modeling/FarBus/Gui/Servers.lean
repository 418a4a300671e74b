/-
  Gui/Servers.lean --- the list of servers and the PIN in every state the window can come to.
-/
import FarBus.Foundation.Transition
import FarBus.Gui.State

set_option autoImplicit false

namespace FarBus.Gui

open FarBus.Foundation
open FarBus.Protocol
open FarBus.Core

/-! ## The PIN -/

/-- At most six ASCII digits. -/
def PinDigits (pin : String) : Prop :=
  pin.toList.length ≤ 6 ∧ ∀ c ∈ pin.toList, isAsciiDigit c = true

theorem pinDigits_sanitizePin (raw : String) : PinDigits (sanitizePin raw) := by
  unfold PinDigits sanitizePin
  rw [String.toList_ofList]
  exact ⟨List.length_take_le _ _, fun c mem => (List.mem_filter.mp (List.mem_of_mem_take mem)).2⟩

/-! ## What an event does to the list of servers -/

def fingerprints (servers : List DiscoveredServer) : List PeerFingerprint :=
  servers.map DiscoveredServer.fingerprint

namespace GuiState

theorem any_fingerprint_iff (servers : List DiscoveredServer) (fingerprint : PeerFingerprint) :
    servers.any (fun existing => existing.fingerprint == fingerprint) = true ↔
      fingerprint ∈ fingerprints servers := by
  simp [fingerprints]

/-- Pushing a server puts none into the list, or puts it where its fingerprint says. -/
theorem servers_pushServer (state : GuiState) (server : DiscoveredServer) :
    ∃ incoming, (state.pushServer server).servers =
      replaceOrPushAll DiscoveredServer.fingerprint incoming state.servers := by
  unfold pushServer
  by_cases hmem : server.fingerprint ∈ fingerprints state.servers
  · rw [if_pos ((any_fingerprint_iff _ _).mpr hmem)]
    exact ⟨[], rfl⟩
  · rw [if_neg (mt (any_fingerprint_iff _ _).mp hmem)]
    exact ⟨[server], (replaceOrPush_of_not_mem _ hmem).symm⟩

/-- Every event leaves the list alone or puts servers into it by their fingerprints. -/
theorem servers_apply (text : AddressText) (state : GuiState) (event : GuiEvent) :
    ∃ incoming, (state.apply text event).servers =
      replaceOrPushAll DiscoveredServer.fingerprint incoming state.servers := by
  cases event with
  | serversFound servers => exact ⟨servers, rfl⟩
  | manualServerAdded =>
      unfold apply
      dsimp only
      split
      · exact servers_pushServer state _
      · exact ⟨[], rfl⟩
  | _ => exact ⟨[], rfl⟩

theorem fingerprints_prefix_apply (text : AddressText) (state : GuiState) (event : GuiEvent) :
    fingerprints state.servers <+: fingerprints (state.apply text event).servers := by
  obtain ⟨incoming, hservers⟩ := state.servers_apply text event
  rw [hservers]
  exact keys_prefix_replaceOrPushAll _ _ _

theorem nodup_fingerprints_apply (text : AddressText) {state : GuiState} (event : GuiEvent)
    (h : (fingerprints state.servers).Nodup) :
    (fingerprints (state.apply text event).servers).Nodup := by
  obtain ⟨incoming, hservers⟩ := state.servers_apply text event
  rw [hservers]
  exact nodup_keys_replaceOrPushAll _ _ h

/-- A server that was found has the place of its fingerprint, the last one of each. -/
theorem entryOf_serversFound (text : AddressText) (state : GuiState)
    (found : List DiscoveredServer) {fingerprint : PeerFingerprint}
    (mem : fingerprint ∈ fingerprints found) :
    entryOf DiscoveredServer.fingerprint fingerprint
        (state.apply text (.serversFound found)).servers =
      entryOf DiscoveredServer.fingerprint fingerprint found.reverse := by
  have hsome : (entryOf DiscoveredServer.fingerprint fingerprint found.reverse).isSome = true := by
    rw [entryOf_isSome_iff, List.map_reverse, List.mem_reverse]
    exact mem
  refine (entryOf_replaceOrPushAll DiscoveredServer.fingerprint _ _ _).trans ?_
  obtain ⟨server, hserver⟩ := Option.isSome_iff_exists.mp hsome
  rw [hserver, Option.some_or]

/-! ## What an event does to the PIN -/

theorem pin_pushServer (state : GuiState) (server : DiscoveredServer) :
    (state.pushServer server).pin = state.pin := by
  unfold pushServer
  split <;> rfl

/-- Every event leaves the PIN alone, clears it or takes the digits of what was typed. -/
theorem pin_apply (text : AddressText) (state : GuiState) (event : GuiEvent) :
    (state.apply text event).pin = state.pin ∨ (state.apply text event).pin = "" ∨
      ∃ raw, (state.apply text event).pin = sanitizePin raw := by
  cases event with
  | pinChanged raw => exact .inr (.inr ⟨raw, rfl⟩)
  | pairSucceeded addr fingerprint => exact .inr (.inl rfl)
  | manualServerAdded =>
      refine .inl ?_
      unfold apply
      dsimp only
      split
      · exact pin_pushServer state _
      · rfl
  | _ => exact .inl rfl

theorem pinDigits_apply (text : AddressText) {state : GuiState} (event : GuiEvent)
    (h : PinDigits state.pin) : PinDigits (state.apply text event).pin := by
  rcases state.pin_apply text event with hpin | hpin | ⟨raw, hpin⟩
  · rw [hpin]
    exact h
  · rw [hpin]
    exact ⟨Nat.zero_le _, fun c mem => nomatch mem⟩
  · rw [hpin]
    exact pinDigits_sanitizePin raw

end GuiState

/-! ## Runs -/

/-- What holds of the window in every state. -/
structure GuiInvariant (state : GuiState) : Prop where
  distinct : (fingerprints state.servers).Nodup
  pin : PinDigits state.pin

theorem guiInvariant_new : GuiInvariant GuiState.new where
  distinct := List.nodup_nil
  pin := ⟨Nat.zero_le _, fun _ mem => nomatch mem⟩

theorem GuiInvariant.step {pre post : GuiState} {action : GuiAction} (h : GuiInvariant pre)
    (taken : guiStep pre action = some post) : GuiInvariant post := by
  rw [← Option.some.inj taken]
  exact
    { distinct := GuiState.nodup_fingerprints_apply action.text action.event h.distinct
      pin := GuiState.pinDigits_apply action.text action.event h.pin }

/-- The list is a map: in every run no two entries share a fingerprint, an event takes none away
and keeps the order, and a scan's result is what is there after it; and the PIN has at most
six digits. -/
theorem server_list_keyed {history : History GuiState GuiAction} {state : GuiState}
    (run : Run guiStep GuiState.new history state) :
    (fingerprints state.servers).Nodup ∧
      (∀ text event,
        fingerprints state.servers <+: fingerprints (state.apply text event).servers) ∧
      (∀ text found, ∀ fingerprint ∈ fingerprints found,
        entryOf DiscoveredServer.fingerprint fingerprint
            (state.apply text (.serversFound found)).servers =
          entryOf DiscoveredServer.fingerprint fingerprint found.reverse) ∧
      PinDigits state.pin := by
  have hinv := run.invariant GuiInvariant guiInvariant_new fun _ _ _ hpre taken => hpre.step taken
  exact ⟨hinv.distinct, state.fingerprints_prefix_apply,
    fun text found _ mem => state.entryOf_serversFound text found mem, hinv.pin⟩

namespace Sample

/-- Nothing is an address and no name is known. -/
def offline : AddressText where
  display _ := ""
  parse _ := none
  toSocketAddrs _ := .error "unknown"

def server (hostname : String) (byte : UInt8) : DiscoveredServer where
  hostname := hostname
  addr := .v4 #v[192, 168, 1, 20] 7420
  fingerprint := Vector.replicate 32 byte

def scan : GuiAction := ⟨offline, .scanStarted⟩

/-- One server twice, under two names. -/
def twice : GuiAction := ⟨offline, .serversFound [server "lab" 7, server "desk" 8, server "den" 7]⟩

def scanned : GuiState := { GuiState.new with servers := [server "den" 7, server "desk" 8] }

theorem scanned_run : Run guiStep GuiState.new
    [⟨{ GuiState.new with phase := .scanning }, twice, scanned⟩,
      ⟨GuiState.new, scan, { GuiState.new with phase := .scanning }⟩] scanned :=
  .snoc (.snoc .nil rfl) rfl

end Sample

theorem sample_server_list_keyed :
    (fingerprints Sample.scanned.servers).Nodup ∧
      fingerprints Sample.scanned.servers <+:
        fingerprints (Sample.scanned.apply Sample.offline .manualServerAdded).servers ∧
      entryOf DiscoveredServer.fingerprint (Vector.replicate 32 8)
          (Sample.scanned.apply Sample.offline
            (.serversFound [Sample.server "desk" 8, Sample.server "hall" 8])).servers =
        some (Sample.server "hall" 8) ∧
      PinDigits Sample.scanned.pin := by
  obtain ⟨hdistinct, hprefix, hfound, hpin⟩ := server_list_keyed Sample.scanned_run
  refine ⟨hdistinct, hprefix _ _, ?_, hpin⟩
  exact hfound _ _ _ (.head _)

end FarBus.Gui
