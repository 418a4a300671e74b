/-
  Gui/ManualAddress.lean --- the addresses that can be typed in for a server.

  `host_has_port` takes a colon for the one in front of a port, unless the host stands in
  brackets.  An IPv6 address without brackets is therefore resolved as a host and a port:
  what is right of its last colon is read as a number, and the rest as a name.
-/
import Mathlib.Data.List.Infix
import FarBus.Core.IpText
import FarBus.Gui.State

set_option autoImplicit false

namespace FarBus.Gui

open FarBus.Foundation
open FarBus.Protocol
open FarBus.Core

/-! ## What is typed in -/

/-- A text and the address that it is meant for. -/
inductive ManualAddress where
  | ipv4 (ip : Vector UInt8 4)
  /-- without brackets -/
  | ipv6 (ip : Vector UInt16 8)
  | bracketed (ip : Vector UInt16 8)
  | socket (host : String) (addr : SocketAddr)

/-- A fingerprint may be left out. -/
def FingerprintText (fingerprint : String) : Prop :=
  trim fingerprint = "" ∨ ∃ value, PeerFingerprint.fromStr (trim fingerprint) = .ok value

/-- A decimal of 16 bits. -/
def PortText (text : List Char) (port : UInt16) : Prop :=
  text ≠ [] ∧ (∀ c ∈ text, c.isDigit = true) ∧ Nat.ofDigitChars 10 text 0 = port.toNat

/-- `ToSocketAddrs` of a text that is no socket address and has two colons or more: it is cut
at the last one, and what is left of it, being no name, is resolved only as an IPv6 literal. -/
def ResolvesAtLastColon (text : AddressText) (candidate : String) : Prop :=
  ∀ addrs, text.toSocketAddrs candidate = .ok addrs →
    ∃ host port ip n, candidate.toList = host ++ ':' :: port ∧ ':' ∉ port ∧
      Ipv6Literal host ip ∧ PortText port n ∧ ∀ addr ∈ addrs, addr = .v6 ip n 0 0

namespace ManualAddress

def host : ManualAddress → String
  | .ipv4 ip => ipv4Text ip
  | .ipv6 ip => ipv6Text ip
  | .bracketed ip => "[" ++ ipv6Text ip ++ "]"
  | .socket host _ => host

def addr : ManualAddress → SocketAddr
  | .ipv4 ip => .v4 ip 7420
  | .ipv6 ip => .v6 ip 7420 0 0
  | .bracketed ip => .v6 ip 7420 0 0
  | .socket _ addr => addr

/-- What `std` makes of the text, and of the text with a port. -/
def StdReads (text : AddressText) : ManualAddress → Prop
  | .ipv4 ip =>
      text.parse (ipv4Text ip) = none ∧
        text.toSocketAddrs (ipv4Text ip ++ ":7420") = .ok [.v4 ip 7420]
  | .ipv6 ip => text.parse (ipv6Text ip) = none ∧ ResolvesAtLastColon text (ipv6Text ip)
  | .bracketed ip =>
      text.parse ("[" ++ ipv6Text ip ++ "]") = none ∧
        text.toSocketAddrs ("[" ++ ipv6Text ip ++ "]" ++ ":7420") = .ok [.v6 ip 7420 0 0]
  | .socket host addr =>
      text.parse host = some addr ∧ host ≠ "" ∧ ∀ c ∈ host.toList, isWhitespace c = false

/-- An IPv6 address without brackets. -/
def Bare : ManualAddress → Prop
  | .ipv4 _ => False
  | .ipv6 _ => True
  | .bracketed _ => False
  | .socket _ _ => False

end ManualAddress

/-! ## The texts -/

theorem addressChars_spec {c : Char} (h : c ∈ addressChars) :
    c ≠ '[' ∧ c ≠ ']' ∧ isWhitespace c = false := by
  have hall : addressChars.all (fun c => c ≠ '[' ∧ c ≠ ']' ∧ isWhitespace c = false) = true := by
    decide
  exact of_decide_eq_true (List.all_eq_true.mp hall c h)

theorem mem_ipv6Text {ip : Vector UInt16 8} {c : Char} (h : c ∈ (ipv6Text ip).toList) :
    c = ':' ∨ c ∈ addressChars := by
  obtain ⟨pieces, hpieces, htext⟩ := exists_pieces ip
  rw [htext] at h
  rcases mem_intercalate h with hcolon | ⟨piece, hpiece, hc⟩
  · exact .inl (List.mem_singleton.mp hcolon)
  · exact .inr (hpieces.mem_addressChars piece hpiece c hc)

theorem colon_mem_ipv6Text (ip : Vector UInt16 8) : ':' ∈ (ipv6Text ip).toList := by
  obtain ⟨pieces, hpieces, htext⟩ := exists_pieces ip
  rw [htext]
  exact separator_mem_intercalate ':' hpieces.one_lt_length

theorem not_whitespace_ipv6Text {ip : Vector UInt16 8} {c : Char}
    (h : c ∈ (ipv6Text ip).toList) : isWhitespace c = false := by
  rcases mem_ipv6Text h with rfl | hc
  · rfl
  · exact (addressChars_spec hc).2.2

theorem bracket_not_mem_ipv6Text (ip : Vector UInt16 8) :
    '[' ∉ (ipv6Text ip).toList ∧ ']' ∉ (ipv6Text ip).toList := by
  constructor <;> intro h <;> rcases mem_ipv6Text h with hc | hc
  · cases hc
  · exact (addressChars_spec hc).1 rfl
  · cases hc
  · exact (addressChars_spec hc).2.1 rfl

theorem toList_bracketed (ip : Vector UInt16 8) :
    ("[" ++ ipv6Text ip ++ "]").toList = '[' :: ((ipv6Text ip).toList ++ [']']) := by
  rw [String.toList_append, String.toList_append]
  rfl

namespace ManualAddress

variable {text : AddressText} {input : ManualAddress}

theorem not_whitespace (h : input.StdReads text) :
    ∀ c ∈ input.host.toList, isWhitespace c = false := by
  cases input with
  | ipv4 ip => exact fun c hc => (addressChars_spec (mem_addressChars_of_mem_ipv4Text hc)).2.2
  | ipv6 ip => exact fun c => not_whitespace_ipv6Text
  | bracketed ip =>
      intro c hc
      rw [host, toList_bracketed, List.mem_cons, List.mem_append, List.mem_singleton] at hc
      rcases hc with rfl | hc | rfl
      · rfl
      · exact not_whitespace_ipv6Text hc
      · rfl
  | socket host addr => exact h.2.2

theorem host_ne_empty (h : input.StdReads text) : input.host.toList ≠ [] := by
  cases input with
  | ipv4 ip => exact List.ne_nil_of_mem (dot_mem_ipv4Text ip)
  | ipv6 ip => exact List.ne_nil_of_mem (colon_mem_ipv6Text ip)
  | bracketed ip =>
      rw [host, toList_bracketed]
      exact List.cons_ne_nil _ _
  | socket host addr => exact fun hnil => h.2.1 (String.toList_eq_nil_iff.mp hnil)

end ManualAddress

/-! ## Where a port is seen -/

theorem hostHasPort_eq_contains {host : String} (h : '[' ∉ host.toList) :
    hostHasPort host = host.toList.contains ':' := by
  unfold hostHasPort
  cases hchars : host.toList with
  | nil => rfl
  | cons c chars =>
      rw [hchars, List.mem_cons, not_or] at h
      split
      · rename_i rest heq
        exact absurd (List.cons.inj heq).1.symm h.1
      · rfl

/-- A colon after a bracket at the end is none. -/
theorem hostHasPort_bracketed (ip : Vector UInt16 8) :
    hostHasPort ("[" ++ ipv6Text ip ++ "]") = false := by
  unfold hostHasPort
  rw [toList_bracketed]
  change List.any _ _ = false
  rw [List.any_eq_false]
  intro tail hsuffix hprefix
  obtain ⟨front, hfront⟩ := (List.mem_tails _ _).mp hsuffix
  obtain ⟨rest, rfl⟩ := List.isPrefixOf_iff_prefix.mp hprefix
  -- the bracket before the colon would be one of the address
  have hinside := congrArg List.dropLast hfront
  rw [List.dropLast_concat, List.cons_append,
    List.dropLast_append_of_ne_nil (List.cons_ne_nil _ _)] at hinside
  refine (bracket_not_mem_ipv6Text ip).2 ?_
  rw [← hinside]
  exact List.mem_append_right _ List.mem_cons_self

/-- A server is made of the address that is resolved, once the texts are valid. -/
theorem parseManualServer_of_valid (text : AddressText) {host fingerprint : String}
    (hhost : host.toList ≠ []) (hspace : ∀ c ∈ host.toList, isWhitespace c = false)
    (hfp : FingerprintText fingerprint) :
    ∃ value, parseManualServer text host fingerprint =
      (resolveServerAddr text host).map fun addr =>
        { hostname := displayHostname host, addr, fingerprint := value } := by
  have hempty : ¬ host.isEmpty = true := by
    rw [String.isEmpty_iff, ← String.toList_eq_nil_iff]
    exact hhost
  unfold FingerprintText at hfp
  unfold parseManualServer
  rw [trim_eq_self hspace, if_neg hempty]
  generalize trim fingerprint = fingerprint at hfp ⊢
  cases resolveServerAddr text host with
  | error err => exact ⟨Vector.replicate 32 0, rfl⟩
  | ok addr =>
      rcases hfp with rfl | ⟨value, hvalue⟩
      · exact ⟨Vector.replicate 32 0, rfl⟩
      · simp only [hvalue]
        cases fingerprint.isEmpty with
        | true => exact ⟨Vector.replicate 32 0, rfl⟩
        | false => exact ⟨value, rfl⟩

theorem parseManualServer_addr_iff {text : AddressText} {host fingerprint : String}
    {addr : SocketAddr} (hhost : host.toList ≠ [])
    (hspace : ∀ c ∈ host.toList, isWhitespace c = false) (hfp : FingerprintText fingerprint) :
    (∃ server, parseManualServer text host fingerprint = .ok server ∧ server.addr = addr) ↔
      resolveServerAddr text host = .ok addr := by
  obtain ⟨value, hserver⟩ := parseManualServer_of_valid text hhost hspace hfp
  rw [hserver]
  cases resolveServerAddr text host with
  | error err =>
      constructor
      · rintro ⟨server, h, -⟩
        cases h
      · intro h
        cases h
  | ok found =>
      constructor
      · rintro ⟨server, h, rfl⟩
        cases h
        rfl
      · rintro ⟨⟩
        exact ⟨_, rfl, rfl⟩

/-! ## The address that is resolved -/

theorem resolveServerAddr_of_parse {text : AddressText} {host : String} {addr : SocketAddr}
    (h : text.parse host = some addr) : resolveServerAddr text host = .ok addr := by
  unfold resolveServerAddr
  rw [h]

/-- A text that is no socket address is resolved, with the default port unless one is seen. -/
theorem resolveServerAddr_ok_iff {text : AddressText} {host : String} {addr : SocketAddr}
    (h : text.parse host = none) :
    resolveServerAddr text host = .ok addr ↔
      ∃ later, text.toSocketAddrs (if hostHasPort host then host else host ++ ":7420") =
        .ok (addr :: later) := by
  unfold resolveServerAddr
  rw [h]
  dsimp only
  cases text.toSocketAddrs (if hostHasPort host then host else host ++ ":7420") with
  | error err =>
      constructor
      · nofun
      · nofun
  | ok addrs =>
      cases addrs with
      | nil =>
          constructor
          · nofun
          · nofun
      | cons first later =>
          constructor
          · rintro ⟨⟩
            exact ⟨later, rfl⟩
          · rintro ⟨_, ⟨⟩⟩
            rfl

/-- The default port. -/
theorem resolveServerAddr_default {text : AddressText} {host : String} {addr : SocketAddr}
    (hparse : text.parse host = none) (hport : hostHasPort host = false)
    (hresolves : text.toSocketAddrs (host ++ ":7420") = .ok [addr]) :
    resolveServerAddr text host = .ok addr := by
  rw [resolveServerAddr_ok_iff hparse, hport]
  exact ⟨[], hresolves⟩

/-- The part of an IPv6 address that is taken for a port is never the default port of the
same address. -/
theorem resolveServerAddr_bare_ne {text : AddressText} {ip : Vector UInt16 8}
    (hparse : text.parse (ipv6Text ip) = none)
    (hresolves : ResolvesAtLastColon text (ipv6Text ip)) :
    resolveServerAddr text (ipv6Text ip) ≠ .ok (.v6 ip 7420 0 0) := by
  rw [ne_eq, resolveServerAddr_ok_iff hparse,
    hostHasPort_eq_contains (bracket_not_mem_ipv6Text ip).1,
    List.contains_iff_mem.mpr (colon_mem_ipv6Text ip), if_pos rfl]
  rintro ⟨later, hresolved⟩
  obtain ⟨host, port, ip', n, htext, hcolon, hliteral, ⟨hne, hdigits, hvalue⟩, hall⟩ :=
    hresolves _ hresolved
  obtain ⟨rfl, rfl, -, -⟩ := SocketAddr.v6.inj (hall _ List.mem_cons_self)
  rw [port_eq_zero htext hcolon hne hdigits hliteral] at hvalue
  exact absurd hvalue (by decide)

/-- The port of an IP literal defaults to 7420, and a socket address is taken as it is, but
for IPv6 addresses without brackets: none of them is resolved to itself and that port. -/
theorem parseManualServer_iff_not_bare {text : AddressText} {input : ManualAddress}
    {fingerprint : String} (reads : input.StdReads text) (hfp : FingerprintText fingerprint) :
    (∃ server, parseManualServer text input.host fingerprint = .ok server ∧
      server.addr = input.addr) ↔ ¬ input.Bare := by
  rw [parseManualServer_addr_iff (ManualAddress.host_ne_empty reads)
    (ManualAddress.not_whitespace reads) hfp]
  cases input with
  | ipv4 ip =>
      have hport : hostHasPort (ipv4Text ip) = false := by
        rw [hostHasPort_eq_contains fun h =>
          (addressChars_spec (mem_addressChars_of_mem_ipv4Text h)).1 rfl, List.contains_eq_mem,
          decide_eq_false_iff_not]
        exact fun h => colon_not_mem_addressChars (mem_addressChars_of_mem_ipv4Text h)
      exact iff_of_true (resolveServerAddr_default reads.1 hport reads.2) id
  | ipv6 ip => exact iff_of_false (resolveServerAddr_bare_ne reads.1 reads.2) (fun h => h trivial)
  | bracketed ip =>
      exact iff_of_true (resolveServerAddr_default reads.1 (hostHasPort_bracketed ip) reads.2) id
  | socket host addr => exact iff_of_true (resolveServerAddr_of_parse reads.1) id

namespace Sample

def ip : Vector UInt16 8 := #v[0x2001, 0xdb8, 0, 0, 0, 0, 0, 1]

theorem ipv6Text_ip : ipv6Text ip = "2001:db8::1" := by decide

/-- A resolver that knows the address with a port, and no host by the name "2001:db8:". -/
def resolver : AddressText where
  display _ := "[2001:db8::1]:7420"
  parse host := if host = "[2001:db8::1]:7420" then some (.v6 ip 7420 0 0) else none
  toSocketAddrs host :=
    if host = "[2001:db8::1]:7420" then .ok [.v6 ip 7420 0 0]
    else .error "failed to lookup address information"

theorem bracketed_reads : (ManualAddress.bracketed ip).StdReads resolver := by
  have hparse : resolver.parse ("[" ++ ipv6Text ip ++ "]") = none := by
    rw [ipv6Text_ip]
    rfl
  have hresolves : resolver.toSocketAddrs ("[" ++ ipv6Text ip ++ "]" ++ ":7420") =
      .ok [.v6 ip 7420 0 0] := by
    rw [ipv6Text_ip]
    rfl
  exact ⟨hparse, hresolves⟩

theorem bare_reads : (ManualAddress.ipv6 ip).StdReads resolver := by
  have hparse : resolver.parse (ipv6Text ip) = none := by
    rw [ipv6Text_ip]
    rfl
  have hresolves : ResolvesAtLastColon resolver (ipv6Text ip) := by
    rw [ipv6Text_ip]
    nofun
  exact ⟨hparse, hresolves⟩

theorem no_fingerprint : FingerprintText "" := .inl rfl

end Sample

theorem sample_bracketed_resolved :
    ∃ server, parseManualServer Sample.resolver "[2001:db8::1]" "" = .ok server ∧
      server.addr = .v6 Sample.ip 7420 0 0 := by
  have hserver := (parseManualServer_iff_not_bare Sample.bracketed_reads Sample.no_fingerprint).mpr id
  rw [ManualAddress.host, Sample.ipv6Text_ip] at hserver
  exact hserver

/-- The address in documentation, without brackets. -/
theorem sample_bare_not_resolved :
    (ManualAddress.ipv6 Sample.ip).StdReads Sample.resolver ∧ FingerprintText "" ∧
      (ManualAddress.ipv6 Sample.ip).host = "2001:db8::1" ∧
      parseManualServer Sample.resolver "2001:db8::1" "" =
        .error "could not resolve 2001:db8::1: failed to lookup address information" ∧
      ¬ ∃ server, parseManualServer Sample.resolver (ManualAddress.ipv6 Sample.ip).host "" =
          .ok server ∧ server.addr = (ManualAddress.ipv6 Sample.ip).addr := by
  have herror : parseManualServer Sample.resolver "2001:db8::1" "" =
      .error "could not resolve 2001:db8::1: failed to lookup address information" := rfl
  refine ⟨Sample.bare_reads, Sample.no_fingerprint, Sample.ipv6Text_ip, herror, ?_⟩
  rw [ManualAddress.host, Sample.ipv6Text_ip, herror]
  rintro ⟨server, h, -⟩
  cases h

end FarBus.Gui
