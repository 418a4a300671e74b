/-
  Core/IpText.lean --- how `std::net` writes an IP address, and what an IPv6 literal stands
  for.

  The text of an IPv6 address is a list of pieces with colons between them (`Ipv6Pieces`);
  the two colons for the zeros are an empty piece.
-/
import Mathlib.Data.List.Forall2
import FarBus.Foundation.Text
import FarBus.Core.Address
import FarBus.Core.HexText

set_option autoImplicit false

namespace FarBus.Core

open FarBus.Foundation

/-! ## Writing -/

/-- `Display` of `Ipv4Addr`. -/
def ipv4Text (ip : Vector UInt8 4) : String :=
  ".".intercalate (ip.toList.map fun byte => toString byte.toNat)

/-- `{:x}` of a segment. -/
def segmentText (segment : UInt16) : String := String.ofList (Nat.toDigits 16 segment.toNat)

/-- A run of zero segments. -/
structure Span where
  start : Nat := 0
  len : Nat := 0
  deriving DecidableEq, Repr

/-- One segment, with the longest run before it and the run it may continue. -/
def spanStep (runs : Span × Span) (entry : UInt16 × Nat) : Span × Span :=
  let (longest, current) := runs
  let (segment, i) := entry
  if segment = 0 then
    let current : Span :=
      { start := if current.len = 0 then i else current.start, len := current.len + 1 }
    (if current.len > longest.len then current else longest, current)
  else (longest, {})

/-- The first one of the longest runs of zeros. -/
def longestZeros (segments : List UInt16) : Span :=
  (segments.zipIdx.foldl spanStep ({}, {})).1

/-- `Ipv6Addr::to_ipv4_mapped`. -/
def toIpv4Mapped (ip : Vector UInt16 8) : Option (Vector UInt8 4) :=
  if ip.toList.take 6 = [0, 0, 0, 0, 0, 0xffff] then
    some #v[(ip.get 6 >>> 8).toUInt8, (ip.get 6).toUInt8, (ip.get 7 >>> 8).toUInt8,
      (ip.get 7).toUInt8]
  else none

def fmtSubslice (chunk : List UInt16) : String := ":".intercalate (chunk.map segmentText)

/-- `Display` of `Ipv6Addr`. -/
def ipv6Text (ip : Vector UInt16 8) : String :=
  match toIpv4Mapped ip with
  | some ipv4 => "::ffff:" ++ ipv4Text ipv4
  | none =>
      let zeroes := longestZeros ip.toList
      if zeroes.len > 1 then
        fmtSubslice (ip.toList.take zeroes.start) ++ "::" ++
          fmtSubslice (ip.toList.drop (zeroes.start + zeroes.len))
      else fmtSubslice ip.toList

example : ipv6Text #v[0x2001, 0xdb8, 0, 1, 0, 0, 0, 1] = "2001:db8:0:1::1" := by decide

/-! ## The longest run of zeros -/

/-- The span is a run of zeros in the segments. -/
def ZeroRun (segments : List UInt16) (span : Span) : Prop :=
  ∃ before after, segments = before ++ List.replicate span.len 0 ++ after ∧
    before.length = span.start

/-- A run of zeros that the segments end with. -/
def TrailingRun (segments : List UInt16) (span : Span) : Prop :=
  ∃ before, segments = before ++ List.replicate span.len 0 ∧
    (span.len ≠ 0 → before.length = span.start)

theorem ZeroRun.append {segments : List UInt16} {span : Span} (h : ZeroRun segments span)
    (more : List UInt16) : ZeroRun (segments ++ more) span := by
  obtain ⟨before, after, rfl, hstart⟩ := h
  exact ⟨before, after ++ more, List.append_assoc _ _ _, hstart⟩

theorem TrailingRun.zeroRun {segments : List UInt16} {span : Span} (h : TrailingRun segments span)
    (hlen : span.len ≠ 0) : ZeroRun segments span := by
  obtain ⟨before, rfl, hstart⟩ := h
  exact ⟨before, [], (List.append_nil _).symm, hstart hlen⟩

theorem spanStep_runs {segments : List UInt16} {runs : Span × Span} (segment : UInt16)
    (hlongest : ZeroRun segments runs.1) (hcurrent : TrailingRun segments runs.2) :
    ZeroRun (segments ++ [segment]) (spanStep runs (segment, segments.length)).1 ∧
      TrailingRun (segments ++ [segment]) (spanStep runs (segment, segments.length)).2 := by
  obtain ⟨longest, current⟩ := runs
  unfold spanStep
  dsimp only
  split
  · rename_i hzero
    subst hzero
    have hgrown : TrailingRun (segments ++ [0])
        { start := if current.len = 0 then segments.length else current.start
          len := current.len + 1 } := by
      obtain ⟨before, hsegments, hstart⟩ := hcurrent
      refine ⟨before, ?_, fun _ => ?_⟩
      · rw [hsegments, List.replicate_succ', List.append_assoc]
      · dsimp only at hsegments hstart ⊢
        split
        · rename_i hlen
          rw [hsegments, hlen, List.replicate_zero, List.append_nil]
        · rename_i hlen
          exact hstart hlen
    refine ⟨?_, hgrown⟩
    split
    · exact hgrown.zeroRun (Nat.succ_ne_zero _)
    · exact hlongest.append _
  · exact ⟨hlongest.append _, _, (List.append_nil _).symm, fun h => absurd rfl h⟩

theorem foldl_spanStep_runs (rest segments : List UInt16) (runs : Span × Span)
    (hlongest : ZeroRun segments runs.1) (hcurrent : TrailingRun segments runs.2) :
    ZeroRun (segments ++ rest) ((rest.zipIdx segments.length).foldl spanStep runs).1 := by
  induction rest generalizing segments runs with
  | nil =>
      rw [List.append_nil]
      exact hlongest
  | cons segment rest ih =>
      obtain ⟨hlongest', hcurrent'⟩ := spanStep_runs segment hlongest hcurrent
      have hlater := ih (segments ++ [segment]) _ hlongest' hcurrent'
      rw [List.append_assoc, List.singleton_append, List.length_append, List.length_singleton]
        at hlater
      rw [List.zipIdx_cons, List.foldl_cons]
      exact hlater

theorem zeroRun_longestZeros (segments : List UInt16) :
    ZeroRun segments (longestZeros segments) :=
  foldl_spanStep_runs segments [] ({}, {}) ⟨[], [], rfl, rfl⟩ ⟨[], rfl, fun h => absurd rfl h⟩

/-! ## The pieces of a text -/

def segmentChars (segment : UInt16) : List Char := Nat.toDigits 16 segment.toNat

/-- No pieces are joined to the same text as one empty piece. -/
def orEmpty (pieces : List (List Char)) : List (List Char) :=
  if pieces = [] then [[]] else pieces

theorem orEmpty_ne_nil (pieces : List (List Char)) : orEmpty pieces ≠ [] := by
  unfold orEmpty
  split
  · exact List.cons_ne_nil _ _
  · rename_i h
    exact h

theorem intercalate_orEmpty (x : Char) (pieces : List (List Char)) :
    [x].intercalate (orEmpty pieces) = [x].intercalate pieces := by
  unfold orEmpty
  split
  · rename_i h
    rw [h]
    rfl
  · rfl

theorem mem_orEmpty {piece : List Char} {pieces : List (List Char)} (h : piece ∈ orEmpty pieces) :
    piece = [] ∨ piece ∈ pieces := by
  unfold orEmpty at h
  split at h
  · exact .inl (List.mem_singleton.mp h)
  · exact .inr h

/-- Two colons are an empty piece. -/
theorem intercalate_compressed (left right : List (List Char)) :
    [':'].intercalate (orEmpty left ++ [] :: orEmpty right) =
      [':'].intercalate left ++ [':', ':'] ++ [':'].intercalate right := by
  rw [intercalate_append ':' (orEmpty_ne_nil _) (List.cons_ne_nil _ _),
    List.intercalate_cons_of_ne_nil (orEmpty_ne_nil _), intercalate_orEmpty, intercalate_orEmpty,
    List.nil_append, List.append_assoc]
  rfl

/-- What `Display` puts between the colons. -/
inductive Ipv6Pieces (ip : Vector UInt16 8) : List (List Char) → Prop where
  | mapped (ipv4 : Vector UInt8 4) :
      Ipv6Pieces ip [[], [], ['f', 'f', 'f', 'f'], (ipv4Text ipv4).toList]
  | full : Ipv6Pieces ip (ip.toList.map segmentChars)
  | compressed {before after : List UInt16} {len : Nat} (hlen : 1 < len)
      (hip : ip.toList = before ++ List.replicate len 0 ++ after) :
      Ipv6Pieces ip (orEmpty (before.map segmentChars) ++ [] :: orEmpty (after.map segmentChars))

theorem toList_fmtSubslice (chunk : List UInt16) :
    (fmtSubslice chunk).toList = [':'].intercalate (chunk.map segmentChars) := by
  rw [fmtSubslice, String.toList_intercalate, List.map_map]
  congr 1
  exact List.map_congr_left fun segment _ => String.toList_ofList

/-- The three forms of a text: mapped, with all eight segments, and compressed. -/
theorem ipv6Text_cases (ip : Vector UInt16 8) :
    (∃ ipv4, toIpv4Mapped ip = some ipv4 ∧ ipv6Text ip = "::ffff:" ++ ipv4Text ipv4) ∨
      (ipv6Text ip).toList = [':'].intercalate (ip.toList.map segmentChars) ∨
      ∃ before after len, 1 < len ∧ ip.toList = before ++ List.replicate len 0 ++ after ∧
        (ipv6Text ip).toList = [':'].intercalate (before.map segmentChars) ++ [':', ':'] ++
          [':'].intercalate (after.map segmentChars) := by
  unfold ipv6Text
  split
  · rename_i ipv4 hmapped
    exact .inl ⟨ipv4, hmapped, rfl⟩
  dsimp only
  split
  · rename_i hlen
    obtain ⟨before, after, hip, hstart⟩ := zeroRun_longestZeros ip.toList
    generalize longestZeros ip.toList = zeroes at hlen hip hstart
    have htake : ip.toList.take zeroes.start = before := by
      rw [hip, List.append_assoc, ← hstart, List.take_left]
    have hdrop : ip.toList.drop (zeroes.start + zeroes.len) = after := by
      rw [hip, ← hstart, List.drop_append_of_le_length (by simp), List.drop_of_length_le (by simp),
        List.nil_append]
    refine .inr (.inr ⟨before, after, zeroes.len, hlen, hip, ?_⟩)
    rw [htake, hdrop, String.toList_append, String.toList_append, toList_fmtSubslice,
      toList_fmtSubslice]
    rfl
  · exact .inr (.inl (toList_fmtSubslice _))

theorem exists_pieces (ip : Vector UInt16 8) :
    ∃ pieces, Ipv6Pieces ip pieces ∧ (ipv6Text ip).toList = [':'].intercalate pieces := by
  rcases ipv6Text_cases ip with ⟨ipv4, -, htext⟩ | htext | ⟨before, after, len, hlen, hip, htext⟩
  · refine ⟨_, .mapped ipv4, ?_⟩
    rw [htext, String.toList_append, List.intercalate_cons_cons, List.intercalate_cons_cons,
      List.intercalate_cons_cons, List.intercalate_singleton]
    rfl
  · exact ⟨_, .full, htext⟩
  · exact ⟨_, .compressed hlen hip, htext.trans (intercalate_compressed _ _).symm⟩

/-! ## The characters -/

/-- The characters between the colons. -/
def addressChars : List Char :=
  ['0', '1', '2', '3', '4', '5', '6', '7', '8', '9', 'a', 'b', 'c', 'd', 'e', 'f', '.']

theorem f_mem_addressChars : 'f' ∈ addressChars := by decide

theorem mem_addressChars_of_mem_toDigits {base n : Nat} {c : Char} (hbase : 1 < base)
    (hle : base ≤ 16) (h : c ∈ Nat.toDigits base n) : c ∈ addressChars := by
  have hall : ∀ digit < 16, digit.digitChar ∈ addressChars := by decide
  obtain ⟨digit, hdigit, rfl⟩ := exists_digitChar_of_mem_toDigits hbase h
  exact hall digit (Nat.lt_of_lt_of_le hdigit hle)

theorem mem_addressChars_of_mem_ipv4Text {ip : Vector UInt8 4} {c : Char}
    (h : c ∈ (ipv4Text ip).toList) : c ∈ addressChars := by
  rw [ipv4Text, String.toList_intercalate] at h
  rcases mem_intercalate h with hdot | ⟨piece, hpiece, hmem⟩
  · rw [List.mem_singleton.mp hdot]
    decide
  · rw [List.map_map] at hpiece
    obtain ⟨byte, -, rfl⟩ := List.mem_map.mp hpiece
    rw [Function.comp_apply, Nat.toString_eq_ofList_toDigits, String.toList_ofList] at hmem
    exact mem_addressChars_of_mem_toDigits (by decide) (by decide) hmem

theorem dot_mem_ipv4Text (ip : Vector UInt8 4) : '.' ∈ (ipv4Text ip).toList := by
  rw [ipv4Text, String.toList_intercalate]
  refine separator_mem_intercalate '.' ?_
  rw [List.length_map, List.length_map, Vector.length_toList]
  exact Nat.one_lt_succ_succ 2

theorem Ipv6Pieces.mem_addressChars {ip : Vector UInt16 8} {pieces : List (List Char)}
    (h : Ipv6Pieces ip pieces) : ∀ piece ∈ pieces, ∀ c ∈ piece, c ∈ addressChars := by
  have hsegments : ∀ segments : List UInt16, ∀ piece ∈ segments.map segmentChars, ∀ c ∈ piece,
      c ∈ addressChars := by
    intro segments piece hpiece c hc
    obtain ⟨segment, -, rfl⟩ := List.mem_map.mp hpiece
    exact mem_addressChars_of_mem_toDigits (by decide) (by decide) hc
  have hside : ∀ segments : List UInt16, ∀ piece ∈ orEmpty (segments.map segmentChars),
      ∀ c ∈ piece, c ∈ addressChars := by
    intro segments piece hpiece c hc
    rcases mem_orEmpty hpiece with rfl | hpiece
    · cases hc
    · exact hsegments segments piece hpiece c hc
  cases h with
  | mapped ipv4 =>
      simp only [List.forall_mem_cons]
      refine ⟨nofun, nofun, ?_, fun c => mem_addressChars_of_mem_ipv4Text, nofun⟩
      exact ⟨f_mem_addressChars, f_mem_addressChars, f_mem_addressChars, f_mem_addressChars, nofun⟩
  | full => exact hsegments _
  | compressed =>
      intro piece hpiece
      rcases List.mem_append.mp hpiece with hleft | hright
      · exact hside _ piece hleft
      · rcases List.mem_cons.mp hright with rfl | hright
        · nofun
        · exact hside _ piece hright

theorem colon_not_mem_addressChars : ':' ∉ addressChars := by decide

theorem Ipv6Pieces.colon_not_mem {ip : Vector UInt16 8} {pieces : List (List Char)}
    (h : Ipv6Pieces ip pieces) : ∀ piece ∈ pieces, ':' ∉ piece :=
  fun piece hpiece hmem => colon_not_mem_addressChars (h.mem_addressChars piece hpiece _ hmem)

theorem Ipv6Pieces.one_lt_length {ip : Vector UInt16 8} {pieces : List (List Char)}
    (h : Ipv6Pieces ip pieces) : 1 < pieces.length := by
  cases h with
  | mapped => exact Nat.one_lt_succ_succ 2
  | full =>
      rw [List.length_map, Vector.length_toList]
      exact Nat.one_lt_succ_succ 6
  | @compressed before =>
      have hleft := List.length_pos_iff.mpr (orEmpty_ne_nil (before.map segmentChars))
      rw [List.length_append, List.length_cons]
      omega

/-! ## Reading -/

/-- The number with these hexadecimal digits, most significant first. -/
def segmentValue (text : List Char) : Option Nat :=
  text.foldlM (fun value c => (hexValue c).map fun digit => 16 * value + digit) 0

/-- One to four digits, of either case. -/
structure ReadsSegment (text : List Char) (segment : UInt16) : Prop where
  nonempty : text ≠ []
  short : text.length ≤ 4
  value : segmentValue text = some segment.toNat

/-- An IPv6 literal: eight segments, or two colons in place of one zero segment or more.
A dotted part at the end is left out: it would stand right of the last colon. -/
inductive Ipv6Literal : List Char → Vector UInt16 8 → Prop where
  | full {ip : Vector UInt16 8} {texts : List (List Char)}
      (reads : List.Forall₂ ReadsSegment texts ip.toList) :
      Ipv6Literal ([':'].intercalate texts) ip
  | compressed {ip : Vector UInt16 8} {left right : List (List Char)}
      {before after : List UInt16} {len : Nat} (readsLeft : List.Forall₂ ReadsSegment left before)
      (readsRight : List.Forall₂ ReadsSegment right after) (hlen : 0 < len)
      (hip : ip.toList = before ++ List.replicate len 0 ++ after) :
      Ipv6Literal ([':'].intercalate left ++ [':', ':'] ++ [':'].intercalate right) ip

theorem hexValue_digitChar {digit : Nat} (h : digit < 16) :
    hexValue digit.digitChar = some digit := by
  revert digit
  decide

theorem segmentValue_toDigits (n : Nat) : segmentValue (Nat.toDigits 16 n) = some n := by
  induction n using Nat.strongRecOn with
  | _ n ih =>
      rw [Nat.toDigits_eq_if (by decide)]
      split
      · rename_i hlt
        rw [segmentValue, List.foldlM_cons, hexValue_digitChar hlt]
        exact congrArg some (Nat.zero_add n)
      · rename_i hge
        have hhigh := ih (n / 16) (Nat.div_lt_self (by omega) (by decide))
        unfold segmentValue at hhigh ⊢
        rw [List.foldlM_append, hhigh, Option.bind_eq_bind, Option.bind_some, List.foldlM_cons,
          hexValue_digitChar (Nat.mod_lt n (by decide))]
        exact congrArg some (Nat.div_add_mod n 16)

theorem readsSegment_segmentChars (segment : UInt16) :
    ReadsSegment (segmentChars segment) segment where
  nonempty := Nat.toDigits_ne_nil
  short := (Nat.length_toDigits_le_iff (by decide) (by decide)).mpr segment.toNat_lt
  value := segmentValue_toDigits _

theorem readsSegment_map (segments : List UInt16) :
    List.Forall₂ ReadsSegment (segments.map segmentChars) segments := by
  rw [List.forall₂_map_left_iff, List.forall₂_same]
  exact fun segment _ => readsSegment_segmentChars segment

/-- What `Display` writes is read in one way. -/
theorem eq_of_readsSegment_map {segments read : List UInt16}
    (h : List.Forall₂ ReadsSegment (segments.map segmentChars) read) : read = segments := by
  rw [List.forall₂_map_left_iff] at h
  rw [← List.forall₂_eq_eq_eq]
  refine (h.imp fun segment other hreads => ?_).flip
  have hvalue := hreads.value
  rw [segmentChars, segmentValue_toDigits] at hvalue
  exact (UInt16.toNat_inj.mp (Option.some.inj hvalue)).symm

/-- An address is read back from its text. -/
theorem ipv6Literal_ipv6Text {ip : Vector UInt16 8} (h : toIpv4Mapped ip = none) :
    Ipv6Literal (ipv6Text ip).toList ip := by
  rcases ipv6Text_cases ip with ⟨_, hmapped, -⟩ | htext | ⟨before, after, len, hlen, hip, htext⟩
  · rw [h] at hmapped
    cases hmapped
  · rw [htext]
    exact .full (readsSegment_map _)
  · rw [htext]
    exact .compressed (readsSegment_map _) (readsSegment_map _) (by omega) hip

/-! ## A literal with a number after its last colon -/

theorem hexValue_isSome_of_segmentValue {text : List Char} {value n : Nat}
    (h : text.foldlM (fun value c => (hexValue c).map fun digit => 16 * value + digit) value =
      some n) : ∀ c ∈ text, (hexValue c).isSome = true := by
  induction text generalizing value with
  | nil => nofun
  | cons c text ih =>
      rw [List.foldlM_cons, Option.bind_eq_bind, Option.bind_eq_some_iff] at h
      obtain ⟨next, hc, hrest⟩ := h
      obtain ⟨digit, hdigit, -⟩ := Option.map_eq_some_iff.mp hc
      rw [List.forall_mem_cons]
      exact ⟨by rw [hdigit]; rfl, ih hrest⟩

theorem ReadsSegment.colon_not_mem {text : List Char} {segment : UInt16}
    (h : ReadsSegment text segment) : ':' ∉ text := by
  intro hmem
  have hdigit := hexValue_isSome_of_segmentValue h.value _ hmem
  exact absurd hdigit (by decide)

theorem readsSegment_of_mem {texts : List (List Char)} {segments : List UInt16}
    (h : List.Forall₂ ReadsSegment texts segments) :
    ∀ text ∈ texts, text ≠ [] ∧ ':' ∉ text := by
  induction h with
  | nil => nofun
  | cons hreads _ ih =>
      rw [List.forall_mem_cons]
      exact ⟨⟨hreads.nonempty, hreads.colon_not_mem⟩, ih⟩

theorem nil_not_mem_of_reads {texts : List (List Char)} {segments : List UInt16}
    (h : List.Forall₂ ReadsSegment texts segments) : [] ∉ texts :=
  fun hmem => (readsSegment_of_mem h _ hmem).1 rfl

/-- What stands between the colons of a literal. -/
inductive LiteralPieces (ip : Vector UInt16 8) : List (List Char) → Prop where
  | full {texts : List (List Char)} (reads : List.Forall₂ ReadsSegment texts ip.toList) :
      LiteralPieces ip texts
  | compressed {left right : List (List Char)} {before after : List UInt16} {len : Nat}
      (readsLeft : List.Forall₂ ReadsSegment left before)
      (readsRight : List.Forall₂ ReadsSegment right after)
      (hip : ip.toList = before ++ List.replicate len 0 ++ after) :
      LiteralPieces ip (orEmpty left ++ [] :: orEmpty right)

theorem Ipv6Literal.exists_pieces {host : List Char} {ip : Vector UInt16 8}
    (h : Ipv6Literal host ip) :
    ∃ pieces, LiteralPieces ip pieces ∧ host = [':'].intercalate pieces := by
  cases h with
  | full reads => exact ⟨_, .full reads, rfl⟩
  | compressed readsLeft readsRight _ hip =>
      exact ⟨_, .compressed readsLeft readsRight hip, (intercalate_compressed _ _).symm⟩

theorem LiteralPieces.ne_nil {ip : Vector UInt16 8} {pieces : List (List Char)}
    (h : LiteralPieces ip pieces) : pieces ≠ [] := by
  cases h with
  | full reads =>
      rw [ne_eq, ← List.length_eq_zero_iff, reads.length_eq, Vector.length_toList]
      exact Nat.succ_ne_zero 7
  | compressed => exact List.append_ne_nil_of_left_ne_nil (orEmpty_ne_nil _) _

theorem LiteralPieces.colon_not_mem {ip : Vector UInt16 8} {pieces : List (List Char)}
    (h : LiteralPieces ip pieces) : ∀ piece ∈ pieces, ':' ∉ piece := by
  have hside : ∀ {texts : List (List Char)} {segments : List UInt16},
      List.Forall₂ ReadsSegment texts segments → ∀ piece ∈ orEmpty texts, ':' ∉ piece := by
    intro texts segments reads piece hpiece
    rcases mem_orEmpty hpiece with rfl | hpiece
    · exact List.not_mem_nil
    · exact (readsSegment_of_mem reads piece hpiece).2
  cases h with
  | full reads => exact fun piece hpiece => (readsSegment_of_mem reads piece hpiece).2
  | compressed readsLeft readsRight =>
      intro piece hpiece
      rcases List.mem_append.mp hpiece with hleft | hright
      · exact hside readsLeft piece hleft
      · rcases List.mem_cons.mp hright with rfl | hright
        · exact List.not_mem_nil
        · exact hside readsRight piece hright

theorem orEmpty_of_ne_nil {pieces : List (List Char)} (h : pieces ≠ []) : orEmpty pieces = pieces :=
  if_neg h

/-- The empty piece of the two colons is found where no other piece is empty. -/
theorem orEmpty_append_inj {left left' right right' : List (List Char)} (hleft : [] ∉ left)
    (hleft' : [] ∉ left') (h : orEmpty left ++ [] :: right = orEmpty left' ++ [] :: right') :
    left = left' ∧ right = right' := by
  cases left with
  | nil =>
      cases left' with
      | nil => exact ⟨rfl, (List.cons.inj (List.cons.inj h).2).2⟩
      | cons text left' =>
          rw [orEmpty_of_ne_nil (List.cons_ne_nil _ _), List.cons_append] at h
          exact absurd ((List.cons.inj h).1 ▸ List.mem_cons_self) hleft'
  | cons text left =>
      cases left' with
      | nil =>
          rw [orEmpty_of_ne_nil (List.cons_ne_nil _ _), List.cons_append] at h
          exact absurd ((List.cons.inj h).1 ▸ List.mem_cons_self) hleft
      | cons text' left' =>
          rw [orEmpty_of_ne_nil (List.cons_ne_nil _ _), orEmpty_of_ne_nil (List.cons_ne_nil _ _)] at h
          exact append_cons_inj hleft hleft' h

theorem segmentChars_ne_nil (segment : UInt16) : segmentChars segment ≠ [] := Nat.toDigits_ne_nil

theorem nil_not_mem_segmentChars (segments : List UInt16) :
    [] ∉ segments.map segmentChars := by
  intro hmem
  obtain ⟨segment, -, hsegment⟩ := List.mem_map.mp hmem
  exact segmentChars_ne_nil segment hsegment

/-- Zeros that end where they end one place later are followed by a zero. -/
theorem eq_zero_of_cons_eq_concat {segments : List UInt16} {last : UInt16}
    (h : 0 :: segments = segments ++ [last]) : last = 0 := by
  induction segments with
  | nil => exact (List.cons.inj h).1.symm
  | cons segment segments ih =>
      rw [List.cons_append] at h
      obtain ⟨rfl, htail⟩ := List.cons.inj h
      exact ih htail

/-- A compressed text whose last segment is taken off, and what that leaves. -/
theorem last_segment_eq_zero {ip : Vector UInt16 8} {before after after' : List UInt16}
    {len len' : Nat} {last : UInt16} (hip : ip.toList = before ++ List.replicate len 0 ++ after)
    (hafter : after = after' ++ [last])
    (hip' : ip.toList = before ++ List.replicate len' 0 ++ after') : last = 0 := by
  have hlength : len' = len + 1 := by
    have h := congrArg List.length (hip.symm.trans hip')
    rw [hafter] at h
    simp only [List.length_append, List.length_replicate, List.length_singleton] at h
    omega
  rw [hip', hlength, hafter, List.append_assoc, List.append_assoc] at hip
  have htail := List.append_cancel_left hip
  rw [List.replicate_succ', List.append_assoc] at htail
  exact eq_zero_of_cons_eq_concat (List.append_cancel_left htail)

/-- The last piece of a compressed text, if it is not empty, is its last segment. -/
theorem split_last_segment {after : List UInt16} {right : List (List Char)} {port : List Char}
    (h : orEmpty (after.map segmentChars) = orEmpty right ++ [port]) :
    ∃ segments last, after = segments ++ [last] ∧ segments.map segmentChars = right ∧
      segmentChars last = port := by
  have hpos := List.length_pos_iff.mpr (orEmpty_ne_nil right)
  have hafter : after.map segmentChars ≠ [] := by
    intro hnil
    rw [hnil] at h
    have hlength := congrArg List.length h
    rw [List.length_append, List.length_singleton, orEmpty, if_pos rfl, List.length_singleton]
      at hlength
    omega
  rw [orEmpty_of_ne_nil hafter] at h
  have hright : right ≠ [] := by
    rintro rfl
    refine nil_not_mem_segmentChars after ?_
    rw [h]
    exact List.mem_append_left _ List.mem_cons_self
  rw [orEmpty_of_ne_nil hright] at h
  obtain ⟨segments, rest, hsplit, hsegments, hrest⟩ := List.map_eq_append_iff.mp h
  obtain ⟨last, rfl, hlast⟩ := List.map_eq_singleton_iff.mp hrest
  exact ⟨segments, last, hsplit, hsegments, hlast⟩

/-- Where the text of an address is a literal of the same address, a colon and a number,
the number is zero. -/
theorem port_eq_zero {ip : Vector UInt16 8} {host port : List Char}
    (htext : (ipv6Text ip).toList = host ++ ':' :: port) (hport : ':' ∉ port) (hne : port ≠ [])
    (hdigits : ∀ c ∈ port, c.isDigit = true) (hliteral : Ipv6Literal host ip) : port = ['0'] := by
  obtain ⟨pieces, hpieces, hjoined⟩ := exists_pieces ip
  obtain ⟨literal, hparts, hhost⟩ := hliteral.exists_pieces
  have hall : pieces = literal ++ [port] := by
    refine intercalate_inj hpieces.colon_not_mem ?_ (List.length_pos_iff.mp (Nat.lt_of_succ_lt hpieces.one_lt_length))
      (List.append_ne_nil_of_left_ne_nil hparts.ne_nil _) ?_
    · intro piece hpiece
      rcases List.mem_append.mp hpiece with hpart | hlast
      · exact hparts.colon_not_mem piece hpart
      · rw [List.mem_singleton.mp hlast]
        exact hport
    · rw [intercalate_append ':' hparts.ne_nil (List.cons_ne_nil _ _), List.intercalate_singleton,
        ← hhost, ← htext, hjoined]
  cases hpieces with
  | mapped ipv4 =>
      -- what is right of the last colon is the dotted part
      have happend : [[], [], ['f', 'f', 'f', 'f']] ++ [(ipv4Text ipv4).toList] =
          literal ++ [port] := hall
      have hlast := (List.append_inj' happend rfl).2
      have hdot : '.' ∈ port := by
        rw [← (List.cons.inj hlast).1]
        exact dot_mem_ipv4Text ipv4
      exact absurd (hdigits _ hdot) (by decide)
  | full =>
      have hsegments := nil_not_mem_segmentChars ip.toList
      cases hparts with
      | full reads =>
          have hlength := congrArg List.length hall
          rw [List.length_append, reads.length_eq, List.length_map, List.length_singleton] at hlength
          omega
      | compressed =>
          rw [hall] at hsegments
          exact absurd (List.mem_append_left _ (List.mem_append_right _ List.mem_cons_self))
            hsegments
  | @compressed before after len _ hip =>
      cases hparts with
      | full reads =>
          have hempty : [] ∈ literal ++ [port] := by
            rw [← hall]
            exact List.mem_append_right _ List.mem_cons_self
          rcases List.mem_append.mp hempty with hpart | hlast
          · exact absurd hpart (nil_not_mem_of_reads reads)
          · exact absurd (List.mem_singleton.mp hlast).symm hne
      | @compressed left right before' after' len' readsLeft readsRight hip' =>
          rw [List.append_assoc, List.cons_append] at hall
          obtain ⟨hleft, hright⟩ := orEmpty_append_inj (nil_not_mem_segmentChars before)
            (nil_not_mem_of_reads readsLeft) hall
          obtain ⟨segments, last, hafter, hsegments, hlast⟩ := split_last_segment hright
          rw [← hleft] at readsLeft
          rw [← hsegments] at readsRight
          rw [eq_of_readsSegment_map readsLeft, eq_of_readsSegment_map readsRight] at hip'
          rw [← hlast, last_segment_eq_zero hip hafter hip']
          rfl

end FarBus.Core
