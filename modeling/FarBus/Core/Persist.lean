/-
  Core/Persist.lean --- the identity of a server, after
  `crates/farbus-core/src/persist.rs`.

  A start loads the identity or makes one and saves it, the key first and then the
  certificate, with errors ignored.  Where saving is cut off, by a crash or an error, it has
  performed a number of the operations on files.

  The certificate is renamed last, and only when the key beside it is its own; and while
  a certificate is there, no start saves anything (`Consistent`).
-/
import FarBus.Core.Files
import FarBus.Core.Identity

set_option autoImplicit false

namespace FarBus.Core

open FarBus.Foundation
open FarBus.Protocol

/-- A certificate, its key, and the fingerprint of the certificate. -/
structure ServerIdentity where
  cert : Bytes
  key : Bytes
  fingerprint : PeerFingerprint
  deriving DecidableEq

def fingerprintCert (sha256 : Digest) (certDer : Bytes) : PeerFingerprint := sha256 certDer

/-- What `rcgen` generates for a name, the certificate and the key.  `none` where it
fails. -/
abbrev Rcgen : Type := String → Option (Bytes × Bytes)

def makeSelfSigned (sha256 : Digest) (rcgen : Rcgen) (name : String) : Option ServerIdentity := do
  let (cert, key) ← rcgen name
  some { cert, key, fingerprint := fingerprintCert sha256 cert }

def loadIdentity (sha256 : Digest) (dir : Directory String UInt8) : Option ServerIdentity := do
  let cert ← dir "cert.der"
  let key ← dir "key.der"
  some { cert, key, fingerprint := fingerprintCert sha256 cert }

/-- The operations of `save_identity` on files. -/
def saveIdentity (cert key : Bytes) : List (FileOp String UInt8) :=
  writePrivateAtomic "key.der" key ++ writePrivateAtomic "cert.der" cert

/-- A start of the server: what is drawn in it, and after how many operations saving is
cut off. -/
structure Start where
  name : String
  rcgen : Rcgen
  steps : Nat

/-- `load_or_create_server_identity`: what it returns, and what it leaves behind. -/
def Start.loadOrCreateServerIdentity (sha256 : Digest) (dir : Directory String UInt8)
    (self : Start) : Option ServerIdentity × Directory String UInt8 :=
  match loadIdentity sha256 dir with
  | some loaded => (some loaded, dir)
  | none =>
      match makeSelfSigned sha256 self.rcgen self.name with
      | some generated =>
          (some generated, perform dir ((saveIdentity generated.cert generated.key).take self.steps))
      | none => (none, dir)

/-- What a sequence of starts leaves in a directory that was empty. -/
def afterStarts (sha256 : Digest) (starts : List Start) : Directory String UInt8 :=
  starts.foldl (fun dir start => (start.loadOrCreateServerIdentity sha256 dir).2) fun _ => none

/-- `start`, in this directory, makes an identity by a call of `make_self_signed`. -/
def Start.Makes (sha256 : Digest) (dir : Directory String UInt8) (self : Start)
    (identity : ServerIdentity) : Prop :=
  loadIdentity sha256 dir = none ∧ makeSelfSigned sha256 self.rcgen self.name = some identity

/-- Saving the identity gets as far as both renames. -/
def Start.Completes (self : Start) (identity : ServerIdentity) : Prop :=
  (saveIdentity identity.cert identity.key).length ≤ self.steps

instance decidableCompletes (start : Start) (identity : ServerIdentity) :
    Decidable (start.Completes identity) := inferInstanceAs (Decidable (_ ≤ _))

section

variable {sha256 : Digest} {dir : Directory String UInt8} {start : Start}
  {identity : ServerIdentity}

/-! ## One start -/

theorem perform_saveIdentity (cert key : Bytes) (n : Nat) {name : String}
    (hkey : name ≠ "key.tmp") (hcert : name ≠ "cert.tmp") :
    perform dir ((saveIdentity cert key).take n) name =
      if name = "cert.der" ∧ (saveIdentity cert key).length ≤ n then some cert
      else if name = "key.der" ∧ key.length + 2 ≤ n then some key
      else dir name := by
  have hkeyTemp : withExtension "key.der" "tmp" = "key.tmp" := by decide
  have hcertTemp : withExtension "cert.der" "tmp" = "cert.tmp" := by decide
  simp only [saveIdentity, writePrivateAtomic, hkeyTemp, hcertTemp, List.length_append,
    length_writeAtomic]
  exact perform_take_writeAtomic₂ _ _ _ _ hkey hcert

theorem loadIdentity_of_files {cert key : Bytes} (hcert : dir "cert.der" = some cert)
    (hkey : dir "key.der" = some key) :
    loadIdentity sha256 dir =
      some { cert, key, fingerprint := fingerprintCert sha256 cert } := by
  rw [loadIdentity, hcert, hkey]
  rfl

theorem Start.run_of_loaded (h : loadIdentity sha256 dir = some identity) (start : Start) :
    start.loadOrCreateServerIdentity sha256 dir = (some identity, dir) := by
  rw [Start.loadOrCreateServerIdentity, h]

theorem Start.Makes.run (h : start.Makes sha256 dir identity) :
    start.loadOrCreateServerIdentity sha256 dir =
      (some identity, perform dir ((saveIdentity identity.cert identity.key).take start.steps)) := by
  rw [Start.loadOrCreateServerIdentity, h.1, h.2]

/-- The certificate file after a start that makes an identity. -/
theorem Start.Makes.cert (h : start.Makes sha256 dir identity) :
    (start.loadOrCreateServerIdentity sha256 dir).2 "cert.der" =
      if start.Completes identity then some identity.cert else dir "cert.der" := by
  have hne : "cert.der" ≠ "key.der" := by decide
  rw [h.run]
  dsimp only
  rw [perform_saveIdentity _ _ _ (by decide) (by decide)]
  simp only [true_and, hne, false_and, if_false]
  rfl

/-- What a start saves to the end is loaded afterwards. -/
theorem Start.Makes.loaded (h : start.Makes sha256 dir identity) (complete : start.Completes identity) :
    loadIdentity sha256 (start.loadOrCreateServerIdentity sha256 dir).2 = some identity := by
  have hcert := h.cert
  rw [if_pos complete] at hcert
  have hne : "key.der" ≠ "cert.der" := by decide
  have hrenamed : identity.key.length + 2 ≤ start.steps := by
    have hlength := complete
    unfold Start.Completes saveIdentity writePrivateAtomic at hlength
    rw [List.length_append, length_writeAtomic] at hlength
    omega
  have hkey : (start.loadOrCreateServerIdentity sha256 dir).2 "key.der" = some identity.key := by
    rw [h.run]
    dsimp only
    rw [perform_saveIdentity _ _ _ (by decide) (by decide), if_neg fun heq => hne heq.1,
      if_pos ⟨rfl, hrenamed⟩]
  obtain ⟨⟨cert, key⟩, -, hmade⟩ := Option.bind_eq_some_iff.mp h.2
  cases hmade
  exact loadIdentity_of_files hcert hkey

end

/-! ## Any number of starts -/

section

variable {sha256 : Digest} {starts : List Start} {identity : ServerIdentity}

theorem afterStarts_concat (starts : List Start) (start : Start) :
    afterStarts sha256 (starts ++ [start]) =
      (start.loadOrCreateServerIdentity sha256 (afterStarts sha256 starts)).2 :=
  List.foldl_concat ..

/-- One of the starts made the identity, and saved it to the end. -/
def MadeBy (sha256 : Digest) (starts : List Start) (identity : ServerIdentity) : Prop :=
  ∃ earlier start later, starts = earlier ++ start :: later ∧
    start.Makes sha256 (afterStarts sha256 earlier) identity ∧ start.Completes identity

theorem MadeBy.concat (h : MadeBy sha256 starts identity) (start : Start) :
    MadeBy sha256 (starts ++ [start]) identity := by
  obtain ⟨earlier, maker, later, rfl, hmakes, hcomplete⟩ := h
  exact ⟨earlier, maker, later ++ [start], by simp, hmakes, hcomplete⟩

/-- Where there is a certificate, there is the identity that one start made. -/
theorem consistent_afterStarts (starts : List Start) {cert : Bytes}
    (h : afterStarts sha256 starts "cert.der" = some cert) :
    ∃ identity, loadIdentity sha256 (afterStarts sha256 starts) = some identity ∧
      MadeBy sha256 starts identity := by
  induction starts using List.reverseRecOn generalizing cert with
  | nil => cases h
  | append_singleton starts start ih =>
      rw [afterStarts_concat] at h ⊢
      cases hloaded : loadIdentity sha256 (afterStarts sha256 starts) with
      | some identity =>
          rw [Start.run_of_loaded hloaded] at h ⊢
          obtain ⟨identity, hidentity, hmade⟩ := ih h
          exact ⟨identity, hidentity, hmade.concat start⟩
      | none =>
          have hnone : afterStarts sha256 starts "cert.der" = none := by
            cases hcert : afterStarts sha256 starts "cert.der" with
            | none => rfl
            | some cert' =>
                obtain ⟨identity, hidentity, -⟩ := ih hcert
                rw [hidentity] at hloaded
                cases hloaded
          cases hmade : makeSelfSigned sha256 start.rcgen start.name with
          | none =>
              simp only [Start.loadOrCreateServerIdentity, hloaded, hmade, hnone] at h
              cases h
          | some identity =>
              have hmakes : start.Makes sha256 (afterStarts sha256 starts) identity :=
                ⟨hloaded, hmade⟩
              rw [hmakes.cert, hnone] at h
              split at h
              · rename_i hcomplete
                exact ⟨identity, hmakes.loaded hcomplete, starts, start, [], rfl, hmakes, hcomplete⟩
              · cases h

/-- Once an identity is loaded, no start changes anything. -/
theorem foldl_of_loaded {dir : Directory String UInt8} (h : loadIdentity sha256 dir = some identity)
    (starts : List Start) :
    starts.foldl (fun dir start => (start.loadOrCreateServerIdentity sha256 dir).2) dir = dir := by
  induction starts with
  | nil => rfl
  | cons start starts ih =>
      rw [List.foldl_cons, Start.run_of_loaded h]
      exact ih

theorem MadeBy.loaded (h : MadeBy sha256 starts identity) :
    loadIdentity sha256 (afterStarts sha256 starts) = some identity := by
  obtain ⟨earlier, start, later, rfl, hmakes, hcomplete⟩ := h
  have hloaded := hmakes.loaded hcomplete
  have hrest : afterStarts sha256 (earlier ++ start :: later) =
      (start.loadOrCreateServerIdentity sha256 (afterStarts sha256 earlier)).2 := by
    unfold afterStarts
    rw [List.foldl_append, List.foldl_cons]
    exact foldl_of_loaded hloaded later
  rw [hrest]
  exact hloaded

/-- The identity of a server is consistent and stable.  After any starts, each cut off
anywhere, an identity that is loaded was made by one call of `make_self_signed`; and when
a start has saved the one it made to the end, every later start returns that one. -/
theorem server_identity_stable (sha256 : Digest) (starts : List Start) :
    (∀ identity, loadIdentity sha256 (afterStarts sha256 starts) = some identity →
      ∃ earlier start later, starts = earlier ++ start :: later ∧
        start.Makes sha256 (afterStarts sha256 earlier) identity) ∧
    ∀ earlier start later identity, starts = earlier ++ start :: later →
      start.Makes sha256 (afterStarts sha256 earlier) identity → start.Completes identity →
      ∀ next : Start,
        (next.loadOrCreateServerIdentity sha256 (afterStarts sha256 starts)).1 = some identity := by
  constructor
  · intro identity hidentity
    obtain ⟨cert, hcert, -⟩ := Option.bind_eq_some_iff.mp hidentity
    obtain ⟨identity', hidentity', earlier, start, later, hstarts, hmakes, -⟩ :=
      consistent_afterStarts starts hcert
    rw [hidentity, Option.some.injEq] at hidentity'
    exact ⟨earlier, start, later, hstarts, hidentity' ▸ hmakes⟩
  · intro earlier start later identity hstarts hmakes hcomplete next
    have hmade : MadeBy sha256 starts identity := ⟨earlier, start, later, hstarts, hmakes, hcomplete⟩
    rw [Start.run_of_loaded hmade.loaded]

end

namespace Sample

def digest : Digest := fun _ => Vector.replicate 32 7

/-- A start that generates a certificate and a key of one byte each. -/
def startWith (n : UInt8) (steps : Nat) : Start :=
  { name := "farbus.local", rcgen := fun _ => some ([n], [n + 1]), steps }

/-- The first start is cut off between the renames, the second gets to the end. -/
def starts : List Start := [startWith 1 4, startWith 3 6]

end Sample

theorem sample_server_identity_stable :
    ((Sample.startWith 5 6).loadOrCreateServerIdentity Sample.digest
        (afterStarts Sample.digest Sample.starts)).1 =
      some { cert := [3], key := [4], fingerprint := Vector.replicate 32 7 } := by
  refine (server_identity_stable Sample.digest Sample.starts).2 [Sample.startWith 1 4]
    (Sample.startWith 3 6) [] _ rfl ⟨?_, rfl⟩ (by decide) _
  decide +kernel

end FarBus.Core
