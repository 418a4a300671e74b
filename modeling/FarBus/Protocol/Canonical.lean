/-
  Protocol/Canonical.lean --- the control-plane codec, both ways.

  `encode` writes the wire format and `decode` reads it, each exactly
  (`encode_eq_ok_iff`, `decode_eq_ok_iff`).  Put together: decoding undoes
  encoding, and every accepted byte string is the encoding of what it decodes
  to, so the format is canonical.
-/
import FarBus.Protocol.Encode
import FarBus.Protocol.Decode

set_option autoImplicit false

namespace FarBus.Protocol

open FarBus.Foundation

/-- The two functions describe the same relation. -/
theorem decode_eq_ok_iff_encode (bytes : Bytes) (msg : Message) :
    decode bytes = .ok msg ↔ encode msg = .ok bytes := by
  rw [decode_eq_ok_iff, encode_eq_ok_iff]

/-- Decoding undoes encoding, for every message; and encoding fails only where a
limit of the wire is exceeded. -/
theorem decode_encode (msg : Message) :
    (∀ bytes, encode msg = .ok bytes → decode bytes = .ok msg) ∧
    (∀ err, encode msg = .error err → LimitExceeded msg) :=
  ⟨fun bytes h => (decode_eq_ok_iff_encode bytes msg).mpr h,
    fun _ h => limitExceeded_of_encode_error h⟩

theorem decode_encode_detach :
    decode (frameBytes (.detach 7)) = .ok (.detach 7) :=
  (decode_encode (.detach 7)).1 _ rfl

/-- The format is canonical: an accepted byte string is the encoding of the
message it decodes to, the accepted strings are exactly the image of `encode`,
and no message has two of them. -/
theorem encode_decode :
    (∀ bytes msg, decode bytes = .ok msg → encode msg = .ok bytes) ∧
    (∀ bytes, (∃ msg, decode bytes = .ok msg) ↔ ∃ msg, encode msg = .ok bytes) ∧
    (∀ bytes bytes' msg, decode bytes = .ok msg → decode bytes' = .ok msg →
      bytes = bytes') := by
  refine ⟨fun bytes msg => (decode_eq_ok_iff_encode bytes msg).mp, ?_, ?_⟩
  · intro bytes
    exact exists_congr (decode_eq_ok_iff_encode bytes)
  · intro bytes bytes' msg h h'
    have henc := (decode_eq_ok_iff_encode bytes msg).mp h
    have henc' := (decode_eq_ok_iff_encode bytes' msg).mp h'
    exact Except.ok.inj (henc.symm.trans henc')

theorem encode_decode_detach :
    encode (.detach 7) = .ok (frameBytes (.detach 7)) := by
  apply encode_decode.1
  rw [decode_eq_ok_iff]
  exact ⟨⟨trivial, by simp [payloadBytes, MAX_PAYLOAD]⟩, rfl⟩

end FarBus.Protocol
