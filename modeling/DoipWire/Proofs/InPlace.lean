import DoipWire.Proofs.Delivery
import DoipWire.Proofs.Keeps
import DoipWire.Session

/-!
# Decoding in place reads as decoding afresh

A fresh read is decoding into the default instance (`read_eq_into_zeroed`), and decoding into any
instance whose data it owns makes the same reads and ends alike (`into_readReplace`), except that
old data grows by fewer zeros, so past the byte-string limit the two can be refused differently.
-/

namespace DoipWire

open Source Decoder

/-! ## Decoders seen as reads -/

namespace Decoder

variable {α β γ : Type}

@[simp] theorem into_read_bind (r : Reading β) (f : β → Decoder α γ) (m : α) :
    (read r >>= f).into m = r >>= fun b => (f b).into m := by
  funext s
  simp only [into, bind_apply, read_apply]
  cases r s <;> rfl

@[simp] theorem into_check_bind (c : Except Error β) (f : β → Decoder α γ) (m : α) :
    (check c >>= f).into m = MonadExcept.ofExcept c >>= fun b => (f b).into m := by
  cases c <;> rfl

@[simp] theorem into_update_bind (g : α → α) (f : Unit → Decoder α γ) (m : α) :
    (update g >>= f).into m = (f ()).into (g m) := rfl

@[simp] theorem into_update (g : α → α) (m : α) : (update g).into m = pure (g m) := rfl

@[simp] theorem into_target_bind (f : α → Decoder α γ) (m : α) :
    (target >>= f).into m = (f m).into m := rfl

@[simp] theorem into_fail (e : Error) (m : α) : (fail e : Decoder α β).into m = throw e := rfl

@[simp] theorem into_onPart (get : α → β) (put : β → α → α) (d : Decoder β γ) (m : α) :
    (onPart get put d).into m = (fun b => put b m) <$> d.into (get m) := by
  funext s
  simp only [into, onPart_apply, map_apply]
  rcases d (s, get m) with ⟨c, s', b⟩ | ⟨e, s', b⟩ <;> rfl

@[simp] theorem into_ite (c : Prop) [Decidable c] (d₁ d₂ : Decoder α β) (m : α) :
    (if c then d₁ else d₂).into m = if c then d₁.into m else d₂.into m := by
  split <;> rfl

end Decoder

@[simp] theorem ofExcept_ok {β : Type} (b : β) :
    (MonadExcept.ofExcept (.ok b) : Reading β) = pure b := rfl

@[simp] theorem ofExcept_ok_apply {β : Type} (b : β) (s : Source) :
    (MonadExcept.ofExcept (.ok b) : Reading β) s = .ok b s := rfl

def Opaque.isOwned : Opaque → Bool
  | .owned _ => true
  | .borrowed _ => false

/-! ## Diagnostic data is received afresh -/

theorem checkAllocation_resized {L : Int} {h : Nat} {old : List UInt8}
    (hL : L < byteStringLimit ∨ old = []) :
    checkAllocation ((L - h).toNat - old.length) = checkAllocation (L - h).toNat := by
  rcases hL with hL | rfl
  · have hn : (L - h).toNat < byteStringLimit := by
      rw [byteStringLimit_eq] at hL ⊢
      omega
    rw [checkAllocation_of_lt (Nat.lt_of_le_of_lt (Nat.sub_le _ _) hn), checkAllocation_of_lt hn]
  · rw [List.length_nil, Nat.sub_zero]

theorem Diagnostic.into_readReplace (L source target : Int) (old : List UInt8)
    (ha : checkAllocation ((L - diagnosticHead).toNat - old.length) =
      checkAllocation (L - diagnosticHead).toNat) :
    (Diagnostic.readReplace L).into ⟨source, target, .owned old⟩ = Diagnostic.read L := by
  simp only [Diagnostic.readReplace, into_read_bind, into_check_bind, into_update_bind,
    into_target_bind, into_onPart, into_readInto, Opaque.resize, Opaque.bytes, ha]
  funext s
  simp only [Diagnostic.read, bind_apply, map_apply]
  cases checkMinimum L diagnosticHead with
  | error e => rfl
  | ok u =>
    simp only [ofExcept_ok_apply]
    cases readExact 4 s with
    | error e s₁ => rfl
    | ok a s₁ =>
      dsimp only
      cases checkAllocation (L - diagnosticHead).toNat with
      | error e => rfl
      | ok u =>
        simp only [ofExcept_ok_apply, length_resized]
        cases receive (L - diagnosticHead).toNat s₁ <;> rfl

theorem DiagnosticAck.into_readReplace {α : Type} [CodeTable α] (L source target : Int)
    (code : OpenCode α) (old : List UInt8)
    (ha : checkAllocation ((L - ackHead).toNat - old.length) = checkAllocation (L - ackHead).toNat) :
    (DiagnosticAck.readReplace L).into ⟨source, target, code, .owned old⟩ = DiagnosticAck.read L := by
  simp only [DiagnosticAck.readReplace, into_read_bind, into_check_bind, into_update_bind,
    into_target_bind, into_onPart, into_readInto, Opaque.resize, Opaque.bytes, ha]
  funext s
  simp only [DiagnosticAck.read, bind_apply, map_apply]
  cases checkMinimum L ackHead with
  | error e => rfl
  | ok u =>
    simp only [ofExcept_ok_apply]
    cases readExact 4 s with
    | error e s₁ => rfl
    | ok a s₁ =>
      dsimp only
      cases checkAllocation (L - ackHead).toNat with
      | error e => rfl
      | ok u =>
        simp only [ofExcept_ok_apply]
        cases readNumber 1 s₁ with
        | error e s₂ => rfl
        | ok c s₂ =>
          dsimp only
          simp only [length_resized]
          cases receive (L - ackHead).toNat s₂ <;> rfl

/-! ## Fresh reads decode into the default instance -/

namespace Message

theorem read_eq_into_zeroed (k : Kind) (L : Int) : read k L = (readReplace L).into (zeroed k) := by
  cases k with
  | diagnosticMessage =>
    funext s
    simp only [readReplace, zeroed, within, into_target_bind, into_onPart,
      Diagnostic.into_readReplace L 0 0 [] (checkAllocation_resized (.inr rfl))]
    rfl
  | diagnosticPositiveAck =>
    funext s
    simp only [readReplace, zeroed, within, into_target_bind, into_onPart,
      DiagnosticAck.into_readReplace L 0 0 _ [] (checkAllocation_resized (.inr rfl))]
    rfl
  | diagnosticNegativeAck =>
    funext s
    simp only [readReplace, zeroed, within, into_target_bind, into_onPart,
      DiagnosticAck.into_readReplace L 0 0 _ [] (checkAllocation_resized (.inr rfl))]
    rfl
  | _ =>
    funext s
    unfold read Decoder.into
    dsimp only
    generalize readReplace L _ = r
    rcases r with ⟨u, s', m⟩ | ⟨e, s', m⟩ <;> rfl

end Message

/-! ## The instance decoded into does not matter -/

theorem ActivationRequest.into_readReplace (L : Int) (r r' : ActivationRequest) :
    (ActivationRequest.readReplace L).into r = (ActivationRequest.readReplace L).into r' := by
  simp only [ActivationRequest.readReplace, into_read_bind, into_check_bind, into_update_bind,
    into_update, into_ite]

theorem ActivationResponse.into_readReplace (L : Int) (r r' : ActivationResponse) :
    (ActivationResponse.readReplace L).into r = (ActivationResponse.readReplace L).into r' := by
  simp only [ActivationResponse.readReplace, into_read_bind, into_check_bind, into_update_bind,
    into_update, into_ite]

namespace Message

theorem into_readReplace (p : Message) (hp : ∀ d ∈ p.opaque?, d.isOwned = true) (L : Int)
    (hL : L < byteStringLimit ∨ ∀ d ∈ p.opaque?, d.bytes = []) :
    (readReplace L).into p = (readReplace L).into (zeroed p.kind) := by
  cases p with
  | routingActivationRequest r =>
    simp only [readReplace, zeroed, kind, within, into_target_bind, into_onPart]
    rw [ActivationRequest.into_readReplace L r]
  | routingActivationResponse r =>
    simp only [readReplace, zeroed, kind, within, into_target_bind, into_onPart]
    rw [ActivationResponse.into_readReplace L r]
  | diagnosticMessage d =>
    obtain ⟨source, target, data⟩ := d
    cases data with
    | owned old =>
      have ha := checkAllocation_resized (h := diagnosticHead) (hL.imp_right (· _ rfl))
      simp only [readReplace, zeroed, kind, within, into_target_bind, into_onPart,
        Diagnostic.into_readReplace L _ _ old ha,
        Diagnostic.into_readReplace L 0 0 [] (checkAllocation_resized (.inr rfl))]
    | borrowed bs => simp [opaque?, Opaque.isOwned] at hp
  | diagnosticPositiveAck a =>
    obtain ⟨source, target, code, data⟩ := a
    cases data with
    | owned old =>
      have ha := checkAllocation_resized (h := ackHead) (hL.imp_right (· _ rfl))
      simp only [readReplace, zeroed, kind, within, into_target_bind, into_onPart,
        DiagnosticAck.into_readReplace L _ _ _ old ha,
        DiagnosticAck.into_readReplace L 0 0 _ [] (checkAllocation_resized (.inr rfl))]
    | borrowed bs => simp [opaque?, Opaque.isOwned] at hp
  | diagnosticNegativeAck a =>
    obtain ⟨source, target, code, data⟩ := a
    cases data with
    | owned old =>
      have ha := checkAllocation_resized (h := ackHead) (hL.imp_right (· _ rfl))
      simp only [readReplace, zeroed, kind, within, into_target_bind, into_onPart,
        DiagnosticAck.into_readReplace L _ _ _ old ha,
        DiagnosticAck.into_readReplace L 0 0 _ [] (checkAllocation_resized (.inr rfl))]
    | borrowed bs => simp [opaque?, Opaque.isOwned] at hp
  | _ => simp only [readReplace, zeroed, kind, replaceFixed, into_target_bind, into_read_bind,
      into_update]

theorem into_readReplaceMessage (p : Message) (hp : ∀ d ∈ p.opaque?, d.isOwned = true) :
    readReplaceMessage.into p = readOf p.kind := by
  simp only [readReplaceMessage, into_read_bind, into_target_bind, into_ite, into_fail]
  funext s
  simp only [readOf, bind_apply]
  cases hr : Header.read s with
  | error e s₁ => rfl
  | ok h s₁ =>
    dsimp only
    -- a header announces a length of four bytes, far within the byte-string limit
    have hL : h.payloadLength < byteStringLimit := by
      have := (Header.length_fits_of_read hr).2
      rw [byteStringLimit_eq]
      omega
    by_cases hk : h.announces p.kind = true
    · rw [if_pos hk, if_pos hk, into_readReplace p hp _ (.inl hL), ← read_eq_into_zeroed]
    · rw [if_neg hk, if_neg hk]
      rfl

/-- Decoding in place agrees with decoding afresh. For every message that owns its opaque data
and every declared length within the byte-string limit, or any length when the message holds no
data, decoding a payload into the message reads, from every source and whatever its limits,
exactly as a fresh read of the message's kind: the same bytes are consumed, the same error is
raised, and a success leaves the message equal to the fresh one. Reading a header and decoding
its payload into the message agrees in the same way with reading a message of its kind. -/
theorem decoding_in_place_reads_as_fresh (p : Message) (hp : ∀ d ∈ p.opaque?, d.isOwned = true)
    (L : Int) :
    ((L < byteStringLimit ∨ ∀ d ∈ p.opaque?, d.bytes = []) →
        (readReplace L).into p = read p.kind L) ∧
      readReplaceMessage.into p = readOf p.kind :=
  ⟨fun hL => (into_readReplace p hp L hL).trans (read_eq_into_zeroed p.kind L).symm,
    into_readReplaceMessage p hp⟩

theorem decoding_in_place_reads_as_fresh_negativeAck :
    (∀ d ∈ (diagnosticNegativeAck ⟨1, 2, .reserved 9, .owned [7, 7, 7]⟩).opaque?,
        d.isOwned = true) ∧
      (readReplace 6).into (diagnosticNegativeAck ⟨1, 2, .reserved 9, .owned [7, 7, 7]⟩) =
        read .diagnosticNegativeAck 6 ∧
      readReplaceMessage.into (diagnosticNegativeAck ⟨1, 2, .reserved 9, .owned [7, 7, 7]⟩) =
        readOf .diagnosticNegativeAck := by
  have hp : ∀ d ∈ (diagnosticNegativeAck ⟨1, 2, .reserved 9, .owned [7, 7, 7]⟩).opaque?,
      d.isOwned = true := by
    intro d hd
    simp only [opaque?, Option.mem_def, Option.some.injEq] at hd
    rw [← hd]
    rfl
  have h := decoding_in_place_reads_as_fresh _ hp 6
  exact ⟨hp, h.1 (.inl (by rw [byteStringLimit_eq]; decide)), h.2⟩

/-- Past the limit the two differ: one old byte leaves 2^63 - 1 zeros to allocate, a byte
string too large, where fresh data of 2^63 bytes does not fit an index. -/
theorem decoding_in_place_refused_differently :
    (readReplace 9223372036854775812).into (diagnosticMessage ⟨0, 0, .owned [0]⟩)
        (Source.ofBytes .plain [0, 1, 0, 2]) =
      .error .bytesTooLarge ((Source.ofBytes .plain [0, 1, 0, 2]).skip 4) ∧
    read .diagnosticMessage 9223372036854775812 (Source.ofBytes .plain [0, 1, 0, 2]) =
      .error .indexOverflow ((Source.ofBytes .plain [0, 1, 0, 2]).skip 4) :=
  ⟨rfl, rfl⟩

end Message

end DoipWire
