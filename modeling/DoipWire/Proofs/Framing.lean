import DoipWire.Proofs.Reencode

/-!
# Payload framing

Each kind accepts a set of payload lengths (`Kind.Accepts`). A length outside it is refused at
once, leaving the source as it was; from a source that holds the payload, an accepted length
reads exactly the payload and returns a message of that length.
-/

namespace DoipWire

open Source Decoder

namespace Kind

/-- The size a kind's length refusal names: its fixed size, the short size of routing
activation, the least size of the diagnostic kinds, and zero for the kinds without payload. -/
def refusalSize : Kind → Nat
  | genericHeaderNack => 1
  | vehicleIdResponse => 33
  | routingActivationRequest => 7
  | routingActivationResponse => 9
  | aliveCheckResponse => 2
  | entityStatusResponse => 7
  | powerModeResponse => 1
  | diagnosticMessage => diagnosticHead
  | diagnosticPositiveAck => ackHead
  | diagnosticNegativeAck => ackHead
  | _ => 0

def Accepts (k : Kind) (L : Int) : Prop :=
  match k with
  | routingActivationRequest | routingActivationResponse =>
    L = k.refusalSize ∨ L = k.refusalSize + oemSize
  | diagnosticMessage | diagnosticPositiveAck | diagnosticNegativeAck => k.refusalSize ≤ L
  | _ => L = k.refusalSize

theorem Accepts.nonneg {k : Kind} {L : Int} (h : k.Accepts L) : 0 ≤ L := by
  cases k <;> simp [Accepts, refusalSize, diagnosticHead, ackHead, oemSize] at h <;> omega

end Kind

namespace Message

variable {k : Kind} {L : Int}

theorem read_of_not_accepts (h : ¬ k.Accepts L) (s : Source) :
    read k L s = .error (.payloadLength L k.refusalSize) s := by
  cases k <;> simp [Kind.Accepts, Kind.refusalSize, diagnosticHead, ackHead, oemSize] at h
  all_goals simp [read, readReplace, zeroed, within, replaceFixed, readFixed,
    ActivationRequest.readReplace, ActivationResponse.readReplace, oemPresent, Diagnostic.read,
    DiagnosticAck.read, checkMinimum, Kind.refusalSize, diagnosticHead, ackHead, oemSize, *]

theorem ActivationType.ofByte_eq_error {v : Int} {e : Error}
    (h : ActivationType.ofByte v = .error e) : e = .unknownActivationType v := by
  unfold ActivationType.ofByte at h
  split at h <;> cases h
  rfl

theorem ResponseCode.ofByte_eq_error {v : Int} {e : Error}
    (h : ResponseCode.ofByte v = .error e) : e = .unknownResponseCode v := by
  unfold ResponseCode.ofByte at h
  split at h <;> cases h
  rfl

theorem ofPayload_error_of_accepts {body : List UInt8} {e : Error} (h : k.Accepts L)
    (he : ofPayload k L body = .error e) :
    (k = .routingActivationRequest ∧ ∃ v, e = .unknownActivationType v) ∨
      (k = .routingActivationResponse ∧ ∃ v, e = .unknownResponseCode v) := by
  cases k
  case routingActivationRequest =>
    -- an accepted length says whether the optional field is there, so only the code can fail
    have hp : oemPresent L 7 = .ok (decide (L = 11)) := by
      simp only [Kind.Accepts, Kind.refusalSize, oemSize] at h
      rcases h with rfl | rfl <;> rfl
    cases ha : ActivationType.ofByte (BigEndian.ofBytes (slice body 2 1) : Int) with
    | ok a => simp [ofPayload, ActivationRequest.ofPayload, hp, ha] at he
    | error e' =>
      simp only [ofPayload, ActivationRequest.ofPayload, hp, ha, except_ok_bind, except_error_bind,
        Functor.map, Except.map, Except.error.injEq] at he
      exact .inl ⟨rfl, _, he ▸ ActivationType.ofByte_eq_error ha⟩
  case routingActivationResponse =>
    have hp : oemPresent L 9 = .ok (decide (L = 13)) := by
      simp only [Kind.Accepts, Kind.refusalSize, oemSize] at h
      rcases h with rfl | rfl <;> rfl
    cases hr : ResponseCode.ofByte (BigEndian.ofBytes (slice body 4 1) : Int) with
    | ok c => simp [ofPayload, ActivationResponse.ofPayload, hp, hr] at he
    | error e' =>
      simp only [ofPayload, ActivationResponse.ofPayload, hp, hr, except_ok_bind, except_error_bind,
        Functor.map, Except.map, Except.error.injEq] at he
      exact .inr ⟨rfl, _, he ▸ ResponseCode.ofByte_eq_error hr⟩
  -- every other kind decodes every payload of a length it accepts
  all_goals simp [Kind.Accepts, Kind.refusalSize, diagnosticHead, ackHead] at h
  all_goals simp [ofPayload, fixedPayload, Diagnostic.ofPayload, DiagnosticAck.ofPayload,
    checkMinimum, diagnosticHead, ackHead, h, Functor.map, Except.map] at he
  all_goals simp [Int.not_lt.mpr h] at he

theorem request_oem_iff {r : ActivationRequest} (h : ((routingActivationRequest r).length : Int) = L) :
    r.reservedOem.isSome ↔ L = 11 := by
  simp only [length] at h
  cases hs : r.reservedOem.isSome <;> simp [hs] at h ⊢ <;> omega

theorem response_oem_iff {r : ActivationResponse}
    (h : ((routingActivationResponse r).length : Int) = L) : r.oemSpecific.isSome ↔ L = 13 := by
  simp only [length] at h
  cases hs : r.oemSpecific.isSome <;> simp [hs] at h ⊢ <;> omega

theorem read_of_accepts {s : Source} (hc : s.limits.readCap = none)
    (hf : s.limits.fillCap = none) (hL : L ≤ s.rest.length) (hm : s.rest.length < byteStringLimit)
    (h : k.Accepts L) :
    (∃ m, read k L s = .ok m (s.skip L.toNat) ∧ m.kind = k ∧ (m.length : Int) = L) ∨
      (k = .routingActivationRequest ∧ ∃ v s', read k L s = .error (.unknownActivationType v) s') ∨
      (k = .routingActivationResponse ∧ ∃ v s', read k L s = .error (.unknownResponseCode v) s') := by
  have h0 := h.nonneg
  have hy := read_yields k hc hf (show L.toNat ≤ s.rest.length by omega) (by omega)
  have hb : (s.rest.take L.toNat).length = L.toNat := by simp; omega
  cases hp : ofPayload k L (s.rest.take L.toNat) with
  | ok m =>
    rw [hp] at hy
    -- the payload read is as long as declared, so the message written back is too
    have hp' : ofPayload k (s.rest.take L.toNat).length (s.rest.take L.toNat) = .ok m := by
      rw [hb, Int.toNat_of_nonneg h0]
      exact hp
    have hw := writesBack_of_ofPayload hp'
    exact .inl ⟨m, hy, hw.1, by rw [hw.2.1, hb]; omega⟩
  | error e =>
    rw [hp] at hy
    obtain ⟨s', hs'⟩ := hy
    rcases ofPayload_error_of_accepts h hp with ⟨rfl, v, rfl⟩ | ⟨rfl, v, rfl⟩
    · exact .inr (.inl ⟨rfl, v, s', hs'⟩)
    · exact .inr (.inr ⟨rfl, v, s', hs'⟩)

theorem consumes_announced {s s₁ s' : Source} {hd : Header} {m : Message}
    (hh : Header.read s = .ok hd s₁) (hr : read k hd.payloadLength s₁ = .ok m s') :
    s' = s.skip (headerSize + m.length) ∧
      (m.length : Int) = BigEndian.ofBytes (slice s.rest 4 4) := by
  obtain ⟨v, i, t0, t1, l0, l1, l2, l3, rest, hs, -, hle, rfl, hw⟩ := writesBack_announced hh hr
  have hl : m.length = BigEndian.ofBytes [l0, l1, l2, l3] := by
    rw [hw.2.1, List.length_take]
    omega
  exact ⟨by rw [hl], by simp [hl, slice, hs]⟩

theorem readOf_consumes {s s' : Source} {m : Message} (h : readOf k s = .ok m s') :
    s' = s.skip (headerSize + m.length) ∧
      (m.length : Int) = BigEndian.ofBytes (slice s.rest 4 4) := by
  obtain ⟨hd, s₁, hh, -, hr⟩ := readOf_eq_ok h
  exact consumes_announced hh hr

/-- Framing. From a source without read limits that holds at least `L` bytes, and no more than a
byte string can, a read of kind `k` fails on the length at once, naming the kind's size and
leaving the source untouched, exactly when `k` does not accept `L`; a read of an accepted length
fails only on an unnamed routing activation code, and otherwise consumes exactly `L` bytes and
returns a message of kind `k` and length `L`, whose optional routing field is there exactly for
the longer size. From any source, reading a message consumes its header and then exactly the
payload length the header announces, which is the length of the message read. -/
theorem payload_framing :
    (∀ (k : Kind) (L : Int) (s : Source), s.limits.readCap = none → s.limits.fillCap = none →
      L ≤ s.rest.length → s.rest.length < byteStringLimit →
      (read k L s = .error (.payloadLength L k.refusalSize) s ↔ ¬ k.Accepts L) ∧
      (k.Accepts L →
        (∃ m, read k L s = .ok m (s.skip L.toNat) ∧ m.kind = k ∧ (m.length : Int) = L ∧
          (∀ r, m = routingActivationRequest r → (r.reservedOem.isSome ↔ L = 11)) ∧
          (∀ r, m = routingActivationResponse r → (r.oemSpecific.isSome ↔ L = 13))) ∨
        (k = .routingActivationRequest ∧ ∃ v s', read k L s = .error (.unknownActivationType v) s') ∨
        (k = .routingActivationResponse ∧ ∃ v s', read k L s = .error (.unknownResponseCode v) s'))) ∧
    (∀ (k : Kind) (s s' : Source) (m : Message), readOf k s = .ok m s' →
      s' = s.skip (headerSize + m.length) ∧
        (m.length : Int) = BigEndian.ofBytes (slice s.rest 4 4)) := by
  refine ⟨fun k L s hc hf hL hm => ⟨⟨fun he hA => ?_, fun hA => read_of_not_accepts hA s⟩, fun hA => ?_⟩,
    fun _ _ _ _ h => readOf_consumes h⟩
  · -- an accepted length is never refused
    rcases read_of_accepts hc hf hL hm hA with ⟨m, hm, -⟩ | ⟨-, v, s', hv⟩ | ⟨-, v, s', hv⟩
    · rw [hm] at he; cases he
    · rw [hv] at he; cases he
    · rw [hv] at he; cases he
  · rcases read_of_accepts hc hf hL hm hA with ⟨m, hm, hk, hl⟩ | hr | hr
    · refine .inl ⟨m, hm, hk, hl, ?_, ?_⟩
      · rintro r rfl
        exact request_oem_iff hl
      · rintro r rfl
        exact response_oem_iff hl
    · exact .inr (.inl hr)
    · exact .inr (.inr hr)

theorem payload_framing_powerMode :
    read .powerModeResponse 2 (Source.ofBytes .plain [1, 2]) =
      .error (.payloadLength 2 1) (Source.ofBytes .plain [1, 2]) :=
  ((payload_framing.1 .powerModeResponse 2 (Source.ofBytes .plain [1, 2]) rfl rfl
    (by decide) (by rw [byteStringLimit_eq]; decide)).1).2 (by simp [Kind.Accepts, Kind.refusalSize])

end Message

end DoipWire
