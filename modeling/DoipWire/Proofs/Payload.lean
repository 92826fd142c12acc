import DoipWire.Proofs.Bytes
import DoipWire.Proofs.Reading
import DoipWire.Stream

/-!
# Payloads read from a source that holds them

`Message.ofPayload` decodes a payload from its bytes alone. A fresh read from a source that holds
the payload yields exactly that (`Message.read_yields`), and a read that succeeds consumed exactly
the payload (`Message.read_eq_ok`).
-/

namespace DoipWire

open Source Decoder

/-! ## Reads at an offset -/

section Offsets

variable {s : Source} (hc : s.limits.readCap = none)
include hc

theorem readExact_at (a n : Nat) (h : a + n ≤ s.rest.length) :
    readExact n (s.skip a) = .ok (slice s.rest a n) (s.skip (a + n)) := by
  rw [readExact_of_le (by simpa using hc) (by simp; omega)]
  simp [slice]

theorem readNumber_at (a n : Nat) (h : a + n ≤ s.rest.length) :
    readNumber n (s.skip a) = .ok (BigEndian.ofBytes (slice s.rest a n) : Int) (s.skip (a + n)) := by
  simp [readNumber, readExact_at hc a n h]

theorem receive_at (hf : s.limits.fillCap = none) (a n : Nat) (h : a + n ≤ s.rest.length) :
    receive n (s.skip a) = .ok (slice s.rest a n) (s.skip (a + n)) := by
  rw [receive_of_le (by simpa using hc) (by simpa using hf) (by simp; omega)]
  simp [slice]

end Offsets

theorem readNumber_eq_ok {n : Nat} {s s' : Source} {v : Int} (h : readNumber n s = .ok v s') :
    n ≤ s.rest.length ∧ v = BigEndian.ofBytes (slice s.rest 0 n) ∧ s' = s.skip n := by
  unfold readNumber at h
  split at h
  · rename_i bs s₁ hr
    cases h
    obtain ⟨hn, rfl, rfl⟩ := readExact_eq_ok hr
    exact ⟨hn, by simp [slice], rfl⟩
  · cases h

/-! ## Steps of the decoders -/

theorem read_bind_eq_ok {α β γ : Type} {r : Reading β} {f : β → Decoder α γ} {s : Source}
    {m : α} {c : γ} {st : Source × α} :
    (Decoder.read r >>= f) (s, m) = .ok c st ↔ ∃ b s₁, r s = .ok b s₁ ∧ f b (s₁, m) = .ok c st := by
  rw [bind_eq_ok]
  constructor
  · rintro ⟨b, st₁, h₁, h₂⟩
    obtain ⟨s₁, hr, rfl⟩ := Decoder.read_eq_ok.1 h₁
    exact ⟨b, s₁, hr, h₂⟩
  · rintro ⟨b, s₁, hr, h₂⟩
    exact ⟨b, (s₁, m), Decoder.read_eq_ok.2 ⟨s₁, hr, rfl⟩, h₂⟩

theorem check_bind_eq_ok {α β γ : Type} {r : Except Error β} {f : β → Decoder α γ}
    {st st' : Source × α} {c : γ} :
    (check r >>= f) st = .ok c st' ↔ ∃ b, r = .ok b ∧ f b st = .ok c st' := by
  rw [bind_eq_ok]
  constructor
  · rintro ⟨b, st₁, h₁, h₂⟩
    obtain ⟨hr, rfl⟩ := Decoder.check_eq_ok.1 h₁
    exact ⟨b, hr, h₂⟩
  · rintro ⟨b, hr, h₂⟩
    exact ⟨b, st, Decoder.check_eq_ok.2 ⟨hr, rfl⟩, h₂⟩

@[simp] theorem update_bind {α γ : Type} (g : α → α) (f : Unit → Decoder α γ) (s : Source)
    (m : α) : (update g >>= f) (s, m) = f () (s, g m) := rfl

theorem oemPresent_eq_ok {len : Int} {short : Nat} {b : Bool} (h : oemPresent len short = .ok b) :
    len = short + (if b then oemSize else 0) := by
  unfold oemPresent at h
  split at h
  · cases h; simp [*]
  · split at h
    · cases h; simp [*]
    · cases h

/-! ## What a payload spells -/

def fixedPayload (len : Int) (size : Nat) (spell : List UInt8 → Message) (body : List UInt8) :
    Except Error Message :=
  if len = size then .ok (spell body) else .error (.payloadLength len size)

def ActivationRequest.ofPayload (len : Int) (body : List UInt8) :
    Except Error ActivationRequest := do
  let hasOem ← oemPresent len 7
  let activation ← ActivationType.ofByte (BigEndian.ofBytes (slice body 2 1))
  pure ⟨BigEndian.ofBytes (slice body 0 2), .member activation, some (slice body 3 reservedSize),
    if hasOem then some (slice body 7 oemSize) else none⟩

def ActivationResponse.ofPayload (len : Int) (body : List UInt8) :
    Except Error ActivationResponse := do
  let hasOem ← oemPresent len 9
  let code ← ResponseCode.ofByte (BigEndian.ofBytes (slice body 4 1))
  pure ⟨BigEndian.ofBytes (slice body 0 2), BigEndian.ofBytes (slice body 2 2), .member code,
    some (slice body 5 reservedSize), if hasOem then some (slice body 9 oemSize) else none⟩

def Diagnostic.ofPayload (len : Int) (body : List UInt8) : Except Error Diagnostic := do
  checkMinimum len diagnosticHead
  pure ⟨BigEndian.ofBytes (slice body 0 2), BigEndian.ofBytes (slice body 2 2),
    .owned (body.drop diagnosticHead)⟩

def DiagnosticAck.ofPayload {α : Type} [CodeTable α] (len : Int) (body : List UInt8) :
    Except Error (DiagnosticAck α) := do
  checkMinimum len ackHead
  pure ⟨BigEndian.ofBytes (slice body 0 2), BigEndian.ofBytes (slice body 2 2),
    OpenCode.ofByte (BigEndian.ofBytes (slice body 4 1)), .owned (body.drop ackHead)⟩

/-- The message of kind `k` a payload of `len` bytes spells, given exactly its bytes. -/
def Message.ofPayload (k : Kind) (len : Int) (body : List UInt8) : Except Error Message :=
  match k with
  | .genericHeaderNack =>
    fixedPayload len 1 (fun data => genericHeaderNack (OpenCode.ofByte (byteAt data 0))) body
  | .vehicleIdResponse =>
    fixedPayload len 33 (fun data => vehicleIdResponse (Announcement.ofBody data)) body
  | .routingActivationRequest => routingActivationRequest <$> ActivationRequest.ofPayload len body
  | .routingActivationResponse =>
    routingActivationResponse <$> ActivationResponse.ofPayload len body
  | .aliveCheckResponse =>
    fixedPayload len 2 (fun data => aliveCheckResponse (BigEndian.ofBytes data)) body
  | .entityStatusResponse =>
    fixedPayload len 7 (fun data => entityStatusResponse (EntityStatus.ofBody data)) body
  | .powerModeResponse => fixedPayload len 1 (fun data => powerModeResponse (byteAt data 0)) body
  | .diagnosticMessage => diagnosticMessage <$> Diagnostic.ofPayload len body
  | .diagnosticPositiveAck => diagnosticPositiveAck <$> DiagnosticAck.ofPayload len body
  | .diagnosticNegativeAck => diagnosticNegativeAck <$> DiagnosticAck.ofPayload len body
  | k => if len = 0 then .ok (zeroed k) else .error (.payloadLength len 0)

/-! ## Routing activation -/

theorem ActivationRequest.ofPayload_take (len : Int) (body : List UInt8) :
    ofPayload len (body.take len.toNat) = ofPayload len body := by
  unfold ofPayload
  cases hp : oemPresent len 7 with
  | error e => rfl
  | ok hasOem =>
    have hlen := oemPresent_eq_ok hp
    have h7 : 7 ≤ len.toNat := by cases hasOem <;> simp [oemSize] at hlen <;> omega
    simp only [bind, Except.bind, reservedSize, oemSize, slice_take (show 2 + 1 ≤ len.toNat by omega),
      slice_take (show 0 + 2 ≤ len.toNat by omega), slice_take (show 3 + 4 ≤ len.toNat by omega)]
    cases hasOem with
    | false => rfl
    | true =>
      have h11 : 7 + 4 ≤ len.toNat := by simp [oemSize] at hlen; omega
      simp only [slice_take h11]

theorem ActivationResponse.ofPayload_take (len : Int) (body : List UInt8) :
    ofPayload len (body.take len.toNat) = ofPayload len body := by
  unfold ofPayload
  cases hp : oemPresent len 9 with
  | error e => rfl
  | ok hasOem =>
    have hlen := oemPresent_eq_ok hp
    have h9 : 9 ≤ len.toNat := by cases hasOem <;> simp [oemSize] at hlen <;> omega
    simp only [bind, Except.bind, reservedSize, oemSize, slice_take (show 4 + 1 ≤ len.toNat by omega),
      slice_take (show 0 + 2 ≤ len.toNat by omega), slice_take (show 2 + 2 ≤ len.toNat by omega),
      slice_take (show 5 + 4 ≤ len.toNat by omega)]
    cases hasOem with
    | false => rfl
    | true =>
      have h13 : 9 + 4 ≤ len.toNat := by simp [oemSize] at hlen; omega
      simp only [slice_take h13]

namespace ActivationRequest

theorem readReplace_of_le {s : Source} (hc : s.limits.readCap = none) {len : Int}
    (hL : len.toNat ≤ s.rest.length) (m : ActivationRequest) :
    readReplace len (s, m) =
      match oemPresent len 7 with
      | .error e => .error e (s, m)
      | .ok hasOem =>
        match ActivationType.ofByte (BigEndian.ofBytes (slice s.rest 2 1)) with
        | .error e => .error e (s.skip 3, { m with sourceAddress := BigEndian.ofBytes (slice s.rest 0 2) })
        | .ok a => .ok () (s.skip len.toNat,
            ⟨BigEndian.ofBytes (slice s.rest 0 2), .member a, some (slice s.rest 3 reservedSize),
              if hasOem then some (slice s.rest 7 oemSize) else none⟩) := by
  unfold readReplace
  cases hp : oemPresent len 7 with
  | error e => simp
  | ok hasOem =>
    have hlen := oemPresent_eq_ok hp
    have hshort : 7 ≤ len.toNat := by cases hasOem <;> simp [oemSize] at hlen <;> omega
    have r1 : readNumber 2 s = .ok (BigEndian.ofBytes (slice s.rest 0 2) : Int) (s.skip 2) := by
      simpa using readNumber_at hc 0 2 (by omega)
    have r2 : readNumber 1 (s.skip 2) = .ok (BigEndian.ofBytes (slice s.rest 2 1) : Int) (s.skip 3) :=
      readNumber_at hc 2 1 (by omega)
    have r3 : readExact 4 (s.skip 3) = .ok (slice s.rest 3 4) (s.skip 7) :=
      readExact_at hc 3 4 (by omega)
    simp only [check_ok, bind_apply, read_apply, update_apply, r1, r2, reservedSize, oemSize]
    cases ha : ActivationType.ofByte (BigEndian.ofBytes (slice s.rest 2 1) : Int) with
    | error e => simp
    | ok a =>
      cases hasOem with
      | false =>
        have h7 : len.toNat = 7 := by simp at hlen; omega
        simp [h7, r3]
      | true =>
        have h11 : len.toNat = 11 := by simp [oemSize] at hlen; omega
        have r4 : readExact 4 (s.skip 7) = .ok (slice s.rest 7 4) (s.skip 11) :=
          readExact_at hc 7 4 (by omega)
        simp [h11, r3, r4]

end ActivationRequest

namespace ActivationResponse

theorem readReplace_of_le {s : Source} (hc : s.limits.readCap = none) {len : Int}
    (hL : len.toNat ≤ s.rest.length) (m : ActivationResponse) :
    readReplace len (s, m) =
      match oemPresent len 9 with
      | .error e => .error e (s, m)
      | .ok hasOem =>
        match ResponseCode.ofByte (BigEndian.ofBytes (slice s.rest 4 1)) with
        | .error e => .error e (s.skip 5, { m with
            testerAddress := BigEndian.ofBytes (slice s.rest 0 2)
            entityAddress := BigEndian.ofBytes (slice s.rest 2 2) })
        | .ok c => .ok () (s.skip len.toNat,
            ⟨BigEndian.ofBytes (slice s.rest 0 2), BigEndian.ofBytes (slice s.rest 2 2), .member c,
              some (slice s.rest 5 reservedSize),
              if hasOem then some (slice s.rest 9 oemSize) else none⟩) := by
  unfold readReplace
  cases hp : oemPresent len 9 with
  | error e => simp
  | ok hasOem =>
    have hlen := oemPresent_eq_ok hp
    have hshort : 9 ≤ len.toNat := by cases hasOem <;> simp [oemSize] at hlen <;> omega
    have r1 : readNumber 2 s = .ok (BigEndian.ofBytes (slice s.rest 0 2) : Int) (s.skip 2) := by
      simpa using readNumber_at hc 0 2 (by omega)
    have r2 : readNumber 2 (s.skip 2) = .ok (BigEndian.ofBytes (slice s.rest 2 2) : Int) (s.skip 4) :=
      readNumber_at hc 2 2 (by omega)
    have r3 : readNumber 1 (s.skip 4) = .ok (BigEndian.ofBytes (slice s.rest 4 1) : Int) (s.skip 5) :=
      readNumber_at hc 4 1 (by omega)
    have r4 : readExact 4 (s.skip 5) = .ok (slice s.rest 5 4) (s.skip 9) :=
      readExact_at hc 5 4 (by omega)
    simp only [check_ok, bind_apply, read_apply, update_apply, r1, r2, r3, reservedSize, oemSize]
    cases hr : ResponseCode.ofByte (BigEndian.ofBytes (slice s.rest 4 1) : Int) with
    | error e => simp
    | ok c =>
      cases hasOem with
      | false =>
        have h9 : len.toNat = 9 := by simp at hlen; omega
        simp [h9, r4]
      | true =>
        have h13 : len.toNat = 13 := by simp [oemSize] at hlen; omega
        have r5 : readExact 4 (s.skip 9) = .ok (slice s.rest 9 4) (s.skip 13) :=
          readExact_at hc 9 4 (by omega)
        simp [h13, r4, r5]

end ActivationResponse

/-! ## Fixed sizes and diagnostic data -/

theorem readFixed_of_le {s : Source} (hc : s.limits.readCap = none) {len : Int} {size : Nat}
    (h : size ≤ s.rest.length) :
    readFixed len size s =
      if len = size then .ok (s.rest.take size) (s.skip size) else .error (.payloadLength len size) s := by
  unfold readFixed
  split
  · exact readExact_of_le hc h
  · rfl

theorem checkMinimum_eq_ok {len : Int} {minimum : Nat} :
    checkMinimum len minimum = .ok () ↔ (minimum : Int) ≤ len := by
  unfold checkMinimum
  split <;> simp <;> omega

theorem Diagnostic.read_of_le {s : Source} (hc : s.limits.readCap = none)
    (hf : s.limits.fillCap = none) {len : Int} (hL : len.toNat ≤ s.rest.length)
    (hb : len.toNat < byteStringLimit) :
    Diagnostic.read len s =
      match checkMinimum len diagnosticHead with
      | .error e => .error e s
      | .ok () => .ok ⟨BigEndian.ofBytes (slice s.rest 0 2), BigEndian.ofBytes (slice s.rest 2 2),
          .owned (slice s.rest 4 (len.toNat - 4))⟩ (s.skip len.toNat) := by
  unfold Diagnostic.read
  cases hm : checkMinimum len diagnosticHead with
  | error e => rfl
  | ok u =>
    have h4 : 4 ≤ len := by simpa [diagnosticHead] using checkMinimum_eq_ok.1 hm
    have r1 : readExact 4 s = .ok (slice s.rest 0 4) (s.skip 4) := by
      simpa using readExact_at hc 0 4 (by omega)
    have r2 : receive (len - diagnosticHead).toNat (s.skip 4) =
        .ok (slice s.rest 4 (len.toNat - 4)) (s.skip len.toNat) := by
      have : (len - diagnosticHead).toNat = len.toNat - 4 := by simp [diagnosticHead]; omega
      rw [this, receive_at hc hf 4 _ (by omega)]
      congr 2; omega
    have r0 : checkAllocation (len - diagnosticHead).toNat = .ok () :=
      checkAllocation_of_lt (by omega)
    simp only [r1, r0, r2, slice_head_four s.rest (show 0 + 2 ≤ 4 by omega),
      slice_head_four s.rest (show 2 + 2 ≤ 4 by omega)]

theorem DiagnosticAck.read_of_le {α : Type} [CodeTable α] {s : Source}
    (hc : s.limits.readCap = none) (hf : s.limits.fillCap = none) {len : Int}
    (hL : len.toNat ≤ s.rest.length) (hb : len.toNat < byteStringLimit) :
    (DiagnosticAck.read len s : EStateM.Result Error Source (DiagnosticAck α)) =
      match checkMinimum len ackHead with
      | .error e => .error e s
      | .ok () => .ok ⟨BigEndian.ofBytes (slice s.rest 0 2), BigEndian.ofBytes (slice s.rest 2 2),
          OpenCode.ofByte (BigEndian.ofBytes (slice s.rest 4 1)),
          .owned (slice s.rest 5 (len.toNat - 5))⟩ (s.skip len.toNat) := by
  unfold DiagnosticAck.read
  cases hm : checkMinimum len ackHead with
  | error e => rfl
  | ok u =>
    have h5 : 5 ≤ len := by simpa [ackHead] using checkMinimum_eq_ok.1 hm
    have r1 : readExact 4 s = .ok (slice s.rest 0 4) (s.skip 4) := by
      simpa using readExact_at hc 0 4 (by omega)
    have r2 : readNumber 1 (s.skip 4) = .ok (BigEndian.ofBytes (slice s.rest 4 1) : Int) (s.skip 5) :=
      readNumber_at hc 4 1 (by omega)
    have r3 : receive (len - ackHead).toNat (s.skip 5) =
        .ok (slice s.rest 5 (len.toNat - 5)) (s.skip len.toNat) := by
      have : (len - ackHead).toNat = len.toNat - 5 := by simp [ackHead]; omega
      rw [this, receive_at hc hf 5 _ (by omega)]
      congr 2; omega
    have r0 : checkAllocation (len - ackHead).toNat = .ok () := checkAllocation_of_lt (by omega)
    simp only [r1, r0, r2, r3, slice_head_four s.rest (show 0 + 2 ≤ 4 by omega),
      slice_head_four s.rest (show 2 + 2 ≤ 4 by omega)]

/-! ## A fresh read yields what the payload spells -/

namespace Message

variable {s : Source} {len : Int}

theorem read_yields_empty (k : Kind)
    (hk : ∀ s, read k len s =
      match check (if len = 0 then .ok () else .error (.payloadLength len 0)) (s, zeroed k) with
      | .ok _ (s', m) => .ok m s'
      | .error e (s', _) => .error e s') :
    (read k len).Yields s len.toNat (if len = 0 then .ok (zeroed k) else .error (.payloadLength len 0)) := by
  by_cases h : len = 0
  · rw [if_pos h]
    show read k len s = .ok (zeroed k) (s.skip len.toNat)
    rw [hk, if_pos h]
    simp [h]
  · rw [if_neg h]
    exact ⟨s, by rw [hk, if_neg h]; rfl⟩

theorem read_yields_fixed (k : Kind) (size : Nat) {spell : List UInt8 → Message}
    (hk : ∀ s, read k len s =
      match replaceFixed len size spell (s, zeroed k) with
      | .ok _ (s', m) => .ok m s'
      | .error e (s', _) => .error e s')
    (hc : s.limits.readCap = none) (hL : len.toNat ≤ s.rest.length) :
    (read k len).Yields s len.toNat (fixedPayload len size spell (s.rest.take len.toNat)) := by
  unfold fixedPayload
  by_cases h : len = size
  · have hs : len.toNat = size := by omega
    rw [if_pos h]
    show read k len s = .ok (spell (s.rest.take len.toNat)) (s.skip len.toNat)
    rw [hk]
    simp only [replaceFixed, bind_apply, read_apply, readFixed_of_le hc (hs ▸ hL), if_pos h,
      update_apply, hs]
  · rw [if_neg h]
    exact ⟨s, by rw [hk]; simp [replaceFixed, readFixed, h]⟩

theorem read_yields_activationRequest (hc : s.limits.readCap = none)
    (hL : len.toNat ≤ s.rest.length) :
    (read .routingActivationRequest len).Yields s len.toNat
      (routingActivationRequest <$> ActivationRequest.ofPayload len (s.rest.take len.toNat)) := by
  rw [ActivationRequest.ofPayload_take]
  unfold ActivationRequest.ofPayload
  cases hp : oemPresent len 7 with
  | error e =>
    refine ⟨s, ?_⟩
    simp [read, readReplace, zeroed, within, ActivationRequest.readReplace_of_le hc hL, hp]
  | ok hasOem =>
    cases ha : ActivationType.ofByte (BigEndian.ofBytes (slice s.rest 2 1) : Int) with
    | error e =>
      refine ⟨s.skip 3, ?_⟩
      simp [read, readReplace, zeroed, within, ActivationRequest.readReplace_of_le hc hL, hp, ha]
    | ok a =>
      show read .routingActivationRequest len s = .ok _ (s.skip len.toNat)
      simp [read, readReplace, zeroed, within, ActivationRequest.readReplace_of_le hc hL, hp, ha]

theorem read_yields_activationResponse (hc : s.limits.readCap = none)
    (hL : len.toNat ≤ s.rest.length) :
    (read .routingActivationResponse len).Yields s len.toNat
      (routingActivationResponse <$> ActivationResponse.ofPayload len (s.rest.take len.toNat)) := by
  rw [ActivationResponse.ofPayload_take]
  unfold ActivationResponse.ofPayload
  cases hp : oemPresent len 9 with
  | error e =>
    refine ⟨s, ?_⟩
    simp [read, readReplace, zeroed, within, ActivationResponse.readReplace_of_le hc hL, hp]
  | ok hasOem =>
    cases hr : ResponseCode.ofByte (BigEndian.ofBytes (slice s.rest 4 1) : Int) with
    | error e =>
      refine ⟨s.skip 5, ?_⟩
      simp [read, readReplace, zeroed, within, ActivationResponse.readReplace_of_le hc hL, hp, hr]
    | ok c =>
      show read .routingActivationResponse len s = .ok _ (s.skip len.toNat)
      simp [read, readReplace, zeroed, within, ActivationResponse.readReplace_of_le hc hL, hp, hr]

theorem read_yields_diagnostic (hc : s.limits.readCap = none) (hf : s.limits.fillCap = none)
    (hL : len.toNat ≤ s.rest.length) (hb : len.toNat < byteStringLimit) :
    (read .diagnosticMessage len).Yields s len.toNat
      (diagnosticMessage <$> Diagnostic.ofPayload len (s.rest.take len.toNat)) := by
  unfold Diagnostic.ofPayload
  cases hm : checkMinimum len diagnosticHead with
  | error e => exact ⟨s, by simp [read, Diagnostic.read_of_le hc hf hL hb, hm]⟩
  | ok u =>
    have h4 : 4 ≤ len := by simpa [diagnosticHead] using checkMinimum_eq_ok.1 hm
    show read .diagnosticMessage len s = .ok _ (s.skip len.toNat)
    simp only [read, map_apply, Diagnostic.read_of_le hc hf hL hb, hm]
    simp [diagnosticHead, drop_take_eq_slice, slice_take (show 0 + 2 ≤ len.toNat by omega),
      slice_take (show 2 + 2 ≤ len.toNat by omega)]

theorem read_yields_ack {α : Type} [CodeTable α] {k : Kind} {wrap : DiagnosticAck α → Message}
    (hk : ∀ s, read k len s = (wrap <$> DiagnosticAck.read len) s)
    (hc : s.limits.readCap = none) (hf : s.limits.fillCap = none)
    (hL : len.toNat ≤ s.rest.length) (hb : len.toNat < byteStringLimit) :
    (read k len).Yields s len.toNat (wrap <$> DiagnosticAck.ofPayload len (s.rest.take len.toNat)) := by
  unfold DiagnosticAck.ofPayload
  cases hm : checkMinimum len ackHead with
  | error e => exact ⟨s, by simp [hk, DiagnosticAck.read_of_le hc hf hL hb, hm]⟩
  | ok u =>
    have h5 : 5 ≤ len := by simpa [ackHead] using checkMinimum_eq_ok.1 hm
    show read k len s = .ok _ (s.skip len.toNat)
    simp only [hk, map_apply, DiagnosticAck.read_of_le hc hf hL hb, hm]
    simp [ackHead, drop_take_eq_slice, slice_take (show 0 + 2 ≤ len.toNat by omega),
      slice_take (show 2 + 2 ≤ len.toNat by omega), slice_take (show 4 + 1 ≤ len.toNat by omega)]

theorem read_yields (k : Kind) (hc : s.limits.readCap = none) (hf : s.limits.fillCap = none)
    (hL : len.toNat ≤ s.rest.length) (hb : len.toNat < byteStringLimit) :
    (read k len).Yields s len.toNat (ofPayload k len (s.rest.take len.toNat)) := by
  cases k with
  | genericHeaderNack => exact read_yields_fixed .genericHeaderNack 1 (fun _ => rfl) hc hL
  | vehicleIdRequest => exact read_yields_empty .vehicleIdRequest (fun _ => rfl)
  | vehicleIdRequestWithEid => exact read_yields_empty .vehicleIdRequestWithEid (fun _ => rfl)
  | vehicleIdRequestWithVin => exact read_yields_empty .vehicleIdRequestWithVin (fun _ => rfl)
  | vehicleIdResponse => exact read_yields_fixed .vehicleIdResponse 33 (fun _ => rfl) hc hL
  | routingActivationRequest => exact read_yields_activationRequest hc hL
  | routingActivationResponse => exact read_yields_activationResponse hc hL
  | aliveCheckRequest => exact read_yields_empty .aliveCheckRequest (fun _ => rfl)
  | aliveCheckResponse => exact read_yields_fixed .aliveCheckResponse 2 (fun _ => rfl) hc hL
  | entityStatusRequest => exact read_yields_empty .entityStatusRequest (fun _ => rfl)
  | entityStatusResponse => exact read_yields_fixed .entityStatusResponse 7 (fun _ => rfl) hc hL
  | powerModeRequest => exact read_yields_empty .powerModeRequest (fun _ => rfl)
  | powerModeResponse => exact read_yields_fixed .powerModeResponse 1 (fun _ => rfl) hc hL
  | diagnosticMessage => exact read_yields_diagnostic hc hf hL hb
  | diagnosticPositiveAck => exact read_yields_ack (fun _ => by rfl) hc hf hL hb
  | diagnosticNegativeAck => exact read_yields_ack (fun _ => by rfl) hc hf hL hb

end Message

/-! ## A successful read returns what the payload spells -/

theorem replaceFixed_eq_ok {len : Int} {size : Nat} {spell : List UInt8 → Message} {s s' : Source}
    {m m' : Message} {u : Unit} (h : Message.replaceFixed len size spell (s, m) = .ok u (s', m')) :
    len = size ∧ size ≤ s.rest.length ∧ s' = s.skip size ∧ m' = spell (s.rest.take size) := by
  unfold Message.replaceFixed at h
  obtain ⟨data, s₁, r1, h⟩ := read_bind_eq_ok.1 h
  simp only [update_apply, EStateM.Result.ok.injEq, Prod.mk.injEq] at h
  obtain ⟨-, rfl, rfl⟩ := h
  unfold readFixed at r1
  split at r1
  · obtain ⟨hn, rfl, rfl⟩ := readExact_eq_ok r1
    exact ⟨‹_›, hn, rfl, rfl⟩
  · cases r1

namespace ActivationRequest

theorem readReplace_eq_ok {len : Int} {s s' : Source} {m m' : ActivationRequest} {u : Unit}
    (h : readReplace len (s, m) = .ok u (s', m')) :
    len.toNat ≤ s.rest.length ∧ s' = s.skip len.toNat ∧ ofPayload len (s.rest.take len.toNat) = .ok m' := by
  unfold readReplace at h
  obtain ⟨hasOem, hp, h⟩ := check_bind_eq_ok.1 h
  obtain ⟨src, s₁, r1, h⟩ := read_bind_eq_ok.1 h
  rw [update_bind] at h
  obtain ⟨byte, s₂, r2, h⟩ := read_bind_eq_ok.1 h
  obtain ⟨a, ha, h⟩ := check_bind_eq_ok.1 h
  rw [update_bind] at h
  obtain ⟨res, s₃, r3, h⟩ := read_bind_eq_ok.1 h
  rw [update_bind] at h
  obtain ⟨n1, rfl, rfl⟩ := readNumber_eq_ok r1
  obtain ⟨n2, rfl, rfl⟩ := readNumber_eq_ok r2
  obtain ⟨n3, rfl, rfl⟩ := readExact_eq_ok r3
  simp only [skip_rest, List.length_drop, skip_skip, slice_drop, reservedSize] at n2 n3 ha ⊢
  have hlen := oemPresent_eq_ok hp
  rw [ofPayload_take]
  simp only [ofPayload, hp, ha, bind, Except.bind, pure, Except.pure, reservedSize, oemSize]
  cases hasOem with
  | false =>
    simp only [Bool.false_eq_true, if_false, update_apply, EStateM.Result.ok.injEq,
      Prod.mk.injEq] at h
    obtain ⟨-, rfl, rfl⟩ := h
    have h7 : len.toNat = 7 := by simp at hlen; omega
    simp [h7, reservedSize, slice]
    omega
  | true =>
    simp only [if_true] at h
    obtain ⟨oem, s₄, r4, h⟩ := read_bind_eq_ok.1 h
    simp only [update_apply, EStateM.Result.ok.injEq, Prod.mk.injEq] at h
    obtain ⟨-, rfl, rfl⟩ := h
    obtain ⟨n4, rfl, rfl⟩ := readExact_eq_ok r4
    simp only [skip_rest, List.length_drop, skip_skip, reservedSize, oemSize] at n4
    have h11 : len.toNat = 11 := by simp [oemSize] at hlen; omega
    simp [h11, reservedSize, oemSize, slice]
    omega

end ActivationRequest

namespace ActivationResponse

theorem readReplace_eq_ok {len : Int} {s s' : Source} {m m' : ActivationResponse} {u : Unit}
    (h : readReplace len (s, m) = .ok u (s', m')) :
    len.toNat ≤ s.rest.length ∧ s' = s.skip len.toNat ∧ ofPayload len (s.rest.take len.toNat) = .ok m' := by
  unfold readReplace at h
  obtain ⟨hasOem, hp, h⟩ := check_bind_eq_ok.1 h
  obtain ⟨tester, s₁, r1, h⟩ := read_bind_eq_ok.1 h
  rw [update_bind] at h
  obtain ⟨entity, s₂, r2, h⟩ := read_bind_eq_ok.1 h
  rw [update_bind] at h
  obtain ⟨byte, s₃, r3, h⟩ := read_bind_eq_ok.1 h
  obtain ⟨c, hc, h⟩ := check_bind_eq_ok.1 h
  rw [update_bind] at h
  obtain ⟨res, s₄, r4, h⟩ := read_bind_eq_ok.1 h
  rw [update_bind] at h
  obtain ⟨n1, rfl, rfl⟩ := readNumber_eq_ok r1
  obtain ⟨n2, rfl, rfl⟩ := readNumber_eq_ok r2
  obtain ⟨n3, rfl, rfl⟩ := readNumber_eq_ok r3
  obtain ⟨n4, rfl, rfl⟩ := readExact_eq_ok r4
  simp only [skip_rest, List.length_drop, skip_skip, slice_drop, reservedSize] at n2 n3 n4 hc ⊢
  have hlen := oemPresent_eq_ok hp
  rw [ofPayload_take]
  simp only [ofPayload, hp, hc, bind, Except.bind, pure, Except.pure, reservedSize, oemSize]
  cases hasOem with
  | false =>
    simp only [Bool.false_eq_true, if_false, update_apply, EStateM.Result.ok.injEq,
      Prod.mk.injEq] at h
    obtain ⟨-, rfl, rfl⟩ := h
    have h9 : len.toNat = 9 := by simp at hlen; omega
    simp [h9, reservedSize, slice]
    omega
  | true =>
    simp only [if_true] at h
    obtain ⟨oem, s₅, r5, h⟩ := read_bind_eq_ok.1 h
    simp only [update_apply, EStateM.Result.ok.injEq, Prod.mk.injEq] at h
    obtain ⟨-, rfl, rfl⟩ := h
    obtain ⟨n5, rfl, rfl⟩ := readExact_eq_ok r5
    simp only [skip_rest, List.length_drop, skip_skip, reservedSize, oemSize] at n5
    have h13 : len.toNat = 13 := by simp [oemSize] at hlen; omega
    simp [h13, reservedSize, oemSize, slice]
    omega

end ActivationResponse

theorem Diagnostic.read_eq_ok {len : Int} {s s' : Source} {d : Diagnostic}
    (h : Diagnostic.read len s = .ok d s') :
    len.toNat ≤ s.rest.length ∧ s' = s.skip len.toNat ∧
      Diagnostic.ofPayload len (s.rest.take len.toNat) = .ok d := by
  unfold Diagnostic.read at h
  split at h
  · cases h
  · rename_i hm
    split at h
    · cases h
    · rename_i addresses s₁ r1
      split at h
      · cases h
      split at h
      · cases h
      · rename_i data s₂ r2
        cases h
        have h4 : 4 ≤ len := by simpa [diagnosticHead] using checkMinimum_eq_ok.1 hm
        have hn : (len - diagnosticHead).toNat = len.toNat - 4 := by simp [diagnosticHead]; omega
        obtain ⟨n1, rfl, rfl⟩ := readExact_eq_ok r1
        obtain ⟨n2, rfl, rfl⟩ := receive_eq_ok r2
        simp only [hn, skip_rest, List.length_drop, skip_skip] at n2 ⊢
        refine ⟨by omega, by congr 1; omega, ?_⟩
        simp only [Diagnostic.ofPayload, hm, bind, Except.bind, pure, Except.pure]
        simp only [diagnosticHead, drop_take_eq_slice, slice_take (show 0 + 2 ≤ len.toNat by omega),
          slice_take (show 2 + 2 ≤ len.toNat by omega)]
        simp [slice, List.take_take, List.drop_take]

theorem DiagnosticAck.read_eq_ok {α : Type} [CodeTable α] {len : Int} {s s' : Source}
    {d : DiagnosticAck α} (h : DiagnosticAck.read len s = .ok d s') :
    len.toNat ≤ s.rest.length ∧ s' = s.skip len.toNat ∧
      DiagnosticAck.ofPayload len (s.rest.take len.toNat) = .ok d := by
  unfold DiagnosticAck.read at h
  split at h
  · cases h
  · rename_i hm
    split at h
    · cases h
    · rename_i addresses s₁ r1
      split at h
      · cases h
      split at h
      · cases h
      · rename_i code s₂ r2
        split at h
        · cases h
        · rename_i data s₃ r3
          cases h
          have h5 : 5 ≤ len := by simpa [ackHead] using checkMinimum_eq_ok.1 hm
          have hn : (len - ackHead).toNat = len.toNat - 5 := by simp [ackHead]; omega
          obtain ⟨n1, rfl, rfl⟩ := readExact_eq_ok r1
          obtain ⟨n2, rfl, rfl⟩ := readNumber_eq_ok r2
          obtain ⟨n3, rfl, rfl⟩ := receive_eq_ok r3
          simp only [hn, skip_rest, List.length_drop, skip_skip, slice_drop] at n2 n3 ⊢
          refine ⟨by omega, by congr 1; omega, ?_⟩
          simp only [DiagnosticAck.ofPayload, hm, bind, Except.bind, pure, Except.pure]
          simp only [ackHead, drop_take_eq_slice, slice_take (show 0 + 2 ≤ len.toNat by omega),
            slice_take (show 2 + 2 ≤ len.toNat by omega), slice_take (show 4 + 1 ≤ len.toNat by omega)]
          simp [slice, List.take_take, List.drop_take]

namespace Message

variable {len : Int} {s s' : Source} {m : Message}

theorem read_routingActivationRequest (len : Int) (s : Source) :
    read .routingActivationRequest len s =
      match ActivationRequest.readReplace len
          (s, ⟨0, .member .default, some (List.replicate reservedSize 0), none⟩) with
      | .ok _ (s', r) => .ok (routingActivationRequest r) s'
      | .error e (s', _) => .error e s' := by
  simp only [read, readReplace, zeroed, within, bind_apply, target_apply, onPart_apply]
  cases ActivationRequest.readReplace len
      (s, ⟨0, .member .default, some (List.replicate reservedSize 0), none⟩) with
  | ok u st => rfl
  | error e st => rfl

theorem read_routingActivationResponse (len : Int) (s : Source) :
    read .routingActivationResponse len s =
      match ActivationResponse.readReplace len
          (s, ⟨0, 0, .member .deniedUnknownSourceAddress, some (List.replicate reservedSize 0), none⟩) with
      | .ok _ (s', r) => .ok (routingActivationResponse r) s'
      | .error e (s', _) => .error e s' := by
  simp only [read, readReplace, zeroed, within, bind_apply, target_apply, onPart_apply]
  cases ActivationResponse.readReplace len
      (s, ⟨0, 0, .member .deniedUnknownSourceAddress, some (List.replicate reservedSize 0), none⟩) with
  | ok u st => rfl
  | error e st => rfl

theorem read_eq_ok_empty (k : Kind)
    (hk : ∀ s, read k len s =
      match check (if len = 0 then .ok () else .error (.payloadLength len 0)) (s, zeroed k) with
      | .ok _ (s', m) => .ok m s'
      | .error e (s', _) => .error e s')
    (h : read k len s = .ok m s') :
    len.toNat ≤ s.rest.length ∧ s' = s.skip len.toNat ∧
      (if len = 0 then Except.ok (zeroed k) else Except.error (Error.payloadLength len 0)) = .ok m := by
  rw [hk] at h
  by_cases h0 : len = 0
  · simp only [h0, if_true, check_ok, EStateM.Result.ok.injEq] at h
    obtain ⟨rfl, rfl⟩ := h
    simp [h0]
  · simp [h0] at h

theorem read_eq_ok_fixed (k : Kind) (size : Nat) {spell : List UInt8 → Message}
    (hk : ∀ s, read k len s =
      match replaceFixed len size spell (s, zeroed k) with
      | .ok _ (s', m) => .ok m s'
      | .error e (s', _) => .error e s')
    (h : read k len s = .ok m s') :
    len.toNat ≤ s.rest.length ∧ s' = s.skip len.toNat ∧
      fixedPayload len size spell (s.rest.take len.toNat) = .ok m := by
  rw [hk] at h
  split at h
  · rename_i u s₁ m₁ hr
    cases h
    obtain ⟨hlen, hn, rfl, rfl⟩ := replaceFixed_eq_ok hr
    have hs : len.toNat = size := by omega
    simp [fixedPayload, hlen, hn]
  · cases h

theorem read_eq_ok {k : Kind} (h : read k len s = .ok m s') :
    len.toNat ≤ s.rest.length ∧ s' = s.skip len.toNat ∧
      ofPayload k len (s.rest.take len.toNat) = .ok m := by
  cases k with
  | genericHeaderNack => exact read_eq_ok_fixed .genericHeaderNack 1 (fun _ => rfl) h
  | vehicleIdRequest => exact read_eq_ok_empty .vehicleIdRequest (fun _ => rfl) h
  | vehicleIdRequestWithEid => exact read_eq_ok_empty .vehicleIdRequestWithEid (fun _ => rfl) h
  | vehicleIdRequestWithVin => exact read_eq_ok_empty .vehicleIdRequestWithVin (fun _ => rfl) h
  | vehicleIdResponse => exact read_eq_ok_fixed .vehicleIdResponse 33 (fun _ => rfl) h
  | routingActivationRequest =>
    rw [read_routingActivationRequest] at h
    split at h
    · rename_i u s₁ r hr
      cases h
      obtain ⟨hn, rfl, hp⟩ := ActivationRequest.readReplace_eq_ok hr
      exact ⟨hn, rfl, by simp [ofPayload, hp]⟩
    · cases h
  | routingActivationResponse =>
    rw [read_routingActivationResponse] at h
    split at h
    · rename_i u s₁ r hr
      cases h
      obtain ⟨hn, rfl, hp⟩ := ActivationResponse.readReplace_eq_ok hr
      exact ⟨hn, rfl, by simp [ofPayload, hp]⟩
    · cases h
  | aliveCheckRequest => exact read_eq_ok_empty .aliveCheckRequest (fun _ => rfl) h
  | aliveCheckResponse => exact read_eq_ok_fixed .aliveCheckResponse 2 (fun _ => rfl) h
  | entityStatusRequest => exact read_eq_ok_empty .entityStatusRequest (fun _ => rfl) h
  | entityStatusResponse => exact read_eq_ok_fixed .entityStatusResponse 7 (fun _ => rfl) h
  | powerModeRequest => exact read_eq_ok_empty .powerModeRequest (fun _ => rfl) h
  | powerModeResponse => exact read_eq_ok_fixed .powerModeResponse 1 (fun _ => rfl) h
  | diagnosticMessage =>
    simp only [read, map_apply] at h
    split at h
    · rename_i d s₁ hr
      cases h
      obtain ⟨hn, rfl, hp⟩ := Diagnostic.read_eq_ok hr
      exact ⟨hn, rfl, by simp [ofPayload, hp]⟩
    · cases h
  | diagnosticPositiveAck =>
    simp only [read, map_apply] at h
    split at h
    · rename_i d s₁ hr
      cases h
      obtain ⟨hn, rfl, hp⟩ := DiagnosticAck.read_eq_ok hr
      exact ⟨hn, rfl, by simp [ofPayload, hp]⟩
    · cases h
  | diagnosticNegativeAck =>
    simp only [read, map_apply] at h
    split at h
    · rename_i d s₁ hr
      cases h
      obtain ⟨hn, rfl, hp⟩ := DiagnosticAck.read_eq_ok hr
      exact ⟨hn, rfl, by simp [ofPayload, hp]⟩
    · cases h

end Message

end DoipWire
