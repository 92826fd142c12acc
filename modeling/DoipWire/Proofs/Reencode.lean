import DoipWire.Proofs.RoundTrip

/-!
# Writing back what was read

A message read from bytes is written back as exactly those bytes, except for the header's inverse
byte and a group identification spelling "not set" (`encode_of_read`); so decoding is injective up
to that group identification.
-/

namespace DoipWire

open Source Decoder

/-- The bytes a group identification is written back as once read: the `0xFF` spelling of "not
set" reads as absent and is written as zeros. -/
def gidWrittenBack (gid : List UInt8) : List UInt8 :=
  if gid = List.replicate gidSize 0xFF then List.replicate gidSize 0 else gid

/-- A body of kind `k` as it is written back once read: the group identification of an
announcement (bytes 25 to 30) is written back, every other byte is kept. -/
def Kind.writtenBody : Kind → List UInt8 → List UInt8
  | .vehicleIdResponse, body =>
    body.take 25 ++ gidWrittenBack (slice body 25 gidSize) ++ body.drop 31
  | _, body => body

/-- A message of kind `k` as it is written back once read from `bs`, with the version byte it
was read with: the inverse byte is derived from the version, and the body is written back. -/
def Kind.writtenBack (k : Kind) : List UInt8 → List UInt8
  | v :: _ :: rest => v :: ~~~v :: (rest.take 6 ++ k.writtenBody (rest.drop 6))
  | bs => bs

/-- Two bodies of kind `k` that decode alike: equal, or bodies of an announcement that differ
only in a group identification spelling "not set" in each. -/
def Kind.SameBody (k : Kind) (body₁ body₂ : List UInt8) : Prop :=
  body₁ = body₂ ∨ (k = .vehicleIdResponse ∧ body₁.take 25 = body₂.take 25 ∧
    body₁.drop 31 = body₂.drop 31 ∧ slice body₁ 25 gidSize ∈ gidNotSet ∧
    slice body₂ 25 gidSize ∈ gidNotSet)

theorem Kind.writtenBody_of_ne {k : Kind} (hk : k ≠ .vehicleIdResponse) (body : List UInt8) :
    k.writtenBody body = body := by
  cases k <;> first | rfl | exact absurd rfl hk

namespace Message

/-! ## Payloads written back -/

section Payloads

variable {body : List UInt8} {m : Message}

/-- What a payload of its own length decodes to has that kind and length, and its body is the
payload written back. -/
def WritesBack (k : Kind) (body : List UInt8) (m : Message) : Prop :=
  m.kind = k ∧ m.length = body.length ∧ m.body = .ok (k.writtenBody body)

theorem writesBack_fixed {k : Kind} {size : Nat} {spell : List UInt8 → Message}
    (hk : ∀ body, body.length = size → WritesBack k body (spell body))
    (h : fixedPayload body.length size spell body = .ok m) : WritesBack k body m := by
  unfold fixedPayload at h
  split at h
  · cases h; exact hk body (by omega)
  · cases h

theorem writesBack_genericHeaderNack (hl : body.length = 1) :
    WritesBack .genericHeaderNack body (genericHeaderNack (OpenCode.ofByte (byteAt body 0))) := by
  refine ⟨rfl, hl.symm, ?_⟩
  simp only [Message.body, OpenCode.value_ofByte, bytesOf_byteAt (show 0 < body.length by omega)]
  rw [← hl, slice_all]
  rfl

theorem writesBack_powerModeResponse (hl : body.length = 1) :
    WritesBack .powerModeResponse body (powerModeResponse (byteAt body 0)) := by
  refine ⟨rfl, hl.symm, ?_⟩
  simp only [Message.body, bytesOf_byteAt (show 0 < body.length by omega)]
  rw [← hl, slice_all]
  rfl

theorem writesBack_aliveCheckResponse (hl : body.length = 2) :
    WritesBack .aliveCheckResponse body (aliveCheckResponse (BigEndian.ofBytes body)) := by
  refine ⟨rfl, hl.symm, ?_⟩
  have h := BigEndian.encode_ofBytes body
  rw [hl] at h
  simp only [Message.body, h, Kind.writtenBody]

theorem writesBack_entityStatusResponse (hl : body.length = 7) :
    WritesBack .entityStatusResponse body (entityStatusResponse (EntityStatus.ofBody body)) := by
  refine ⟨rfl, hl.symm, ?_⟩
  have hcounts : BigEndian.bytesOf [byteAt body 0, byteAt body 1, byteAt body 2] =
      .ok (slice body 0 1 ++ slice body 1 1 ++ slice body 2 1) := by
    rw [BigEndian.bytesOf_eq_ok.2 ⟨fun v hv => ?_, rfl⟩]
    · simp only [List.map_cons, List.map_nil, ← byteAt_eq_slice (show 0 < body.length by omega),
        ← byteAt_eq_slice (show 1 < body.length by omega),
        ← byteAt_eq_slice (show 2 < body.length by omega), List.cons_append, List.nil_append]
    · simp only [List.mem_cons, List.not_mem_nil, or_false] at hv
      rcases hv with rfl | rfl | rfl <;> exact byteAt_lt _ _
  have hsize := encode_ofBytes_slice (show 3 + 4 ≤ body.length by omega)
  simp only [Message.body, EntityStatus.ofBody, hcounts, hsize, except_ok_bind]
  rw [slice_append_slice, slice_append_slice, slice_append_slice,
    show 1 + 1 + 1 + 4 = body.length by omega, slice_all]
  rfl

theorem gid_writtenBack (gid : List UInt8) :
    (if gidNotSet.contains gid then none else some gid).getD (List.replicate gidSize 0) =
      gidWrittenBack gid := by
  unfold gidWrittenBack
  by_cases hff : gid = List.replicate gidSize 0xFF
  · simp [hff, gidNotSet, gidSize]
  · by_cases h0 : gid = List.replicate gidSize 0
    · simp [h0, gidNotSet, gidSize]
    · have hn : gid ∉ gidNotSet := by
        simp only [gidNotSet, List.mem_cons, List.not_mem_nil, or_false, not_or]
        exact ⟨h0, hff⟩
      simp [hn, hff]

theorem take_slice_drop (body : List UInt8) :
    body.take 25 ++ slice body 25 gidSize ++ body.drop 31 = body := by
  have h31 : body.drop 31 = (body.drop 25).drop 6 := by simp [List.drop_drop]
  simp only [slice, gidSize, List.append_assoc, h31, List.take_append_drop]

theorem writesBack_vehicleIdResponse (hl : body.length = 33) :
    WritesBack .vehicleIdResponse body (vehicleIdResponse (Announcement.ofBody body)) := by
  refine ⟨rfl, hl.symm, ?_⟩
  have haddress := encode_ofBytes_slice (show 17 + 2 ≤ body.length by omega)
  have hcodes : BigEndian.bytesOf [byteAt body 31, byteAt body 32] = .ok (body.drop 31) := by
    rw [BigEndian.bytesOf_eq_ok.2 ⟨fun v hv => ?_, rfl⟩]
    · have h31 := byteAt_eq_slice (show 31 < body.length by omega)
      have h32 := byteAt_eq_slice (show 32 < body.length by omega)
      have hd : body.drop 31 = slice body 31 1 ++ slice body 32 1 := by
        rw [slice_append_slice, slice, List.take_of_length_le (by simp; omega)]
      simp only [List.map_cons, List.map_nil, hd, ← h31, ← h32, List.cons_append, List.nil_append]
    · simp only [List.mem_cons, List.not_mem_nil, or_false] at hv
      rcases hv with rfl | rfl <;> exact byteAt_lt _ _
  have hhead : slice body 0 vinSize ++ slice body 17 2 ++ slice body 19 eidSize = body.take 25 := by
    rw [vinSize, eidSize, slice_append_slice, slice_append_slice]
    simp [slice]
  simp only [Message.body, Announcement.ofBody, haddress, hcodes, FurtherAction.value_ofByte,
    OpenCode.value_ofByte, joined, except_ok_bind, pure_bind, gid_writtenBack]
  rw [hhead]
  rfl

theorem bytesOf_code_byte {v : Int} {bs : List UInt8} {i : Nat} (hv : v = BigEndian.ofBytes (slice bs i 1))
    (hi : i < bs.length) : BigEndian.bytesOf [v] = .ok (slice bs i 1) := by
  rw [hv, ofBytes_slice_one, bytesOf_byteAt hi]

theorem writesBack_routingActivationRequest {r : ActivationRequest}
    (h : ActivationRequest.ofPayload body.length body = .ok r) :
    WritesBack .routingActivationRequest body (routingActivationRequest r) := by
  obtain ⟨hasOem, hp, h⟩ := except_bind_eq_ok.1 h
  obtain ⟨a, ha, h⟩ := except_bind_eq_ok.1 h
  cases h
  have hlen := oemPresent_eq_ok hp
  have hl7 : 7 ≤ body.length := by split at hlen <;> omega
  have hsource := encode_ofBytes_slice (show 0 + 2 ≤ body.length by omega)
  have hcode := bytesOf_code_byte (ActivationType.value_of_ofByte ha)
    (show 2 < body.length by omega)
  refine ⟨rfl, ?_, ?_⟩
  · cases hasOem <;> simp [length, oemSize] at hlen ⊢ <;> omega
  · simp only [Message.body, ClosedCode.value, hsource, hcode, joined, except_ok_bind]
    rw [slice_append_slice, slice_append_slice]
    cases hasOem with
    | false =>
      simp only [Bool.false_eq_true, if_false, Option.getD_none, List.append_nil]
      rw [show 2 + 1 + reservedSize = body.length by simp [reservedSize] at hlen ⊢; omega,
        slice_all]
      rfl
    | true =>
      simp only [if_true, Option.getD_some]
      rw [show 2 + 1 + reservedSize = 7 by rfl, slice_append_slice,
        show 7 + oemSize = body.length by simp [oemSize] at hlen ⊢; omega, slice_all]
      rfl

theorem writesBack_routingActivationResponse {r : ActivationResponse}
    (h : ActivationResponse.ofPayload body.length body = .ok r) :
    WritesBack .routingActivationResponse body (routingActivationResponse r) := by
  obtain ⟨hasOem, hp, h⟩ := except_bind_eq_ok.1 h
  obtain ⟨c, hc, h⟩ := except_bind_eq_ok.1 h
  cases h
  have hlen := oemPresent_eq_ok hp
  have hl9 : 9 ≤ body.length := by split at hlen <;> omega
  have htester := encode_ofBytes_slice (show 0 + 2 ≤ body.length by omega)
  have hentity := encode_ofBytes_slice (show 2 + 2 ≤ body.length by omega)
  have hcode := bytesOf_code_byte (ResponseCode.value_of_ofByte hc)
    (show 4 < body.length by omega)
  refine ⟨rfl, ?_, ?_⟩
  · cases hasOem <;> simp [length, oemSize] at hlen ⊢ <;> omega
  · simp only [Message.body, ClosedCode.value, htester, hentity, hcode, joined, except_ok_bind]
    rw [slice_append_slice, slice_append_slice, slice_append_slice]
    cases hasOem with
    | false =>
      simp only [Bool.false_eq_true, if_false, Option.getD_none, List.append_nil]
      rw [show 2 + 2 + 1 + reservedSize = body.length by simp [reservedSize] at hlen ⊢; omega,
        slice_all]
      rfl
    | true =>
      simp only [if_true, Option.getD_some]
      rw [show 2 + 2 + 1 + reservedSize = 9 by rfl, slice_append_slice,
        show 9 + oemSize = body.length by simp [oemSize] at hlen ⊢; omega, slice_all]
      rfl

theorem writesBack_diagnostic {data : Opaque} (hl : 4 ≤ body.length)
    (hd : data.bytes = body.drop diagnosticHead) :
    WritesBack .diagnosticMessage body (diagnosticMessage
      ⟨BigEndian.ofBytes (slice body 0 2), BigEndian.ofBytes (slice body 2 2), data⟩) := by
  have hsource := encode_ofBytes_slice (show 0 + 2 ≤ body.length by omega)
  have htarget := encode_ofBytes_slice (show 2 + 2 ≤ body.length by omega)
  refine ⟨rfl, by simp [length, hd, diagnosticHead]; omega, ?_⟩
  have h4 : body.drop diagnosticHead = (body.drop 2).drop 2 := by simp [diagnosticHead]
  simp only [Message.body, hd, hsource, htarget, except_ok_bind, h4]
  simp only [slice, List.drop_zero, List.append_assoc, List.take_append_drop]
  rfl

theorem writesBack_diagnosticMessage {d : Diagnostic}
    (h : Diagnostic.ofPayload body.length body = .ok d) :
    WritesBack .diagnosticMessage body (diagnosticMessage d) := by
  obtain ⟨⟨⟩, hmin, h⟩ := except_bind_eq_ok.1 h
  cases h
  have hl := checkMinimum_eq_ok.1 hmin
  exact writesBack_diagnostic (by simp [diagnosticHead] at hl; omega) rfl

theorem DiagnosticAck.writesBack {α : Type} [CodeTable α] {data : Opaque} (hl : 5 ≤ body.length)
    (hd : data.bytes = body.drop ackHead) :
      (do
        let source ← BigEndian.encode 2 (BigEndian.ofBytes (slice body 0 2) : Int)
        let target ← BigEndian.encode 2 (BigEndian.ofBytes (slice body 2 2) : Int)
        let code ← BigEndian.bytesOf
          [(OpenCode.ofByte (BigEndian.ofBytes (slice body 4 1)) : OpenCode α).value]
        pure (source ++ target ++ code ++ data.bytes) : Except Error (List UInt8)) =
        .ok body := by
  have hsource := encode_ofBytes_slice (show 0 + 2 ≤ body.length by omega)
  have htarget := encode_ofBytes_slice (show 2 + 2 ≤ body.length by omega)
  have hcode : BigEndian.bytesOf
      [(OpenCode.ofByte (BigEndian.ofBytes (slice body 4 1)) : OpenCode α).value] =
      .ok (slice body 4 1) :=
    bytesOf_code_byte (OpenCode.value_ofByte _) (by omega)
  have h4 : body.drop 4 = (body.drop 2).drop 2 := by simp
  have h5 : body.drop ackHead = ((body.drop 2).drop 2).drop 1 := by simp [ackHead]
  simp only [hd, hsource, htarget, hcode, except_ok_bind, h5]
  simp only [slice, h4, List.drop_zero, List.append_assoc, List.take_append_drop]
  rfl

theorem writesBack_positiveAck {data : Opaque} (hl : 5 ≤ body.length)
    (hd : data.bytes = body.drop ackHead) :
    WritesBack .diagnosticPositiveAck body (diagnosticPositiveAck
      ⟨BigEndian.ofBytes (slice body 0 2), BigEndian.ofBytes (slice body 2 2),
        OpenCode.ofByte (BigEndian.ofBytes (slice body 4 1)), data⟩) :=
  ⟨rfl, by simp [length, hd, ackHead]; omega, DiagnosticAck.writesBack hl hd⟩

theorem writesBack_negativeAck {data : Opaque} (hl : 5 ≤ body.length)
    (hd : data.bytes = body.drop ackHead) :
    WritesBack .diagnosticNegativeAck body (diagnosticNegativeAck
      ⟨BigEndian.ofBytes (slice body 0 2), BigEndian.ofBytes (slice body 2 2),
        OpenCode.ofByte (BigEndian.ofBytes (slice body 4 1)), data⟩) :=
  ⟨rfl, by simp [length, hd, ackHead]; omega, DiagnosticAck.writesBack hl hd⟩

theorem ackHead_le_of_ofPayload {α : Type} [CodeTable α] {a : DiagnosticAck α}
    (h : DiagnosticAck.ofPayload body.length body = .ok a) :
    5 ≤ body.length ∧ a = ⟨BigEndian.ofBytes (slice body 0 2), BigEndian.ofBytes (slice body 2 2),
      OpenCode.ofByte (BigEndian.ofBytes (slice body 4 1)), .owned (body.drop ackHead)⟩ := by
  obtain ⟨⟨⟩, hmin, h⟩ := except_bind_eq_ok.1 h
  cases h
  have hl := checkMinimum_eq_ok.1 hmin
  exact ⟨by simp [ackHead] at hl; omega, rfl⟩

theorem writesBack_diagnosticPositiveAck {a : DiagnosticAck PositiveAckCode}
    (h : DiagnosticAck.ofPayload body.length body = .ok a) :
    WritesBack .diagnosticPositiveAck body (diagnosticPositiveAck a) := by
  obtain ⟨hl, rfl⟩ := ackHead_le_of_ofPayload h
  exact writesBack_positiveAck hl rfl

theorem writesBack_diagnosticNegativeAck {a : DiagnosticAck NegativeAckCode}
    (h : DiagnosticAck.ofPayload body.length body = .ok a) :
    WritesBack .diagnosticNegativeAck body (diagnosticNegativeAck a) := by
  obtain ⟨hl, rfl⟩ := ackHead_le_of_ofPayload h
  exact writesBack_negativeAck hl rfl

theorem writesBack_empty {k : Kind} (hk : k ≠ .vehicleIdResponse) (hz : (zeroed k).length = 0)
    (hb : (zeroed k).body = .ok [])
    (h : (if (body.length : Int) = 0 then .ok (zeroed k)
      else .error (.payloadLength body.length 0) : Except Error Message) = .ok m) :
    WritesBack k body m := by
  split at h
  · cases h
    have h0 : body = [] := List.eq_nil_of_length_eq_zero (by omega)
    subst h0
    exact ⟨kind_zeroed k, hz, by rw [hb, Kind.writtenBody_of_ne hk]⟩
  · cases h

theorem writesBack_of_ofPayload {k : Kind} (h : ofPayload k body.length body = .ok m) :
    WritesBack k body m := by
  cases k with
  | genericHeaderNack => exact writesBack_fixed (fun _ hl => writesBack_genericHeaderNack hl) h
  | vehicleIdResponse => exact writesBack_fixed (fun _ hl => writesBack_vehicleIdResponse hl) h
  | aliveCheckResponse => exact writesBack_fixed (fun _ hl => writesBack_aliveCheckResponse hl) h
  | entityStatusResponse =>
    exact writesBack_fixed (fun _ hl => writesBack_entityStatusResponse hl) h
  | powerModeResponse => exact writesBack_fixed (fun _ hl => writesBack_powerModeResponse hl) h
  | routingActivationRequest =>
    obtain ⟨r, hr, rfl⟩ := except_map_eq_ok.1 h
    exact writesBack_routingActivationRequest hr
  | routingActivationResponse =>
    obtain ⟨r, hr, rfl⟩ := except_map_eq_ok.1 h
    exact writesBack_routingActivationResponse hr
  | diagnosticMessage =>
    obtain ⟨d, hd, rfl⟩ := except_map_eq_ok.1 h
    exact writesBack_diagnosticMessage hd
  | diagnosticPositiveAck =>
    obtain ⟨a, ha, rfl⟩ := except_map_eq_ok.1 h
    exact writesBack_diagnosticPositiveAck ha
  | diagnosticNegativeAck =>
    obtain ⟨a, ha, rfl⟩ := except_map_eq_ok.1 h
    exact writesBack_diagnosticNegativeAck ha
  | vehicleIdRequest => exact writesBack_empty (by decide) rfl rfl h
  | vehicleIdRequestWithEid => exact writesBack_empty (by decide) rfl rfl h
  | vehicleIdRequestWithVin => exact writesBack_empty (by decide) rfl rfl h
  | aliveCheckRequest => exact writesBack_empty (by decide) rfl rfl h
  | entityStatusRequest => exact writesBack_empty (by decide) rfl rfl h
  | powerModeRequest => exact writesBack_empty (by decide) rfl rfl h

end Payloads

/-! ## Headers written back -/

theorem Kind.length_writtenBody (k : Kind) (body : List UInt8) :
    (k.writtenBody body).length = body.length := by
  by_cases hk : k = .vehicleIdResponse
  · subst hk
    by_cases hff : slice body 25 gidSize = List.replicate gidSize 0xFF
    · have h6 := congrArg List.length hff
      simp only [Kind.writtenBody, gidWrittenBack, hff, if_true]
      simp [slice, gidSize] at h6 ⊢
      omega
    · simp only [Kind.writtenBody, gidWrittenBack, hff, if_false, take_slice_drop]
  · rw [Kind.writtenBody_of_ne hk]

theorem ofNat_inverseVersion (b : UInt8) : UInt8.ofNat (inverseVersion b.toNat).toNat = ~~~b := by
  apply UInt8.toNat_inj.1
  have := b.toNat_lt
  simp only [inverseVersion, UInt8.toNat_ofNat', UInt8.toNat_not, UInt8.size]
  omega

theorem PayloadType.code_of_classify {c : Nat} {k : Kind} (h : PayloadType.classify c = .member k) :
    c = k.code := by
  have hc := PayloadType.code_classify c
  rw [h] at hc
  simp only [PayloadType.code, OpenCode.value, CodeTable.value] at hc
  omega

theorem headerBytes_of_read {v t0 t1 l0 l1 l2 l3 : UInt8} {k : Kind}
    (hk : PayloadType.classify (BigEndian.ofBytes [t0, t1]) = .member k) :
    headerBytes v.toNat k (BigEndian.ofBytes [l0, l1, l2, l3]) =
      v :: ~~~v :: [t0, t1, l0, l1, l2, l3] := by
  have hcode := PayloadType.code_of_classify hk
  have h2 := BigEndian.toBytes_ofBytes [t0, t1]
  have h4 := BigEndian.toBytes_ofBytes [l0, l1, l2, l3]
  simp only [List.length_cons, List.length_nil] at h2 h4
  rw [headerBytes, ← hcode, h2, h4, Int.toNat_natCast, UInt8.ofNat_toNat, ofNat_inverseVersion]
  rfl

theorem header_read_eq_ok {s s' : Source} {h : Header} (hr : Header.read s = .ok h s') :
    ∃ v i t0 t1 l0 l1 l2 l3 rest,
      s.rest = v :: i :: t0 :: t1 :: l0 :: l1 :: l2 :: l3 :: rest ∧
      h = ⟨v.toNat, i.toNat, PayloadType.classify (BigEndian.ofBytes [t0, t1]),
        BigEndian.ofBytes [l0, l1, l2, l3]⟩ ∧ s' = s.skip headerSize := by
  unfold Header.read at hr
  split at hr
  · rename_i bs s₁ hx
    obtain ⟨hle, rfl, rfl⟩ := readExact_eq_ok hx
    split at hr
    · rename_i h' hh
      cases hr
      -- eight bytes were read, so the source held at least eight
      obtain ⟨v, i, t0, t1, l0, l1, l2, l3, rest, hrest⟩ :
          ∃ v i t0 t1 l0 l1 l2 l3 rest, s.rest = v :: i :: t0 :: t1 :: l0 :: l1 :: l2 :: l3 :: rest := by
        generalize s.rest = bs at hle ⊢
        rcases bs with
          _ | ⟨v, _ | ⟨i, _ | ⟨t0, _ | ⟨t1, _ | ⟨l0, _ | ⟨l1, _ | ⟨l2, _ | ⟨l3, rest⟩⟩⟩⟩⟩⟩⟩⟩ <;>
          simp [headerSize] at hle ⊢
      simp only [hrest, headerSize, List.take_succ_cons, List.take_zero, Header.ofBytes,
        Except.ok.injEq] at hh
      exact ⟨v, i, t0, t1, l0, l1, l2, l3, rest, hrest, hh.symm, rfl⟩
    · cases hr
  · cases hr

theorem payloadType_of_announces {hd : Header} {k : Kind} (h : hd.announces k = true) :
    hd.payloadType = .member k := by
  unfold Header.announces at h
  split at h
  · rename_i k' hk
    rw [hk, eq_of_beq h]
  · cases h

theorem readOf_eq_ok {k : Kind} {s s' : Source} {m : Message} (h : readOf k s = .ok m s') :
    ∃ hd s₁, Header.read s = .ok hd s₁ ∧ hd.payloadType = .member k ∧
      read k hd.payloadLength s₁ = .ok m s' := by
  unfold readOf at h
  split at h
  · rename_i hd s₁ hh
    split at h
    · rename_i hann
      exact ⟨hd, s₁, hh, payloadType_of_announces hann, h⟩
    · cases h
  · cases h

theorem readAny_eq_ok {s s' : Source} {m : Message} (h : readAny s = .ok m s') :
    ∃ hd s₁ k, Header.read s = .ok hd s₁ ∧ hd.payloadType = .member k ∧
      read k hd.payloadLength s₁ = .ok m s' := by
  unfold readAny at h
  split at h
  · rename_i hd s₁ hh
    split at h
    · rename_i k hk
      exact ⟨hd, s₁, k, hh, hk, h⟩
    · cases h
  · cases h

/-! ## Messages written back -/

section Messages

variable {s s' : Source} {m : Message}

theorem encode_of_writesBack {k : Kind} {bs rest : List UInt8} {v i t0 t1 l0 l1 l2 l3 : UInt8}
    (hs : bs = v :: i :: t0 :: t1 :: l0 :: l1 :: l2 :: l3 :: rest)
    (hk : PayloadType.classify (BigEndian.ofBytes [t0, t1]) = .member k)
    (hle : BigEndian.ofBytes [l0, l1, l2, l3] ≤ rest.length)
    (hw : WritesBack k (rest.take (BigEndian.ofBytes [l0, l1, l2, l3])) m) :
    m.encode (bs.headD 0).toNat =
      .ok (k.writtenBack (bs.take (headerSize + BigEndian.ofBytes (slice bs 4 4)))) := by
  obtain ⟨rfl, hlen, hb⟩ := hw
  have hbody : (rest.take (BigEndian.ofBytes [l0, l1, l2, l3])).length =
      BigEndian.ofBytes [l0, l1, l2, l3] := by simp; omega
  rw [hbody] at hlen
  have h32 : m.length < 2 ^ 32 := by
    have := BigEndian.ofBytes_lt [l0, l1, l2, l3]
    simp only [List.length_cons, List.length_nil] at this
    omega
  have he := encode_of_body hb (by rw [Kind.length_writtenBody, hbody, hlen])
    (show (0 : Int) ≤ (v.toNat : Int) by omega)
    (show ((v.toNat : Nat) : Int) < 256 by have := v.toNat_lt; omega) h32
  have htake : bs.take (headerSize + BigEndian.ofBytes (slice bs 4 4)) =
      [v, i, t0, t1, l0, l1, l2, l3] ++ rest.take (BigEndian.ofBytes [l0, l1, l2, l3]) := by
    rw [hs, show v :: i :: t0 :: t1 :: l0 :: l1 :: l2 :: l3 :: rest =
      [v, i, t0, t1, l0, l1, l2, l3] ++ rest from rfl, List.take_append,
      List.take_of_length_le (by simp [headerSize])]
    simp [headerSize, slice]
  rw [hs, List.headD_cons, he, hlen, headerBytes_of_read hk, ← hs, htake]
  rfl

theorem writesBack_announced {k : Kind} {s₁ : Source} {hd : Header}
    (hh : Header.read s = .ok hd s₁) (hr : read k hd.payloadLength s₁ = .ok m s') :
    ∃ v i t0 t1 l0 l1 l2 l3 rest, s.rest = v :: i :: t0 :: t1 :: l0 :: l1 :: l2 :: l3 :: rest ∧
      hd.payloadType = PayloadType.classify (BigEndian.ofBytes [t0, t1]) ∧
      BigEndian.ofBytes [l0, l1, l2, l3] ≤ rest.length ∧
      s' = s.skip (headerSize + BigEndian.ofBytes [l0, l1, l2, l3]) ∧
      WritesBack k (rest.take (BigEndian.ofBytes [l0, l1, l2, l3])) m := by
  obtain ⟨v, i, t0, t1, l0, l1, l2, l3, rest, hs, rfl, rfl⟩ := header_read_eq_ok hh
  obtain ⟨hle, rfl, hp⟩ := read_eq_ok hr
  have hrest : (s.skip headerSize).rest = rest := by simp [hs, headerSize]
  rw [hrest, Int.toNat_natCast] at hle hp
  -- the payload read has the announced length, which is what `ofPayload` is given
  have hbody : (rest.take (BigEndian.ofBytes [l0, l1, l2, l3])).length =
      BigEndian.ofBytes [l0, l1, l2, l3] := by simp; omega
  have hp' : ofPayload k ((rest.take (BigEndian.ofBytes [l0, l1, l2, l3])).length : Int)
      (rest.take (BigEndian.ofBytes [l0, l1, l2, l3])) = .ok m := by
    rw [hbody]; exact hp
  exact ⟨v, i, t0, t1, l0, l1, l2, l3, rest, hs, rfl, hle, by simp, writesBack_of_ofPayload hp'⟩

theorem encode_of_readOf {k : Kind} (h : readOf k s = .ok m s') :
    m.encode (s.rest.headD 0).toNat = .ok (k.writtenBack
      (s.rest.take (headerSize + BigEndian.ofBytes (slice s.rest 4 4)))) := by
  obtain ⟨hd, s₁, hh, hk, hr⟩ := readOf_eq_ok h
  obtain ⟨v, i, t0, t1, l0, l1, l2, l3, rest, hs, ht, hle, -, hw⟩ := writesBack_announced hh hr
  exact encode_of_writesBack hs (ht ▸ hk) hle hw

theorem encode_of_readAny (h : readAny s = .ok m s') :
    m.encode (s.rest.headD 0).toNat = .ok (m.kind.writtenBack
      (s.rest.take (headerSize + BigEndian.ofBytes (slice s.rest 4 4)))) := by
  obtain ⟨hd, s₁, k, hh, hk, hr⟩ := readAny_eq_ok h
  obtain ⟨v, i, t0, t1, l0, l1, l2, l3, rest, hs, ht, hle, -, hw⟩ := writesBack_announced hh hr
  rw [hw.1]
  exact encode_of_writesBack hs (ht ▸ hk) hle hw

theorem writesBack_readBorrowed {k : DiagnosticKind} {payload : List UInt8}
    (h : readBorrowed k payload = .ok m) : WritesBack k.kind payload m := by
  unfold readBorrowed at h
  split at h
  · cases h
  · rename_i hl
    cases k with
    | message =>
      cases h
      exact writesBack_diagnostic (by simp [DiagnosticKind.head, diagnosticHead] at hl; omega) rfl
    | positiveAck =>
      rw [← ofBytes_slice_one] at h
      cases h
      exact writesBack_positiveAck (by simp [DiagnosticKind.head, ackHead] at hl; omega) rfl
    | negativeAck =>
      rw [← ofBytes_slice_one] at h
      cases h
      exact writesBack_negativeAck (by simp [DiagnosticKind.head, ackHead] at hl; omega) rfl

theorem readBorrowedMessage_eq_ok {k : DiagnosticKind} {buf : List UInt8}
    (h : readBorrowedMessage k buf = .ok m) :
    ∃ v i t0 t1 l0 l1 l2 l3 rest, buf = v :: i :: t0 :: t1 :: l0 :: l1 :: l2 :: l3 :: rest ∧
      PayloadType.classify (BigEndian.ofBytes [t0, t1]) = .member k.kind ∧
      BigEndian.ofBytes [l0, l1, l2, l3] ≤ rest.length ∧
      readBorrowed k (rest.take (BigEndian.ofBytes [l0, l1, l2, l3])) = .ok m := by
  simp only [readBorrowedMessage] at h
  split at h
  · simp [throw, throwThe, MonadExceptOf.throw] at h
  cases hh : Header.ofBytes buf with
  | error e => simp [hh] at h
  | ok hd =>
    simp only [hh, except_ok_bind] at h
    split at h
    · simp [throw, throwThe, MonadExceptOf.throw] at h
    rename_i hann
    split at h
    · simp [throw, throwThe, MonadExceptOf.throw] at h
    rename_i havail
    match buf, hh with
    | v :: i :: t0 :: t1 :: l0 :: l1 :: l2 :: l3 :: rest, hh =>
      simp only [Header.ofBytes, Except.ok.injEq] at hh
      subst hh
      have hk : PayloadType.classify (BigEndian.ofBytes [t0, t1]) = .member k.kind :=
        payloadType_of_announces (by simpa using hann)
      have hle : BigEndian.ofBytes [l0, l1, l2, l3] ≤ rest.length := by
        simp [headerSize] at havail
        omega
      simp only [slice, headerSize, List.drop_succ_cons, List.drop_zero, Int.toNat_natCast] at h
      exact ⟨v, i, t0, t1, l0, l1, l2, l3, rest, rfl, hk, hle, h⟩

theorem encode_of_readBorrowedMessage {k : DiagnosticKind} {buf : List UInt8}
    (h : readBorrowedMessage k buf = .ok m) :
    m.encode (buf.headD 0).toNat = .ok (k.kind.writtenBack
      (buf.take (headerSize + BigEndian.ofBytes (slice buf 4 4)))) := by
  obtain ⟨v, i, t0, t1, l0, l1, l2, l3, rest, rfl, hk, hle, hr⟩ := readBorrowedMessage_eq_ok h
  exact encode_of_writesBack rfl hk hle (writesBack_readBorrowed hr)

end Messages

/-! ## Decoding is injective up to the group identification -/

theorem gid_notSet_of_writtenBack_eq {g₁ g₂ : List UInt8} (h : gidWrittenBack g₁ = gidWrittenBack g₂)
    (hne : g₁ ≠ g₂) : g₁ ∈ gidNotSet ∧ g₂ ∈ gidNotSet := by
  unfold gidWrittenBack at h
  by_cases h₁ : g₁ = List.replicate gidSize 0xFF <;> by_cases h₂ : g₂ = List.replicate gidSize 0xFF
  · exact absurd (h₁.trans h₂.symm) hne
  · simp only [h₁, h₂, if_true, if_false] at h
    simp [gidNotSet, gidSize, h₁, ← h]
  · simp only [h₁, h₂, if_true, if_false] at h
    simp [gidNotSet, gidSize, h₂, h]
  · simp only [h₁, h₂, if_false] at h
    exact absurd h hne

theorem sameBody_of_writtenBody_eq {k : Kind} {body₁ body₂ : List UInt8}
    (hl : k = .vehicleIdResponse → 31 ≤ body₁.length ∧ 31 ≤ body₂.length)
    (h : k.writtenBody body₁ = k.writtenBody body₂) : k.SameBody body₁ body₂ := by
  by_cases hk : k = .vehicleIdResponse
  · subst hk
    obtain ⟨hl₁, hl₂⟩ := hl rfl
    -- the written bodies split alike: the first 25 bytes, six of identification, the rest
    have hlen : ∀ body : List UInt8, 31 ≤ body.length →
        (body.take 25 ++ gidWrittenBack (slice body 25 gidSize)).length = 31 := by
      intro body hb
      unfold gidWrittenBack
      split <;> simp [slice, gidSize] <;> omega
    obtain ⟨hhead, hrest⟩ := List.append_inj h (by rw [hlen _ hl₁, hlen _ hl₂])
    obtain ⟨htake, hgid⟩ := List.append_inj hhead (by simp; omega)
    by_cases hg : slice body₁ 25 gidSize = slice body₂ 25 gidSize
    · left
      rw [← take_slice_drop body₁, ← take_slice_drop body₂, htake, hg, hrest]
    · exact .inr ⟨rfl, htake, hrest, gid_notSet_of_writtenBack_eq hgid hg⟩
  · rw [Kind.writtenBody_of_ne hk, Kind.writtenBody_of_ne hk] at h
    exact .inl h

theorem writesBack_of_read {k : Kind} {l : ReadLimits} {body : List UInt8} {s : Source}
    {m : Message} (h : read k body.length (Source.ofBytes l body) = .ok m s) :
    WritesBack k body m := by
  obtain ⟨-, -, hp⟩ := read_eq_ok h
  simp only [Int.toNat_natCast, Source.ofBytes, List.take_length] at hp
  exact writesBack_of_ofPayload hp

theorem length_of_kind_vehicleIdResponse {m : Message} (h : m.kind = .vehicleIdResponse) :
    m.length = 33 := by
  cases m <;> simp_all [kind, length]

theorem sameBody_of_read {k : Kind} {l₁ l₂ : ReadLimits} {body₁ body₂ : List UInt8}
    {s₁ s₂ : Source} {m : Message}
    (h₁ : read k body₁.length (Source.ofBytes l₁ body₁) = .ok m s₁)
    (h₂ : read k body₂.length (Source.ofBytes l₂ body₂) = .ok m s₂) : k.SameBody body₁ body₂ := by
  obtain ⟨hk, hl₁, hb₁⟩ := writesBack_of_read h₁
  obtain ⟨-, hl₂, hb₂⟩ := writesBack_of_read h₂
  refine sameBody_of_writtenBody_eq (fun hv => ?_) (Except.ok.inj (hb₁.symm.trans hb₂))
  have h33 := length_of_kind_vehicleIdResponse (hk.trans hv)
  omega

theorem set_mem_gidNotSet {g : List UInt8} {j : Nat} {x : UInt8} (hj : j < gidSize)
    (hg : g ∈ gidNotSet) (hs : g.set j x ∈ gidNotSet) : g[j]? = some x := by
  have hconst : ∀ h ∈ gidNotSet, ∃ c, h = List.replicate gidSize c := by
    intro h hh
    simp only [gidNotSet, List.mem_cons, List.not_mem_nil, or_false] at hh
    rcases hh with rfl | rfl
    exacts [⟨0, rfl⟩, ⟨0xFF, rfl⟩]
  obtain ⟨c, rfl⟩ := hconst g hg
  obtain ⟨c', hc'⟩ := hconst _ hs
  -- a second position of the identification keeps its byte, so both spellings are one
  have hp : (if j = 0 then 1 else 0) < gidSize ∧ (if j = 0 then 1 else 0) ≠ j := by
    unfold gidSize at hj ⊢; split <;> omega
  have h1 := congrArg (·[if j = 0 then 1 else 0]?) hc'
  have h2 := congrArg (·[j]?) hc'
  simp only [List.getElem?_set, List.length_replicate, List.getElem?_replicate, hp.1, hp.2.symm,
    hj, if_true, if_false] at h1 h2
  simp only [List.getElem?_replicate, hj, if_true]
  simp at h1 h2
  rw [h1, h2]

theorem read_set_ne {k : Kind} {l : ReadLimits} {body : List UInt8} {s s' : Source}
    {m m' : Message} {i : Nat} {x : UInt8} (hi : i < body.length)
    (h : read k body.length (Source.ofBytes l body) = .ok m s) (hx : body[i] ≠ x)
    (h' : read k body.length (Source.ofBytes l (body.set i x)) = .ok m' s') : m' ≠ m := by
  rintro rfl
  rw [show body.length = (body.set i x).length by simp] at h'
  have hbyte : body[i]? ≠ some x := by simpa [List.getElem?_eq_getElem hi] using hx
  rcases sameBody_of_read h h' with heq | ⟨-, htake, hdrop, hg₁, hg₂⟩
  · have := congrArg (·[i]?) heq
    simp only [List.getElem?_set_self hi] at this
    exact hbyte this
  -- the bodies agree outside the identification, so the corrupted byte lies within it
  by_cases h25 : i < 25
  · have := congrArg (·[i]?) htake
    simp only [List.getElem?_take, h25, if_true, List.getElem?_set_self hi] at this
    exact hbyte this
  by_cases h31 : 31 ≤ i
  · have := congrArg (·[i - 31]?) hdrop
    simp only [List.getElem?_drop, Nat.add_sub_cancel' h31, List.getElem?_set_self hi] at this
    exact hbyte this
  have hset : slice (body.set i x) 25 gidSize = (slice body 25 gidSize).set (i - 25) x := by
    simp only [slice, List.drop_set, h25, if_false, List.take_set]
  rw [hset] at hg₂
  have hj := set_mem_gidNotSet (by unfold gidSize; omega) hg₁ hg₂
  simp only [slice, List.getElem?_take, List.getElem?_drop, gidSize,
    show i - 25 < 6 by omega, if_true, Nat.add_sub_cancel' (Nat.le_of_not_lt h25)] at hj
  exact hbyte hj

/-! ## Encode undoes decode -/

/-- A message read from bytes, as a message of an expected kind, of any kind, or in place from a
buffer for the diagnostic kinds, is written back with the version byte it was read with as the
bytes it was read from: header and payload, with the inverse byte derived from the version and
a group identification of six `0xFF` bytes written as zeros. So two payloads of one kind decode
to one message only when they are equal or differ just in a group identification spelling "not
set", and a payload with one byte corrupted is refused or decodes to another message. -/
theorem encode_undoes_decode :
    (∀ (k : Kind) (s s' : Source) (m : Message), readOf k s = .ok m s' →
      m.encode (s.rest.headD 0).toNat =
        .ok (k.writtenBack (s.rest.take (headerSize + BigEndian.ofBytes (slice s.rest 4 4))))) ∧
    (∀ (s s' : Source) (m : Message), readAny s = .ok m s' →
      m.encode (s.rest.headD 0).toNat =
        .ok (m.kind.writtenBack (s.rest.take (headerSize + BigEndian.ofBytes (slice s.rest 4 4))))) ∧
    (∀ (k : DiagnosticKind) (buf : List UInt8) (m : Message), readBorrowedMessage k buf = .ok m →
      m.encode (buf.headD 0).toNat =
        .ok (k.kind.writtenBack (buf.take (headerSize + BigEndian.ofBytes (slice buf 4 4))))) ∧
    (∀ (k : Kind) (l₁ l₂ : ReadLimits) (body₁ body₂ : List UInt8) (m : Message) (s₁ s₂ : Source),
      read k body₁.length (Source.ofBytes l₁ body₁) = .ok m s₁ →
      read k body₂.length (Source.ofBytes l₂ body₂) = .ok m s₂ → k.SameBody body₁ body₂) ∧
    (∀ (k : Kind) (l : ReadLimits) (body : List UInt8) (m m' : Message) (s s' : Source) (i : Nat)
      (x : UInt8) (hi : i < body.length), read k body.length (Source.ofBytes l body) = .ok m s →
      body[i] ≠ x → read k body.length (Source.ofBytes l (body.set i x)) = .ok m' s' → m' ≠ m) :=
  ⟨fun _ _ _ _ h => encode_of_readOf h, fun _ _ _ h => encode_of_readAny h,
    fun _ _ _ h => encode_of_readBorrowedMessage h,
    fun _ _ _ _ _ _ _ _ h₁ h₂ => sameBody_of_read h₁ h₂,
    fun _ _ _ _ _ _ _ _ _ hi h hx h' => read_set_ne hi h hx h'⟩

set_option maxRecDepth 4000 in
theorem encode_undoes_decode_powerMode :
    (powerModeResponse 1).encode 2 = .ok [2, 253, 64, 4, 0, 0, 0, 1, 1] :=
  encode_undoes_decode.1 .powerModeResponse
    (Source.ofBytes .plain [2, 0, 64, 4, 0, 0, 0, 1, 1]) ⟨[], 9, .plain⟩ _ rfl

end Message

end DoipWire
