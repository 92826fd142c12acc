import DoipWire.Proofs.Payload

/-!
# Reading back what was written

Reading a written message back gives its canonical form (`Message.canon`); a closed code without
a name is refused. On one stream the messages come back in order and the stream ends empty.
-/

namespace DoipWire

open Source Decoder

/-! ## What a written message looks like -/

/-- The eight header bytes written for a payload of kind `k` and `len` bytes. -/
def headerBytes (v : Int) (k : Kind) (len : Nat) : List UInt8 :=
  [UInt8.ofNat v.toNat, UInt8.ofNat (inverseVersion v).toNat] ++ BigEndian.toBytes 2 k.code ++
    BigEndian.toBytes 4 len

@[simp] theorem length_headerBytes (v : Int) (k : Kind) (len : Nat) :
    (headerBytes v k len).length = 8 := by
  simp [headerBytes]

theorem inverseVersion_lt (v : Int) : 0 ≤ inverseVersion v ∧ inverseVersion v < 256 := by
  unfold inverseVersion; omega

namespace Message

theorem encode_eq_ok {m : Message} {v : Int} {bs : List UInt8} (h : m.encode v = .ok bs) :
    ∃ body, m.body = .ok body ∧ body.length = m.length ∧ 0 ≤ v ∧ v < 256 ∧
      m.length < 2 ^ 32 ∧ bs = headerBytes v m.kind m.length ++ body := by
  unfold encode at h
  obtain ⟨body, hb, h⟩ := except_bind_eq_ok.1 h
  obtain ⟨head, hh, h⟩ := except_bind_eq_ok.1 h
  split at h
  · cases h
  · rename_i hlen
    simp only [pure, Except.pure, Except.ok.injEq] at h
    subst h
    unfold Header.toBytes at hh
    obtain ⟨versions, hvs, hh⟩ := except_bind_eq_ok.1 hh
    obtain ⟨code, hcode, hh⟩ := except_bind_eq_ok.1 hh
    obtain ⟨lenBytes, hl, hh⟩ := except_bind_eq_ok.1 hh
    simp only [pure, Except.pure, Except.ok.injEq] at hh
    subst hh
    obtain ⟨hr, rfl⟩ := BigEndian.bytesOf_eq_ok.1 hvs
    obtain ⟨-, -, rfl⟩ := BigEndian.encode_eq_ok.1 hcode
    obtain ⟨-, hl32, rfl⟩ := BigEndian.encode_eq_ok.1 hl
    obtain ⟨hv0, hv1⟩ := hr v (by simp [Header.new])
    have hl32' : m.length < 2 ^ 32 := by
      have : (m.length : Int) < 4294967296 := by simpa [Header.new] using hl32
      omega
    refine ⟨body, hb, by omega, hv0, hv1, hl32', ?_⟩
    simp [headerBytes, Header.new, PayloadType.code, OpenCode.value, CodeTable.value]

theorem encode_of_body {m : Message} {v : Int} {body : List UInt8} (hb : m.body = .ok body)
    (hl : body.length = m.length) (hv0 : 0 ≤ v) (hv : v < 256) (h32 : m.length < 2 ^ 32) :
    m.encode v = .ok (headerBytes v m.kind m.length ++ body) := by
  obtain ⟨hi0, hi⟩ := inverseVersion_lt v
  have hvs : BigEndian.bytesOf [v, DoipWire.inverseVersion v] =
      .ok [UInt8.ofNat v.toNat, UInt8.ofNat (DoipWire.inverseVersion v).toNat] := by
    rw [BigEndian.bytesOf_eq_ok]
    refine ⟨fun x hx => ?_, rfl⟩
    simp only [List.mem_cons, List.not_mem_nil, or_false] at hx
    rcases hx with rfl | rfl <;> omega
  have hcode : BigEndian.encode 2 (m.kind.code : Int) = .ok (BigEndian.toBytes 2 m.kind.code) :=
    BigEndian.encode_of_lt (by omega) (by have := m.kind.code_lt; omega)
  have hlen : BigEndian.encode 4 (m.length : Int) = .ok (BigEndian.toBytes 4 m.length) :=
    BigEndian.encode_of_lt (by omega) (by omega)
  simp [encode, hb, hl, Header.toBytes, Header.new, PayloadType.code, OpenCode.value,
    CodeTable.value, hvs, hcode, hlen, headerBytes, pure, Except.pure]

end Message

theorem Header.ofBytes_headerBytes {v : Int} (hv0 : 0 ≤ v) (hv : v < 256) (k : Kind) {len : Nat}
    (hl : len < 2 ^ 32) (rest : List UInt8) :
    Header.ofBytes (headerBytes v k len ++ rest) =
      .ok ⟨v, DoipWire.inverseVersion v, .member k, len⟩ := by
  obtain ⟨t0, t1, ht⟩ : ∃ t0 t1, BigEndian.toBytes 2 k.code = [t0, t1] := by
    have h2 := BigEndian.length_toBytes 2 k.code
    match BigEndian.toBytes 2 k.code, h2 with
    | [t0, t1], _ => exact ⟨t0, t1, rfl⟩
  obtain ⟨l0, l1, l2, l3, hl4⟩ : ∃ l0 l1 l2 l3, BigEndian.toBytes 4 len = [l0, l1, l2, l3] := by
    have h4 := BigEndian.length_toBytes 4 len
    match BigEndian.toBytes 4 len, h4 with
    | [l0, l1, l2, l3], _ => exact ⟨l0, l1, l2, l3, rfl⟩
  have hcode : BigEndian.ofBytes [t0, t1] = k.code := by
    rw [← ht, BigEndian.ofBytes_toBytes 2 _ (by have := k.code_lt; omega)]
  have hlen : BigEndian.ofBytes [l0, l1, l2, l3] = len := by
    rw [← hl4, BigEndian.ofBytes_toBytes 4 _ hl]
  obtain ⟨hi0, hi⟩ := inverseVersion_lt v
  simp only [headerBytes, ht, hl4, List.cons_append, List.nil_append, Header.ofBytes, hcode, hlen,
    BigEndian.toNat_ofNat_toNat hv0 hv, BigEndian.toNat_ofNat_toNat hi0 hi, PayloadType.classify,
    Kind.ofCode_code]

/-! ## Acknowledgements -/

theorem DiagnosticAck.ofPayload_written {α : Type} [CodeTable α] {m : DiagnosticAck α}
    {source target code : List UInt8} (hs : BigEndian.encode 2 m.sourceAddress = .ok source)
    (ht : BigEndian.encode 2 m.targetAddress = .ok target)
    (hc : BigEndian.bytesOf [m.ackCode.value] = .ok code) :
    (DiagnosticAck.ofPayload (5 + m.previousData.bytes.length : Nat)
        (source ++ target ++ code ++ m.previousData.bytes) : Except Error (DiagnosticAck α)) =
      .ok { m with ackCode := OpenCode.ofByte m.ackCode.value,
                   previousData := .owned m.previousData.bytes } := by
  obtain ⟨hbyte, rfl⟩ := BigEndian.bytesOf_eq_ok.1 hc
  obtain ⟨c0, c1⟩ := hbyte _ (List.mem_singleton_self _)
  have hsl := BigEndian.length_of_encode hs
  have hsv := BigEndian.ofBytes_toBytes_of_encode hs
  have htl := BigEndian.length_of_encode ht
  have htv := BigEndian.ofBytes_toBytes_of_encode ht
  have hmin : checkMinimum ((5 + m.previousData.bytes.length : Nat) : Int) ackHead = .ok () :=
    checkMinimum_eq_ok.2 (by unfold ackHead; omega)
  simp only [DiagnosticAck.ofPayload, hmin]
  simp [ackHead, slice, List.drop_append, hsl, htl, List.drop_eq_nil_of_le, hsv, htv,
    ofBytes_ofNat c0 c1]

/-! ## Canonical messages -/

namespace Message

/-- What a message reads back as once written: open codes become what their byte means in the
table, closed codes their named member, and opaque data is owned. A closed code holding a
number without a name has no canonical form: reading its byte back is refused. -/
def canon : Message → Except Error Message
  | genericHeaderNack code => .ok (genericHeaderNack (OpenCode.ofByte code.value))
  | vehicleIdResponse m => .ok (vehicleIdResponse { m with
      furtherAction := FurtherAction.ofByte m.furtherAction.value
      syncStatus := OpenCode.ofByte m.syncStatus.value })
  | routingActivationRequest m => do
    let activation ← ActivationType.ofByte m.activationType.value
    pure (routingActivationRequest { m with activationType := .member activation })
  | routingActivationResponse m => do
    let code ← ResponseCode.ofByte m.responseCode.value
    pure (routingActivationResponse { m with responseCode := .member code })
  | diagnosticMessage m => .ok (diagnosticMessage { m with userData := .owned m.userData.bytes })
  | diagnosticPositiveAck m => .ok (diagnosticPositiveAck { m with
      ackCode := OpenCode.ofByte m.ackCode.value, previousData := .owned m.previousData.bytes })
  | diagnosticNegativeAck m => .ok (diagnosticNegativeAck { m with
      ackCode := OpenCode.ofByte m.ackCode.value, previousData := .owned m.previousData.bytes })
  | m => .ok m

/-! ## Bodies read back -/

section Bodies

variable {body : List UInt8}

theorem ofPayload_genericHeaderNack {code : OpenCode NackCode}
    (hb : (genericHeaderNack code).body = .ok body) :
    ofPayload .genericHeaderNack 1 body = (genericHeaderNack code).canon := by
  obtain ⟨hr, rfl⟩ := BigEndian.bytesOf_eq_ok.1 hb
  obtain ⟨h0, h1⟩ := hr code.value (by simp)
  simp [ofPayload, fixedPayload, canon, byteAt_ofNat h0 h1]

theorem ofPayload_aliveCheckResponse {source : Int}
    (hb : (aliveCheckResponse source).body = .ok body) :
    ofPayload .aliveCheckResponse 2 body = (aliveCheckResponse source).canon := by
  have hs := BigEndian.ofBytes_toBytes_of_encode hb
  have hl := BigEndian.length_of_encode hb
  simp [ofPayload, fixedPayload, canon, hs]

theorem ofPayload_powerModeResponse {mode : Int} (hb : (powerModeResponse mode).body = .ok body) :
    ofPayload .powerModeResponse 1 body = (powerModeResponse mode).canon := by
  obtain ⟨hr, rfl⟩ := BigEndian.bytesOf_eq_ok.1 hb
  obtain ⟨h0, h1⟩ := hr mode (by simp)
  simp [ofPayload, fixedPayload, canon, byteAt_ofNat h0 h1]

theorem ofPayload_entityStatusResponse {m : EntityStatus}
    (hb : (entityStatusResponse m).body = .ok body) :
    ofPayload .entityStatusResponse 7 body = (entityStatusResponse m).canon := by
  obtain ⟨counts, hc, hb⟩ := except_bind_eq_ok.1 hb
  obtain ⟨size, hs, hb⟩ := except_bind_eq_ok.1 hb
  cases hb
  obtain ⟨hr, rfl⟩ := BigEndian.bytesOf_eq_ok.1 hc
  obtain ⟨n0, n1⟩ := hr m.nodeType (by simp)
  obtain ⟨x0, x1⟩ := hr m.maxOpenSockets (by simp)
  obtain ⟨c0, c1⟩ := hr m.curOpenSockets (by simp)
  have hsize := BigEndian.ofBytes_toBytes_of_encode hs
  have hl := BigEndian.length_of_encode hs
  have h3 : (BigEndian.ofBytes (slice ([UInt8.ofNat m.nodeType.toNat, UInt8.ofNat m.maxOpenSockets.toNat,
      UInt8.ofNat m.curOpenSockets.toNat] ++ size) 3 4) : Int) = m.maxDataSize := by
    simpa [slice, List.take_of_length_le, hl] using hsize
  simp only [ofPayload, fixedPayload, List.map_cons, List.map_nil, List.cons_append,
    List.nil_append] at h3 ⊢
  simp only [canon, EntityStatus.ofBody, h3, byteAt_cons_succ, byteAt_ofNat n0 n1,
    byteAt_ofNat x0 x1, byteAt_ofNat c0 c1]
  simp

theorem Announcement.widths_of_validate {m : Announcement}
    (h : (vehicleIdResponse m).validate = .ok ()) :
    (∃ vin, m.vin = some vin ∧ vin.length = vinSize) ∧
      (∃ eid, m.eid = some eid ∧ eid.length = eidSize) ∧
      ∀ gid, m.gid = some gid → gid.length = gidSize ∧ gid ∉ gidNotSet := by
  simp only [validate] at h
  obtain ⟨⟨⟩, -, h⟩ := except_bind_eq_ok.1 h
  obtain ⟨⟨⟩, -, h⟩ := except_bind_eq_ok.1 h
  obtain ⟨⟨⟩, -, h⟩ := except_bind_eq_ok.1 h
  obtain ⟨⟨⟩, hvin, h⟩ := except_bind_eq_ok.1 h
  obtain ⟨⟨⟩, heid, h⟩ := except_bind_eq_ok.1 h
  refine ⟨checkPresentWidth_eq_ok.1 hvin, checkPresentWidth_eq_ok.1 heid, fun gid hg => ?_⟩
  rw [hg] at h
  obtain ⟨⟨⟩, hw, h⟩ := except_bind_eq_ok.1 h
  refine ⟨checkWidth_eq_ok.1 hw, fun hc => ?_⟩
  simp [hc] at h

theorem gid_readBack {gid : Option (List UInt8)}
    (h : ∀ g, gid = some g → g.length = gidSize ∧ g ∉ gidNotSet) :
    (if gidNotSet.contains (gid.getD (List.replicate gidSize 0)) then none
      else some (gid.getD (List.replicate gidSize 0))) = gid := by
  cases gid with
  | none => simp [gidNotSet, gidSize]
  | some g => simp [(h g rfl).2]

theorem ofPayload_vehicleIdResponse {m : Announcement}
    (hv : (vehicleIdResponse m).validate = .ok ()) (hb : (vehicleIdResponse m).body = .ok body) :
    ofPayload .vehicleIdResponse 33 body = (vehicleIdResponse m).canon := by
  obtain ⟨⟨vin, hvin, hvl⟩, ⟨eid, heid, hel⟩, hgid⟩ := Announcement.widths_of_validate hv
  simp only [Message.body, hvin, heid] at hb
  obtain ⟨address, ha, hb⟩ := except_bind_eq_ok.1 hb
  obtain ⟨_, ⟨⟩, hb⟩ := except_bind_eq_ok.1 hb
  obtain ⟨_, ⟨⟩, hb⟩ := except_bind_eq_ok.1 hb
  obtain ⟨codes, hc, hb⟩ := except_bind_eq_ok.1 hb
  cases hb
  obtain ⟨hr, rfl⟩ := BigEndian.bytesOf_eq_ok.1 hc
  obtain ⟨f0, f1⟩ := hr m.furtherAction.value (by simp)
  obtain ⟨s0, s1⟩ := hr m.syncStatus.value (by simp)
  have hf : max m.furtherAction.value 0 % 256 = m.furtherAction.value := by omega
  have hs : max m.syncStatus.value 0 % 256 = m.syncStatus.value := by omega
  have hal := BigEndian.length_of_encode ha
  have hla := BigEndian.ofBytes_toBytes_of_encode ha
  have hgl : (m.gid.getD (List.replicate gidSize 0)).length = 6 := by
    cases hg : m.gid with
    | none => simp [gidSize]
    | some g => simpa [gidSize] using (hgid g hg).1
  have hback := gid_readBack hgid
  generalize m.gid.getD (List.replicate gidSize 0) = gid at hback hgl ⊢
  simp only [vinSize, eidSize] at hvl hel
  simp only [List.contains_iff_mem] at hback
  simp [ofPayload, fixedPayload, canon, Announcement.ofBody, slice, byteAt, List.drop_append, hvl,
    hal, hel, hgl, List.drop_eq_nil_of_le, vinSize, eidSize, gidSize, hf, hs, hla, hvin, heid, hback]

theorem ofPayload_routingActivationRequest {m : ActivationRequest}
    (hv : (routingActivationRequest m).validate = .ok ())
    (hb : (routingActivationRequest m).body = .ok body) :
    ofPayload .routingActivationRequest (routingActivationRequest m).length body =
      (routingActivationRequest m).canon := by
  simp only [validate] at hv
  obtain ⟨⟨⟩, -, hv⟩ := except_bind_eq_ok.1 hv
  obtain ⟨⟨⟩, -, hv⟩ := except_bind_eq_ok.1 hv
  obtain ⟨⟨⟩, hres, hoem⟩ := except_bind_eq_ok.1 hv
  obtain ⟨source, hs, hb⟩ := except_bind_eq_ok.1 hb
  obtain ⟨code, hc, hb⟩ := except_bind_eq_ok.1 hb
  obtain ⟨reserved, hr, hb⟩ := except_bind_eq_ok.1 hb
  cases hb
  obtain ⟨hbyte, rfl⟩ := BigEndian.bytesOf_eq_ok.1 hc
  obtain ⟨a0, a1⟩ := hbyte _ (List.mem_singleton_self _)
  have hr' := joined_eq_ok.1 hr
  have hrl := checkOptionalWidth_eq_ok.1 hres reserved hr'
  have hsl := BigEndian.length_of_encode hs
  have hsv := BigEndian.ofBytes_toBytes_of_encode hs
  simp only [reservedSize] at hrl
  obtain ⟨sa, at', res, oem⟩ := m
  simp only at hr' hoem hsv ⊢
  subst hr'
  cases oem with
  | none =>
    simp [length, ofPayload, ActivationRequest.ofPayload, oemPresent, canon, slice, List.drop_append,
      hsl, hrl, List.drop_eq_nil_of_le, List.take_of_length_le, reservedSize, hsv, ofBytes_ofNat a0 a1]
  | some oem =>
    have hol := checkOptionalWidth_eq_ok.1 hoem oem rfl
    simp only [oemSize] at hol
    simp [length, ofPayload, ActivationRequest.ofPayload, oemPresent, canon, slice, List.drop_append,
      hsl, hrl, hol, List.drop_eq_nil_of_le, List.take_of_length_le, reservedSize, oemSize, hsv,
      ofBytes_ofNat a0 a1]

theorem ofPayload_routingActivationResponse {m : ActivationResponse}
    (hv : (routingActivationResponse m).validate = .ok ())
    (hb : (routingActivationResponse m).body = .ok body) :
    ofPayload .routingActivationResponse (routingActivationResponse m).length body =
      (routingActivationResponse m).canon := by
  simp only [validate] at hv
  obtain ⟨⟨⟩, -, hv⟩ := except_bind_eq_ok.1 hv
  obtain ⟨⟨⟩, -, hv⟩ := except_bind_eq_ok.1 hv
  obtain ⟨⟨⟩, -, hv⟩ := except_bind_eq_ok.1 hv
  obtain ⟨⟨⟩, hres, hoem⟩ := except_bind_eq_ok.1 hv
  obtain ⟨tester, ht, hb⟩ := except_bind_eq_ok.1 hb
  obtain ⟨entity, he, hb⟩ := except_bind_eq_ok.1 hb
  obtain ⟨code, hc, hb⟩ := except_bind_eq_ok.1 hb
  obtain ⟨reserved, hr, hb⟩ := except_bind_eq_ok.1 hb
  cases hb
  obtain ⟨hbyte, rfl⟩ := BigEndian.bytesOf_eq_ok.1 hc
  obtain ⟨c0, c1⟩ := hbyte _ (List.mem_singleton_self _)
  have hr' := joined_eq_ok.1 hr
  have hrl := checkOptionalWidth_eq_ok.1 hres reserved hr'
  have htl := BigEndian.length_of_encode ht
  have htv := BigEndian.ofBytes_toBytes_of_encode ht
  have hel := BigEndian.length_of_encode he
  have hev := BigEndian.ofBytes_toBytes_of_encode he
  simp only [reservedSize] at hrl
  obtain ⟨ta, ea, rc, res, oem⟩ := m
  simp only at hr' hoem htv hev ⊢
  subst hr'
  cases oem with
  | none =>
    simp [length, ofPayload, ActivationResponse.ofPayload, oemPresent, canon, slice,
      List.drop_append, htl, hel, hrl, List.drop_eq_nil_of_le, List.take_of_length_le, reservedSize,
      htv, hev, ofBytes_ofNat c0 c1]
  | some oem =>
    have hol := checkOptionalWidth_eq_ok.1 hoem oem rfl
    simp only [oemSize] at hol
    simp [length, ofPayload, ActivationResponse.ofPayload, oemPresent, canon, slice,
      List.drop_append, htl, hel, hrl, hol, List.drop_eq_nil_of_le, List.take_of_length_le,
      reservedSize, oemSize, htv, hev, ofBytes_ofNat c0 c1]

theorem ofPayload_diagnosticMessage {m : Diagnostic}
    (hb : (diagnosticMessage m).body = .ok body) :
    ofPayload .diagnosticMessage (diagnosticMessage m).length body =
      (diagnosticMessage m).canon := by
  obtain ⟨source, hs, hb⟩ := except_bind_eq_ok.1 hb
  obtain ⟨target, ht, hb⟩ := except_bind_eq_ok.1 hb
  cases hb
  have hsl := BigEndian.length_of_encode hs
  have hsv := BigEndian.ofBytes_toBytes_of_encode hs
  have htl := BigEndian.length_of_encode ht
  have htv := BigEndian.ofBytes_toBytes_of_encode ht
  have hmin : checkMinimum ((4 + m.userData.bytes.length : Nat) : Int) diagnosticHead = .ok () :=
    checkMinimum_eq_ok.2 (by unfold diagnosticHead; omega)
  simp only [length, ofPayload, Diagnostic.ofPayload, hmin]
  simp [diagnosticHead, canon, slice, List.drop_append, hsl, htl, List.drop_eq_nil_of_le, hsv, htv]

theorem ofPayload_diagnosticPositiveAck {m : DiagnosticAck PositiveAckCode}
    (hb : (diagnosticPositiveAck m).body = .ok body) :
    ofPayload .diagnosticPositiveAck (diagnosticPositiveAck m).length body =
      (diagnosticPositiveAck m).canon := by
  obtain ⟨source, hs, hb⟩ := except_bind_eq_ok.1 hb
  obtain ⟨target, ht, hb⟩ := except_bind_eq_ok.1 hb
  obtain ⟨code, hc, hb⟩ := except_bind_eq_ok.1 hb
  cases hb
  simp only [ofPayload, length]
  rw [DiagnosticAck.ofPayload_written hs ht hc]
  rfl

theorem ofPayload_diagnosticNegativeAck {m : DiagnosticAck NegativeAckCode}
    (hb : (diagnosticNegativeAck m).body = .ok body) :
    ofPayload .diagnosticNegativeAck (diagnosticNegativeAck m).length body =
      (diagnosticNegativeAck m).canon := by
  obtain ⟨source, hs, hb⟩ := except_bind_eq_ok.1 hb
  obtain ⟨target, ht, hb⟩ := except_bind_eq_ok.1 hb
  obtain ⟨code, hc, hb⟩ := except_bind_eq_ok.1 hb
  cases hb
  simp only [ofPayload, length]
  rw [DiagnosticAck.ofPayload_written hs ht hc]
  rfl

end Bodies

theorem ofPayload_body {m : Message} {body : List UInt8} (hv : m.validate = .ok ())
    (hb : m.body = .ok body) : ofPayload m.kind m.length body = m.canon := by
  cases m with
  | genericHeaderNack code => exact ofPayload_genericHeaderNack hb
  | vehicleIdResponse a => exact ofPayload_vehicleIdResponse hv hb
  | routingActivationRequest r => exact ofPayload_routingActivationRequest hv hb
  | routingActivationResponse r => exact ofPayload_routingActivationResponse hv hb
  | aliveCheckResponse a => exact ofPayload_aliveCheckResponse hb
  | entityStatusResponse e => exact ofPayload_entityStatusResponse hb
  | powerModeResponse p => exact ofPayload_powerModeResponse hb
  | diagnosticMessage d => exact ofPayload_diagnosticMessage hb
  | diagnosticPositiveAck a => exact ofPayload_diagnosticPositiveAck hb
  | diagnosticNegativeAck a => exact ofPayload_diagnosticNegativeAck hb
  | _ => rfl

/-! ## One message read back -/

section OneMessage

variable {s : Source} {tail : List UInt8}

theorem header_read_headerBytes (hc : s.limits.readCap = none) {v : Int} (hv0 : 0 ≤ v)
    (hv : v < 256) (k : Kind) {len : Nat} (hl : len < 2 ^ 32)
    (hs : s.rest = headerBytes v k len ++ tail) :
    Header.read s = .ok ⟨v, DoipWire.inverseVersion v, .member k, len⟩ (s.skip headerSize) := by
  have hle : headerSize ≤ s.rest.length := by simp [hs, headerSize]
  have htake : s.rest.take headerSize = headerBytes v k len := by
    simp [hs, headerSize]
  have hh := Header.ofBytes_headerBytes hv0 hv k hl []
  rw [List.append_nil] at hh
  simp [Header.read, readExact_of_le hc hle, htake, hh]

theorem read_written {m : Message} {v : Int} {bs : List UInt8} (hv : m.validate = .ok ())
    (he : m.encode v = .ok bs) (hc : s.limits.readCap = none) (hf : s.limits.fillCap = none)
    (hs : s.rest = bs ++ tail) :
    Header.read s = .ok ⟨v, DoipWire.inverseVersion v, .member m.kind, m.length⟩ (s.skip headerSize) ∧
      (read m.kind m.length).Yields (s.skip headerSize) m.length m.canon ∧
      bs.length = headerSize + m.length := by
  obtain ⟨body, hb, hbl, hv0, hv1, hl, rfl⟩ := encode_eq_ok he
  rw [List.append_assoc] at hs
  refine ⟨header_read_headerBytes hc hv0 hv1 m.kind hl hs, ?_, by simp [hbl, headerSize]⟩
  have hrest : s.rest.drop headerSize = body ++ tail := by simp [hs, headerSize]
  have htake : (s.skip headerSize).rest.take (m.length : Int).toNat = body := by
    simp [hrest, ← hbl]
  have hy : (read m.kind m.length).Yields (s.skip headerSize) (m.length : Int).toNat
      (ofPayload m.kind m.length ((s.skip headerSize).rest.take (m.length : Int).toNat)) :=
    read_yields m.kind hc hf (by simp [hrest, hbl])
      (by rw [byteStringLimit_eq, Int.toNat_natCast]; omega)
  rw [htake, ofPayload_body hv hb, Int.toNat_natCast] at hy
  exact hy

theorem readAny_written {m : Message} {v : Int} {bs : List UInt8} (hv : m.validate = .ok ())
    (he : m.encode v = .ok bs) (hc : s.limits.readCap = none) (hf : s.limits.fillCap = none)
    (hs : s.rest = bs ++ tail) : readAny.Yields s bs.length m.canon := by
  obtain ⟨hh, hy, hlen⟩ := read_written hv he hc hf hs
  rw [hlen]
  exact Reading.Yields.of_eq_skip (by simp [readAny, hh]) hy

theorem readOf_written {m : Message} {v : Int} {bs : List UInt8} (hv : m.validate = .ok ())
    (he : m.encode v = .ok bs) (hc : s.limits.readCap = none) (hf : s.limits.fillCap = none)
    (hs : s.rest = bs ++ tail) : (readOf m.kind).Yields s bs.length m.canon := by
  obtain ⟨hh, hy, hlen⟩ := read_written hv he hc hf hs
  rw [hlen]
  exact Reading.Yields.of_eq_skip (by simp [readOf, hh, Header.announces]) hy

end OneMessage

/-! ## Streams of messages -/

section Stream

variable {v : Int} {ms : List Message} {cs : List (List UInt8)}

theorem mapM_written {f : Message → Reading Message}
    (hf : ∀ {m : Message} {bs : List UInt8} {s : Source} {tail : List UInt8},
      m.validate = .ok () → m.encode v = .ok bs → s.limits.readCap = none →
      s.limits.fillCap = none → s.rest = bs ++ tail → (f m).Yields s bs.length m.canon)
    (hv : ∀ m ∈ ms, m.validate = .ok ()) (he : List.Forall₂ (fun m c => m.encode v = .ok c) ms cs)
    {s : Source} {tail : List UInt8} (hc : s.limits.readCap = none) (hl : s.limits.fillCap = none)
    (hs : s.rest = cs.flatten ++ tail) :
    (ms.mapM f).Yields s cs.flatten.length (ms.mapM canon) := by
  induction he generalizing s with
  | nil => exact Reading.Yields.pure [] s
  | @cons m c ms cs hmc _ ih =>
    rw [List.mapM_cons, List.mapM_cons, List.flatten_cons, List.length_append]
    have hm : (f m).Yields s c.length m.canon :=
      hf (hv m List.mem_cons_self) hmc hc hl (by rw [hs, List.flatten_cons, List.append_assoc])
    refine Reading.Yields.bind hm fun _ _ => ?_
    have hrest : (ms.mapM f).Yields (s.skip c.length) cs.flatten.length (ms.mapM canon) :=
      ih (fun m' hm' => hv m' (List.mem_cons_of_mem _ hm')) hc hl (by simp [hs])
    rw [← Nat.add_zero cs.flatten.length]
    exact Reading.Yields.bind hrest fun rs _ => Reading.Yields.pure _ _

/-- Messages written on one stream with one protocol version read back in order, whether each
is read as a message of any kind or of its own kind: every read gives the canonical form of the
next message and the stream ends empty. The first message without a canonical form, a closed
code holding a number without a name, makes its read fail with that code's refusal. -/
theorem stream_reads_back (hv : ∀ m ∈ ms, m.validate = .ok ())
    (he : List.Forall₂ (fun m c => m.encode v = .ok c) ms cs) :
    (∀ rs, ms.mapM canon = .ok rs →
      (ms.mapM fun _ => readAny) (Source.ofBytes .plain cs.flatten) =
          .ok rs ⟨[], cs.flatten.length, .plain⟩ ∧
        (ms.mapM fun m => readOf m.kind) (Source.ofBytes .plain cs.flatten) =
          .ok rs ⟨[], cs.flatten.length, .plain⟩) ∧
    (∀ e, ms.mapM canon = .error e →
      (∃ s, (ms.mapM fun _ => readAny) (Source.ofBytes .plain cs.flatten) = .error e s) ∧
        ∃ s, (ms.mapM fun m => readOf m.kind) (Source.ofBytes .plain cs.flatten) = .error e s) := by
  have hs : (Source.ofBytes .plain cs.flatten).rest = cs.flatten ++ [] := by simp [Source.ofBytes]
  have hany := mapM_written (fun hv he hc hf hs => readAny_written hv he hc hf hs) hv he rfl rfl hs
  have hof := mapM_written (fun hv he hc hf hs => readOf_written hv he hc hf hs) hv he rfl rfl hs
  have hend : (Source.ofBytes .plain cs.flatten).skip cs.flatten.length =
      ⟨[], cs.flatten.length, .plain⟩ := by simp [Source.skip, Source.ofBytes]
  refine ⟨fun rs hrs => ?_, fun e he' => ?_⟩
  · rw [hrs] at hany hof
    exact ⟨hany.trans (by rw [hend]), hof.trans (by rw [hend])⟩
  · rw [he'] at hany hof
    exact ⟨hany, hof⟩

theorem stream_reads_back_powerMode_aliveCheck :
    ([powerModeResponse 1, aliveCheckRequest].mapM fun _ => readAny)
        (Source.ofBytes .plain [2, 253, 64, 4, 0, 0, 0, 1, 1, 2, 253, 0, 7, 0, 0, 0, 0]) =
      .ok [powerModeResponse 1, aliveCheckRequest] ⟨[], 17, .plain⟩ :=
  ((@stream_reads_back 2 [powerModeResponse 1, aliveCheckRequest]
    [[2, 253, 64, 4, 0, 0, 0, 1, 1], [2, 253, 0, 7, 0, 0, 0, 0]] (by decide)
    (.cons rfl (.cons rfl .nil))).1 _ rfl).1

end Stream

end Message

end DoipWire
