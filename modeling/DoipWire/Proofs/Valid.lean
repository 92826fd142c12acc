import DoipWire.Proofs.Keeps

/-!
# Valid messages stay valid

A valid message passes the checks of its kind and its length fits a header. Every decoding keeps
validity whether it succeeds or fails, fresh messages are valid, and a valid message whose
reserved routing bytes are there (`Writable`) encodes to its header and exactly its length.
-/

namespace DoipWire

open Source Decoder

/-! ## Valid messages -/

@[simp] theorem except_unit_bind_eq_ok {ε β : Type} {x : Except ε Unit} {f : Unit → Except ε β}
    {b : β} : x >>= f = .ok b ↔ x = .ok () ∧ f () = .ok b := by
  cases x <;> simp

attribute [simp] checkUnsigned_eq_ok checkWidth_eq_ok checkPresentWidth_eq_ok
  checkOptionalWidth_eq_ok

@[simp] theorem ClosedCode.value_member {α : Type} [CodeTable α] (a : α) :
    (ClosedCode.member a).value = CodeTable.value a := rfl

namespace Message

/-- A message that passes the checks of its kind and whose length fits the length field of a
header. -/
structure Valid (m : Message) : Prop where
  checks : m.validate = .ok ()
  fits : m.length < 2 ^ 32

theorem valid_iff {m : Message} : m.Valid ↔ m.validate = .ok () ∧ m.length < 2 ^ 32 :=
  ⟨fun h => ⟨h.checks, h.fits⟩, fun h => ⟨h.1, h.2⟩⟩

theorem valid_zeroed (k : Kind) : (zeroed k).Valid := by
  cases k <;> exact ⟨rfl, by decide⟩

end Message

/-! ## Decoding keeps validity -/

open Message

namespace ActivationRequest

theorem keeps_valid (len : Int) :
    Keeps (fun r => (routingActivationRequest r).Valid) (fun _ => True) (readReplace len) := by
  unfold readReplace
  refine keeps_bind (keeps_check fun _ _ => trivial) fun hasOem _ => ?_
  refine keeps_bind (keeps_read fun _ _ _ h => readNumber_fits h) fun source hs => ?_
  refine keeps_bind (keeps_update fun r hr => by simp_all [valid_iff, validate, length])
    fun _ _ => ?_
  refine keeps_bind (keeps_read fun _ _ _ h => readNumber_fits h) fun byte hb => ?_
  refine keeps_bind (keeps_check fun _ h => ActivationType.value_of_ofByte h) fun a ha => ?_
  refine keeps_bind (keeps_update fun r hr => by simp_all [valid_iff, validate, length])
    fun _ _ => ?_
  refine keeps_bind (keeps_read fun _ _ _ h => readExact_length h) fun reserved hres => ?_
  refine keeps_bind (keeps_update fun r hr => by simp_all [valid_iff, validate, length])
    fun _ _ => ?_
  cases hasOem with
  | true =>
    refine keeps_bind (keeps_read fun _ _ _ h => readExact_length h) fun oem ho => ?_
    exact keeps_update fun r hr => by simp_all [valid_iff, validate, length]
  | false =>
    rw [if_neg Bool.false_ne_true]
    exact keeps_update fun r hr => by simp_all [valid_iff, validate, length]

theorem keeps_reserved (len : Int) :
    Keeps (fun r : ActivationRequest => r.reserved.isSome) (fun _ => True) (readReplace len) := by
  unfold readReplace
  refine keeps_bind (keeps_check fun _ _ => trivial) fun hasOem _ => ?_
  refine keeps_bind (keeps_read fun _ _ _ _ => trivial) fun _ _ => ?_
  refine keeps_bind (keeps_update fun _ hr => hr) fun _ _ => ?_
  refine keeps_bind (keeps_read fun _ _ _ _ => trivial) fun _ _ => ?_
  refine keeps_bind (keeps_check fun _ _ => trivial) fun _ _ => ?_
  refine keeps_bind (keeps_update fun _ hr => hr) fun _ _ => ?_
  refine keeps_bind (keeps_read fun _ _ _ _ => trivial) fun _ _ => ?_
  refine keeps_bind (keeps_update fun _ _ => rfl) fun _ _ => ?_
  cases hasOem with
  | true =>
    refine keeps_bind (keeps_read fun _ _ _ _ => trivial) fun _ _ => ?_
    exact keeps_update fun _ hr => hr
  | false =>
    rw [if_neg Bool.false_ne_true]
    exact keeps_update fun _ hr => hr

end ActivationRequest

namespace ActivationResponse

theorem keeps_valid (len : Int) :
    Keeps (fun r => (routingActivationResponse r).Valid) (fun _ => True) (readReplace len) := by
  unfold readReplace
  refine keeps_bind (keeps_check fun _ _ => trivial) fun hasOem _ => ?_
  refine keeps_bind (keeps_read fun _ _ _ h => readNumber_fits h) fun tester ht => ?_
  refine keeps_bind (keeps_update fun r hr => by simp_all [valid_iff, validate, length])
    fun _ _ => ?_
  refine keeps_bind (keeps_read fun _ _ _ h => readNumber_fits h) fun entity he => ?_
  refine keeps_bind (keeps_update fun r hr => by simp_all [valid_iff, validate, length])
    fun _ _ => ?_
  refine keeps_bind (keeps_read fun _ _ _ h => readNumber_fits h) fun byte hb => ?_
  refine keeps_bind (keeps_check fun _ h => ResponseCode.value_of_ofByte h) fun c hc => ?_
  refine keeps_bind (keeps_update fun r hr => by simp_all [valid_iff, validate, length])
    fun _ _ => ?_
  refine keeps_bind (keeps_read fun _ _ _ h => readExact_length h) fun reserved hres => ?_
  refine keeps_bind (keeps_update fun r hr => by simp_all [valid_iff, validate, length])
    fun _ _ => ?_
  cases hasOem with
  | true =>
    refine keeps_bind (keeps_read fun _ _ _ h => readExact_length h) fun oem ho => ?_
    exact keeps_update fun r hr => by simp_all [valid_iff, validate, length]
  | false =>
    rw [if_neg Bool.false_ne_true]
    exact keeps_update fun r hr => by simp_all [valid_iff, validate, length]

theorem keeps_reserved (len : Int) :
    Keeps (fun r : ActivationResponse => r.reservedOem.isSome) (fun _ => True) (readReplace len) := by
  unfold readReplace
  refine keeps_bind (keeps_check fun _ _ => trivial) fun hasOem _ => ?_
  refine keeps_bind (keeps_read fun _ _ _ _ => trivial) fun _ _ => ?_
  refine keeps_bind (keeps_update fun _ hr => hr) fun _ _ => ?_
  refine keeps_bind (keeps_read fun _ _ _ _ => trivial) fun _ _ => ?_
  refine keeps_bind (keeps_update fun _ hr => hr) fun _ _ => ?_
  refine keeps_bind (keeps_read fun _ _ _ _ => trivial) fun _ _ => ?_
  refine keeps_bind (keeps_check fun _ _ => trivial) fun _ _ => ?_
  refine keeps_bind (keeps_update fun _ hr => hr) fun _ _ => ?_
  refine keeps_bind (keeps_read fun _ _ _ _ => trivial) fun _ _ => ?_
  refine keeps_bind (keeps_update fun _ _ => rfl) fun _ _ => ?_
  cases hasOem with
  | true =>
    refine keeps_bind (keeps_read fun _ _ _ _ => trivial) fun _ _ => ?_
    exact keeps_update fun _ hr => hr
  | false =>
    rw [if_neg Bool.false_ne_true]
    exact keeps_update fun _ hr => hr

end ActivationResponse

namespace Diagnostic

theorem keeps_valid {len : Int} (hl : len < 2 ^ 32) :
    Keeps (fun d => (diagnosticMessage d).Valid) (fun _ => True) (readReplace len) := by
  unfold readReplace
  refine keeps_bind (keeps_check fun _ h => checkMinimum_eq_ok.1 h) fun _ h4 => ?_
  refine keeps_bind (keeps_read fun _ _ _ h => readExact_length h) fun addresses _ => ?_
  refine keeps_bind (keeps_update fun d hd => ?_) fun _ _ => ?_
  · have h0 := ofBytes_slice_fits addresses 0 2
    have h2 := ofBytes_slice_fits addresses 2 2
    simp_all [valid_iff, validate, length, checkAddresses]
  refine keeps_bind keeps_target fun _ _ => ?_
  refine keeps_bind (keeps_check fun _ h => Opaque.length_of_resize h) fun resized hr => ?_
  refine keeps_bind (keeps_update fun d hd => ?_) fun _ _ => ?_
  · simp only [valid_iff, validate, checkAddresses, length, Opaque.bytes_owned, hr] at hd ⊢
    exact ⟨hd.1, by simp only [diagnosticHead] at h4 ⊢; omega⟩
  exact keeps_onPart_readInto fun d bs hd hbs => by
    simp_all [valid_iff, validate, length, checkAddresses]

end Diagnostic

namespace DiagnosticAck

variable {α : Type} [CodeTable α]

def Valid (d : DiagnosticAck α) : Prop :=
  checkAddresses d.sourceAddress d.targetAddress = .ok () ∧ 0 ≤ d.ackCode.value ∧
    d.ackCode.value < 256 ∧ ackHead + d.previousData.bytes.length < 2 ^ 32

theorem keeps_valid {len : Int} (hl : len < 2 ^ 32) :
    Keeps (Valid : DiagnosticAck α → Prop) (fun _ => True) (readReplace len) := by
  unfold readReplace
  refine keeps_bind (keeps_check fun _ h => checkMinimum_eq_ok.1 h) fun _ h5 => ?_
  refine keeps_bind (keeps_read fun _ _ _ h => readExact_length h) fun addresses _ => ?_
  refine keeps_bind (keeps_update fun d hd => ?_) fun _ _ => ?_
  · have h0 := ofBytes_slice_fits addresses 0 2
    have h2 := ofBytes_slice_fits addresses 2 2
    simp_all [Valid, checkAddresses]
  refine keeps_bind keeps_target fun _ _ => ?_
  refine keeps_bind (keeps_check fun _ h => Opaque.length_of_resize h) fun resized hr => ?_
  refine keeps_bind (keeps_update fun d hd => ?_) fun _ _ => ?_
  · simp only [Valid, Opaque.bytes_owned, hr] at hd ⊢
    exact ⟨hd.1, hd.2.1, hd.2.2.1, by simp only [ackHead] at h5 ⊢; omega⟩
  refine keeps_bind (keeps_read fun _ _ _ h => readNumber_fits h) fun code hc => ?_
  refine keeps_bind (keeps_update fun d hd => by simp_all [Valid]) fun _ _ => ?_
  exact keeps_onPart_readInto fun d bs hd hbs => by simp_all [Valid]

end DiagnosticAck

theorem Message.valid_diagnosticPositiveAck {d : DiagnosticAck PositiveAckCode} :
    (diagnosticPositiveAck d).Valid ↔ d.Valid := by
  simp [valid_iff, validate, length, DiagnosticAck.Valid, ackHead, and_assoc]

theorem Message.valid_diagnosticNegativeAck {d : DiagnosticAck NegativeAckCode} :
    (diagnosticNegativeAck d).Valid ↔ d.Valid := by
  simp [valid_iff, validate, length, DiagnosticAck.Valid, ackHead, and_assoc]

namespace Message

theorem keeps_replaceFixed {P : Message → Prop} {len : Int} {size : Nat}
    {spell : List UInt8 → Message} (hs : ∀ data, data.length = size → P (spell data)) :
    Keeps P (fun _ => True) (replaceFixed len size spell) :=
  keeps_bind (keeps_read fun _ _ _ h => readFixed_length h) fun data hd =>
    keeps_update fun _ _ => hs data hd

theorem keeps_within {P : Message → Prop} {β : Type} {wrap : β → Message} {b : β}
    {d : Decoder β Unit} {Q : β → Prop} (hQ : ∀ b, P (wrap b) ↔ Q b) (hb : P (wrap b))
    (hd : Keeps Q (fun _ => True) d) : Keeps P (fun _ => True) (within wrap b d) :=
  keeps_onPart hd (fun _ _ => (hQ b).1 hb) fun b _ h => (hQ b).2 h

theorem valid_announcement {data : List UInt8} (hd : data.length = 33) :
    (vehicleIdResponse (Announcement.ofBody data)).Valid := by
  have ha := ofBytes_slice_fits data 17 2
  have h31 := byteAt_lt data 31
  have h32 := byteAt_lt data 32
  refine ⟨?_, by simp [length]⟩
  by_cases hg : slice data 25 gidSize ∈ gidNotSet
  · simp_all [validate, Announcement.ofBody, vinSize, eidSize]
  · simp_all [validate, Announcement.ofBody, vinSize, eidSize, gidSize]

theorem keeps_readReplace {len : Int} (hl : len < 2 ^ 32) :
    Keeps Valid (fun _ => True) (readReplace len) := by
  unfold readReplace
  refine keeps_bind keeps_target fun m hm => ?_
  cases m with
  | genericHeaderNack _ =>
    exact keeps_replaceFixed fun data _ => by
      simpa [valid_iff, validate, length] using byteAt_lt data 0
  | vehicleIdResponse _ => exact keeps_replaceFixed fun _ hd => valid_announcement hd
  | routingActivationRequest r => exact keeps_within (fun _ => Iff.rfl) hm (ActivationRequest.keeps_valid len)
  | routingActivationResponse r => exact keeps_within (fun _ => Iff.rfl) hm (ActivationResponse.keeps_valid len)
  | aliveCheckResponse _ =>
    exact keeps_replaceFixed fun data hd => by
      simpa [valid_iff, validate, length, hd] using BigEndian.ofBytes_lt_int data
  | entityStatusResponse _ =>
    exact keeps_replaceFixed fun data _ => by
      have h0 := byteAt_lt data 0
      have h1 := byteAt_lt data 1
      have h2 := byteAt_lt data 2
      have h3 := ofBytes_slice_fits data 3 4
      simp_all [valid_iff, validate, length, EntityStatus.ofBody]
  | powerModeResponse _ =>
    exact keeps_replaceFixed fun data _ => by
      simpa [valid_iff, validate, length] using byteAt_lt data 0
  | diagnosticMessage d => exact keeps_within (fun _ => Iff.rfl) hm (Diagnostic.keeps_valid hl)
  | diagnosticPositiveAck d =>
    exact keeps_within (fun _ => valid_diagnosticPositiveAck) hm (DiagnosticAck.keeps_valid hl)
  | diagnosticNegativeAck d =>
    exact keeps_within (fun _ => valid_diagnosticNegativeAck) hm (DiagnosticAck.keeps_valid hl)
  | vehicleIdRequest => exact keeps_check fun _ _ => trivial
  | vehicleIdRequestWithEid => exact keeps_check fun _ _ => trivial
  | vehicleIdRequestWithVin => exact keeps_check fun _ _ => trivial
  | aliveCheckRequest => exact keeps_check fun _ _ => trivial
  | entityStatusRequest => exact keeps_check fun _ _ => trivial
  | powerModeRequest => exact keeps_check fun _ _ => trivial

/-- Whether the reserved bytes of routing activation are there. Writing needs them, though the
checks of a message let them hold nothing. -/
def HoldsReserved : Message → Prop
  | routingActivationRequest r => r.reserved.isSome
  | routingActivationResponse r => r.reservedOem.isSome
  | _ => True

/-- A valid message whose reserved routing bytes are there: what writing accepts. -/
def Writable (m : Message) : Prop := m.Valid ∧ m.HoldsReserved

theorem writable_zeroed (k : Kind) : (zeroed k).Writable := by
  refine ⟨valid_zeroed k, ?_⟩
  cases k <;> simp [zeroed, HoldsReserved]

theorem keeps_holdsReserved (len : Int) : Keeps HoldsReserved (fun _ => True) (readReplace len) := by
  unfold readReplace
  refine keeps_bind keeps_target fun m hm => ?_
  cases m
  case routingActivationRequest r =>
    exact keeps_within (fun _ => Iff.rfl) hm (ActivationRequest.keeps_reserved len)
  case routingActivationResponse r =>
    exact keeps_within (fun _ => Iff.rfl) hm (ActivationResponse.keeps_reserved len)
  all_goals first
    | exact keeps_replaceFixed fun _ _ => trivial
    | exact keeps_within (fun _ => Iff.rfl) hm keeps_true
    | exact keeps_check fun _ _ => trivial

theorem keeps_writable {len : Int} (hl : len < 2 ^ 32) :
    Keeps Writable (fun _ => True) (readReplace len) :=
  keeps_and (keeps_readReplace hl) (keeps_holdsReserved len)

theorem keeps_readReplaceMessage {P : Message → Prop}
    (hP : ∀ len : Int, len < 2 ^ 32 → Keeps P (fun _ => True) (readReplace len)) :
    Keeps P (fun _ => True) readReplaceMessage := by
  unfold readReplaceMessage
  refine keeps_bind (keeps_read fun _ _ _ h => Header.length_fits_of_read h) fun h hl => ?_
  refine keeps_bind keeps_target fun m _ => ?_
  split
  · exact hP _ hl.2
  · exact keeps_fail _

end Message

/-! ## Fresh messages are valid -/

theorem Diagnostic.valid_of_ofPayload {len : Int} {body : List UInt8} {d : Diagnostic}
    (hl : len < 2 ^ 32) (hb : body.length = len.toNat) (h : ofPayload len body = .ok d) :
    (diagnosticMessage d).Valid := by
  simp only [ofPayload, except_unit_bind_eq_ok, pure, Except.pure, Except.ok.injEq] at h
  obtain ⟨h4, rfl⟩ := h
  have h0 := ofBytes_slice_fits body 0 2
  have h2 := ofBytes_slice_fits body 2 2
  rw [checkMinimum_eq_ok] at h4
  simp only [diagnosticHead] at h4 ⊢
  simp only [valid_iff, validate, checkAddresses, except_unit_bind_eq_ok, checkUnsigned_eq_ok,
    length, Opaque.bytes_owned, List.length_drop, hb]
  exact ⟨⟨h0, h2⟩, by omega⟩

theorem DiagnosticAck.valid_of_ofPayload {α : Type} [CodeTable α] {len : Int} {body : List UInt8}
    {d : DiagnosticAck α} (hl : len < 2 ^ 32) (hb : body.length = len.toNat)
    (h : ofPayload len body = .ok d) : d.Valid := by
  simp only [ofPayload, except_unit_bind_eq_ok, pure, Except.pure, Except.ok.injEq] at h
  obtain ⟨h5, rfl⟩ := h
  have h0 := ofBytes_slice_fits body 0 2
  have h2 := ofBytes_slice_fits body 2 2
  have h4 := ofBytes_slice_fits body 4 1
  rw [checkMinimum_eq_ok] at h5
  simp only [ackHead] at h5
  simp only [Valid, checkAddresses, except_unit_bind_eq_ok, checkUnsigned_eq_ok,
    OpenCode.value_ofByte, Opaque.bytes_owned, List.length_drop, hb, ackHead]
  exact ⟨⟨h0, h2⟩, h4.1, by simpa using h4.2, by omega⟩

namespace Message

theorem of_read_zeroed {P : Message → Prop} {k : Kind} {len : Int} {s s' : Source} {m : Message}
    (hk : ∀ s, read k len s =
      match readReplace len (s, zeroed k) with
      | .ok _ (s', m) => .ok m s'
      | .error e (s', _) => .error e s')
    (hz : P (zeroed k)) (hd : Keeps P (fun _ => True) (readReplace len))
    (h : read k len s = .ok m s') : P m := by
  have hv := hd (s, zeroed k) hz
  rw [hk] at h
  split at h
  · rename_i u s₁ m₁ hr
    cases h
    rw [hr, holds_ok] at hv
    exact hv.2
  · cases h

theorem writable_of_read {k : Kind} {len : Int} {s s' : Source} {m : Message} (hl : len < 2 ^ 32)
    (h : read k len s = .ok m s') : m.Writable := by
  have hbody : (s.rest.take len.toNat).length = len.toNat := by
    simp only [List.length_take]
    have := (read_eq_ok h).1
    omega
  cases k
  case diagnosticMessage =>
    obtain ⟨-, -, hp⟩ := read_eq_ok h
    simp only [ofPayload, except_map_eq_ok] at hp
    obtain ⟨d, hd, rfl⟩ := hp
    exact ⟨Diagnostic.valid_of_ofPayload hl hbody hd, trivial⟩
  case diagnosticPositiveAck =>
    obtain ⟨-, -, hp⟩ := read_eq_ok h
    simp only [ofPayload, except_map_eq_ok] at hp
    obtain ⟨d, hd, rfl⟩ := hp
    exact ⟨valid_diagnosticPositiveAck.2 (DiagnosticAck.valid_of_ofPayload hl hbody hd), trivial⟩
  case diagnosticNegativeAck =>
    obtain ⟨-, -, hp⟩ := read_eq_ok h
    simp only [ofPayload, except_map_eq_ok] at hp
    obtain ⟨d, hd, rfl⟩ := hp
    exact ⟨valid_diagnosticNegativeAck.2 (DiagnosticAck.valid_of_ofPayload hl hbody hd), trivial⟩
  -- the other kinds decode into their default instance
  all_goals exact of_read_zeroed (fun _ => rfl) (writable_zeroed _) (keeps_writable hl) h

theorem writable_of_readOf {k : Kind} {s s' : Source} {m : Message} (h : readOf k s = .ok m s') :
    m.Writable := by
  obtain ⟨hd, s₁, hh, -, hr⟩ := readOf_eq_ok h
  exact writable_of_read (Header.length_fits_of_read hh).2 hr

theorem writable_of_readAny {s s' : Source} {m : Message} (h : readAny s = .ok m s') :
    m.Writable := by
  obtain ⟨hd, s₁, k, hh, -, hr⟩ := readAny_eq_ok h
  exact writable_of_read (Header.length_fits_of_read hh).2 hr

theorem writable_of_readBorrowed {k : DiagnosticKind} {payload : List UInt8} {m : Message}
    (hl : payload.length < 2 ^ 32) (h : readBorrowed k payload = .ok m) : m.Writable := by
  unfold readBorrowed at h
  split at h
  · cases h
  · rename_i hlen
    have h0 := ofBytes_slice_fits payload 0 2
    have h2 := ofBytes_slice_fits payload 2 2
    have h4 := byteAt_lt payload 4
    simp only [Int.reducePow] at h0 h2
    have hdrop : ∀ n, n ≤ payload.length → n + (payload.drop n).length < 2 ^ 32 := by
      intro n hn
      simp only [List.length_drop]
      omega
    cases k with
    | message =>
      cases h
      refine ⟨⟨by simp [validate, checkAddresses, h0, h2], ?_⟩, trivial⟩
      simpa [length, Opaque.bytes, DiagnosticKind.head, diagnosticHead] using
        hdrop 4 (by simp [DiagnosticKind.head, diagnosticHead] at hlen; omega)
    | positiveAck =>
      cases h
      refine ⟨valid_diagnosticPositiveAck.2 ⟨by simp [checkAddresses, h0, h2], by simpa using h4.1,
        by simpa using h4.2, ?_⟩, trivial⟩
      simpa [Opaque.bytes, DiagnosticKind.head] using
        hdrop ackHead (by simp [DiagnosticKind.head] at hlen; omega)
    | negativeAck =>
      cases h
      refine ⟨valid_diagnosticNegativeAck.2 ⟨by simp [checkAddresses, h0, h2], by simpa using h4.1,
        by simpa using h4.2, ?_⟩, trivial⟩
      simpa [Opaque.bytes, DiagnosticKind.head] using
        hdrop ackHead (by simp [DiagnosticKind.head] at hlen; omega)

theorem writable_of_readBorrowedMessage {k : DiagnosticKind} {buf : List UInt8} {m : Message}
    (h : readBorrowedMessage k buf = .ok m) : m.Writable := by
  obtain ⟨v, i, t0, t1, l0, l1, l2, l3, rest, -, -, hle, hr⟩ := readBorrowedMessage_eq_ok h
  have h4 := BigEndian.ofBytes_lt_int [l0, l1, l2, l3]
  refine writable_of_readBorrowed ?_ hr
  simp only [List.length_take, List.length_cons, List.length_nil] at h4 ⊢
  omega

/-! ## Writable messages encode -/

theorem bytesOf_of_fits {vs : List Int} (h : ∀ v ∈ vs, 0 ≤ v ∧ v < 256) :
    BigEndian.bytesOf vs = .ok (vs.map fun v => UInt8.ofNat v.toNat) :=
  BigEndian.bytesOf_eq_ok.2 ⟨h, rfl⟩

theorem body_of_writable {m : Message} (hw : m.Writable) :
    ∃ body, m.body = .ok body ∧ body.length = m.length := by
  obtain ⟨⟨hc, -⟩, hr⟩ := hw
  cases m with
  | genericHeaderNack c =>
    simp only [validate, checkUnsigned_eq_ok] at hc
    exact ⟨_, bytesOf_of_fits (by simpa using hc), rfl⟩
  | vehicleIdResponse a =>
    simp only [validate, except_unit_bind_eq_ok, checkUnsigned_eq_ok, checkPresentWidth_eq_ok] at hc
    obtain ⟨ha, hf, hs, ⟨vin, hvin, hvl⟩, ⟨eid, heid, hel⟩, hg⟩ := hc
    -- an absent group identification is written as zeros, a present one has its width
    have hgid : (a.gid.getD (List.replicate gidSize 0)).length = gidSize := by
      cases hgd : a.gid with
      | none => simp
      | some g =>
        rw [hgd] at hg
        simp only [except_unit_bind_eq_ok, checkWidth_eq_ok] at hg
        simpa using hg.1
    refine ⟨_, by rw [body, BigEndian.encode_of_lt ha.1 ha.2, hvin, heid,
      bytesOf_of_fits (by simpa using ⟨hf, hs⟩)]; rfl, ?_⟩
    simp only [length, List.length_append, BigEndian.length_toBytes, List.length_map, hvl, hel, hgid]
    rfl
  | routingActivationRequest r =>
    obtain ⟨b, hb⟩ := Option.isSome_iff_exists.1 hr
    simp only [validate, except_unit_bind_eq_ok, checkUnsigned_eq_ok, checkOptionalWidth_eq_ok] at hc
    obtain ⟨hs, ha, hres, hoem⟩ := hc
    have hbody : ∃ bs, (routingActivationRequest r).body = .ok bs ∧
        bs.length = 2 + 1 + b.length + (r.reservedOem.getD []).length := by
      rw [body, BigEndian.encode_of_lt hs.1 hs.2, bytesOf_of_fits (by simpa using ha), hb]
      exact ⟨_, rfl, by simp; omega⟩
    obtain ⟨bs, hbs, hl⟩ := hbody
    refine ⟨bs, hbs, ?_⟩
    cases ho : r.reservedOem with
    | none => simp [length, hl, ho, hres b hb, reservedSize]
    | some o => simp [length, hl, ho, hres b hb, hoem o ho, reservedSize, oemSize]
  | routingActivationResponse r =>
    obtain ⟨b, hb⟩ := Option.isSome_iff_exists.1 hr
    simp only [validate, except_unit_bind_eq_ok, checkUnsigned_eq_ok, checkOptionalWidth_eq_ok] at hc
    obtain ⟨ht, he, hcode, hres, hoem⟩ := hc
    have hbody : ∃ bs, (routingActivationResponse r).body = .ok bs ∧
        bs.length = 2 + 2 + 1 + b.length + (r.oemSpecific.getD []).length := by
      rw [body, BigEndian.encode_of_lt ht.1 ht.2, BigEndian.encode_of_lt he.1 he.2,
        bytesOf_of_fits (by simpa using hcode), hb]
      exact ⟨_, rfl, by simp; omega⟩
    obtain ⟨bs, hbs, hl⟩ := hbody
    refine ⟨bs, hbs, ?_⟩
    cases ho : r.oemSpecific with
    | none => simp [length, hl, ho, hres b hb, reservedSize]
    | some o => simp [length, hl, ho, hres b hb, hoem o ho, reservedSize, oemSize]
  | aliveCheckResponse a =>
    simp only [validate, checkUnsigned_eq_ok] at hc
    exact ⟨_, BigEndian.encode_of_lt hc.1 hc.2, by simp [length]⟩
  | entityStatusResponse e =>
    simp only [validate, except_unit_bind_eq_ok, checkUnsigned_eq_ok] at hc
    obtain ⟨hn, hmax, hcur, hsize⟩ := hc
    exact ⟨_, by rw [body, bytesOf_of_fits (by simpa using ⟨hn, hmax, hcur⟩),
      BigEndian.encode_of_lt hsize.1 hsize.2]; rfl, by simp [length]⟩
  | powerModeResponse p =>
    simp only [validate, checkUnsigned_eq_ok] at hc
    exact ⟨_, bytesOf_of_fits (by simpa using hc), rfl⟩
  | diagnosticMessage d =>
    simp only [validate, checkAddresses, except_unit_bind_eq_ok, checkUnsigned_eq_ok] at hc
    obtain ⟨hs, ht⟩ := hc
    refine ⟨_, by rw [body, BigEndian.encode_of_lt hs.1 hs.2, BigEndian.encode_of_lt ht.1 ht.2]; rfl, ?_⟩
    simp [length]
    omega
  | diagnosticPositiveAck d =>
    simp only [validate, checkAddresses, except_unit_bind_eq_ok, checkUnsigned_eq_ok] at hc
    obtain ⟨⟨hs, ht⟩, hcode⟩ := hc
    refine ⟨_, by rw [body, BigEndian.encode_of_lt hs.1 hs.2, BigEndian.encode_of_lt ht.1 ht.2,
      bytesOf_of_fits (by simpa using hcode)]; rfl, ?_⟩
    simp [length]
    omega
  | diagnosticNegativeAck d =>
    simp only [validate, checkAddresses, except_unit_bind_eq_ok, checkUnsigned_eq_ok] at hc
    obtain ⟨⟨hs, ht⟩, hcode⟩ := hc
    refine ⟨_, by rw [body, BigEndian.encode_of_lt hs.1 hs.2, BigEndian.encode_of_lt ht.1 ht.2,
      bytesOf_of_fits (by simpa using hcode)]; rfl, ?_⟩
    simp [length]
    omega
  | vehicleIdRequest => exact ⟨[], rfl, rfl⟩
  | vehicleIdRequestWithEid => exact ⟨[], rfl, rfl⟩
  | vehicleIdRequestWithVin => exact ⟨[], rfl, rfl⟩
  | aliveCheckRequest => exact ⟨[], rfl, rfl⟩
  | entityStatusRequest => exact ⟨[], rfl, rfl⟩
  | powerModeRequest => exact ⟨[], rfl, rfl⟩

theorem encode_of_writable {m : Message} {v : Int} (hw : m.Writable) (hv0 : 0 ≤ v) (hv : v < 256) :
    ∃ bs, m.encode v = .ok bs ∧ bs.length = m.wireLength ∧
      ∃ body, bs = headerBytes v m.kind m.length ++ body := by
  obtain ⟨body, hb, hl⟩ := body_of_writable hw
  refine ⟨_, encode_of_body hb hl hv0 hv hw.1.fits, ?_, body, rfl⟩
  simp [wireLength, hl, headerSize]

theorem encode_of_body_error {m : Message} {e : Error} (h : m.body = .error e) (v : Int) :
    m.encode v = .error e := by
  simp [encode, h]

theorem encode_of_not_holdsReserved {m : Message} (h : ¬ m.HoldsReserved) (v : Int) :
    ∃ e, m.encode v = .error e := by
  have hb : ∃ e, m.body = .error e := by
    cases m with
    | routingActivationRequest r =>
      have hn : r.reserved = none := by simpa [HoldsReserved] using h
      simp only [body, hn, joined]
      cases BigEndian.encode 2 r.sourceAddress <;> cases BigEndian.bytesOf [r.activationType.value] <;>
        simp
    | routingActivationResponse r =>
      have hn : r.reservedOem = none := by simpa [HoldsReserved] using h
      simp only [body, hn, joined]
      cases BigEndian.encode 2 r.testerAddress <;> cases BigEndian.encode 2 r.entityAddress <;>
        cases BigEndian.bytesOf [r.responseCode.value] <;> simp
    | _ => exact absurd trivial h
  obtain ⟨e, he⟩ := hb
  exact ⟨e, encode_of_body_error he v⟩

/-- Validity is kept by every decoding, and encoding succeeds on every valid message whose
reserved routing bytes are there. Fresh messages, zeroed or read by any of the readers, are
writable; decoding a payload of a length a header can declare into a message, or reading a header
and decoding the payload it announces, keeps it valid and keeps it writable, whether it succeeds or
fails at any step; a writable message encodes with any version byte to exactly its wire length,
its header first; and writing fails on every message whose reserved routing bytes hold nothing,
though the checks let them. -/
theorem valid_invariant (k : Kind) (len : Int) (s s' : Source) (m : Message) (v : Int)
    (dk : DiagnosticKind) (buf : List UInt8) :
    (zeroed k).Writable ∧
    (len < 2 ^ 32 → read k len s = .ok m s' → m.Writable) ∧
    (readOf k s = .ok m s' → m.Writable) ∧
    (readAny s = .ok m s' → m.Writable) ∧
    (readBorrowedMessage dk buf = .ok m → m.Writable) ∧
    (len < 2 ^ 32 →
      Keeps Valid (fun _ => True) (readReplace len) ∧ Keeps Writable (fun _ => True) (readReplace len)) ∧
    Keeps Valid (fun _ => True) readReplaceMessage ∧ Keeps Writable (fun _ => True) readReplaceMessage ∧
    (m.Writable → 0 ≤ v → v < 256 →
      ∃ bs, m.encode v = .ok bs ∧ bs.length = m.wireLength ∧
        ∃ body, bs = headerBytes v m.kind m.length ++ body) ∧
    (¬ m.HoldsReserved → ∃ e, m.encode v = .error e) :=
  ⟨writable_zeroed k,
    fun hl h => writable_of_read hl h,
    fun h => writable_of_readOf h,
    fun h => writable_of_readAny h,
    fun h => writable_of_readBorrowedMessage h,
    fun hl => ⟨keeps_readReplace hl, keeps_writable hl⟩,
    keeps_readReplaceMessage fun _ hl => keeps_readReplace hl,
    keeps_readReplaceMessage fun _ hl => keeps_writable hl,
    fun hw hv0 hv => encode_of_writable hw hv0 hv,
    fun h => encode_of_not_holdsReserved h v⟩

theorem valid_invariant_powerMode :
    ∃ bs, (powerModeResponse 1).encode 2 = .ok bs ∧ bs.length = 9 ∧
      ∃ body, bs = headerBytes 2 .powerModeResponse 1 ++ body :=
  (valid_invariant .powerModeResponse 1 (Source.ofBytes .plain []) (Source.ofBytes .plain [])
    (powerModeResponse 1) 2 .message []).2.2.2.2.2.2.2.2.1 ⟨⟨rfl, by decide⟩, trivial⟩
    (by decide) (by decide)

/-- The bound on the declared length in `valid_invariant` cannot be dropped: a diagnostic read of
2^32 bytes returns a message of that length, which no header can announce. -/
theorem read_beyond_header_bound {s : Source} (hc : s.limits.readCap = none)
    (hf : s.limits.fillCap = none) (hL : 2 ^ 32 ≤ s.rest.length) :
    ∃ m s', read .diagnosticMessage (2 ^ 32) s = .ok m s' ∧ m.length = 2 ^ 32 ∧ ¬ m.Valid := by
  have hn : ((2 : Int) ^ 32).toNat = 2 ^ 32 := rfl
  have hL' : ((2 : Int) ^ 32).toNat ≤ s.rest.length := by
    rw [hn]
    exact hL
  have hy := read_yields .diagnosticMessage hc hf hL' (by rw [hn, byteStringLimit_eq]; decide)
  have hp : ofPayload .diagnosticMessage (2 ^ 32) (s.rest.take ((2 : Int) ^ 32).toNat) =
      .ok (diagnosticMessage ⟨BigEndian.ofBytes (slice (s.rest.take ((2 : Int) ^ 32).toNat) 0 2),
        BigEndian.ofBytes (slice (s.rest.take ((2 : Int) ^ 32).toNat) 2 2),
        .owned ((s.rest.take ((2 : Int) ^ 32).toNat).drop diagnosticHead)⟩) := by
    simp only [ofPayload, Diagnostic.ofPayload,
      checkMinimum_eq_ok.2 (show ((diagnosticHead : Nat) : Int) ≤ 2 ^ 32 by decide),
      except_ok_bind, map_pure]
    rfl
  rw [hp] at hy
  -- the data is the payload past the addresses
  have hm : (diagnosticMessage ⟨BigEndian.ofBytes (slice (s.rest.take ((2 : Int) ^ 32).toNat) 0 2),
      BigEndian.ofBytes (slice (s.rest.take ((2 : Int) ^ 32).toNat) 2 2),
      .owned ((s.rest.take ((2 : Int) ^ 32).toNat).drop diagnosticHead)⟩).length = 2 ^ 32 := by
    simp only [Message.length, Opaque.bytes_owned, List.length_drop, List.length_take, hn,
      diagnosticHead]
    omega
  exact ⟨_, _, hy, hm, fun hv => absurd hv.fits (by rw [hm]; decide)⟩

theorem read_beyond_header_bound_zeros :
    ∃ m s', read .diagnosticMessage (2 ^ 32) (Source.ofBytes .plain (List.replicate (2 ^ 32) 0)) =
      .ok m s' ∧ m.length = 2 ^ 32 ∧ ¬ m.Valid :=
  read_beyond_header_bound rfl rfl (Nat.le_of_eq List.length_replicate.symm)

/-- A routing activation request given no reserved bytes passes every check of its kind, and
writing it fails. -/
theorem valid_request_without_reserved :
    (routingActivationRequest ⟨1, .member .default, none, none⟩).Valid ∧
      (routingActivationRequest ⟨1, .member .default, none, none⟩).encode 2 = .error .nothingJoined :=
  ⟨⟨rfl, by decide⟩, rfl⟩

end Message

end DoipWire
