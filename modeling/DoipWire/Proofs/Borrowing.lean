import DoipWire.Proofs.InPlace
import DoipWire.Proofs.Reencode

/-!
# Decoding without copying agrees with reading

A diagnostic message held whole in a buffer can be decoded in place, its data a view of the
buffer (`Message.lend`), or read from an in-memory source. The two check the same conditions in
different orders, so they refuse with different errors, but they succeed together and then agree
on every field and byte.
-/

namespace DoipWire

open Source Decoder

namespace Message

/-- The message with its opaque data lent from a caller's buffer instead of owned: the same bytes,
as a view. -/
def lend (m : Message) : Message :=
  match m.opaque? with
  | some d => m.withOpaque (.borrowed d.bytes)
  | none => m

theorem encode_lend (m : Message) (v : Int) : m.lend.encode v = m.encode v := by
  cases m <;> rfl

theorem readBorrowed_eq (k : DiagnosticKind) (body : List UInt8) :
    readBorrowed k body = lend <$> ofPayload k.kind body.length body := by
  unfold readBorrowed
  cases k with
  | message =>
    by_cases h : body.length < diagnosticHead
    · simp [h, ofPayload, Diagnostic.ofPayload, checkMinimum, DiagnosticKind.head,
        DiagnosticKind.kind]
    · simp [h, ofPayload, Diagnostic.ofPayload, checkMinimum, DiagnosticKind.head,
        DiagnosticKind.kind, lend, opaque?, withOpaque, Opaque.bytes]
  | positiveAck =>
    by_cases h : body.length < ackHead
    · simp [h, ofPayload, DiagnosticAck.ofPayload, checkMinimum, DiagnosticKind.head,
        DiagnosticKind.kind]
    · simp [h, ofPayload, DiagnosticAck.ofPayload, checkMinimum, DiagnosticKind.head,
        DiagnosticKind.kind, lend, opaque?, withOpaque, Opaque.bytes, ofBytes_slice_one]
  | negativeAck =>
    by_cases h : body.length < ackHead
    · simp [h, ofPayload, DiagnosticAck.ofPayload, checkMinimum, DiagnosticKind.head,
        DiagnosticKind.kind]
    · simp [h, ofPayload, DiagnosticAck.ofPayload, checkMinimum, DiagnosticKind.head,
        DiagnosticKind.kind, lend, opaque?, withOpaque, Opaque.bytes, ofBytes_slice_one]

theorem lend_of_ofPayload {k : DiagnosticKind} {L : Int} {body : List UInt8} {m : Message}
    (h : ofPayload k.kind L body = .ok m) :
    m.opaque? = some (.owned (body.drop k.head)) ∧ (m.lend == m) = false := by
  -- the three kinds decode alike: the length is checked, then the rest of the payload is owned
  cases k <;>
  · obtain ⟨d, hd, rfl⟩ := except_map_eq_ok.1 h
    obtain ⟨u, -, hu⟩ := except_bind_eq_ok.1 hd
    cases hu
    refine ⟨rfl, ?_⟩
    simp only [lend, opaque?, withOpaque, Opaque.bytes, BEq.beq, instBEqMessage.beq,
      instBEqDiagnostic.beq, instBEqDiagnosticAck.beq, instBEqOpaque.beq, Bool.and_false]
    rfl

theorem opaque_lend {m : Message} {d : Opaque} (h : m.opaque? = some d) :
    m.lend.opaque? = some (.borrowed d.bytes) := by
  cases m <;> simp_all [lend, opaque?, withOpaque]

end Message

/-! ## Headers held in a buffer and read from a source -/

namespace Header

theorem ofBytes_take (bs : List UInt8) {n : Nat} (hn : headerSize ≤ n) :
    ofBytes (bs.take n) = ofBytes bs := by
  by_cases hb : bs.length ≤ n
  · rw [List.take_of_length_le hb]
  · have h8 : headerSize ≤ bs.length := by omega
    match bs, h8 with
    | v :: i :: t0 :: t1 :: l0 :: l1 :: l2 :: l3 :: rest, _ =>
      obtain ⟨n', rfl⟩ : ∃ n', n = n' + 8 := ⟨n - 8, by simp only [headerSize] at hn; omega⟩
      rfl

theorem length_of_ofBytes {bs : List UInt8} {hd : Header} (h : ofBytes bs = .ok hd) :
    headerSize ≤ bs.length := by
  unfold ofBytes at h
  split at h
  · simp [headerSize]
  · cases h

theorem ofBytes_of_length {bs : List UInt8} (h : headerSize ≤ bs.length) : ∃ hd, ofBytes bs = .ok hd := by
  match bs, h with
  | v :: i :: t0 :: t1 :: l0 :: l1 :: l2 :: l3 :: rest, _ => exact ⟨_, rfl⟩

theorem read_of_ofBytes {s : Source} (hc : s.limits.readCap = none) {hd : Header}
    (h : ofBytes s.rest = .ok hd) : read s = .ok hd (s.skip headerSize) := by
  unfold read
  rw [readExact_of_le hc (length_of_ofBytes h)]
  dsimp only
  rw [ofBytes_take _ (Nat.le_refl _), h]

theorem read_short {s : Source} (hc : s.limits.readCap = none) (h : s.rest.length < headerSize) :
    read s = .error (.truncated s.rest.length headerSize) (s.skip s.rest.length) := by
  have hn : s.requestSize headerSize = s.rest.length := by
    simp only [requestSize, hc]
    omega
  unfold read
  rw [readExact_eq, if_neg (by simp [headerSize]), hn, if_pos h]

theorem read_eq_ok {s s' : Source} {hd : Header} (h : read s = .ok hd s') :
    ofBytes s.rest = .ok hd ∧ s' = s.skip headerSize := by
  unfold read at h
  split at h
  · rename_i bs s₁ hx
    obtain ⟨-, rfl, rfl⟩ := readExact_eq_ok hx
    split at h
    · rename_i hd' hh
      cases h
      exact ⟨(ofBytes_take _ (Nat.le_refl _)).symm.trans hh, rfl⟩
    · cases h
  · cases h

end Header

/-! ## Refusals are the protocol's -/

theorem readExact_isProtocol {n : Nat} {s s' : Source} {e : Error} (h : readExact n s = .error e s') :
    e.isProtocol = true := by
  rw [(readExact_error h).2.1]
  rfl

theorem readNumber_isProtocol {n : Nat} {s s' : Source} {e : Error} (h : readNumber n s = .error e s') :
    e.isProtocol = true := by
  unfold readNumber at h
  split at h
  · cases h
  · rename_i e' s₁ hr
    cases h
    exact readExact_isProtocol hr

theorem receive_isProtocol {n : Nat} {s s' : Source} {e : Error} (h : receive n s = .error e s') :
    e.isProtocol = true := by
  unfold receive at h
  split at h
  · cases h
  · split at h
    · rw [receiveFrom_eq] at h
      split at h
      · cases h; rfl
      · cases h
    · exact readExact_isProtocol h

theorem checkMinimum_isProtocol {len : Int} {minimum : Nat} {e : Error}
    (h : checkMinimum len minimum = .error e) : e.isProtocol = true := by
  unfold checkMinimum at h
  split at h
  · cases h; rfl
  · cases h

theorem Diagnostic.read_error {L : Int} {s s' : Source} {e : Error}
    (h : Diagnostic.read L s = .error e s') :
    e.isProtocol = true ∨
      byteStringLimit ≤ (L - diagnosticHead).toNat ∧ (e = .indexOverflow ∨ e = .bytesTooLarge) := by
  unfold Diagnostic.read at h
  split at h
  · rename_i e' hm
    cases h
    exact .inl (checkMinimum_isProtocol hm)
  · split at h
    · rename_i e' s₁ r1
      cases h
      exact .inl (readExact_isProtocol r1)
    · split at h
      · rename_i e' ha
        cases h
        exact .inr (checkAllocation_error ha)
      · split at h
        · rename_i e' s₂ r2
          cases h
          exact .inl (receive_isProtocol r2)
        · cases h

theorem DiagnosticAck.read_error {α : Type} [CodeTable α] {L : Int} {s s' : Source}
    {e : Error} (h : (DiagnosticAck.read L : Reading (DiagnosticAck α)) s = .error e s') :
    e.isProtocol = true ∨
      byteStringLimit ≤ (L - ackHead).toNat ∧ (e = .indexOverflow ∨ e = .bytesTooLarge) := by
  unfold DiagnosticAck.read at h
  split at h
  · rename_i e' hm
    cases h
    exact .inl (checkMinimum_isProtocol hm)
  · split at h
    · rename_i e' s₁ r1
      cases h
      exact .inl (readExact_isProtocol r1)
    · split at h
      · rename_i e' ha
        cases h
        exact .inr (checkAllocation_error ha)
      · split at h
        · rename_i e' s₂ r2
          cases h
          exact .inl (readNumber_isProtocol r2)
        · split at h
          · rename_i e' s₃ r3
            cases h
            exact .inl (receive_isProtocol r3)
          · cases h

theorem Header.read_isProtocol {s s' : Source} {e : Error} (h : Header.read s = .error e s') :
    e.isProtocol = true := by
  unfold Header.read at h
  split at h
  · rename_i bs s₁ hx
    obtain ⟨hle, rfl, rfl⟩ := readExact_eq_ok hx
    have h8 : headerSize ≤ (s.rest.take headerSize).length := by
      simp only [List.length_take]
      omega
    obtain ⟨hd, hd'⟩ := Header.ofBytes_of_length h8
    rw [hd'] at h
    cases h
  · rename_i e' s₁ hx
    cases h
    exact readExact_isProtocol hx

theorem Message.read_error (k : DiagnosticKind) {L : Int} {s s' : Source} {e : Error}
    (h : Message.read k.kind L s = .error e s') :
    e.isProtocol = true ∨
      byteStringLimit ≤ (L - k.head).toNat ∧ (e = .indexOverflow ∨ e = .bytesTooLarge) := by
  cases k with
  | message =>
    simp only [DiagnosticKind.kind, Message.read, map_apply] at h
    split at h
    · cases h
    · rename_i e' s₁ r
      cases h
      exact Diagnostic.read_error r
  | positiveAck =>
    simp only [DiagnosticKind.kind, Message.read, map_apply] at h
    split at h
    · cases h
    · rename_i e' s₁ r
      cases h
      exact DiagnosticAck.read_error r
  | negativeAck =>
    simp only [DiagnosticKind.kind, Message.read, map_apply] at h
    split at h
    · cases h
    · rename_i e' s₁ r
      cases h
      exact DiagnosticAck.read_error r

theorem Message.read_isProtocol (k : DiagnosticKind) {L : Int} {s s' : Source} {e : Error}
    (hL : L < byteStringLimit) (h : Message.read k.kind L s = .error e s') : e.isProtocol = true := by
  rcases Message.read_error k h with hp | ⟨hb, -⟩
  · exact hp
  · rw [byteStringLimit_eq] at hL hb
    omega

/-! ## Whole messages, borrowed and streamed -/

@[simp] theorem Source.rest_ofBytes (l : ReadLimits) (b : List UInt8) :
    (Source.ofBytes l b).rest = b := rfl

theorem Header.payloadLength_fits {b : List UInt8} {hd : Header} (h : ofBytes b = .ok hd) :
    0 ≤ hd.payloadLength ∧ hd.payloadLength < 2 ^ 32 := by
  match b, length_of_ofBytes h with
  | v :: i :: t0 :: t1 :: l0 :: l1 :: l2 :: l3 :: rest, _ =>
    cases h
    exact ⟨Int.natCast_nonneg _, by simpa using BigEndian.ofBytes_lt_int [l0, l1, l2, l3]⟩

theorem Reading.Yields.result {α : Type} {x : Reading α} {s : Source} {n : Nat}
    {r : Except Error α} (h : x.Yields s n r) : x.result s = r := by
  cases r with
  | ok a => simp only [Reading.Yields] at h; simp only [Reading.result, h]
  | error e =>
    obtain ⟨s', hs'⟩ := h
    simp only [Reading.result, hs']

namespace Message

variable {k : DiagnosticKind} {l : ReadLimits} {b : List UInt8} {hd : Header}

theorem readBorrowedMessage_short (hb : b.length < headerSize) :
    readBorrowedMessage k b = .error (.payloadLength b.length headerSize) := by
  simp only [readBorrowedMessage, hb, if_true]
  rfl

theorem readBorrowedMessage_of_header (h : Header.ofBytes b = .ok hd) :
    readBorrowedMessage k b =
      if hd.announces k.kind then
        if ((b.length - headerSize : Nat) : Int) < hd.payloadLength then
          .error (.payloadLength (b.length - headerSize : Nat) hd.payloadLength)
        else lend <$> ofPayload k.kind hd.payloadLength (slice b headerSize hd.payloadLength.toNat)
      else .error hd.unexpected := by
  have hb : ¬ b.length < headerSize := by have := Header.length_of_ofBytes h; omega
  obtain ⟨h0, h32⟩ := Header.payloadLength_fits h
  simp only [readBorrowedMessage, hb, if_false, h, except_ok_bind]
  by_cases ha : hd.announces k.kind = true
  · simp only [ha, Bool.not_true, Bool.false_eq_true, if_false, if_true]
    split
    · rfl
    · rename_i hL
      rw [readBorrowed_eq, length_slice]
      congr
      omega
  · simp only [ha, Bool.not_false, if_true]
    rfl

theorem readOf_short (hr : l.readCap = none) (hb : b.length < headerSize) (k : Kind) :
    (readOf k).result (Source.ofBytes l b) = .error (.truncated b.length headerSize) := by
  simp only [Reading.result, readOf, @Header.read_short (Source.ofBytes l b) hr hb]
  rfl

theorem readOf_of_header (hr : l.readCap = none) (h : Header.ofBytes b = .ok hd) (k : Kind) :
    (readOf k).result (Source.ofBytes l b) =
      if hd.announces k then (read k hd.payloadLength).result ((Source.ofBytes l b).skip headerSize)
      else .error hd.unexpected := by
  simp only [Reading.result, readOf, @Header.read_of_ofBytes (Source.ofBytes l b) hr hd h]
  by_cases ha : hd.announces k = true
  · rw [if_pos ha, if_pos ha]
  · rw [if_neg ha, if_neg ha]

theorem result_read_of_le (k : Kind) {L : Int} {s : Source} (hr : s.limits.readCap = none)
    (hf : s.limits.fillCap = none) (hL : L.toNat ≤ s.rest.length) (hb : L < 2 ^ 32) :
    (read k L).result s = ofPayload k L (s.rest.take L.toNat) :=
  (read_yields k hr hf hL (by rw [byteStringLimit_eq]; omega)).result

theorem result_read_of_lt (k : Kind) {L : Int} {s : Source} (hL : s.rest.length < L.toNat) :
    ∃ e, (read k L).result s = .error e := by
  unfold Reading.result
  cases h : read k L s with
  | ok m s' => exact absurd (read_eq_ok h).1 (by omega)
  | error e s' => exact ⟨e, rfl⟩

theorem readBorrowedMessage_eq_lend (hr : l.readCap = none) (hf : l.fillCap = none)
    (h : Header.ofBytes b = .ok hd) (hL : headerSize + hd.payloadLength.toNat ≤ b.length) :
    readBorrowedMessage k b = lend <$> (readOf k.kind).result (Source.ofBytes l b) := by
  obtain ⟨h0, h32⟩ := Header.payloadLength_fits h
  have hrest : hd.payloadLength.toNat ≤ ((Source.ofBytes l b).skip headerSize).rest.length := by
    simp only [skip_rest, Source.rest_ofBytes, List.length_drop]
    exact Nat.le_sub_of_add_le' hL
  rw [readBorrowedMessage_of_header h, readOf_of_header hr h]
  by_cases ha : hd.announces k.kind = true
  · rw [if_pos ha, if_pos ha, if_neg (by omega), result_read_of_le k.kind hr hf hrest h32]
    rfl
  · rw [if_neg ha, if_neg ha]
    rfl

theorem readBorrowedMessage_toOption (hr : l.readCap = none) (hf : l.fillCap = none) :
    (readBorrowedMessage k b).toOption =
      ((readOf k.kind).result (Source.ofBytes l b)).toOption.map lend := by
  by_cases hb : b.length < headerSize
  · rw [readBorrowedMessage_short hb, readOf_short hr hb]
    rfl
  obtain ⟨hd, h⟩ := Header.ofBytes_of_length (show headerSize ≤ b.length by omega)
  by_cases hL : headerSize + hd.payloadLength.toNat ≤ b.length
  · rw [readBorrowedMessage_eq_lend hr hf h hL]
    cases (readOf k.kind).result (Source.ofBytes l b) <;> rfl
  -- the buffer ends inside the payload: a length refusal for one, a short read for the other
  obtain ⟨h0, h32⟩ := Header.payloadLength_fits h
  rw [readBorrowedMessage_of_header h, readOf_of_header hr h]
  by_cases ha : hd.announces k.kind = true
  · have hrest : ((Source.ofBytes l b).skip headerSize).rest.length < hd.payloadLength.toNat := by
      simp only [skip_rest, Source.rest_ofBytes, List.length_drop]
      exact Nat.sub_lt_left_of_lt_add (by omega) (by omega)
    obtain ⟨e, he⟩ := result_read_of_lt k.kind hrest
    rw [if_pos ha, if_pos ha, if_pos (by omega), he]
    rfl
  · rw [if_neg ha, if_neg ha]
    rfl

theorem readBorrowedMessage_take (h : Header.ofBytes b = .ok hd)
    (hL : headerSize + hd.payloadLength.toNat ≤ b.length) :
    readBorrowedMessage k (b.take (headerSize + hd.payloadLength.toNat)) = readBorrowedMessage k b := by
  have h' : Header.ofBytes (b.take (headerSize + hd.payloadLength.toNat)) = .ok hd := by
    rw [Header.ofBytes_take _ (Nat.le_add_right _ _), h]
  obtain ⟨h0, h32⟩ := Header.payloadLength_fits h
  rw [readBorrowedMessage_of_header h', readBorrowedMessage_of_header h, List.length_take,
    slice_take (Nat.le_refl _)]
  by_cases ha : hd.announces k.kind = true
  · rw [if_pos ha, if_pos ha, if_neg (by omega), if_neg (by omega)]
  · rw [if_neg ha, if_neg ha]

theorem readOf_take (hr : l.readCap = none) (hf : l.fillCap = none) (k : Kind)
    (h : Header.ofBytes b = .ok hd) (hL : headerSize + hd.payloadLength.toNat ≤ b.length) :
    (readOf k).result (Source.ofBytes l (b.take (headerSize + hd.payloadLength.toNat))) =
      (readOf k).result (Source.ofBytes l b) := by
  have h' : Header.ofBytes (b.take (headerSize + hd.payloadLength.toNat)) = .ok hd := by
    rw [Header.ofBytes_take _ (Nat.le_add_right _ _), h]
  have hrest : hd.payloadLength.toNat ≤ ((Source.ofBytes l b).skip headerSize).rest.length := by
    simp only [skip_rest, Source.rest_ofBytes, List.length_drop]
    exact Nat.le_sub_of_add_le' hL
  have hrest' : hd.payloadLength.toNat ≤
      ((Source.ofBytes l (b.take (headerSize + hd.payloadLength.toNat))).skip headerSize).rest.length := by
    simp only [skip_rest, Source.rest_ofBytes, List.length_drop, List.length_take]
    omega
  have h32 := (Header.payloadLength_fits h).2
  rw [readOf_of_header hr h', readOf_of_header hr h]
  by_cases ha : hd.announces k = true
  · rw [if_pos ha, if_pos ha, result_read_of_le k hr hf hrest h32, result_read_of_le k hr hf hrest' h32]
    show ofPayload k _ (slice (b.take _) headerSize _) = ofPayload k _ (slice b headerSize _)
    rw [slice_take (Nat.le_refl _)]
  · rw [if_neg ha, if_neg ha]

theorem ofPayload_isProtocol (k : DiagnosticKind) {L : Int} {body : List UInt8} {e : Error}
    (h : ofPayload k.kind L body = .error e) : e.isProtocol = true := by
  have hm : checkMinimum L k.head = .error e := by
    cases k <;> cases hm : checkMinimum L _ <;>
      simp_all [ofPayload, Diagnostic.ofPayload, DiagnosticAck.ofPayload, DiagnosticKind.kind,
        DiagnosticKind.head]
  exact checkMinimum_isProtocol hm

theorem readBorrowedMessage_isProtocol {e : Error} (h : readBorrowedMessage k b = .error e) :
    e.isProtocol = true := by
  by_cases hb : b.length < headerSize
  · rw [readBorrowedMessage_short hb] at h
    cases h
    rfl
  obtain ⟨hd, hh⟩ := Header.ofBytes_of_length (show headerSize ≤ b.length by omega)
  rw [readBorrowedMessage_of_header hh] at h
  split at h
  · split at h
    · cases h
      rfl
    · cases ho : ofPayload k.kind hd.payloadLength (slice b headerSize hd.payloadLength.toNat) with
      | error e' =>
        rw [ho] at h
        cases h
        exact ofPayload_isProtocol k ho
      | ok m => rw [ho] at h; cases h
  · cases h
    rfl

theorem readOf_isProtocol (k : DiagnosticKind) {s : Source} {e : Error}
    (h : (readOf k.kind).result s = .error e) : e.isProtocol = true := by
  unfold Reading.result at h
  split at h
  · cases h
  · rename_i e' s' hx
    cases h
    unfold readOf at hx
    split at hx
    · rename_i hd s₁ hh
      split at hx
      · -- the header announces a length of four bytes
        have h32 := (Header.length_fits_of_read hh).2
        exact read_isProtocol k (by rw [byteStringLimit_eq]; omega) hx
      · cases hx
        rfl
    · rename_i e'' s₁ hh
      cases hx
      exact Header.read_isProtocol hh

theorem readOf_owns {m : Message} (h : (readOf k.kind).result (Source.ofBytes l b) = .ok m) :
    ∃ hd, Header.ofBytes b = .ok hd ∧
      m.opaque? = some (.owned (slice b (headerSize + k.head) (hd.payloadLength.toNat - k.head))) ∧
      (m.lend == m) = false := by
  unfold Reading.result at h
  split at h
  · rename_i m' s' hx
    cases h
    obtain ⟨hd, s₁, hh, -, hread⟩ := readOf_eq_ok hx
    obtain ⟨hb, rfl⟩ := Header.read_eq_ok hh
    obtain ⟨-, -, hp⟩ := read_eq_ok hread
    obtain ⟨hown, hne⟩ := lend_of_ofPayload hp
    refine ⟨hd, hb, ?_, hne⟩
    rw [hown, drop_take_eq_slice]
    simp [slice, List.drop_drop]
  · cases h

/-- Decoding a diagnostic message in place agrees with reading it from a source that holds the
buffer and delivers all it is asked for. Decoding succeeds exactly when reading does, and then
gives the message read with its data lent; either refuses only with the protocol's errors, and a
header of another type is refused by both alike. A message read owns the bytes of the buffer
after its head up to the announced length, its lent copy views the same bytes, compares unequal
with it and encodes alike; and neither outcome depends on bytes past the announced payload. -/
theorem borrowed_agrees_with_streamed (k : DiagnosticKind) (l : ReadLimits)
    (hr : l.readCap = none) (hf : l.fillCap = none) (b : List UInt8) :
    (readBorrowedMessage k b).toOption =
        ((readOf k.kind).result (Source.ofBytes l b)).toOption.map lend ∧
      (∀ e, readBorrowedMessage k b = .error e → e.isProtocol = true) ∧
      (∀ e, (readOf k.kind).result (Source.ofBytes l b) = .error e → e.isProtocol = true) ∧
      (∀ hd, Header.ofBytes b = .ok hd → hd.announces k.kind = false →
        readBorrowedMessage k b = .error hd.unexpected ∧
          (readOf k.kind).result (Source.ofBytes l b) = .error hd.unexpected) ∧
      (∀ m, (readOf k.kind).result (Source.ofBytes l b) = .ok m →
        ∃ hd, Header.ofBytes b = .ok hd ∧
          m.opaque? = some (.owned (slice b (headerSize + k.head) (hd.payloadLength.toNat - k.head))) ∧
          m.lend.opaque? =
            some (.borrowed (slice b (headerSize + k.head) (hd.payloadLength.toNat - k.head))) ∧
          (m.lend == m) = false ∧ ∀ v, m.lend.encode v = m.encode v) ∧
      (∀ hd, Header.ofBytes b = .ok hd → headerSize + hd.payloadLength.toNat ≤ b.length →
        readBorrowedMessage k (b.take (headerSize + hd.payloadLength.toNat)) =
            readBorrowedMessage k b ∧
          (readOf k.kind).result (Source.ofBytes l (b.take (headerSize + hd.payloadLength.toNat))) =
            (readOf k.kind).result (Source.ofBytes l b)) := by
  refine ⟨readBorrowedMessage_toOption hr hf, fun e => readBorrowedMessage_isProtocol,
    fun e => readOf_isProtocol k, ?mismatch, ?owns, ?tail⟩
  case mismatch =>
    intro hd h ha
    have hn : ¬ hd.announces k.kind = true := by simp [ha]
    rw [readBorrowedMessage_of_header h, readOf_of_header hr h, if_neg hn, if_neg hn]
    exact ⟨rfl, rfl⟩
  case owns =>
    intro m h
    obtain ⟨hd, hb, hown, hne⟩ := readOf_owns h
    exact ⟨hd, hb, hown, opaque_lend hown, hne, encode_lend m⟩
  case tail =>
    intro hd h hL
    exact ⟨readBorrowedMessage_take h hL, readOf_take hr hf k.kind h hL⟩

theorem borrowed_agrees_with_streamed_message :
    ReadLimits.plain.readCap = none ∧ ReadLimits.plain.fillCap = none ∧
      (readBorrowedMessage .message [2, 253, 0x80, 0x01, 0, 0, 0, 6, 0x0e, 0, 0x10, 1, 0x3e, 0]).toOption =
        ((readOf .diagnosticMessage).result
          (Source.ofBytes .plain [2, 253, 0x80, 0x01, 0, 0, 0, 6, 0x0e, 0, 0x10, 1, 0x3e, 0])).toOption.map
          lend :=
  ⟨rfl, rfl, (borrowed_agrees_with_streamed .message .plain rfl rfl _).1⟩

end Message

end DoipWire
