import DoipWire.Proofs.Bytes
import DoipWire.Proofs.InPlace

/-!
# What a failed diagnostic decoding leaves

Decoding into a diagnostic message stores each part as soon as it is read and never rolls back;
`FailsWith` has one rule per place where it can stop. A fill that comes up short leaves the bytes
that arrived, then the old bytes, then zeros (`partialFill`).
-/

namespace DoipWire

open Source Decoder

/-- A buffer resized to `n` bytes and then filled with `chunk` from its start: the chunk, the
old bytes after it that the resize kept, and zeros from the old end or the chunk's end on. -/
def partialFill (old : List UInt8) (n : Nat) (chunk : List UInt8) : List UInt8 :=
  chunk ++ slice old chunk.length (min old.length n - chunk.length) ++
    List.replicate (n - max old.length chunk.length) 0

namespace Source

/-- How many bytes filling a buffer of `n` bytes takes from the source: what fills deliver, or
what the one exact read brings. -/
def delivered (s : Source) (n : Nat) : Nat :=
  if s.limits.fills then s.fillable n else s.requestSize n

/-- How many of them land in the buffer when the fill comes up short: all that fills delivered,
none of a short exact read. -/
def kept (s : Source) (n : Nat) : Nat :=
  if s.limits.fills then s.fillable n else 0

end Source

/-! ## Resizing, then filling from the start -/

theorem length_partialFill (old : List UInt8) {n : Nat} {chunk : List UInt8} (h : chunk.length ≤ n) :
    (partialFill old n chunk).length = n := by
  simp only [partialFill, List.length_append, length_slice, List.length_replicate]
  omega

theorem place_resized (old : List UInt8) {n : Nat} {chunk : List UInt8} (h : chunk.length ≤ n) :
    place (old.take n ++ List.replicate (n - old.length) 0) 0 chunk = partialFill old n chunk := by
  simp only [place, List.take_zero, List.nil_append, Nat.zero_add, partialFill, List.append_assoc,
    List.append_cancel_left_eq, List.drop_append, List.length_take, List.drop_replicate]
  -- the old bytes past the chunk, up to the new size, then the zeros the resize added past it
  have hs : slice old chunk.length (n - chunk.length) =
      slice old chunk.length (min old.length n - chunk.length) := by
    unfold slice
    rw [List.take_eq_take_iff, List.length_drop]
    omega
  have hz : n - old.length - (chunk.length - min n old.length) = n - max old.length chunk.length := by
    omega
  rw [drop_take_eq_slice, hs, hz]

theorem partialFill_nil (old : List UInt8) (n : Nat) :
    partialFill old n [] = old.take n ++ List.replicate (n - old.length) 0 := by
  rw [← place_resized old (Nat.zero_le n), place_nil]

/-! ## A fill that comes up short -/

namespace Source

theorem kept_le (s : Source) (n : Nat) : s.kept n ≤ n := by
  unfold kept
  split
  · exact (s.fillable_le n).1
  · exact Nat.zero_le n

theorem readInto_error {s s' : Source} {buf buf' : List UInt8} {e : Error}
    (h : readInto (s, buf) = .error e (s', buf')) :
    s.delivered buf.length < buf.length ∧
      e = .truncated (s.delivered buf.length) buf.length ∧
      s' = s.skip (s.delivered buf.length) ∧ buf' = place buf 0 (s.rest.take (s.kept buf.length)) := by
  unfold readInto at h
  dsimp only at h
  by_cases h0 : buf.length = 0
  · rw [if_pos h0] at h
    cases h
  rw [if_neg h0] at h
  by_cases hf : s.limits.fills = true
  · -- filled in place: the bytes that arrived stay
    have hd : s.delivered buf.length = s.fillable buf.length := by simp [delivered, hf]
    have hk : s.kept buf.length = s.fillable buf.length := by simp [kept, hf]
    rw [if_pos hf, fillFrom_eq _ 0 s buf rfl, Nat.sub_zero] at h
    split at h
    · rename_i hlt
      cases h
      rw [hd, hk, Nat.zero_add]
      exact ⟨hlt, rfl, rfl, rfl⟩
    · cases h
  · -- one exact read, stored only when it succeeds
    have hd : s.delivered buf.length = s.requestSize buf.length := by simp [delivered, hf]
    have hk : s.kept buf.length = 0 := by simp [kept, hf]
    rw [if_neg hf] at h
    split at h
    · cases h
    · rename_i e' s₁ hr
      cases h
      obtain ⟨hlt, rfl, rfl⟩ := readExact_error hr
      rw [hd, hk, List.take_zero, place_nil]
      exact ⟨hlt, rfl, rfl, rfl⟩

theorem readInto_of_short {s : Source} {buf : List UInt8} (h : s.delivered buf.length < buf.length) :
    readInto (s, buf) = .error (.truncated (s.delivered buf.length) buf.length)
      (s.skip (s.delivered buf.length), place buf 0 (s.rest.take (s.kept buf.length))) := by
  have h0 : buf.length ≠ 0 := by omega
  unfold readInto
  dsimp only
  rw [if_neg h0]
  by_cases hf : s.limits.fills = true
  · have hd : s.delivered buf.length = s.fillable buf.length := by simp [delivered, hf]
    have hk : s.kept buf.length = s.fillable buf.length := by simp [kept, hf]
    rw [hd] at h ⊢
    rw [hk, if_pos hf, fillFrom_eq _ 0 s buf rfl, Nat.sub_zero, if_pos h, Nat.zero_add]
  · have hd : s.delivered buf.length = s.requestSize buf.length := by simp [delivered, hf]
    have hk : s.kept buf.length = 0 := by simp [kept, hf]
    rw [hd] at h ⊢
    rw [hk, if_neg hf, readExact_eq, if_neg h0, if_pos h, List.take_zero, place_nil]

theorem readInto_resized_error {s s' : Source} {old buf : List UInt8} {n : Nat} {e : Error} :
    readInto (s, old.take n ++ List.replicate (n - old.length) 0) = .error e (s', buf) ↔
      s.delivered n < n ∧ e = .truncated (s.delivered n) n ∧ s' = s.skip (s.delivered n) ∧
        buf = partialFill old n (s.rest.take (s.kept n)) := by
  have hk : (s.rest.take (s.kept n)).length ≤ n :=
    Nat.le_trans (List.length_take_le _ _) (s.kept_le n)
  constructor
  · intro h
    obtain ⟨hlt, rfl, rfl, rfl⟩ := readInto_error h
    rw [length_resized] at hlt ⊢
    exact ⟨hlt, rfl, rfl, place_resized old hk⟩
  · rintro ⟨hlt, rfl, rfl, rfl⟩
    rw [← length_resized old n] at hlt
    rw [readInto_of_short hlt, length_resized, place_resized old hk]

end Source

/-! ## How a failed decoding ends -/

theorem checkMinimum_of_lt {len : Int} {minimum : Nat} (h : len < minimum) :
    checkMinimum len minimum = .error (.payloadLength len minimum) := by
  unfold checkMinimum
  rw [if_pos h]

theorem checkMinimum_of_le {len : Int} {minimum : Nat} (h : (minimum : Int) ≤ len) :
    checkMinimum len minimum = .ok () := by
  unfold checkMinimum
  rw [if_neg (by omega)]

/-- Decoding `L` bytes from `s` into the diagnostic message `d` fails with `e`, leaving the source
`s'` and the message `d'`: one rule for each place where the decoding can stop. -/
inductive Diagnostic.FailsWith (L : Int) (s : Source) (d : Diagnostic) :
    Error → Source → Diagnostic → Prop
  /-- The length is refused before anything is read. -/
  | length (hL : L < diagnosticHead) : FailsWith L s d (.payloadLength L diagnosticHead) s d
  /-- The addresses did not arrive: the request took what there was, the message is as it was. -/
  | addresses (hL : diagnosticHead ≤ L) (hr : s.requestSize 4 < 4) :
      FailsWith L s d (.truncated (s.requestSize 4) 4) (s.skip (s.requestSize 4)) d
  /-- The addresses are stored; borrowed data refuses to be resized. -/
  | borrowed (bs : List UInt8) (hL : diagnosticHead ≤ L) (hr : s.requestSize 4 = 4)
      (hd : d.userData = .borrowed bs) :
      FailsWith L s d .bufferTooSmall (s.skip 4)
        ⟨BigEndian.ofBytes (slice s.rest 0 2), BigEndian.ofBytes (slice s.rest 2 2), .borrowed bs⟩
  /-- The addresses are stored; the zeros owned data would grow by cannot be allocated, and the
  data is as it was. -/
  | allocation (old : List UInt8) (e : Error) (hL : diagnosticHead ≤ L) (hr : s.requestSize 4 = 4)
      (hd : d.userData = .owned old)
      (ha : checkAllocation ((L - diagnosticHead).toNat - old.length) = .error e) :
      FailsWith L s d e (s.skip 4)
        ⟨BigEndian.ofBytes (slice s.rest 0 2), BigEndian.ofBytes (slice s.rest 2 2), .owned old⟩
  /-- The addresses are stored, owned data is resized to the rest of the payload and filled in
  part. -/
  | fill (old : List UInt8) (hL : diagnosticHead ≤ L) (hr : s.requestSize 4 = 4)
      (hd : d.userData = .owned old)
      (ha : (L - diagnosticHead).toNat - old.length < byteStringLimit)
      (hf : (s.skip 4).delivered (L - diagnosticHead).toNat < (L - diagnosticHead).toNat) :
      FailsWith L s d
        (.truncated ((s.skip 4).delivered (L - diagnosticHead).toNat) (L - diagnosticHead).toNat)
        ((s.skip 4).skip ((s.skip 4).delivered (L - diagnosticHead).toNat))
        ⟨BigEndian.ofBytes (slice s.rest 0 2), BigEndian.ofBytes (slice s.rest 2 2),
          .owned (partialFill old (L - diagnosticHead).toNat
            ((s.skip 4).rest.take ((s.skip 4).kept (L - diagnosticHead).toNat)))⟩

/-- Decoding `L` bytes from `s` into the acknowledgement `d` fails with `e`, leaving the source `s'`
and the acknowledgement `d'`. The data is resized before the code is read, and the code is
stored once its byte arrived. -/
inductive DiagnosticAck.FailsWith {α : Type} [CodeTable α] (L : Int) (s : Source)
    (d : DiagnosticAck α) : Error → Source → DiagnosticAck α → Prop
  /-- The length is refused before anything is read. -/
  | length (hL : L < ackHead) : FailsWith L s d (.payloadLength L ackHead) s d
  /-- The addresses did not arrive: the request took what there was, the acknowledgement is as
  it was. -/
  | addresses (hL : ackHead ≤ L) (hr : s.requestSize 4 < 4) :
      FailsWith L s d (.truncated (s.requestSize 4) 4) (s.skip (s.requestSize 4)) d
  /-- The addresses are stored; borrowed data refuses to be resized, the code is as it was. -/
  | borrowed (bs : List UInt8) (hL : ackHead ≤ L) (hr : s.requestSize 4 = 4)
      (hd : d.previousData = .borrowed bs) :
      FailsWith L s d .bufferTooSmall (s.skip 4)
        ⟨BigEndian.ofBytes (slice s.rest 0 2), BigEndian.ofBytes (slice s.rest 2 2), d.ackCode,
          .borrowed bs⟩
  /-- The addresses are stored; the zeros owned data would grow by cannot be allocated, and the
  code and the data are as they were. -/
  | allocation (old : List UInt8) (e : Error) (hL : ackHead ≤ L) (hr : s.requestSize 4 = 4)
      (hd : d.previousData = .owned old)
      (ha : checkAllocation ((L - ackHead).toNat - old.length) = .error e) :
      FailsWith L s d e (s.skip 4)
        ⟨BigEndian.ofBytes (slice s.rest 0 2), BigEndian.ofBytes (slice s.rest 2 2), d.ackCode,
          .owned old⟩
  /-- The addresses are stored and owned data resized; the code byte did not arrive, so the code
  is as it was. -/
  | code (old : List UInt8) (hL : ackHead ≤ L) (hr : s.requestSize 4 = 4)
      (hd : d.previousData = .owned old) (ha : (L - ackHead).toNat - old.length < byteStringLimit)
      (hc : (s.skip 4).requestSize 1 = 0) :
      FailsWith L s d (.truncated 0 1) (s.skip 4)
        ⟨BigEndian.ofBytes (slice s.rest 0 2), BigEndian.ofBytes (slice s.rest 2 2), d.ackCode,
          .owned (partialFill old (L - ackHead).toNat [])⟩
  /-- The addresses and the code are stored, owned data is resized and filled in part. -/
  | fill (old : List UInt8) (hL : ackHead ≤ L) (hr : s.requestSize 4 = 4)
      (hd : d.previousData = .owned old) (ha : (L - ackHead).toNat - old.length < byteStringLimit)
      (hc : (s.skip 4).requestSize 1 = 1)
      (hf : (s.skip 5).delivered (L - ackHead).toNat < (L - ackHead).toNat) :
      FailsWith L s d
        (.truncated ((s.skip 5).delivered (L - ackHead).toNat) (L - ackHead).toNat)
        ((s.skip 5).skip ((s.skip 5).delivered (L - ackHead).toNat))
        ⟨BigEndian.ofBytes (slice s.rest 0 2), BigEndian.ofBytes (slice s.rest 2 2),
          OpenCode.ofByte (BigEndian.ofBytes (slice s.rest 4 1)),
          .owned (partialFill old (L - ackHead).toNat
            ((s.skip 5).rest.take ((s.skip 5).kept (L - ackHead).toNat)))⟩

/-! ## Diagnostic messages -/

theorem Diagnostic.failsWith_of_readReplace {L : Int} {s s' : Source} {d d' : Diagnostic}
    {e : Error} (h : Diagnostic.readReplace L (s, d) = .error e (s', d')) :
    Diagnostic.FailsWith L s d e s' d' := by
  simp only [Diagnostic.readReplace, bind_apply, update_apply, target_apply, onPart_apply] at h
  by_cases hL : L < diagnosticHead
  · rw [checkMinimum_of_lt hL, check_error] at h
    cases h
    exact .length hL
  rw [checkMinimum_of_le (by omega), check_ok] at h
  dsimp only at h
  rw [read_apply, readExact_eq, if_neg (by omega)] at h
  by_cases hr : s.requestSize 4 < 4
  · rw [if_pos hr] at h
    cases h
    exact .addresses (by omega) hr
  have h4 : s.requestSize 4 = 4 := by
    have := (s.requestSize_le 4).1
    omega
  rw [if_neg hr] at h
  dsimp only at h
  rw [slice_take (show 0 + 2 ≤ 4 by omega), slice_take (show 2 + 2 ≤ 4 by omega)] at h
  obtain ⟨source, target, data⟩ := d
  cases data with
  | borrowed bs =>
    simp only [Opaque.resize, check_error] at h
    cases h
    exact .borrowed bs (by omega) h4 rfl
  | owned old =>
    cases ha : checkAllocation ((L - diagnosticHead).toNat - old.length) with
    | error e' =>
      simp only [Opaque.resize, ha, check_error] at h
      cases h
      exact .allocation old _ (by omega) h4 rfl ha
    | ok u =>
    simp only [Opaque.resize, ha, check_ok, Opaque.bytes] at h
    -- the data was resized; only filling it can have failed
    cases hri : readInto ((s.skip 4), old.take (L - diagnosticHead).toNat ++
        List.replicate ((L - diagnosticHead).toNat - old.length) 0) with
    | ok u st =>
      rw [hri] at h
      cases h
    | error e' st =>
      obtain ⟨s₁, buf⟩ := st
      rw [hri] at h
      cases h
      obtain ⟨hlt, rfl, rfl, rfl⟩ := readInto_resized_error.1 hri
      exact .fill old (by omega) h4 rfl (checkAllocation_eq_ok.1 ha) hlt

theorem Diagnostic.readReplace_of_failsWith {L : Int} {s s' : Source} {d d' : Diagnostic}
    {e : Error} (h : Diagnostic.FailsWith L s d e s' d') :
    Diagnostic.readReplace L (s, d) = .error e (s', d') := by
  cases h with
  | length hL =>
    have hm := checkMinimum_of_lt hL
    simp only [Diagnostic.readReplace, bind_apply, hm, check_error]
  | addresses hL hr =>
    have hm : checkMinimum L diagnosticHead = .ok () := checkMinimum_of_le hL
    simp only [Diagnostic.readReplace, bind_apply, hm, check_ok, read_apply, readExact_eq,
      if_neg (show (4 : Nat) ≠ 0 by omega), if_pos hr]
  | borrowed bs hL hr hd =>
    have hm : checkMinimum L diagnosticHead = .ok () := checkMinimum_of_le hL
    obtain ⟨source, target, data⟩ := d
    cases hd
    simp [Diagnostic.readReplace, hm, readExact_eq, hr, Opaque.resize, slice_take]
  | allocation old e hL hr hd ha =>
    have hm : checkMinimum L diagnosticHead = .ok () := checkMinimum_of_le hL
    obtain ⟨source, target, data⟩ := d
    cases hd
    simp only [Diagnostic.readReplace, bind_apply, hm, check_ok, read_apply, readExact_eq,
      if_neg (show (4 : Nat) ≠ 0 by omega), hr, if_neg (Nat.lt_irrefl 4), update_apply,
      target_apply, Opaque.resize_owned_of_error ha, check_error,
      slice_take (show 0 + 2 ≤ 4 by omega), slice_take (show 2 + 2 ≤ 4 by omega)]
  | fill old hL hr hd ha hf =>
    have hm : checkMinimum L diagnosticHead = .ok () := checkMinimum_of_le hL
    obtain ⟨source, target, data⟩ := d
    cases hd
    have hri := (@readInto_resized_error (s.skip 4) _ old _ _ _).2 ⟨hf, rfl, rfl, rfl⟩
    simp only [Diagnostic.readReplace, bind_apply, hm, check_ok, read_apply, readExact_eq,
      if_neg (show (4 : Nat) ≠ 0 by omega), hr, if_neg (Nat.lt_irrefl 4), update_apply,
      target_apply, Opaque.resize_owned_of_lt ha, onPart_apply, Opaque.bytes, hri, skip_skip,
      slice_take (show 0 + 2 ≤ 4 by omega), slice_take (show 2 + 2 ≤ 4 by omega)]

/-! ## Diagnostic acknowledgements -/

theorem DiagnosticAck.failsWith_of_readReplace {α : Type} [CodeTable α] {L : Int} {s s' : Source}
    {d d' : DiagnosticAck α} {e : Error}
    (h : DiagnosticAck.readReplace L (s, d) = .error e (s', d')) :
    DiagnosticAck.FailsWith L s d e s' d' := by
  simp only [DiagnosticAck.readReplace, bind_apply, update_apply, target_apply, onPart_apply] at h
  by_cases hL : L < ackHead
  · rw [checkMinimum_of_lt hL, check_error] at h
    cases h
    exact .length hL
  rw [checkMinimum_of_le (by omega), check_ok] at h
  dsimp only at h
  rw [read_apply, readExact_eq, if_neg (by omega)] at h
  by_cases hr : s.requestSize 4 < 4
  · rw [if_pos hr] at h
    cases h
    exact .addresses (by omega) hr
  have h4 : s.requestSize 4 = 4 := by
    have := (s.requestSize_le 4).1
    omega
  rw [if_neg hr] at h
  dsimp only at h
  rw [slice_take (show 0 + 2 ≤ 4 by omega), slice_take (show 2 + 2 ≤ 4 by omega)] at h
  obtain ⟨source, target, code, data⟩ := d
  cases data with
  | borrowed bs =>
    simp only [Opaque.resize, check_error] at h
    cases h
    exact .borrowed bs (by omega) h4 rfl
  | owned old =>
    cases ha : checkAllocation ((L - ackHead).toNat - old.length) with
    | error e' =>
      simp only [Opaque.resize, ha, check_error] at h
      cases h
      exact .allocation old _ (by omega) h4 rfl ha
    | ok u =>
    have ha' := checkAllocation_eq_ok.1 ha
    simp only [Opaque.resize, ha, check_ok] at h
    rw [read_apply] at h
    simp only [readNumber, readExact_eq, if_neg (show (1 : Nat) ≠ 0 by omega)] at h
    by_cases hc : (s.skip 4).requestSize 1 < 1
    · -- the code byte did not arrive: the data stays resized, the code as it was
      have h0 : (s.skip 4).requestSize 1 = 0 := by omega
      rw [if_pos hc, h0] at h
      cases h
      rw [skip_zero, ← partialFill_nil]
      exact .code old (by omega) h4 rfl ha' h0
    have h1 : (s.skip 4).requestSize 1 = 1 := by
      have := ((s.skip 4).requestSize_le 1).1
      omega
    rw [if_neg hc] at h
    dsimp only [Opaque.bytes] at h
    rw [skip_skip] at h
    -- the code was stored; only filling the data can have failed
    cases hri : readInto (s.skip (4 + 1), old.take (L - ackHead).toNat ++
        List.replicate ((L - ackHead).toNat - old.length) 0) with
    | ok u st =>
      rw [hri] at h
      cases h
    | error e' st =>
      obtain ⟨s₁, buf⟩ := st
      rw [hri] at h
      cases h
      obtain ⟨hlt, rfl, rfl, rfl⟩ := readInto_resized_error.1 hri
      exact .fill old (by omega) h4 rfl ha' h1 hlt

theorem DiagnosticAck.readReplace_of_failsWith {α : Type} [CodeTable α] {L : Int}
    {s s' : Source} {d d' : DiagnosticAck α} {e : Error} (h : DiagnosticAck.FailsWith L s d e s' d') :
    DiagnosticAck.readReplace L (s, d) = .error e (s', d') := by
  cases h with
  | length hL =>
    have hm := checkMinimum_of_lt hL
    simp only [DiagnosticAck.readReplace, bind_apply, hm, check_error]
  | addresses hL hr =>
    have hm : checkMinimum L ackHead = .ok () := checkMinimum_of_le hL
    simp only [DiagnosticAck.readReplace, bind_apply, hm, check_ok, read_apply, readExact_eq,
      if_neg (show (4 : Nat) ≠ 0 by omega), if_pos hr]
  | borrowed bs hL hr hd =>
    have hm : checkMinimum L ackHead = .ok () := checkMinimum_of_le hL
    obtain ⟨source, target, code, data⟩ := d
    cases hd
    simp [DiagnosticAck.readReplace, hm, readExact_eq, hr, Opaque.resize, slice_take]
  | allocation old e hL hr hd ha =>
    have hm : checkMinimum L ackHead = .ok () := checkMinimum_of_le hL
    obtain ⟨source, target, code, data⟩ := d
    cases hd
    simp only [DiagnosticAck.readReplace, bind_apply, hm, check_ok, read_apply, readExact_eq,
      if_neg (show (4 : Nat) ≠ 0 by omega), hr, if_neg (Nat.lt_irrefl 4), update_apply,
      target_apply, Opaque.resize_owned_of_error ha, check_error,
      slice_take (show 0 + 2 ≤ 4 by omega), slice_take (show 2 + 2 ≤ 4 by omega)]
  | code old hL hr hd ha hc =>
    have hm : checkMinimum L ackHead = .ok () := checkMinimum_of_le hL
    obtain ⟨source, target, code, data⟩ := d
    cases hd
    simp only [DiagnosticAck.readReplace, bind_apply, hm, check_ok, read_apply, readExact_eq,
      if_neg (show (4 : Nat) ≠ 0 by omega), hr, if_neg (Nat.lt_irrefl 4), update_apply,
      target_apply, Opaque.resize_owned_of_lt ha, readNumber, if_neg (show (1 : Nat) ≠ 0 by omega), hc,
      if_pos Nat.zero_lt_one, skip_zero, partialFill_nil,
      slice_take (show 0 + 2 ≤ 4 by omega), slice_take (show 2 + 2 ≤ 4 by omega)]
  | fill old hL hr hd ha hc hf =>
    have hm : checkMinimum L ackHead = .ok () := checkMinimum_of_le hL
    obtain ⟨source, target, code, data⟩ := d
    cases hd
    have hri := (@readInto_resized_error (s.skip 5) _ old _ _ _).2 ⟨hf, rfl, rfl, rfl⟩
    -- the code byte is the fifth byte of the payload
    have hcode : (s.skip 4).rest.take 1 = slice s.rest 4 1 := rfl
    simp only [DiagnosticAck.readReplace, bind_apply, hm, check_ok, read_apply, readExact_eq,
      if_neg (show (4 : Nat) ≠ 0 by omega), hr, if_neg (Nat.lt_irrefl 4), update_apply,
      target_apply, Opaque.resize_owned_of_lt ha, readNumber, if_neg (show (1 : Nat) ≠ 0 by omega), hc,
      if_neg (Nat.lt_irrefl 1), skip_skip, onPart_apply, Opaque.bytes, hri, hcode,
      slice_take (show 0 + 2 ≤ 4 by omega), slice_take (show 2 + 2 ≤ 4 by omega)]

/-! ## The data after a failure -/

theorem Diagnostic.FailsWith.data {L : Int} {s s' : Source} {d d' : Diagnostic} {e : Error}
    (h : Diagnostic.FailsWith L s d e s' d') :
    d'.userData = d.userData ∨ d'.userData.bytes.length = (L - diagnosticHead).toNat := by
  cases h with
  | length _ => exact .inl rfl
  | addresses _ _ => exact .inl rfl
  | borrowed bs _ _ hd => exact .inl hd.symm
  | allocation old _ _ _ hd _ => exact .inl hd.symm
  | fill old _ _ _ _ _ =>
    exact .inr (length_partialFill old
      (Nat.le_trans (List.length_take_le _ _) ((s.skip 4).kept_le _)))

theorem DiagnosticAck.FailsWith.data {α : Type} [CodeTable α] {L : Int} {s s' : Source}
    {d d' : DiagnosticAck α} {e : Error} (h : DiagnosticAck.FailsWith L s d e s' d') :
    d'.previousData = d.previousData ∨ d'.previousData.bytes.length = (L - ackHead).toNat := by
  cases h with
  | length _ => exact .inl rfl
  | addresses _ _ => exact .inl rfl
  | borrowed bs _ _ hd => exact .inl hd.symm
  | allocation old _ _ _ hd _ => exact .inl hd.symm
  | code old _ _ _ _ _ => exact .inr (length_partialFill old (Nat.zero_le _))
  | fill old _ _ _ _ _ _ =>
    exact .inr (length_partialFill old
      (Nat.le_trans (List.length_take_le _ _) ((s.skip 5).kept_le _)))

/-- Decoding into a diagnostic message or acknowledgement fails exactly as `FailsWith` describes:
a refused length or addresses that did not arrive change nothing, and past them every part read
stays stored, with the data resized and filled by the bytes that landed in it. The data is then
either as it was or resized to exactly the rest of the payload. -/
theorem failed_diagnostic_decoding_state :
    (∀ (L : Int) (s s' : Source) (d d' : Diagnostic) (e : Error),
      (Diagnostic.readReplace L (s, d) = .error e (s', d') ↔ Diagnostic.FailsWith L s d e s' d') ∧
      (Diagnostic.readReplace L (s, d) = .error e (s', d') →
        d'.userData = d.userData ∨ d'.userData.bytes.length = (L - diagnosticHead).toNat)) ∧
    (∀ (α : Type) [CodeTable α] (L : Int) (s s' : Source) (d d' : DiagnosticAck α) (e : Error),
      (DiagnosticAck.readReplace L (s, d) = .error e (s', d') ↔
        DiagnosticAck.FailsWith L s d e s' d') ∧
      (DiagnosticAck.readReplace L (s, d) = .error e (s', d') →
        d'.previousData = d.previousData ∨ d'.previousData.bytes.length = (L - ackHead).toNat)) := by
  refine ⟨fun L s s' d d' e => ⟨?_, ?_⟩, fun α _ L s s' d d' e => ⟨?_, ?_⟩⟩
  · exact ⟨Diagnostic.failsWith_of_readReplace, Diagnostic.readReplace_of_failsWith⟩
  · exact fun h => (Diagnostic.failsWith_of_readReplace h).data
  · exact ⟨DiagnosticAck.failsWith_of_readReplace, DiagnosticAck.readReplace_of_failsWith⟩
  · exact fun h => (DiagnosticAck.failsWith_of_readReplace h).data

theorem failed_diagnostic_decoding_state_negativeAck :
    (DiagnosticAck.readReplace 9
        (Source.ofBytes .plain [0, 1, 0, 2, 0x40, 0xAA],
          (⟨3, 4, .reserved 0x90, .owned [7, 7, 7]⟩ : DiagnosticAck NegativeAckCode)) =
      .error (.truncated 1 4) ((Source.ofBytes .plain [0, 1, 0, 2, 0x40, 0xAA]).skip 6,
        ⟨1, 2, OpenCode.ofByte 0x40, .owned [0xAA, 7, 7, 0]⟩)) ∧
      ((⟨1, 2, OpenCode.ofByte 0x40, .owned [0xAA, 7, 7, 0]⟩ : DiagnosticAck NegativeAckCode).previousData =
          Opaque.owned [7, 7, 7] ∨
        (Opaque.owned [0xAA, 7, 7, 0]).bytes.length = ((9 : Int) - ackHead).toNat) := by
  have hrun : DiagnosticAck.readReplace 9
      (Source.ofBytes .plain [0, 1, 0, 2, 0x40, 0xAA],
        (⟨3, 4, .reserved 0x90, .owned [7, 7, 7]⟩ : DiagnosticAck NegativeAckCode)) =
      .error (.truncated 1 4) ((Source.ofBytes .plain [0, 1, 0, 2, 0x40, 0xAA]).skip 6,
        ⟨1, 2, OpenCode.ofByte 0x40, .owned [0xAA, 7, 7, 0]⟩) := by
    -- one data byte arrives before the source runs dry
    have hk : ((Source.ofBytes .plain [0, 1, 0, 2, 0x40, 0xAA]).skip 5).fillable 4 = 1 := by
      rw [fillable_of_advance (fillsAdvance_of_none rfl)]
      rfl
    have hd : ((Source.ofBytes .plain [0, 1, 0, 2, 0x40, 0xAA]).skip 5).delivered 4 = 1 := by
      rw [Source.delivered, hk]
      rfl
    have hkept : ((Source.ofBytes .plain [0, 1, 0, 2, 0x40, 0xAA]).skip 5).kept 4 = 1 := by
      rw [Source.kept, hk]
      rfl
    have hn : ((9 : Int) - ackHead).toNat = 4 := rfl
    have h := DiagnosticAck.FailsWith.fill (L := 9) (s := Source.ofBytes .plain [0, 1, 0, 2, 0x40, 0xAA])
      (d := (⟨3, 4, .reserved 0x90, .owned [7, 7, 7]⟩ : DiagnosticAck NegativeAckCode)) [7, 7, 7]
      (by decide) (by decide) rfl (by rw [byteStringLimit_eq]; decide) (by decide)
      (by rw [hn, hd]; decide)
    simp only [hn, hd, hkept, skip_skip] at h
    exact DiagnosticAck.readReplace_of_failsWith h
  exact ⟨hrun, (failed_diagnostic_decoding_state.2 NegativeAckCode 9 _ _ _ _ _).2 hrun⟩

/-- Owned data of one byte cannot grow by 2^63 - 1 zeros: the decoding stores the addresses and
refuses, leaving the data as it was rather than resized to the rest of the payload. -/
theorem failed_growth_keeps_the_data :
    Diagnostic.readReplace 9223372036854775812
        (Source.ofBytes .plain [0, 1, 0, 2], ⟨0, 0, .owned [0]⟩) =
      .error .bytesTooLarge ((Source.ofBytes .plain [0, 1, 0, 2]).skip 4, ⟨1, 2, .owned [0]⟩) :=
  rfl

end DoipWire
