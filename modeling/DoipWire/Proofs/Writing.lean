import DoipWire.Proofs.RoundTrip

/-!
# Writing a message to a sink

A message is encoded whole before anything reaches the sink, so a failure leaves the sink as it
was; a message that encodes goes out in exactly one write, which fails exactly when the sink
takes fewer bytes.
-/

namespace DoipWire

/-! ## One write of everything -/

namespace ByteSink

variable {σ : Type} [ByteSink σ] {s : σ} {data : List UInt8}

theorem writeAll_nil (s : σ) : writeAll s [] = (.ok (), s) := rfl

theorem writeAll_sink (h : data ≠ []) : (writeAll s data).2 = (write s data).2 := by
  have hl : data.length ≠ 0 := by simpa using h
  rcases hw : write s data with ⟨_ | a, s'⟩
  · simp [writeAll, hl, hw]
  · by_cases ha : a < data.length <;> simp [writeAll, hl, hw, ha]

theorem writeAll_error_iff (h : data ≠ []) {e : Error} :
    (writeAll s data).1 = .error e ↔
      ∃ a, (write s data).1 = some a ∧ a < data.length ∧ e = .shortWrite a data.length := by
  have hl : data.length ≠ 0 := by simpa using h
  rcases hw : write s data with ⟨_ | a, s'⟩
  · simp [writeAll, hl, hw]
  · by_cases ha : a < data.length
    · simp [writeAll, hl, hw, ha, eq_comm]
    · simp [writeAll, hl, hw, ha]

theorem writeAll_ok_or_error (s : σ) (data : List UInt8) :
    (writeAll s data).1 = .ok () ∨ ∃ e, (writeAll s data).1 = .error e := by
  cases (writeAll s data).1 with
  | ok u => exact .inl rfl
  | error e => exact .inr ⟨e, rfl⟩

end ByteSink

/-! ## Where encoding can fail -/

section HeaderBytes

variable (k : Kind) {len : Nat} {v : Int}

theorem bytesOf_version (hv : 0 ≤ v ∧ v < 256) :
    BigEndian.bytesOf [v, DoipWire.inverseVersion v] =
      .ok [UInt8.ofNat v.toNat, UInt8.ofNat (DoipWire.inverseVersion v).toNat] := by
  obtain ⟨hi0, hi⟩ := inverseVersion_lt v
  refine BigEndian.bytesOf_eq_ok.2 ⟨?_, rfl⟩
  simp only [List.mem_cons, List.not_mem_nil, or_false]
  rintro x (rfl | rfl) <;> omega

theorem Kind.encode_code : BigEndian.encode 2 (k.code : Int) = .ok (BigEndian.toBytes 2 k.code) :=
  BigEndian.encode_of_lt (by omega) (by have := k.code_lt; omega)

theorem Header.toBytes_new_of_byteRange (hv : ¬ (0 ≤ v ∧ v < 256)) :
    (Header.new (.member k) len v).toBytes = .error .byteRange := by
  have hvs : BigEndian.bytesOf [v, DoipWire.inverseVersion v] = .error .byteRange := by
    simp only [BigEndian.bytesOf, List.all_cons, List.all_nil, Bool.and_true]
    rw [if_neg (by simp; omega)]
  simp [toBytes, new, hvs]

theorem Header.toBytes_new_of_tooLarge (hv : 0 ≤ v ∧ v < 256) (hl : 2 ^ 32 ≤ len) :
    (Header.new (.member k) len v).toBytes = .error .tooLarge := by
  have hlen : BigEndian.encode 4 (len : Int) = .error .tooLarge := by
    simp only [BigEndian.encode, int_pow_eq]
    rw [if_neg (by omega), if_pos (by push_cast; omega)]
  simp [toBytes, new, bytesOf_version hv, Kind.encode_code, hlen, PayloadType.code,
    OpenCode.value, CodeTable.value]

theorem Header.toBytes_new_of_fits (hv : 0 ≤ v ∧ v < 256) (hl : ¬ 2 ^ 32 ≤ len) :
    (Header.new (.member k) len v).toBytes = .ok (headerBytes v k len) := by
  have hlen : BigEndian.encode 4 (len : Int) = .ok (BigEndian.toBytes 4 len) :=
    BigEndian.encode_of_lt (by omega) (by omega)
  simp [toBytes, new, bytesOf_version hv, Kind.encode_code, hlen, headerBytes, PayloadType.code,
    OpenCode.value, CodeTable.value, pure, Except.pure]

end HeaderBytes

namespace Message

theorem encode_eq (m : Message) (v : Int) :
    m.encode v = (m.body >>= fun body =>
      if 0 ≤ v ∧ v < 256 then
        if 2 ^ 32 ≤ m.length then .error .tooLarge
        else if body.length ≠ m.length then .error (.lengthMismatch m.kind body.length m.length)
        else .ok (headerBytes v m.kind m.length ++ body)
      else .error .byteRange) := by
  cases hb : m.body with
  | error e => simp [encode, hb]
  | ok body =>
    -- the version and the length are decided on the stated form, before any simplification
    rw [except_ok_bind, encode]
    by_cases hv : 0 ≤ v ∧ v < 256
    · by_cases hl : 2 ^ 32 ≤ m.length
      · rw [if_pos hv, if_pos hl]
        simp [hb, Header.toBytes_new_of_tooLarge _ hv hl]
      · rw [if_pos hv, if_neg hl]
        by_cases hn : body.length = m.length
        · simp [hb, Header.toBytes_new_of_fits _ hv hl, hn, pure, Except.pure]
        · simp [hb, Header.toBytes_new_of_fits _ hv hl, hn, throw, throwThe, MonadExceptOf.throw]
    · rw [if_neg hv]
      simp [hb, Header.toBytes_new_of_byteRange _ hv]

/-! ## All or nothing -/

variable {σ : Type} [ByteSink σ]

theorem write_of_encode_error {m : Message} {v : Int} {e : Error} (h : m.encode v = .error e)
    (s : σ) : m.write v s = (.error e, s) := by
  simp [write, h]

theorem write_of_encode_ok {m : Message} {v : Int} {data : List UInt8} (h : m.encode v = .ok data)
    (s : σ) : m.write v s = ByteSink.writeAll s data := by
  simp [write, h]

/-- Writing a message to a sink is all or nothing, for every message whatever its fields hold,
every integer version and every sink. Encoding fails at the first of: a field of the body, a
version byte outside `0 .. 255`, a reported length beyond four bytes, a body of another length
than the reported one; such a failure leaves the sink untouched. Otherwise the sink gets exactly
one write, of the header and body (`8 + length` bytes), and the write fails, with the short write
error naming the reported count, exactly when the sink reports fewer bytes than that; a sink that
reports nothing, or enough, makes the write succeed. -/
theorem write_is_all_or_nothing (m : Message) (v : Int) (s : σ) :
    m.encode v = (m.body >>= fun body =>
      if 0 ≤ v ∧ v < 256 then
        if 2 ^ 32 ≤ m.length then .error .tooLarge
        else if body.length ≠ m.length then .error (.lengthMismatch m.kind body.length m.length)
        else .ok (headerBytes v m.kind m.length ++ body)
      else .error .byteRange) ∧
    (∀ e, m.encode v = .error e → m.write v s = (.error e, s)) ∧
    ∀ data, m.encode v = .ok data →
      data.length = headerSize + m.length ∧
      (m.write v s).2 = (ByteSink.write s data).2 ∧
      (∀ e, (m.write v s).1 = .error e ↔
        ∃ a, (ByteSink.write s data).1 = some a ∧ a < data.length ∧
          e = .shortWrite a data.length) ∧
      ((m.write v s).1 = .ok () ↔ ∀ a, (ByteSink.write s data).1 = some a → data.length ≤ a) := by
  refine ⟨encode_eq m v, fun e he => write_of_encode_error he s, fun data hd => ?_⟩
  obtain ⟨body, -, hbl, -, -, -, rfl⟩ := encode_eq_ok hd
  have hlen : (headerBytes v m.kind m.length ++ body).length = headerSize + m.length := by
    simp [hbl, headerSize]
  have hne : headerBytes v m.kind m.length ++ body ≠ [] :=
    List.ne_nil_of_length_pos (by rw [hlen, headerSize]; omega)
  rw [write_of_encode_ok hd]
  refine ⟨hlen, ByteSink.writeAll_sink hne, fun e => ByteSink.writeAll_error_iff hne, ?_⟩
  constructor
  · intro hok a ha
    by_contra hlt
    obtain ⟨e, he⟩ : ∃ e, (ByteSink.writeAll s _).1 = .error e :=
      ⟨_, (ByteSink.writeAll_error_iff hne).2 ⟨a, ha, by omega, rfl⟩⟩
    rw [hok] at he
    cases he
  · intro hall
    rcases ByteSink.writeAll_ok_or_error s (headerBytes v m.kind m.length ++ body) with hok | ⟨e, he⟩
    · exact hok
    · obtain ⟨a, ha, hlt, -⟩ := (ByteSink.writeAll_error_iff hne).1 he
      exact absurd (hall a ha) (by omega)

end Message

end DoipWire
