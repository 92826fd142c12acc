import DoipWire.Proofs.Borrowing

/-!
# Dispatch on the payload type

Reading any message is reading a message of the kind its header announces. A header of another
type, or of no kind, is refused right after the header, before any byte of the payload; a read
limit below eight cuts the header itself.
-/

namespace DoipWire

open Source

/-- A read limit that lets one request of `n` bytes through whole. -/
def ReadLimits.Passes (l : ReadLimits) (n : Nat) : Prop := ∀ c, l.readCap = some c → n ≤ c

namespace Header

theorem read_of_passes {s : Source} (hc : s.limits.Passes headerSize) {hd : Header}
    (h : ofBytes s.rest = .ok hd) : read s = .ok hd (s.skip headerSize) := by
  have hl := length_of_ofBytes h
  have hn : s.requestSize headerSize = headerSize := by
    unfold requestSize
    cases hcap : s.limits.readCap with
    | none => simp only; omega
    | some c =>
      have := hc c hcap
      simp only
      omega
  unfold read
  rw [readExact_eq, if_neg (by simp [headerSize]), hn, if_neg (Nat.lt_irrefl _)]
  dsimp only
  rw [ofBytes_take _ (Nat.le_refl _), h]

theorem read_of_cap_lt {s : Source} {c : Nat} (hc : s.limits.readCap = some c)
    (hlt : c < headerSize) :
    read s = .error (.truncated (min c s.rest.length) headerSize) (s.skip (min c s.rest.length)) := by
  have hn : s.requestSize headerSize = min c s.rest.length := by
    simp only [requestSize, hc]
    omega
  unfold read
  rw [readExact_eq, if_neg (by simp [headerSize]), hn, if_pos (by omega)]

theorem announces_iff {hd : Header} {k : Kind} : hd.announces k = true ↔ hd.payloadType = .member k := by
  refine ⟨Message.payloadType_of_announces, fun h => ?_⟩
  simp [announces, h]

theorem code_of_ofBytes {b : List UInt8} {hd : Header} (h : ofBytes b = .ok hd) :
    hd.payloadType.code = BigEndian.ofBytes (slice b 2 2) := by
  match b, length_of_ofBytes h with
  | v :: i :: t0 :: t1 :: l0 :: l1 :: l2 :: l3 :: rest, _ =>
    cases h
    simp [slice, PayloadType.code_classify]

theorem unexpected_of_ofBytes {b : List UInt8} {hd : Header} (h : ofBytes b = .ok hd) :
    hd.unexpected =
      .unexpectedPayloadType (BigEndian.ofBytes (slice b 2 2)) (BigEndian.ofBytes (slice b 4 4)) := by
  match b, length_of_ofBytes h with
  | v :: i :: t0 :: t1 :: l0 :: l1 :: l2 :: l3 :: rest, _ =>
    cases h
    simp [unexpected, PayloadType.code_classify, slice]

end Header

namespace Message

variable {s : Source} {hd : Header}

theorem readAny_eq_readOf {k : Kind} (h : Header.ofBytes s.rest = .ok hd)
    (hk : hd.payloadType = .member k) : readAny s = readOf k s := by
  unfold readAny readOf
  cases hr : Header.read s with
  | error e s' => rfl
  | ok hd' s' =>
    -- the header read is the one the bytes spell, whatever the limits
    have hsame : hd' = hd := by
      have := (Header.read_eq_ok hr).1
      rw [h] at this
      exact (Except.ok.inj this).symm
    subst hsame
    dsimp only
    rw [hk, if_pos (Header.announces_iff.2 hk)]

theorem readOf_of_mismatch (hc : s.limits.Passes headerSize) (h : Header.ofBytes s.rest = .ok hd)
    {k : Kind} (hk : hd.payloadType ≠ .member k) :
    readOf k s = .error hd.unexpected (s.skip headerSize) := by
  have hn : ¬ hd.announces k = true := fun ha => hk (Header.announces_iff.1 ha)
  simp only [readOf, Header.read_of_passes hc h, if_neg hn]

theorem readReplaceMessage_of_mismatch (hc : s.limits.Passes headerSize)
    (h : Header.ofBytes s.rest = .ok hd) {p : Message} (hk : hd.payloadType ≠ .member p.kind) :
    readReplaceMessage (s, p) = .error hd.unexpected (s.skip headerSize, p) := by
  have hn : ¬ hd.announces p.kind = true := fun ha => hk (Header.announces_iff.1 ha)
  simp only [readReplaceMessage, bind_apply, Decoder.read_apply, Header.read_of_passes hc h,
    Decoder.target_apply, if_neg hn, Decoder.fail]

theorem readAny_of_unnamed (hc : s.limits.Passes headerSize) (h : Header.ofBytes s.rest = .ok hd)
    (hk : ∀ k, hd.payloadType ≠ .member k) :
    readAny s = .error hd.unexpected (s.skip headerSize) := by
  unfold readAny
  rw [Header.read_of_passes hc h]
  dsimp only
  split
  · rename_i k hm
    exact absurd hm (hk k)
  · rfl

theorem readBorrowedMessage_of_mismatch {b : List UInt8} (h : Header.ofBytes b = .ok hd)
    {k : DiagnosticKind} (hk : hd.payloadType ≠ .member k.kind) :
    readBorrowedMessage k b = .error hd.unexpected := by
  have hn : ¬ hd.announces k.kind = true := fun ha => hk (Header.announces_iff.1 ha)
  rw [readBorrowedMessage_of_header h, if_neg hn]

theorem reads_of_cap_lt {c : Nat} (hc : s.limits.readCap = some c) (hlt : c < headerSize) :
    (∀ k, readOf k s = .error (.truncated (min c s.rest.length) headerSize)
      (s.skip (min c s.rest.length))) ∧
    readAny s = .error (.truncated (min c s.rest.length) headerSize) (s.skip (min c s.rest.length)) ∧
    ∀ p : Message, readReplaceMessage (s, p) =
      .error (.truncated (min c s.rest.length) headerSize) (s.skip (min c s.rest.length), p) := by
  have hr := Header.read_of_cap_lt hc hlt
  refine ⟨fun k => ?_, ?_, fun p => ?_⟩
  · simp only [readOf, hr]
  · simp only [readAny, hr]
  · simp only [readReplaceMessage, bind_apply, Decoder.read_apply, hr]

end Message

open Message in
/-- Dispatch agrees with the typed read, and a refused type never drains the payload. From every
source whose first eight bytes spell a header announcing a kind, the kind is the one whose code is
on the wire and reading any message is reading a message of that kind. From every source whose read
limit lets the eight header bytes through in one request, a header whose type differs from the
kind expected (every kind, for a reserved or manufacturer type, and any message then as well) is
refused with the code and length on the wire, having consumed exactly the header; an instance
decoded into is left as it was, and a whole message in a buffer is refused with the same error.
Under a read limit below eight the header's own request is cut, and every read fails on it. -/
theorem dispatch_agrees_with_typed_read :
    (∀ (s : Source) (hd : Header) (k : Kind), Header.ofBytes s.rest = .ok hd →
      hd.payloadType = .member k →
      BigEndian.ofBytes (slice s.rest 2 2) = k.code ∧ readAny s = readOf k s) ∧
    (∀ (s : Source) (hd : Header), s.limits.Passes headerSize → Header.ofBytes s.rest = .ok hd →
      (∀ k : Kind, hd.payloadType ≠ .member k →
        readOf k s = .error (.unexpectedPayloadType (BigEndian.ofBytes (slice s.rest 2 2))
          (BigEndian.ofBytes (slice s.rest 4 4))) (s.skip headerSize) ∧
        ∀ p : Message, p.kind = k → readReplaceMessage (s, p) =
          .error (.unexpectedPayloadType (BigEndian.ofBytes (slice s.rest 2 2))
            (BigEndian.ofBytes (slice s.rest 4 4))) (s.skip headerSize, p)) ∧
      ((∀ k, hd.payloadType ≠ .member k) →
        readAny s = .error (.unexpectedPayloadType (BigEndian.ofBytes (slice s.rest 2 2))
          (BigEndian.ofBytes (slice s.rest 4 4))) (s.skip headerSize))) ∧
    (∀ (b : List UInt8) (hd : Header) (k : DiagnosticKind), Header.ofBytes b = .ok hd →
      hd.payloadType ≠ .member k.kind →
      readBorrowedMessage k b = .error (.unexpectedPayloadType (BigEndian.ofBytes (slice b 2 2))
        (BigEndian.ofBytes (slice b 4 4)))) ∧
    (∀ (s : Source) (c : Nat), s.limits.readCap = some c → c < headerSize →
      ∀ k, readOf k s = .error (.truncated (min c s.rest.length) headerSize)
        (s.skip (min c s.rest.length))) := by
  refine ⟨fun s hd k h hk => ⟨?code, readAny_eq_readOf h hk⟩, fun s hd hc h => ⟨fun k hk => ⟨?typed, ?into⟩,
    fun hk => ?any⟩, fun b hd k h hk => ?borrowed, fun s c hc hlt => (reads_of_cap_lt hc hlt).1⟩
  case code =>
    have := Header.code_of_ofBytes h
    rw [hk] at this
    simp only [PayloadType.code, OpenCode.value, CodeTable.value] at this
    omega
  case typed => rw [readOf_of_mismatch hc h hk, Header.unexpected_of_ofBytes h]
  case into =>
    rintro p rfl
    rw [readReplaceMessage_of_mismatch hc h hk, Header.unexpected_of_ofBytes h]
  case any => rw [readAny_of_unnamed hc h hk, Header.unexpected_of_ofBytes h]
  case borrowed => rw [readBorrowedMessage_of_mismatch h hk, Header.unexpected_of_ofBytes h]

theorem dispatch_agrees_with_typed_read_aliveCheck :
    ReadLimits.plain.Passes headerSize ∧
      Header.ofBytes [2, 253, 0, 8, 0, 0, 0, 2, 4, 0x54] =
        .ok ⟨2, 253, .member .aliveCheckResponse, 2⟩ ∧
      Message.readOf .aliveCheckRequest (Source.ofBytes .plain [2, 253, 0, 8, 0, 0, 0, 2, 4, 0x54]) =
        .error (.unexpectedPayloadType 8 2)
          ((Source.ofBytes .plain [2, 253, 0, 8, 0, 0, 0, 2, 4, 0x54]).skip headerSize) := by
  have hc : ReadLimits.plain.Passes headerSize := fun c h => by cases h
  have h : Header.ofBytes [2, 253, 0, 8, 0, 0, 0, 2, 4, 0x54] =
      .ok ⟨2, 253, .member .aliveCheckResponse, 2⟩ := by decide
  exact ⟨hc, h, ((dispatch_agrees_with_typed_read.2.1 _ _ hc h).1 .aliveCheckRequest
    (by simp)).1⟩

/-- The header's own request is cut by a read limit of five bytes: a message of another type is
not refused for its type but fails on the header, having consumed five bytes. -/
theorem header_cut_before_type_check :
    Header.ofBytes [2, 253, 0, 8, 0, 0, 0, 2, 4, 0x54] =
        .ok ⟨2, 253, .member .aliveCheckResponse, 2⟩ ∧
      Message.readOf .aliveCheckRequest (Source.ofBytes ⟨true, some 5, none⟩ [2, 253, 0, 8, 0, 0, 0, 2, 4, 0x54]) =
        .error (.truncated 5 8) ((Source.ofBytes ⟨true, some 5, none⟩ [2, 253, 0, 8, 0, 0, 0, 2, 4, 0x54]).skip 5) :=
  ⟨by decide, rfl⟩

end DoipWire
