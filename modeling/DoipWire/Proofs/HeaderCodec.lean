import DoipWire.Proofs.Reencode
import Mathlib.Data.Int.Bitwise

/-!
# The header codec

Decoding and encoding a header undo each other on bytes, and on every header whose fields fit and
whose payload type the registry hands out (`PayloadType.Registered`); any other mark is written
like the registered type of its code (`Header.canonical`).
-/

namespace DoipWire

/-! ## The registry of payload types -/

theorem Kind.code_of_ofCode {c : Nat} {k : Kind} (h : Kind.ofCode? c = some k) : k.code = c := by
  have := List.find?_some h
  simpa using this

theorem Kind.ofCode_of_le {c : Nat} (hc : PayloadType.vmSpecificStart ≤ c) :
    Kind.ofCode? c = none := by
  cases h : Kind.ofCode? c with
  | none => rfl
  | some k =>
    have := Kind.code_of_ofCode h
    have := k.code_lt
    simp only [PayloadType.vmSpecificStart] at hc
    omega

namespace PayloadType

/-- The payload types the registry hands out for two-byte codes: every kind, a reserved code below
`0xF000` that names no kind, and a code from `0xF000` to `0xFFFF` left to manufacturers. -/
def Registered : PayloadType → Prop
  | .member _ => True
  | .reserved c => 0 ≤ c ∧ c < vmSpecificStart ∧ Kind.ofCode? c.toNat = none
  | .vmSpecific c => vmSpecificStart ≤ c ∧ c ≤ 0xFFFF

instance (t : PayloadType) : Decidable t.Registered :=
  match t with
  | .member _ => inferInstanceAs (Decidable True)
  | .reserved c =>
    inferInstanceAs (Decidable (0 ≤ c ∧ c < vmSpecificStart ∧ Kind.ofCode? c.toNat = none))
  | .vmSpecific c => inferInstanceAs (Decidable ((vmSpecificStart : Int) ≤ c ∧ c ≤ 0xFFFF))

theorem classify_registered {c : Nat} (hc : c < 2 ^ 16) : (classify c).Registered := by
  unfold classify
  cases h : Kind.ofCode? c with
  | some k => trivial
  | none =>
    by_cases hv : vmSpecificStart ≤ c
    · simp only [hv, if_true, Registered]
      omega
    · simp only [hv, if_false, Registered, Int.toNat_natCast, h, and_true]
      omega

theorem classify_code {t : PayloadType} (ht : t.Registered) : classify t.code.toNat = t := by
  cases t with
  | member k =>
    simp [code, OpenCode.value, CodeTable.value, classify, Kind.ofCode_code]
  | reserved c =>
    obtain ⟨h0, hlt, hnone⟩ := ht
    have hv : ¬ vmSpecificStart ≤ c.toNat := by omega
    simp only [classify, code, OpenCode.value, hnone, hv, if_false, Int.toNat_of_nonneg h0]
  | vmSpecific c =>
    obtain ⟨hge, -⟩ := ht
    have hv : vmSpecificStart ≤ c.toNat := by omega
    simp only [classify, code, OpenCode.value, Kind.ofCode_of_le hv, hv, if_true,
      Int.toNat_of_nonneg (by omega : (0 : Int) ≤ c)]

theorem code_lt_of_registered {t : PayloadType} (ht : t.Registered) : 0 ≤ t.code ∧ t.code < 2 ^ 16 := by
  cases t with
  | member k =>
    have := k.code_lt
    simp only [code, OpenCode.value, CodeTable.value]
    omega
  | reserved c =>
    obtain ⟨h0, hlt, -⟩ := ht
    simp only [code, OpenCode.value, vmSpecificStart] at hlt ⊢
    omega
  | vmSpecific c =>
    obtain ⟨hge, hle⟩ := ht
    simp only [code, OpenCode.value, vmSpecificStart] at hge ⊢
    omega

theorem registered_iff {t : PayloadType} : t.Registered ↔ ∃ c, c < 2 ^ 16 ∧ classify c = t := by
  constructor
  · intro ht
    obtain ⟨h0, h16⟩ := code_lt_of_registered ht
    exact ⟨t.code.toNat, by omega, classify_code ht⟩
  · rintro ⟨c, hc, rfl⟩
    exact classify_registered hc

end PayloadType

/-! ## The inverse version byte -/

theorem ldiff_low_byte (n : Nat) : Nat.ldiff (2 ^ 8 - 1) n = 2 ^ 8 - (n % 2 ^ 8 + 1) := by
  apply Nat.eq_of_testBit_eq
  intro i
  rw [Nat.testBit_ldiff, Nat.testBit_two_pow_sub_succ (Nat.mod_lt _ (by decide)),
    Nat.testBit_mod_two_pow, Nat.testBit_two_pow_sub_one]
  cases decide (i < 8) <;> simp

theorem inverseVersion_eq_land (v : Int) : inverseVersion v = Int.land (~~~v) 0xFF := by
  unfold inverseVersion
  cases v with
  | ofNat n =>
    -- the complement of a natural number is negative: the mask keeps the low byte of `255 - n`
    show (-(n : Int) - 1) % 256 = ((Nat.ldiff 255 n : Nat) : Int)
    rw [show (255 : Nat) = 2 ^ 8 - 1 from rfl, ldiff_low_byte]
    omega
  | negSucc n =>
    show (-(Int.negSucc n) - 1) % 256 = ((n &&& 255 : Nat) : Int)
    rw [show (255 : Nat) = 2 ^ 8 - 1 from rfl, Nat.and_two_pow_sub_one_eq_mod]
    omega

namespace Header

theorem inverseVersion_new (t : PayloadType) (len v : Int) :
    (new t len v).inverseVersion = Int.land (~~~v) 0xFF :=
  inverseVersion_eq_land v

/-! ## Headers whose fields fit their bytes -/

/-- Both version bytes in `0 .. 255`, a payload type code of two bytes and a length of four. -/
def Fits (h : Header) : Prop :=
  0 ≤ h.version ∧ h.version < 256 ∧ 0 ≤ h.inverseVersion ∧ h.inverseVersion < 256 ∧
    0 ≤ h.payloadType.code ∧ h.payloadType.code < 2 ^ 16 ∧
    0 ≤ h.payloadLength ∧ h.payloadLength < 2 ^ 32

instance (h : Header) : Decidable h.Fits := inferInstanceAs (Decidable (_ ∧ _))

/-- The header with its payload type replaced by what the registry makes of its code. -/
def canonical (h : Header) : Header :=
  { h with payloadType := PayloadType.classify h.payloadType.code.toNat }

theorem toBytes_of_fits {h : Header} (hf : h.Fits) :
    h.toBytes = .ok ([UInt8.ofNat h.version.toNat, UInt8.ofNat h.inverseVersion.toNat] ++
      BigEndian.toBytes 2 h.payloadType.code.toNat ++ BigEndian.toBytes 4 h.payloadLength.toNat) := by
  obtain ⟨hv0, hv, hi0, hi, hc0, hc, hl0, hl⟩ := hf
  have hvs : BigEndian.bytesOf [h.version, h.inverseVersion] =
      .ok [UInt8.ofNat h.version.toNat, UInt8.ofNat h.inverseVersion.toNat] := by
    rw [BigEndian.bytesOf_eq_ok]
    refine ⟨fun x hx => ?_, rfl⟩
    simp only [List.mem_cons, List.not_mem_nil, or_false] at hx
    rcases hx with rfl | rfl <;> omega
  simp [toBytes, hvs, BigEndian.encode_of_lt hc0 (by omega : h.payloadType.code < 256 ^ 2),
    BigEndian.encode_of_lt hl0 (by omega : h.payloadLength < 256 ^ 4), pure, Except.pure]

theorem toBytes_canonical {h : Header} (h0 : 0 ≤ h.payloadType.code) :
    h.canonical.toBytes = h.toBytes := by
  simp only [toBytes, canonical, PayloadType.code_classify, Int.toNat_of_nonneg h0]

theorem canonical_registered {h : Header} (hf : h.Fits) : h.canonical.payloadType.Registered :=
  PayloadType.classify_registered (by obtain ⟨-, -, -, -, h0, h16, -⟩ := hf; omega)

theorem canonical_eq_self_iff {h : Header} (hf : h.Fits) :
    h.canonical = h ↔ h.payloadType.Registered := by
  constructor
  · intro he
    have := canonical_registered hf
    rwa [he] at this
  · intro ht
    simp [canonical, PayloadType.classify_code ht]

/-! ## Both directions -/

theorem ofBytes_toBytes {h : Header} (hf : h.Fits) {bs : List UInt8} (hb : h.toBytes = .ok bs) :
    ofBytes bs = .ok h.canonical := by
  rw [toBytes_of_fits hf, Except.ok.injEq] at hb
  subst hb
  obtain ⟨hv0, hv, hi0, hi, hc0, hc, hl0, hl⟩ := hf
  obtain ⟨t0, t1, ht⟩ : ∃ t0 t1, BigEndian.toBytes 2 h.payloadType.code.toNat = [t0, t1] := by
    match BigEndian.toBytes 2 h.payloadType.code.toNat, BigEndian.length_toBytes 2 _ with
    | [t0, t1], _ => exact ⟨t0, t1, rfl⟩
  obtain ⟨l0, l1, l2, l3, hl4⟩ :
      ∃ l0 l1 l2 l3, BigEndian.toBytes 4 h.payloadLength.toNat = [l0, l1, l2, l3] := by
    match BigEndian.toBytes 4 h.payloadLength.toNat, BigEndian.length_toBytes 4 _ with
    | [l0, l1, l2, l3], _ => exact ⟨l0, l1, l2, l3, rfl⟩
  have hcode : BigEndian.ofBytes [t0, t1] = h.payloadType.code.toNat := by
    rw [← ht, BigEndian.ofBytes_toBytes 2 _ (by omega)]
  have hlen : (BigEndian.ofBytes [l0, l1, l2, l3] : Int) = h.payloadLength := by
    rw [← hl4, BigEndian.ofBytes_toBytes 4 _ (by omega)]
    omega
  simp only [ht, hl4, List.cons_append, List.nil_append, ofBytes, hcode, hlen,
    BigEndian.toNat_ofNat_toNat hv0 hv, BigEndian.toNat_ofNat_toNat hi0 hi, canonical]

theorem toBytes_ofBytes {d : List UInt8} (hd : headerSize ≤ d.length) :
    ∃ h, ofBytes d = .ok h ∧ h.toBytes = .ok (d.take headerSize) := by
  match d, hd with
  | v :: i :: t0 :: t1 :: l0 :: l1 :: l2 :: l3 :: rest, _ =>
    refine ⟨_, rfl, ?_⟩
    have hvs : BigEndian.bytesOf [(v.toNat : Int), (i.toNat : Int)] = .ok [v, i] := by
      rw [BigEndian.bytesOf_eq_ok]
      refine ⟨fun x hx => ?_, by simp⟩
      simp only [List.mem_cons, List.not_mem_nil, or_false] at hx
      rcases hx with rfl | rfl
      · have := v.toNat_lt; omega
      · have := i.toNat_lt; omega
    have hcode : BigEndian.encode 2 (BigEndian.ofBytes [t0, t1]) = .ok [t0, t1] :=
      BigEndian.encode_ofBytes [t0, t1]
    have hlen : BigEndian.encode 4 (BigEndian.ofBytes [l0, l1, l2, l3]) = .ok [l0, l1, l2, l3] :=
      BigEndian.encode_ofBytes [l0, l1, l2, l3]
    simp [toBytes, hvs, PayloadType.code_classify, hcode, hlen, pure, Except.pure, headerSize]

end Header

/-- The header codec in both directions. Encoding the header that eight or more bytes spell gives
back their first eight, the inverse version byte included although nothing checks it. A header
whose version bytes, code and length fit their bytes and whose payload type the registry hands out
encodes to bytes that decode to it. One whose payload type is a mark the registry never hands out
for its code encodes to the bytes of its canonical form, which is registered and differs from it,
and decodes to that form. A header built from a version derives its inverse as `~v & 0xFF`. -/
theorem header_bytes_round_trip :
    (∀ d : List UInt8, headerSize ≤ d.length →
      ∃ h, Header.ofBytes d = .ok h ∧ h.toBytes = .ok (d.take headerSize)) ∧
    (∀ h : Header, h.Fits → h.payloadType.Registered →
      ∃ bs, h.toBytes = .ok bs ∧ Header.ofBytes bs = .ok h) ∧
    (∀ h : Header, h.Fits → ¬ h.payloadType.Registered →
      h.canonical ≠ h ∧ h.canonical.payloadType.Registered ∧ h.toBytes = h.canonical.toBytes ∧
        ∃ bs, h.toBytes = .ok bs ∧ Header.ofBytes bs = .ok h.canonical) ∧
    (∀ (t : PayloadType) (len v : Int), (Header.new t len v).inverseVersion = Int.land (~~~v) 0xFF) := by
  refine ⟨fun d hd => Header.toBytes_ofBytes hd, fun h hf ht => ?registered,
    fun h hf ht => ?unregistered, Header.inverseVersion_new⟩
  case registered =>
    obtain ⟨bs, hb⟩ : ∃ bs, h.toBytes = .ok bs := ⟨_, Header.toBytes_of_fits hf⟩
    refine ⟨bs, hb, ?_⟩
    rw [Header.ofBytes_toBytes hf hb, (Header.canonical_eq_self_iff hf).2 ht]
  case unregistered =>
    obtain ⟨bs, hb⟩ : ∃ bs, h.toBytes = .ok bs := ⟨_, Header.toBytes_of_fits hf⟩
    have h0 : 0 ≤ h.payloadType.code := hf.2.2.2.2.1
    exact ⟨fun he => ht ((Header.canonical_eq_self_iff hf).1 he), Header.canonical_registered hf,
      (Header.toBytes_canonical h0).symm, bs, hb, Header.ofBytes_toBytes hf hb⟩

theorem header_bytes_round_trip_reserved :
    (⟨2, 253, .reserved 0x8001, 4⟩ : Header).Fits ∧
      ¬ PayloadType.Registered (.reserved 0x8001) ∧
      (⟨2, 253, .reserved 0x8001, 4⟩ : Header).canonical = ⟨2, 253, .member .diagnosticMessage, 4⟩ ∧
      (⟨2, 253, .reserved 0x8001, 4⟩ : Header).toBytes =
        (⟨2, 253, .reserved 0x8001, 4⟩ : Header).canonical.toBytes :=
  have hf : (⟨2, 253, .reserved 0x8001, 4⟩ : Header).Fits := by decide
  have ht : ¬ PayloadType.Registered (.reserved 0x8001) := by decide
  ⟨hf, ht, by decide, (header_bytes_round_trip.2.2.1 _ hf ht).2.2.1⟩

end DoipWire
