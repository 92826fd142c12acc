import DoipWire.Message.Decode
import DoipWire.Message.Encode
import Mathlib.Data.List.Induction
import Mathlib.Algebra.Group.Int.Defs
import Mathlib.Algebra.Group.Nat.Defs

/-!
# Fields, slices and code bytes

Big-endian fields and code bytes read back what was written, slices of a body put together give
the body, and allocation refuses exactly the sizes past the byte-string limit.
-/

namespace DoipWire

@[simp] theorem except_ok_bind {ε α β : Type} (a : α) (f : α → Except ε β) :
    (Except.ok a : Except ε α) >>= f = f a := rfl

@[simp] theorem except_error_bind {ε α β : Type} (e : ε) (f : α → Except ε β) :
    (Except.error e : Except ε α) >>= f = .error e := rfl

theorem except_bind_eq_ok {ε α β : Type} {x : Except ε α} {f : α → Except ε β} {b : β} :
    x >>= f = .ok b ↔ ∃ a, x = .ok a ∧ f a = .ok b := by
  cases x with
  | error e => simp [bind, Except.bind]
  | ok a => simp [bind, Except.bind]

theorem except_map_eq_ok {ε α β : Type} {x : Except ε α} {f : α → β} {b : β} :
    f <$> x = .ok b ↔ ∃ a, x = .ok a ∧ f a = b := by
  cases x with
  | error e => simp [Functor.map, Except.map]
  | ok a => simp [Functor.map, Except.map]

@[simp] theorem int_pow_eq (m : Int) (n : Nat) : m.pow n = m ^ n := rfl

namespace BigEndian

theorem ofBytes_append_singleton (xs : List UInt8) (b : UInt8) :
    ofBytes (xs ++ [b]) = ofBytes xs * 256 + b.toNat := by
  simp [ofBytes_append]

theorem ofBytes_lt (bs : List UInt8) : ofBytes bs < 256 ^ bs.length := by
  induction bs using List.reverseRecOn with
  | nil => simp [ofBytes]
  | append_singleton xs b ih =>
    rw [ofBytes_append_singleton, List.length_append, List.length_singleton, Nat.pow_succ]
    have hb := b.toNat_lt
    omega

theorem ofBytes_toBytes (w n : Nat) (h : n < 256 ^ w) : ofBytes (toBytes w n) = n := by
  induction w generalizing n with
  | zero => simp [toBytes, ofBytes]; omega
  | succ w ih =>
    have hq : n / 256 < 256 ^ w := by
      rw [Nat.pow_succ, Nat.mul_comm] at h; exact Nat.div_lt_of_lt_mul h
    rw [toBytes, ofBytes_append, ih _ hq]
    simp only [List.foldl_cons, List.foldl_nil]
    have : (UInt8.ofNat (n % 256)).toNat = n % 256 := by
      simp [UInt8.toNat_ofNat']
    rw [this]; omega

theorem toBytes_ofBytes (bs : List UInt8) : toBytes bs.length (ofBytes bs) = bs := by
  induction bs using List.reverseRecOn with
  | nil => rfl
  | append_singleton xs b ih =>
    have hb := b.toNat_lt
    have hq : (ofBytes xs * 256 + b.toNat) / 256 = ofBytes xs := by omega
    have hr : (ofBytes xs * 256 + b.toNat) % 256 = b.toNat := by omega
    rw [List.length_append, List.length_singleton, toBytes, ofBytes_append_singleton, hq, hr, ih,
      UInt8.ofNat_toNat]

theorem encode_eq_ok {w : Nat} {v : Int} {bs : List UInt8} :
    encode w v = .ok bs ↔ 0 ≤ v ∧ v < 256 ^ w ∧ bs = toBytes w v.toNat := by
  unfold encode
  rw [int_pow_eq]
  by_cases hn : v < 0
  · rw [if_pos hn]
    constructor
    · intro h; cases h
    · rintro ⟨h0, -⟩; omega
  · by_cases hl : (256 : Int) ^ w ≤ v
    · rw [if_neg hn, if_pos hl]
      constructor
      · intro h; cases h
      · rintro ⟨-, hw, -⟩; omega
    · simp only [hn, hl, if_false, Except.ok.injEq]
      constructor
      · rintro rfl; exact ⟨by omega, by omega, rfl⟩
      · rintro ⟨-, -, rfl⟩; rfl

theorem encode_of_lt {w : Nat} {v : Int} (h0 : 0 ≤ v) (hw : v < 256 ^ w) :
    encode w v = .ok (toBytes w v.toNat) :=
  encode_eq_ok.2 ⟨h0, hw, rfl⟩

theorem ofBytes_lt_int (bs : List UInt8) : (ofBytes bs : Int) < 256 ^ bs.length := by
  have h := ofBytes_lt bs
  rw [← Int.ofNat_lt, Int.natCast_pow] at h
  exact h

theorem encode_ofBytes (bs : List UInt8) : encode bs.length (ofBytes bs) = .ok bs := by
  rw [encode_of_lt (Int.natCast_nonneg _) (ofBytes_lt_int bs), Int.toNat_natCast, toBytes_ofBytes]

theorem ofBytes_toBytes_of_encode {w : Nat} {v : Int} {bs : List UInt8}
    (h : encode w v = .ok bs) : (ofBytes bs : Int) = v := by
  obtain ⟨h0, hw, rfl⟩ := encode_eq_ok.1 h
  have hw' : v.toNat < 256 ^ w := by
    rw [← Int.ofNat_lt, Int.natCast_pow, Int.toNat_of_nonneg h0]; exact hw
  rw [ofBytes_toBytes w v.toNat hw']
  omega

theorem length_of_encode {w : Nat} {v : Int} {bs : List UInt8} (h : encode w v = .ok bs) :
    bs.length = w := by
  obtain ⟨-, -, rfl⟩ := encode_eq_ok.1 h
  exact length_toBytes w _

theorem bytesOf_eq_ok {vs : List Int} {bs : List UInt8} :
    bytesOf vs = .ok bs ↔
      (∀ v ∈ vs, 0 ≤ v ∧ v < 256) ∧ bs = vs.map (fun v => UInt8.ofNat v.toNat) := by
  unfold bytesOf
  split
  · rename_i h
    simp only [List.all_eq_true, decide_eq_true_eq] at h
    simp only [Except.ok.injEq]
    exact ⟨fun e => ⟨h, e.symm⟩, fun ⟨_, e⟩ => e.symm⟩
  · rename_i h
    simp only [List.all_eq_true, decide_eq_true_eq] at h
    simp only [reduceCtorEq, false_iff, not_and]
    exact fun h' => absurd h' h

theorem toNat_ofNat_toNat {v : Int} (h0 : 0 ≤ v) (h : v < 256) :
    ((UInt8.ofNat v.toNat).toNat : Int) = v := by
  simp [UInt8.toNat_ofNat']
  omega

end BigEndian

/-! ## Slices -/

@[simp] theorem length_slice (bs : List UInt8) (start n : Nat) :
    (slice bs start n).length = min n (bs.length - start) := by
  simp [slice]

theorem slice_append_slice (bs : List UInt8) (a n m : Nat) :
    slice bs a n ++ slice bs (a + n) m = slice bs a (n + m) := by
  simp only [slice, List.take_add, List.drop_drop, Nat.add_comm a n]

theorem slice_all (bs : List UInt8) : slice bs 0 bs.length = bs := by
  simp [slice]

theorem slice_take {bs : List UInt8} {a n len : Nat} (h : a + n ≤ len) :
    slice (bs.take len) a n = slice bs a n := by
  simp only [slice, List.drop_take, List.take_take]
  congr 1
  omega

theorem slice_drop (bs : List UInt8) (a n : Nat) : slice (bs.drop a) 0 n = slice bs a n := by
  simp [slice]

theorem drop_take_eq_slice (bs : List UInt8) (a n : Nat) :
    (bs.take n).drop a = slice bs a (n - a) := by
  simp [slice, List.drop_take]

theorem slice_head_four (bs : List UInt8) {a : Nat} (h : a + 2 ≤ 4) :
    slice (slice bs 0 4) a 2 = slice bs a 2 := by
  rw [show slice bs 0 4 = bs.take 4 by simp [slice]]
  exact slice_take h

theorem byteAt_eq_slice {bs : List UInt8} {i : Nat} (h : i < bs.length) :
    [UInt8.ofNat (byteAt bs i).toNat] = slice bs i 1 := by
  simp only [byteAt, Int.toNat_natCast, UInt8.ofNat_toNat, slice]
  rw [List.take_one, List.head?_drop, List.getElem?_eq_getElem h]
  simp [List.headD_eq_head?_getD, List.head?_drop, List.getElem?_eq_getElem h]

theorem byteAt_ofNat {v : Int} (h0 : 0 ≤ v) (h : v < 256) (rest : List UInt8) :
    byteAt (UInt8.ofNat v.toNat :: rest) 0 = v := by
  simpa [byteAt] using BigEndian.toNat_ofNat_toNat h0 h

theorem byteAt_cons_succ (b : UInt8) (bs : List UInt8) (i : Nat) :
    byteAt (b :: bs) (i + 1) = byteAt bs i := rfl

theorem ofBytes_ofNat {v : Int} (h0 : 0 ≤ v) (h : v < 256) :
    (BigEndian.ofBytes [UInt8.ofNat v.toNat] : Int) = v := by
  simpa [BigEndian.ofBytes] using BigEndian.toNat_ofNat_toNat h0 h

theorem byteAt_lt (bs : List UInt8) (i : Nat) : 0 ≤ byteAt bs i ∧ byteAt bs i < 256 := by
  have := ((bs.drop i).headD 0).toNat_lt
  simp only [byteAt]
  omega

theorem ofBytes_slice_one (bs : List UInt8) (i : Nat) :
    (BigEndian.ofBytes (slice bs i 1) : Int) = byteAt bs i := by
  simp only [slice, byteAt]
  cases bs.drop i with
  | nil => rfl
  | cons b rest => simp [BigEndian.ofBytes]

theorem bytesOf_byteAt {bs : List UInt8} {i : Nat} (h : i < bs.length) :
    BigEndian.bytesOf [byteAt bs i] = .ok (slice bs i 1) := by
  rw [BigEndian.bytesOf_eq_ok.2 ⟨by simpa using byteAt_lt bs i, rfl⟩, List.map_singleton,
    byteAt_eq_slice h]

theorem encode_ofBytes_slice {bs : List UInt8} {a n : Nat} (h : a + n ≤ bs.length) :
    BigEndian.encode n (BigEndian.ofBytes (slice bs a n)) = .ok (slice bs a n) := by
  have hl : (slice bs a n).length = n := by simp; omega
  have := BigEndian.encode_ofBytes (slice bs a n)
  rwa [hl] at this

theorem joined_eq_ok {x : Option (List UInt8)} {bs : List UInt8} :
    joined x = .ok bs ↔ x = some bs := by
  cases x <;> simp [joined]

/-! ## Allocating data -/

theorem indexLimit_eq : indexLimit = 9223372036854775808 := rfl

theorem byteStringLimit_eq : byteStringLimit = 9223372036854775775 := rfl

theorem checkAllocation_of_lt {n : Nat} (h : n < byteStringLimit) : checkAllocation n = .ok () := by
  rw [byteStringLimit_eq] at h
  unfold checkAllocation
  rw [indexLimit_eq, byteStringLimit_eq, if_neg (by omega), if_neg (by omega)]

theorem checkAllocation_eq_ok {n : Nat} : checkAllocation n = .ok () ↔ n < byteStringLimit := by
  refine ⟨fun h => ?_, checkAllocation_of_lt⟩
  unfold checkAllocation at h
  rw [indexLimit_eq, byteStringLimit_eq] at *
  split at h
  · cases h
  · split at h
    · cases h
    · omega

theorem checkAllocation_error {n : Nat} {e : Error} (h : checkAllocation n = .error e) :
    byteStringLimit ≤ n ∧ (e = .indexOverflow ∨ e = .bytesTooLarge) := by
  unfold checkAllocation at h
  split at h
  · cases h
    exact ⟨Nat.le_trans (Nat.sub_le _ _) ‹_›, .inl rfl⟩
  · split at h
    · cases h
      exact ⟨‹_›, .inr rfl⟩
    · cases h

@[simp] theorem length_resized (old : List UInt8) (n : Nat) :
    (old.take n ++ List.replicate (n - old.length) 0).length = n := by
  simp only [List.length_append, List.length_take, List.length_replicate]
  omega

theorem Opaque.resize_owned_of_lt {bs : List UInt8} {n : Nat} (h : n - bs.length < byteStringLimit) :
    (Opaque.owned bs).resize n = .ok (bs.take n ++ List.replicate (n - bs.length) 0) := by
  simp only [Opaque.resize, checkAllocation_of_lt h]

theorem Opaque.resize_owned_of_error {bs : List UInt8} {n : Nat} {e : Error}
    (h : checkAllocation (n - bs.length) = .error e) : (Opaque.owned bs).resize n = .error e := by
  simp only [Opaque.resize, h]

theorem Opaque.resize_eq_ok {d : Opaque} {n : Nat} {bs : List UInt8} (h : d.resize n = .ok bs) :
    ∃ old, d = .owned old ∧ n - old.length < byteStringLimit ∧
      bs = old.take n ++ List.replicate (n - old.length) 0 := by
  cases d with
  | owned old =>
    cases ha : checkAllocation (n - old.length) with
    | error e => rw [resize_owned_of_error ha] at h; cases h
    | ok u =>
      simp only [Opaque.resize, ha, Except.ok.injEq] at h
      exact ⟨old, rfl, checkAllocation_eq_ok.1 ha, h.symm⟩
  | borrowed b => cases h

/-! ## Field checks -/

theorem checkUnsigned_eq_ok {field : String} {v : Int} {w : Nat} :
    checkUnsigned field v w = .ok () ↔ 0 ≤ v ∧ v < 256 ^ w := by
  unfold checkUnsigned; split <;> simp_all

theorem checkWidth_eq_ok {field : String} {bs : List UInt8} {w : Nat} :
    checkWidth field bs w = .ok () ↔ bs.length = w := by
  unfold checkWidth; split <;> simp_all

theorem checkPresentWidth_eq_ok {field : String} {bs : Option (List UInt8)} {w : Nat} :
    checkPresentWidth field bs w = .ok () ↔ ∃ b, bs = some b ∧ b.length = w := by
  unfold checkPresentWidth; split <;> simp [checkWidth_eq_ok]

theorem checkOptionalWidth_eq_ok {field : String} {bs : Option (List UInt8)} {w : Nat} :
    checkOptionalWidth field bs w = .ok () ↔ ∀ b, bs = some b → b.length = w := by
  unfold checkOptionalWidth; split <;> simp [checkWidth_eq_ok]

/-! ## Code bytes -/

namespace CodeTable

variable {α : Type} [CodeTable α]

theorem value_of_ofValue {v : Int} {a : α} (h : ofValue? v = some a) : (value a : Int) = v := by
  have := List.find?_some h
  simpa using this

end CodeTable

namespace OpenCode

variable {α : Type} [CodeTable α]

@[simp] theorem value_ofByte (v : Int) : (ofByte v : OpenCode α).value = v := by
  unfold ofByte
  split
  · rename_i a h; exact CodeTable.value_of_ofValue h
  · rfl

end OpenCode

@[simp] theorem FurtherAction.value_ofByte (v : Int) : (FurtherAction.ofByte v).value = v := by
  unfold FurtherAction.ofByte
  split
  · rename_i a h; exact CodeTable.value_of_ofValue h
  · split <;> rfl

theorem ActivationType.value_of_ofByte {v : Int} {a : ActivationType}
    (h : ActivationType.ofByte v = .ok a) : (CodeTable.value a : Int) = v := by
  unfold ActivationType.ofByte at h
  split at h
  · rename_i a' h'; cases h; exact CodeTable.value_of_ofValue h'
  · cases h

theorem ResponseCode.value_of_ofByte {v : Int} {a : ResponseCode}
    (h : ResponseCode.ofByte v = .ok a) : (CodeTable.value a : Int) = v := by
  unfold ResponseCode.ofByte at h
  split at h
  · rename_i a' h'; cases h; exact CodeTable.value_of_ofValue h'
  · cases h

end DoipWire
