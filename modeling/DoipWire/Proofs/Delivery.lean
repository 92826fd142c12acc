import DoipWire.Proofs.Reading

/-!
# How much a source delivers

One request hands out at most what it asks for, what the read limit lets through and what the
source holds; fills repeat until the buffer is full or one brings nothing (`fillable`). Filling a
buffer in place reads exactly as receiving fresh bytes (`into_readInto`).
-/

namespace DoipWire

/-- Every fill, wherever in the stream it starts, may bring a byte. -/
def ReadLimits.FillsAdvance (l : ReadLimits) : Prop := ∀ c, l.fillCap = some c → ∀ pos, 0 < c pos

namespace Source

/-- The bytes one request for `n` bytes hands out. -/
def requestSize (s : Source) (n : Nat) : Nat :=
  min (match s.limits.readCap with | some c => min n c | none => n) s.rest.length

/-- The bytes one fill of a buffer with room for `n` bytes delivers. -/
def fillSize (s : Source) (n : Nat) : Nat :=
  min (match s.limits.fillCap with | some c => min n (c s.consumed) | none => n) s.rest.length

theorem fillSize_le (s : Source) (n : Nat) : s.fillSize n ≤ n ∧ s.fillSize n ≤ s.rest.length := by
  unfold fillSize
  split <;> omega

/-- How many of the next `n` bytes fills deliver, one after another, before one brings
nothing. -/
def fillable (s : Source) (n : Nat) : Nat :=
  if s.fillSize n = 0 then 0
  else s.fillSize n + (s.skip (s.fillSize n)).fillable (n - s.fillSize n)
termination_by n
decreasing_by have := (s.fillSize_le n).1; omega

theorem request_eq (s : Source) (n : Nat) :
    s.request n = (s.rest.take (s.requestSize n), s.skip (s.requestSize n)) := by
  unfold request requestSize
  cases s.limits.readCap <;> simp only [advance_eq]

theorem fillOnce_eq (s : Source) (n : Nat) :
    s.fillOnce n = (s.rest.take (s.fillSize n), s.skip (s.fillSize n)) := by
  unfold fillOnce fillSize
  cases s.limits.fillCap <;> simp only [advance_eq]

theorem requestSize_le (s : Source) (n : Nat) : s.requestSize n ≤ n ∧ s.requestSize n ≤ s.rest.length := by
  unfold requestSize
  split <;> omega

theorem fillable_eq_zero {s : Source} {n : Nat} (h : s.fillSize n = 0) : s.fillable n = 0 := by
  rw [fillable, if_pos h]

theorem fillable_skip {s : Source} {n : Nat} (hj : 0 < s.fillSize n) :
    s.fillSize n + (s.skip (s.fillSize n)).fillable (n - s.fillSize n) = s.fillable n := by
  rw [fillable.eq_1 s n, if_neg (Nat.pos_iff_ne_zero.1 hj)]

theorem fillable_le (s : Source) (n : Nat) : s.fillable n ≤ n ∧ s.fillable n ≤ s.rest.length := by
  induction s, n using fillable.induct with
  | case1 s n h => rw [fillable_eq_zero h]; omega
  | case2 s n h ih =>
    -- the first fill, then the rest of the source and of the room
    have hj := s.fillSize_le n
    rw [← fillable_skip (Nat.pos_of_ne_zero h)]
    simp only [skip_rest, List.length_drop] at ih
    omega

@[simp] theorem fillable_zero (s : Source) : s.fillable 0 = 0 :=
  fillable_eq_zero (Nat.le_zero.1 (s.fillSize_le 0).1)

theorem fillable_of_advance {s : Source} (hf : s.limits.FillsAdvance) (n : Nat) :
    s.fillable n = min n s.rest.length := by
  induction s, n using fillable.induct with
  | case1 s n h =>
    -- a fill that may bring a byte brings none only without room or bytes
    rw [fillable_eq_zero h]
    unfold fillSize at h
    split at h
    · rename_i c hc
      have := hf c hc s.consumed
      omega
    · omega
  | case2 s n h ih =>
    have hj := s.fillSize_le n
    rw [← fillable_skip (Nat.pos_of_ne_zero h), ih hf]
    simp only [skip_rest, List.length_drop]
    omega

theorem fillsAdvance_of_none {l : ReadLimits} (h : l.fillCap = none) : l.FillsAdvance := by
  intro c hc
  rw [h] at hc
  cases hc

/-! ## Closed forms of the reads -/

theorem readExact_eq (n : Nat) (s : Source) :
    readExact n s =
      if n = 0 then .ok [] s
      else if s.requestSize n < n then
        .error (.truncated (s.requestSize n) n) (s.skip (s.requestSize n))
      else .ok (s.rest.take n) (s.skip n) := by
  have hle := s.requestSize_le n
  have hlen : (s.rest.take (s.requestSize n)).length = s.requestSize n := by
    simp only [List.length_take]; omega
  unfold readExact
  simp only [request_eq, hlen]
  by_cases h0 : n = 0
  · simp only [h0, if_true]
  · by_cases hs : s.requestSize n < n
    · simp only [h0, hs, if_false, if_true]
    · have hn : s.requestSize n = n := by omega
      simp only [h0, hn, Nat.lt_irrefl, if_false]

theorem readExact_error {n : Nat} {s s' : Source} {e : Error} (h : readExact n s = .error e s') :
    s.requestSize n < n ∧ e = .truncated (s.requestSize n) n ∧ s' = s.skip (s.requestSize n) := by
  rw [readExact_eq] at h
  split at h
  · cases h
  · split at h
    · rename_i hlt
      cases h
      exact ⟨hlt, rfl, rfl⟩
    · cases h

theorem receiveFrom_eq (n got : Nat) (s : Source) :
    receiveFrom n got s =
      if s.fillable (n - got) < n - got then
        .error (.truncated (got + s.fillable (n - got)) n) (s.skip (s.fillable (n - got)))
      else .ok (s.rest.take (n - got)) (s.skip (n - got)) := by
  fun_induction receiveFrom n got s with
  | case1 got s hlt chunk s₁ hfill hz =>
    -- an empty fill: nothing is left to deliver
    rw [fillOnce_eq] at hfill
    obtain ⟨rfl, rfl⟩ := Prod.mk.inj hfill
    have hj : s.fillSize (n - got) = 0 := by
      have := s.fillSize_le (n - got)
      simp only [List.length_take] at hz
      omega
    have hk : s.fillable (n - got) = 0 := fillable_eq_zero hj
    simp only [hj, hk, skip_zero, Nat.add_zero, if_pos (show 0 < n - got by omega)]
  | case2 got s hlt chunk s₁ hfill hz rest s₂ hrest ih =>
    rw [fillOnce_eq] at hfill
    obtain ⟨rfl, rfl⟩ := Prod.mk.inj hfill
    have hle := s.fillSize_le (n - got)
    have hlen : (s.rest.take (s.fillSize (n - got))).length = s.fillSize (n - got) := by
      simp only [List.length_take]; omega
    have hsum := fillable_skip (show 0 < s.fillSize (n - got) by omega)
    rw [Nat.sub_sub] at hsum
    rw [hlen] at hrest ih
    rw [hrest] at ih
    split at ih
    · cases ih
    · rename_i hk
      cases ih
      have hnk : ¬ s.fillable (n - got) < n - got := by omega
      have hj : s.fillSize (n - got) + (n - (got + s.fillSize (n - got))) = n - got := by omega
      rw [if_neg hnk, skip_skip, skip_rest, ← List.take_add, hj]
  | case3 got s hlt chunk s₁ hfill hz e s₂ hrest ih =>
    rw [fillOnce_eq] at hfill
    obtain ⟨rfl, rfl⟩ := Prod.mk.inj hfill
    have hle := s.fillSize_le (n - got)
    have hlen : (s.rest.take (s.fillSize (n - got))).length = s.fillSize (n - got) := by
      simp only [List.length_take]; omega
    have hsum := fillable_skip (show 0 < s.fillSize (n - got) by omega)
    rw [Nat.sub_sub] at hsum
    rw [hlen] at hrest ih
    rw [hrest] at ih
    split at ih
    · rename_i hk
      cases ih
      have hnk : s.fillable (n - got) < n - got := by omega
      rw [if_pos hnk, skip_skip, ← hsum, Nat.add_assoc]
    · cases ih
  | case4 got s hge =>
    have h0 : n - got = 0 := by omega
    simp [h0]

theorem place_place (buf a b : List UInt8) {pos : Nat} (h : pos ≤ buf.length) :
    place (place buf pos a) (pos + a.length) b = place buf pos (a ++ b) := by
  have ht : (buf.take pos ++ a).length = pos + a.length := by simp; omega
  unfold place
  rw [List.take_left' ht, List.drop_append, ht, List.drop_eq_nil_of_le (by omega), List.nil_append,
    List.drop_drop, List.length_append]
  simp only [List.append_assoc,
    show pos + a.length + (pos + a.length + b.length - (pos + a.length)) = pos + (a.length + b.length)
      by omega]

@[simp] theorem place_nil (buf : List UInt8) (pos : Nat) : place buf pos [] = buf := by
  simp [place]

theorem fillFrom_eq (size filled : Nat) (s : Source) (buf : List UInt8) (hb : buf.length = size) :
    fillFrom size filled (s, buf) =
      if s.fillable (size - filled) < size - filled then
        .error (.truncated (filled + s.fillable (size - filled)) size)
          (s.skip (s.fillable (size - filled)),
            place buf filled (s.rest.take (s.fillable (size - filled))))
      else .ok () (s.skip (size - filled), place buf filled (s.rest.take (size - filled))) := by
  generalize hst : (s, buf) = st
  replace hb : st.2.length = size := by rw [← hst]; exact hb
  obtain ⟨rfl, rfl⟩ : s = st.1 ∧ buf = st.2 := by rw [← hst]; exact ⟨rfl, rfl⟩
  clear hst
  fun_induction fillFrom size filled st with
  | case1 filled st hlt chunk s₁ hfill hz =>
    rw [fillOnce_eq] at hfill
    obtain ⟨rfl, rfl⟩ := Prod.mk.inj hfill
    have hj : st.1.fillSize (size - filled) = 0 := by
      have := st.1.fillSize_le (size - filled)
      simp only [List.length_take] at hz
      omega
    have hk : st.1.fillable (size - filled) = 0 := fillable_eq_zero hj
    simp only [hj, hk, skip_zero, Nat.add_zero, List.take_zero, place_nil,
      if_pos (show 0 < size - filled by omega)]
  | case2 filled st hlt chunk s₁ hfill hz ih =>
    rw [fillOnce_eq] at hfill
    obtain ⟨rfl, rfl⟩ := Prod.mk.inj hfill
    have hle := st.1.fillSize_le (size - filled)
    have hlen : (st.1.rest.take (st.1.fillSize (size - filled))).length =
        st.1.fillSize (size - filled) := by
      simp only [List.length_take]; omega
    have hsum := fillable_skip (show 0 < st.1.fillSize (size - filled) by omega)
    rw [Nat.sub_sub] at hsum
    -- the buffer keeps its length, so the induction hypothesis applies to it
    have hb' : (place st.2 filled (st.1.rest.take (st.1.fillSize (size - filled)))).length = size := by
      simp only [place, List.length_append, List.length_take, List.length_drop, hlen]
      omega
    rw [ih hb']
    dsimp only
    simp only [place_place st.2 (st.1.rest.take (st.1.fillSize (size - filled))) _ (show filled ≤ st.2.length by omega)]
    rw [hlen]
    by_cases hk : (st.1.skip (st.1.fillSize (size - filled))).fillable
        (size - (filled + st.1.fillSize (size - filled))) < size - (filled + st.1.fillSize (size - filled))
    · have hnk : st.1.fillable (size - filled) < size - filled := by omega
      rw [if_pos hk, if_pos hnk, skip_skip, skip_rest, ← List.take_add, ← hsum, Nat.add_assoc]
    · have hnk : ¬ st.1.fillable (size - filled) < size - filled := by omega
      have hj : st.1.fillSize (size - filled) + (size - (filled + st.1.fillSize (size - filled))) =
          size - filled := by omega
      rw [if_neg hk, if_neg hnk, skip_skip, skip_rest, ← List.take_add, hj]
  | case3 filled st hge =>
    have h0 : size - filled = 0 := by omega
    simp [h0]

end Source

/-! ## Decoding seen as a read -/

namespace Decoder

variable {α β : Type}

def into (d : Decoder α β) (m : α) : Reading α := fun s =>
  match d (s, m) with
  | .ok _ (s', m') => .ok m' s'
  | .error e (s', _) => .error e s'

end Decoder

open Source

theorem into_readInto (buf : List UInt8) : Decoder.into readInto buf = receive buf.length := by
  funext s
  unfold Decoder.into readInto receive
  by_cases h0 : buf.length = 0
  · simp [List.length_eq_zero_iff.1 h0]
  · by_cases hf : s.limits.fills = true
    · simp only [h0, hf, if_false, if_true, fillFrom_eq buf.length 0 s buf rfl, receiveFrom_eq,
        Nat.sub_zero, Nat.zero_add]
      have hle := s.fillable_le buf.length
      by_cases hk : s.fillable buf.length < buf.length
      · simp only [hk, if_true]
      · -- the source held the whole buffer, which the fills overwrite
        have htake : (s.rest.take buf.length).length = buf.length := by
          simp only [List.length_take]; omega
        simp [hk, place, htake]
    · simp only [h0, hf, if_false, Bool.false_eq_true]
      cases readExact buf.length s <;> rfl

end DoipWire
