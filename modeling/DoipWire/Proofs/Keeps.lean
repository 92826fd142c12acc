import DoipWire.Proofs.Reencode

/-!
# Decoder invariants

A decoder may stop after any step. `Decoder.Keeps P R` says every run from an instance satisfying
`P`, successful or not, ends with one satisfying `P`; one rule per combinator assembles it.
-/

namespace DoipWire

open Source Decoder

namespace Decoder

variable {α β γ : Type} {P : α → Prop} {R : β → Prop} {S : γ → Prop}

/-- What the outcome of a run keeps: the instance satisfies `P` and a returned value `R`. -/
def Holds (P : α → Prop) (R : β → Prop) : EStateM.Result Error (Source × α) β → Prop
  | .ok b st => R b ∧ P st.2
  | .error _ st => P st.2

/-- Every run of `d` from an instance satisfying `P` ends with one satisfying `P`, and a value it
returns satisfies `R`. -/
def Keeps (P : α → Prop) (R : β → Prop) (d : Decoder α β) : Prop :=
  ∀ st, P st.2 → Holds P R (d st)

@[simp] theorem holds_ok (b : β) (st : Source × α) : Holds P R (.ok b st) ↔ R b ∧ P st.2 :=
  Iff.rfl

@[simp] theorem holds_error (e : Error) (st : Source × α) :
    Holds P R (.error e st : EStateM.Result Error (Source × α) β) ↔ P st.2 :=
  Iff.rfl

theorem keeps_bind {d : Decoder α β} {f : β → Decoder α γ} (hd : Keeps P R d)
    (hf : ∀ b, R b → Keeps P S (f b)) : Keeps P S (d >>= f) := by
  intro st hst
  have h := hd st hst
  rw [bind_apply]
  cases hr : d st with
  | ok b st' =>
    rw [hr, holds_ok] at h
    exact hf b h.1 st' h.2
  | error e st' =>
    rw [hr, holds_error] at h
    exact h

theorem keeps_read {r : Reading β} (hr : ∀ s b s', r s = .ok b s' → R b) : Keeps P R (read r) := by
  rintro ⟨s, m⟩ hm
  rw [read_apply]
  cases h : r s with
  | ok b s' => exact ⟨hr s b s' h, hm⟩
  | error e s' => exact hm

theorem keeps_check {r : Except Error β} (hr : ∀ b, r = .ok b → R b) : Keeps P R (check r) := by
  intro st hst
  cases r with
  | ok b => exact ⟨hr b rfl, hst⟩
  | error e => exact hst

theorem keeps_update {f : α → α} (hf : ∀ m, P m → P (f m)) :
    Keeps P (fun _ => True) (update f) :=
  fun st hst => ⟨trivial, hf st.2 hst⟩

theorem keeps_target : Keeps P P target :=
  fun _ hst => ⟨hst, hst⟩

theorem keeps_fail (e : Error) : Keeps P R (fail e) :=
  fun _ hst => hst

theorem keeps_onPart {Q : β → Prop} {get : α → β} {put : β → α → α} {d : Decoder β γ}
    (hd : Keeps Q S d) (hget : ∀ m, P m → Q (get m)) (hput : ∀ b m, Q b → P (put b m)) :
    Keeps P S (onPart get put d) := by
  rintro ⟨s, m⟩ hm
  have h := hd (s, get m) (hget m hm)
  rw [onPart_apply]
  cases hr : d (s, get m) with
  | ok c st =>
    rw [hr, holds_ok] at h
    exact ⟨h.1, hput st.2 m h.2⟩
  | error e st =>
    rw [hr, holds_error] at h
    exact hput st.2 m h

theorem keeps_and {Q : α → Prop} {d : Decoder α β} (hP : Keeps P R d) (hQ : Keeps Q R d) :
    Keeps (fun m => P m ∧ Q m) R d := by
  intro st hst
  have h₁ := hP st hst.1
  have h₂ := hQ st hst.2
  cases hr : d st with
  | ok b st' =>
    rw [hr, holds_ok] at h₁ h₂
    exact ⟨h₁.1, h₁.2, h₂.2⟩
  | error e st' =>
    rw [hr, holds_error] at h₁ h₂
    exact ⟨h₁, h₂⟩

theorem keeps_true {d : Decoder α β} : Keeps (fun _ => True) (fun _ => True) d := by
  intro st _
  cases d st with
  | ok b st' => exact ⟨trivial, trivial⟩
  | error e st' => trivial

end Decoder

/-! ## Filling keeps a buffer's length -/

theorem length_place {buf chunk : List UInt8} {pos : Nat} (h : pos + chunk.length ≤ buf.length) :
    (place buf pos chunk).length = buf.length := by
  simp only [place, List.length_append, List.length_take, List.length_drop]
  omega

theorem keeps_fillFrom (size filled : Nat) :
    Keeps (fun bs : List UInt8 => bs.length = size) (fun _ => True) (fillFrom size filled) := by
  intro st hst
  fun_induction fillFrom size filled st with
  | case1 filled st hlt chunk s' hfill hz =>
    exact hst
  | case2 filled st hlt chunk s' hfill hz ih =>
    -- the chunk has room: a fill hands out at most what it was asked for
    obtain ⟨j, hj, -, hf⟩ := exists_fillOnce st.1 (size - filled)
    have hc : chunk.length ≤ size - filled := by
      rw [hf] at hfill
      cases hfill
      simp only [List.length_take]
      omega
    exact ih (by rw [length_place (by omega), hst])
  | case3 filled st hge =>
    exact ⟨trivial, hst⟩

theorem keeps_readInto (n : Nat) :
    Keeps (fun bs : List UInt8 => bs.length = n) (fun _ => True) readInto := by
  rintro ⟨s, buf⟩ hb
  simp only at hb
  unfold readInto
  by_cases h0 : buf.length = 0
  · simp only [h0, if_true]
    exact ⟨trivial, by simpa using hb⟩
  · by_cases hf : s.limits.fills = true
    · simp only [h0, hf, if_false, if_true]
      have h := keeps_fillFrom buf.length 0 (s, buf) rfl
      subst hb
      exact h
    · simp only [h0, hf, if_false]
      cases hr : readExact buf.length s with
      | ok data s' =>
        obtain ⟨hn, rfl, -⟩ := readExact_eq_ok hr
        exact ⟨trivial, by simp only [List.length_take]; omega⟩
      | error e s' => exact hb

theorem Opaque.length_of_resize {d : Opaque} {n : Nat} {bs : List UInt8} (h : d.resize n = .ok bs) :
    bs.length = n := by
  obtain ⟨old, -, -, rfl⟩ := Opaque.resize_eq_ok h
  exact length_resized old n

@[simp] theorem Opaque.bytes_owned (bs : List UInt8) : (Opaque.owned bs).bytes = bs := rfl

theorem keeps_onPart_readInto {α : Type} {P : α → Prop} {get : α → List UInt8}
    {put : List UInt8 → α → α} (hput : ∀ m bs, P m → bs.length = (get m).length → P (put bs m)) :
    Keeps P (fun _ => True) (onPart get put readInto) := by
  rintro ⟨s, m⟩ hm
  have h := keeps_readInto (get m).length (s, get m) rfl
  rw [onPart_apply]
  cases hr : readInto (s, get m) with
  | ok u st =>
    rw [hr, holds_ok] at h
    exact ⟨trivial, hput m st.2 hm h.2⟩
  | error e st =>
    rw [hr, holds_error] at h
    exact hput m st.2 hm h

/-! ## What the reads return -/

theorem readExact_length {n : Nat} {s s' : Source} {bs : List UInt8} (h : readExact n s = .ok bs s') :
    bs.length = n := by
  obtain ⟨hn, rfl, -⟩ := readExact_eq_ok h
  simp only [List.length_take]
  omega

theorem readNumber_fits {w : Nat} {s s' : Source} {v : Int} (h : readNumber w s = .ok v s') :
    0 ≤ v ∧ v < 256 ^ w := by
  obtain ⟨hw, rfl, -⟩ := readNumber_eq_ok h
  have hl : (slice s.rest 0 w).length = w := by simp; omega
  have h := BigEndian.ofBytes_lt_int (slice s.rest 0 w)
  rw [hl] at h
  exact ⟨Int.natCast_nonneg _, h⟩

theorem readFixed_length {len : Int} {size : Nat} {s s' : Source} {bs : List UInt8}
    (h : readFixed len size s = .ok bs s') : bs.length = size := by
  unfold readFixed at h
  split at h
  · exact readExact_length h
  · cases h

theorem ofBytes_slice_fits (bs : List UInt8) (a w : Nat) :
    0 ≤ (BigEndian.ofBytes (slice bs a w) : Int) ∧ (BigEndian.ofBytes (slice bs a w) : Int) < 256 ^ w := by
  have h := BigEndian.ofBytes_lt (slice bs a w)
  have hw : 256 ^ (slice bs a w).length ≤ 256 ^ w :=
    Nat.pow_le_pow_right (by decide) (by simp only [length_slice]; exact Nat.min_le_left _ _)
  have h' := Nat.lt_of_lt_of_le h hw
  rw [← Int.ofNat_lt, Int.natCast_pow] at h'
  exact ⟨Int.natCast_nonneg _, h'⟩

theorem Header.length_fits_of_read {s s' : Source} {h : Header} (hr : Header.read s = .ok h s') :
    0 ≤ h.payloadLength ∧ h.payloadLength < 2 ^ 32 := by
  obtain ⟨v, i, t0, t1, l0, l1, l2, l3, rest, -, rfl, -⟩ := Message.header_read_eq_ok hr
  have h4 := BigEndian.ofBytes_lt_int [l0, l1, l2, l3]
  exact ⟨Int.natCast_nonneg _, by simpa using h4⟩

end DoipWire
