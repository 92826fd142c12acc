import DoipWire.Source

/-!
# What a read consumes

A read that succeeds hands out the next bytes of the source and nothing else, whatever its limits;
`Reading.Yields` packages a value after `n` bytes or an error.
-/

namespace DoipWire

namespace Source

def skip (s : Source) (n : Nat) : Source :=
  { s with rest := s.rest.drop n, consumed := s.consumed + n }

@[simp] theorem skip_rest (s : Source) (n : Nat) : (s.skip n).rest = s.rest.drop n := rfl

@[simp] theorem skip_consumed (s : Source) (n : Nat) : (s.skip n).consumed = s.consumed + n := rfl

@[simp] theorem skip_limits (s : Source) (n : Nat) : (s.skip n).limits = s.limits := rfl

@[simp] theorem skip_zero (s : Source) : s.skip 0 = s := by
  simp [skip]

@[simp] theorem skip_skip (s : Source) (a b : Nat) : (s.skip a).skip b = s.skip (a + b) := by
  simp [skip, List.drop_drop, Nat.add_assoc]

theorem advance_eq (s : Source) (k : Nat) :
    s.advance k = (s.rest.take (min k s.rest.length), s.skip (min k s.rest.length)) := by
  simp [advance, skip]

theorem advance_of_le {s : Source} {n : Nat} (hn : n ≤ s.rest.length) :
    s.advance n = (s.rest.take n, s.skip n) := by
  rw [advance_eq, Nat.min_eq_left hn]

theorem exists_request (s : Source) (k : Nat) :
    ∃ j, j ≤ k ∧ j ≤ s.rest.length ∧ s.request k = (s.rest.take j, s.skip j) := by
  unfold request
  rw [advance_eq]
  split <;> exact ⟨_, by omega, by omega, rfl⟩

theorem exists_fillOnce (s : Source) (k : Nat) :
    ∃ j, j ≤ k ∧ j ≤ s.rest.length ∧ s.fillOnce k = (s.rest.take j, s.skip j) := by
  unfold fillOnce
  rw [advance_eq]
  split <;> exact ⟨_, by omega, by omega, rfl⟩

/-! ## Successful reads -/

theorem readExact_eq_ok {n : Nat} {s s' : Source} {bs : List UInt8}
    (h : readExact n s = .ok bs s') : n ≤ s.rest.length ∧ bs = s.rest.take n ∧ s' = s.skip n := by
  unfold readExact at h
  by_cases h0 : n = 0
  · subst h0; simp only [if_true] at h; cases h; simp
  · obtain ⟨j, hjn, hjl, hr⟩ := exists_request s n
    simp only [h0, if_false, hr, List.length_take] at h
    split at h
    · cases h
    · rename_i hlen
      cases h
      have hj : j = n := by omega
      subst hj
      exact ⟨hjl, rfl, rfl⟩

theorem receiveFrom_eq_ok {n got : Nat} {s s' : Source} {bs : List UInt8}
    (h : receiveFrom n got s = .ok bs s') :
    n - got ≤ s.rest.length ∧ bs = s.rest.take (n - got) ∧ s' = s.skip (n - got) := by
  fun_induction receiveFrom n got s generalizing bs s' with
  | case1 got s hlt chunk s₁ hfill hz => simp at h
  | case2 got s hlt chunk s₁ hfill hz rest s₂ hrest ih =>
    obtain ⟨j, hjk, hjl, hf⟩ := exists_fillOnce s (n - got)
    rw [hf] at hfill
    obtain ⟨rfl, rfl⟩ := Prod.mk.inj hfill
    cases h
    obtain ⟨hle, rfl, rfl⟩ := ih hrest
    simp only [List.length_take, skip_rest, List.length_drop, skip_skip] at hz hle ⊢
    have hj : min j s.rest.length = j := Nat.min_eq_left hjl
    rw [hj] at hz ⊢
    have hsplit : n - got = j + (n - (got + j)) := by omega
    refine ⟨by omega, ?_, by rw [hsplit]⟩
    rw [hsplit, List.take_add]
  | case3 => simp at h
  | case4 got s hge =>
    cases h
    have h0 : n - got = 0 := by omega
    simp [h0]

theorem receive_eq_ok {n : Nat} {s s' : Source} {bs : List UInt8}
    (h : receive n s = .ok bs s') : n ≤ s.rest.length ∧ bs = s.rest.take n ∧ s' = s.skip n := by
  unfold receive at h
  split at h
  · cases h; simp_all
  · split at h
    · simpa using receiveFrom_eq_ok h
    · exact readExact_eq_ok h

/-! ## Reads from a source that holds enough -/

theorem readExact_of_le {s : Source} (hc : s.limits.readCap = none) {n : Nat}
    (hn : n ≤ s.rest.length) : readExact n s = .ok (s.rest.take n) (s.skip n) := by
  unfold readExact request
  rw [hc, advance_of_le hn]
  by_cases h0 : n = 0
  · subst h0; simp
  · simp [h0]; omega

theorem receiveFrom_of_le {s : Source} (hc : s.limits.fillCap = none) {n got : Nat}
    (hn : n - got ≤ s.rest.length) :
    receiveFrom n got s = .ok (s.rest.take (n - got)) (s.skip (n - got)) := by
  rw [receiveFrom]
  by_cases hlt : got < n
  · have hfill : s.fillOnce (n - got) = (s.rest.take (n - got), s.skip (n - got)) := by
      unfold fillOnce; rw [hc, advance_of_le hn]
    have hlen : (s.rest.take (n - got)).length = n - got := by simp; omega
    have hend : receiveFrom n (got + (n - got)) (s.skip (n - got)) = .ok [] (s.skip (n - got)) := by
      rw [receiveFrom, dif_neg (by omega)]
    simp only [dif_pos hlt, hfill, hlen, show n - got ≠ 0 by omega, dite_false, hend,
      List.append_nil]
  · have h0 : n - got = 0 := by omega
    simp [hlt, h0]

theorem receive_of_le {s : Source} (hr : s.limits.readCap = none) (hf : s.limits.fillCap = none)
    {n : Nat} (hn : n ≤ s.rest.length) : receive n s = .ok (s.rest.take n) (s.skip n) := by
  unfold receive
  by_cases h0 : n = 0
  · subst h0; simp
  · simp only [h0, if_false]
    split
    · simpa using @receiveFrom_of_le s hf n 0 (by simpa using hn)
    · exact readExact_of_le hr hn

end Source

/-! ## Steps of a decoder -/

section Steps

variable {ε σ α β γ : Type}

@[simp] theorem bind_apply (x : EStateM ε σ α) (f : α → EStateM ε σ β) (s : σ) :
    (x >>= f) s = match x s with
      | .ok a s' => f a s'
      | .error e s' => .error e s' := rfl

@[simp] theorem map_apply (f : α → β) (x : EStateM ε σ α) (s : σ) :
    (f <$> x) s = match x s with
      | .ok a s' => .ok (f a) s'
      | .error e s' => .error e s' := rfl

theorem bind_eq_ok {x : EStateM ε σ α} {f : α → EStateM ε σ β} {s s'' : σ} {b : β} :
    (x >>= f) s = .ok b s'' ↔ ∃ a s', x s = .ok a s' ∧ f a s' = .ok b s'' := by
  rw [bind_apply]
  cases x s with
  | ok a s' =>
    refine ⟨fun h => ⟨a, s', rfl, h⟩, ?_⟩
    rintro ⟨a', s₁, h₁, h₂⟩
    simp only [EStateM.Result.ok.injEq] at h₁
    obtain ⟨rfl, rfl⟩ := h₁
    exact h₂
  | error e s' => simp

namespace Decoder

@[simp] theorem read_apply (r : Reading β) (s : Source) (m : α) :
    Decoder.read r (s, m) = match r s with
      | .ok b s' => .ok b (s', m)
      | .error e s' => .error e (s', m) := rfl

@[simp] theorem check_ok (b : β) (st : Source × α) : check (.ok b) st = .ok b st := rfl

@[simp] theorem check_error (e : Error) (st : Source × α) :
    (check (.error e) st : EStateM.Result Error (Source × α) β) = .error e st := rfl

@[simp] theorem update_apply (f : α → α) (st : Source × α) : update f st = .ok () (st.1, f st.2) :=
  rfl

@[simp] theorem target_apply (st : Source × α) : target st = .ok st.2 st := rfl

@[simp] theorem onPart_apply (get : α → β) (put : β → α → α) (d : Decoder β γ) (s : Source)
    (m : α) : onPart get put d (s, m) = match d (s, get m) with
      | .ok c (s', b) => .ok c (s', put b m)
      | .error e (s', b) => .error e (s', put b m) := rfl

theorem read_eq_ok {r : Reading β} {s : Source} {m : α} {b : β} {st : Source × α} :
    Decoder.read r (s, m) = .ok b st ↔ ∃ s', r s = .ok b s' ∧ st = (s', m) := by
  rw [read_apply]
  cases r s with
  | ok b' s' =>
    simp only [EStateM.Result.ok.injEq]
    constructor
    · rintro ⟨rfl, rfl⟩; exact ⟨s', ⟨rfl, rfl⟩, rfl⟩
    · rintro ⟨s₁, ⟨rfl, rfl⟩, rfl⟩; exact ⟨rfl, rfl⟩
  | error e s' => simp

theorem check_eq_ok {r : Except Error β} {st st' : Source × α} {b : β} :
    check r st = .ok b st' ↔ r = .ok b ∧ st' = st := by
  cases r <;> simp [check, eq_comm]

end Decoder

end Steps

/-! ## Reads judged by their result -/

/-- A read on `s` yields `r`: its value, leaving the source `n` bytes further on, or its error,
in whatever state the failure left the source. -/
def Reading.Yields {α : Type} (x : Reading α) (s : Source) (n : Nat) : Except Error α → Prop
  | .ok a => x s = .ok a (s.skip n)
  | .error e => ∃ s', x s = .error e s'

namespace Reading.Yields

variable {α : Type} {x : Reading α} {s s' : Source} {n : Nat} {r : Except Error α}

theorem pure (a : α) (s : Source) : (pure a : Reading α).Yields s 0 (.ok a) := by
  simp [Reading.Yields]; rfl

theorem of_eq_skip {y : Reading α} {k : Nat} (h : x s = y (s.skip k)) (hy : y.Yields (s.skip k) n r) :
    x.Yields s (k + n) r := by
  cases r with
  | ok a => simp only [Reading.Yields, h, Source.skip_skip] at hy ⊢; exact hy
  | error e => obtain ⟨s', hs'⟩ := hy; exact ⟨s', h.trans hs'⟩

theorem bind {β : Type} {f : α → Reading β} {g : α → Except Error β} {k : Nat}
    (hx : x.Yields s n r) (hf : ∀ a, r = .ok a → (f a).Yields (s.skip n) k (g a)) :
    (x >>= f).Yields s (n + k) (r >>= g) := by
  cases r with
  | ok a =>
    have hx' : x s = .ok a (s.skip n) := hx
    have hb : (x >>= f) s = f a (s.skip n) := by rw [bind_apply, hx']
    exact of_eq_skip hb (hf a rfl)
  | error e =>
    obtain ⟨s', hs'⟩ := hx
    exact ⟨s', by rw [bind_apply, hs']⟩

end Reading.Yields

end DoipWire
