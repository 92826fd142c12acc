import DoipWire.Proofs.ReadPlan

/-!
# Filling a buffer exactly

Whatever positive counts the fills of a source bring, they add up to the next `n` bytes of the
source or, when it holds fewer, to all it holds at the front of the buffer, the rest of the
buffer as it was. Without fills, one exact request replaces the buffer only when it is whole.
-/

namespace DoipWire

namespace Source

theorem place_zero (buf chunk : List UInt8) : place buf 0 chunk = chunk ++ buf.drop chunk.length := by
  simp [place]

theorem fillFrom_start {s : Source} (hf : s.limits.FillsAdvance) (buf : List UInt8) :
    fillFrom buf.length 0 (s, buf) =
      if buf.length ≤ s.rest.length then .ok () (s.skip buf.length, s.rest.take buf.length)
      else .error (.truncated s.rest.length buf.length)
        (s.skip s.rest.length, s.rest ++ buf.drop s.rest.length) := by
  rw [fillFrom_eq _ 0 s buf rfl, fillable_of_advance hf, Nat.sub_zero, Nat.zero_add]
  by_cases hn : buf.length ≤ s.rest.length
  · -- the fills cover the whole buffer
    have hlen : (s.rest.take buf.length).length = buf.length := by
      simp only [List.length_take]; omega
    rw [if_neg (by omega), if_pos hn, place_zero, hlen, List.drop_length, List.append_nil]
  · have hmin : min buf.length s.rest.length = s.rest.length := by omega
    rw [hmin, if_pos (by omega), if_neg hn, List.take_length, place_zero]

theorem readInto_of_request {s : Source} (hf : s.limits.fills = false) (buf : List UInt8) :
    readInto (s, buf) =
      if s.requestSize buf.length < buf.length then
        .error (.truncated (s.requestSize buf.length) buf.length)
          (s.skip (s.requestSize buf.length), buf)
      else .ok () (s.skip buf.length, s.rest.take buf.length) := by
  by_cases h0 : buf.length = 0
  · have hz : s.requestSize 0 = 0 := Nat.le_zero.1 (s.requestSize_le 0).1
    simp [readInto, hz, List.length_eq_zero_iff.1 h0]
  · unfold readInto
    dsimp only
    rw [if_neg h0, hf, if_neg Bool.false_ne_true, readExact_eq, if_neg h0]
    by_cases hs : s.requestSize buf.length < buf.length <;> simp only [hs, if_true, if_false]

/-- How a buffer is filled. An empty one reads nothing. From a source whose fills may each bring
a byte, however many each brings, the fill succeeds iff the source holds the whole buffer, which
then holds the next bytes of the source, exactly as many consumed; else every byte the source
held is consumed and lies at the front of the buffer, the rest of the buffer is unchanged, and
the fill fails naming how many arrived. Without fills, one request of the buffer's size is made,
and a short one leaves the buffer unchanged. -/
theorem readInto_fills_exactly (s : Source) (buf : List UInt8) :
    (buf = [] → readInto (s, buf) = .ok () (s, buf)) ∧
    (s.limits.fills = true → s.limits.FillsAdvance →
      readInto (s, buf) =
        if buf.length ≤ s.rest.length then .ok () (s.skip buf.length, s.rest.take buf.length)
        else .error (.truncated s.rest.length buf.length)
          (s.skip s.rest.length, s.rest ++ buf.drop s.rest.length)) ∧
    (s.limits.fills = false →
      readInto (s, buf) =
        if s.requestSize buf.length < buf.length then
          .error (.truncated (s.requestSize buf.length) buf.length)
            (s.skip (s.requestSize buf.length), buf)
        else .ok () (s.skip buf.length, s.rest.take buf.length)) := by
  refine ⟨?empty, ?fills, fun hfl => readInto_of_request hfl buf⟩
  case empty =>
    rintro rfl
    rfl
  case fills =>
    intro hfl hf
    by_cases h0 : buf = []
    · subst h0
      simp [readInto]
    · have hn : buf.length ≠ 0 := by simpa using h0
      unfold readInto
      dsimp only
      rw [if_neg hn, if_pos hfl, fillFrom_start hf]

theorem growing_fills_keep_the_tail :
    (⟨true, none, some (· + 1)⟩ : ReadLimits).fills = true ∧
      (⟨true, none, some (· + 1)⟩ : ReadLimits).FillsAdvance ∧
      readInto (⟨[1, 2, 3], 0, ⟨true, none, some (· + 1)⟩⟩, [9, 9, 9, 9, 9]) =
        .error (.truncated 3 5) (⟨[], 3, ⟨true, none, some (· + 1)⟩⟩, [1, 2, 3, 9, 9]) := by
  have hf : (⟨true, none, some (· + 1)⟩ : ReadLimits).FillsAdvance := by
    rintro c hc pos
    cases hc
    exact Nat.succ_pos pos
  refine ⟨rfl, hf, ?_⟩
  rw [(readInto_fills_exactly _ _).2.1 rfl hf]
  rfl

end Source

end DoipWire
