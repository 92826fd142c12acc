import DoipWire.Header
import DoipWire.Proofs.Bytes
import Mathlib.Data.List.TakeWhile
import Mathlib.Data.Nat.Digits.Defs
import Mathlib.Tactic.Ring

/-!
# Numerals of protocol versions

A grammar of integer numerals (`Grouped`, `Unsigned`, `Signed`, `Spaced`, over the characters as
`reading` normalizes them) says which texts the two readers of a protocol version accept together
and what each spells (`parseVersion_reads_numerals`).
-/

namespace DoipWire.Numeral

/-! ## The grammar -/

def Digits (b : Nat) (cs : List Char) : Prop := ∀ c ∈ cs, digitValue c < b

/-- Digits of base `b` in nonempty groups joined by single underscores. -/
def Grouped (b : Nat) (cs : List Char) : Prop :=
  ∃ (g : List Char) (gs : List (List Char)), g ≠ [] ∧ Digits b g ∧ (∀ h ∈ gs, h ≠ [] ∧ Digits b h) ∧
    cs = g ++ (gs.map ('_' :: ·)).flatten

def digitsOf (cs : List Char) : List Char := cs.filter (· ≠ '_')

def valueOf (b : Nat) (cs : List Char) : Nat :=
  Nat.ofDigits b ((digitsOf cs).map digitValue).reverse

/-- An unsigned numeral and its value: decimal digits, leading zeros allowed, at most
`maxDecimalDigits` of them; or a zero, a marker of base 16, 8 or 2, one underscore or none, and
digits of that base, as many as there are. -/
inductive Unsigned : List Char → Nat → Prop
  | decimal {cs : List Char} : Grouped 10 cs → (digitsOf cs).length ≤ maxDecimalDigits →
      Unsigned cs (valueOf 10 cs)
  | marked {m : Char} {b : Nat} {cs : List Char} : markerBase m = some b → Grouped b cs →
      Unsigned ('0' :: m :: cs) (valueOf b cs)
  | markedUnderscore {m : Char} {b : Nat} {cs : List Char} : markerBase m = some b →
      Grouped b cs → Unsigned ('0' :: m :: '_' :: cs) (valueOf b cs)

/-- A numeral with a sign or none, its magnitude spelled as `U` says. -/
inductive Signed (U : List Char → Nat → Prop) : List Char → Int → Prop
  | plain {cs : List Char} {n : Nat} : U cs n → Signed U cs n
  | plus {cs : List Char} {n : Nat} : U cs n → Signed U ('+' :: cs) n
  | minus {cs : List Char} {n : Nat} : U cs n → Signed U ('-' :: cs) (-n)

/-- A numeral with spaces before and after it, and its value. -/
def Spaced (cs : List Char) (v : Int) : Prop :=
  ∃ pre body post, cs = pre ++ body ++ post ∧ (∀ c ∈ pre, isSpace c) ∧
    (∀ c ∈ post, isSpace c) ∧ Signed Unsigned body v

/-- A text as numerals read it: each character normalized, a lone surrogate taken as the
replacement character. -/
def reading (t : List Glyph) : List Char := t.map fun g => normalize g.toChar

/-! ## Groups of digits -/

section Groups

variable {b : Nat} {c : Char} {t : List Char}

theorem digitValue_underscore : digitValue '_' = 99 := rfl

theorem ne_underscore (hb : b ≤ 16) (h : digitValue c < b) : c ≠ '_' := by
  rintro rfl
  rw [digitValue_underscore] at h
  omega

/-- What may follow a digit of a group: more digits of that group, then further groups, each
after an underscore. -/
def Continues (b : Nat) (t : List Char) : Prop :=
  ∃ (cur : List Char) (gs : List (List Char)), Digits b cur ∧ (∀ h ∈ gs, h ≠ [] ∧ Digits b h) ∧
    t = cur ++ (gs.map ('_' :: ·)).flatten

theorem continues_nil : Continues b [] := ⟨[], [], by simp [Digits], by simp, rfl⟩

theorem continues_digit (hb : b ≤ 16) (hc : digitValue c < b) :
    Continues b (c :: t) ↔ Continues b t := by
  constructor
  · rintro ⟨cur, gs, hd, hgs, heq⟩
    cases cur with
    | nil =>
      cases gs with
      | nil => simp at heq
      | cons h gs =>
        simp only [List.nil_append, List.map_cons, List.flatten_cons, List.cons_append,
          List.cons.injEq] at heq
        exact absurd heq.1 (ne_underscore hb hc)
    | cons x cur =>
      simp only [List.cons_append, List.cons.injEq] at heq
      exact ⟨cur, gs, fun y hy => hd y (List.mem_cons_of_mem _ hy), hgs, heq.2⟩
  · rintro ⟨cur, gs, hd, hgs, heq⟩
    refine ⟨c :: cur, gs, ?_, hgs, by simp [heq]⟩
    intro y hy
    rcases List.mem_cons.1 hy with rfl | hy
    · exact hc
    · exact hd y hy

theorem continues_underscore (hb : b ≤ 16) :
    Continues b ('_' :: t) ↔ ∃ d t', t = d :: t' ∧ digitValue d < b ∧ Continues b t' := by
  constructor
  · rintro ⟨cur, gs, hd, hgs, heq⟩
    cases cur with
    | cons x cur =>
      simp only [List.cons_append, List.cons.injEq] at heq
      exact absurd heq.1.symm (ne_underscore hb (hd x List.mem_cons_self))
    | nil =>
      cases gs with
      | nil => simp at heq
      | cons h gs =>
        obtain ⟨hne, hdh⟩ := hgs h List.mem_cons_self
        obtain ⟨d, h', rfl⟩ := List.exists_cons_of_ne_nil hne
        simp only [List.nil_append, List.map_cons, List.flatten_cons, List.cons_append,
          List.cons.injEq, true_and] at heq
        refine ⟨d, h' ++ (gs.map ('_' :: ·)).flatten, heq, hdh d List.mem_cons_self, h', gs,
          fun y hy => hdh y (List.mem_cons_of_mem _ hy),
          fun g hg => hgs g (List.mem_cons_of_mem _ hg), rfl⟩
  · rintro ⟨d, t', rfl, hd, cur, gs, hcur, hgs, rfl⟩
    refine ⟨[], (d :: cur) :: gs, by simp [Digits], ?_, by simp⟩
    intro h hh
    rcases List.mem_cons.1 hh with rfl | hh
    · refine ⟨List.cons_ne_nil _ _, ?_⟩
      intro y hy
      rcases List.mem_cons.1 hy with rfl | hy
      · exact hd
      · exact hcur y hy
    · exact hgs h hh

theorem not_continues (hu : c ≠ '_') (hc : ¬ digitValue c < b) : ¬ Continues b (c :: t) := by
  rintro ⟨cur, gs, hd, hgs, heq⟩
  cases cur with
  | cons x cur =>
    simp only [List.cons_append, List.cons.injEq] at heq
    exact hc (heq.1 ▸ hd x List.mem_cons_self)
  | nil =>
    cases gs with
    | nil => simp at heq
    | cons h gs =>
      simp only [List.nil_append, List.map_cons, List.flatten_cons, List.cons_append,
        List.cons.injEq] at heq
      exact hu heq.1

theorem grouped_cons : Grouped b (c :: t) ↔ digitValue c < b ∧ Continues b t := by
  constructor
  · rintro ⟨g, gs, hg, hd, hgs, heq⟩
    obtain ⟨x, g', rfl⟩ := List.exists_cons_of_ne_nil hg
    simp only [List.cons_append, List.cons.injEq] at heq
    obtain ⟨rfl, rfl⟩ := heq
    exact ⟨hd c List.mem_cons_self, g', gs, fun y hy => hd y (List.mem_cons_of_mem _ hy), hgs, rfl⟩
  · rintro ⟨hc, cur, gs, hd, hgs, rfl⟩
    refine ⟨c :: cur, gs, List.cons_ne_nil _ _, ?_, hgs, rfl⟩
    intro y hy
    rcases List.mem_cons.1 hy with rfl | hy
    · exact hc
    · exact hd y hy

theorem not_grouped_nil : ¬ Grouped b [] := by
  rintro ⟨g, gs, hg, -, -, heq⟩
  exact hg (List.append_eq_nil_iff.1 heq.symm).1

theorem grouped_of_digits (hne : t ≠ []) (h : Digits b t) : Grouped b t :=
  ⟨t, [], hne, h, by simp, by rw [List.map_nil, List.flatten_nil, List.append_nil]⟩

theorem digitsOf_of_digits (hb : b ≤ 16) (h : Digits b t) : digitsOf t = t :=
  List.filter_eq_self.2 fun c hc => by simpa using ne_underscore hb (h c hc)

theorem foldl_digits (b acc : Nat) (ds : List Char) :
    ds.foldl (fun a c => a * b + digitValue c) acc =
      acc * b ^ ds.length + Nat.ofDigits b (ds.map digitValue).reverse := by
  induction ds generalizing acc with
  | nil => simp
  | cons d ds ih =>
    rw [List.foldl_cons, ih, List.map_cons, List.reverse_cons, Nat.ofDigits_append,
      Nat.ofDigits_singleton]
    simp only [List.length_cons, List.length_reverse, List.length_map, pow_succ]
    ring

theorem valueOf_eq_foldl (b : Nat) (cs : List Char) :
    valueOf b cs = (digitsOf cs).foldl (fun a c => a * b + digitValue c) 0 := by
  rw [valueOf, foldl_digits, Nat.zero_mul, Nat.zero_add]

theorem digitsOf_cons_digit (hb : b ≤ 16) (hc : digitValue c < b) :
    digitsOf (c :: t) = c :: digitsOf t := by
  simp [digitsOf, ne_underscore hb hc]

theorem readRun_eq_some (hb : b ≤ 16) (acc : Nat) (t : List Char) (n : Nat) :
    readRun b acc t = some n ↔
      Continues b t ∧ n = (digitsOf t).foldl (fun a c => a * b + digitValue c) acc := by
  fun_induction readRun b acc t generalizing n with
  | case1 acc => simp [continues_nil, digitsOf, eq_comm]
  | case2 acc d rest hd ih =>
    rw [ih, continues_underscore hb]
    simp [digitsOf, ne_underscore hb hd, hd]
  | case3 acc d rest hd =>
    rw [continues_underscore hb]
    simp only [reduceCtorEq, false_iff, not_and, List.cons.injEq]
    rintro ⟨d', t', ⟨rfl, rfl⟩, hd', -⟩ -
    exact hd hd'
  | case4 acc d rest hnot hd ih =>
    rw [ih, continues_digit hb hd, digitsOf_cons_digit hb hd, List.foldl_cons]
  | case5 acc d rest hnot hd =>
    simp only [reduceCtorEq, false_iff, not_and]
    intro hc _
    by_cases hu : d = '_'
    · subst hu
      cases rest with
      | nil => obtain ⟨_, _, h, -⟩ := (continues_underscore hb).1 hc; cases h
      | cons d' rest => exact hnot d' rest rfl rfl
    · exact not_continues hu hd hc

theorem readDigits_eq_some (hb : b ≤ 16) (cs : List Char) (n : Nat) :
    readDigits b cs = some n ↔ Grouped b cs ∧ n = valueOf b cs := by
  cases cs with
  | nil => simp [readDigits, not_grouped_nil]
  | cons c t =>
    rw [readDigits.eq_1, grouped_cons]
    by_cases hc : digitValue c < b
    · have hv : (digitsOf t).foldl (fun a c => a * b + digitValue c) (digitValue c) =
          valueOf b (c :: t) := by
        rw [valueOf_eq_foldl, digitsOf_cons_digit hb hc, List.foldl_cons, Nat.zero_mul,
          Nat.zero_add]
      rw [if_pos hc, readRun_eq_some hb, hv]
      simp [hc]
    · simp [hc]

end Groups

/-! ## Decimal numerals and their length -/

section Decimal

variable {b : Nat} {t : List Char}

theorem mem_of_continues (h : Continues b t) {x : Char} (hx : x ∈ t) : digitValue x < b ∨ x = '_' := by
  obtain ⟨cur, gs, hd, hgs, rfl⟩ := h
  simp only [List.mem_append, List.mem_flatten, List.mem_map] at hx
  rcases hx with hx | ⟨_, ⟨g, hg, rfl⟩, hx⟩
  · exact .inl (hd x hx)
  · rcases List.mem_cons.1 hx with rfl | hx
    · exact .inr rfl
    · exact .inl ((hgs g hg).2 x hx)

theorem spacing_of_continues (hb : b ≤ 16) (t : List Char) (h : Continues b t) {c : Char}
    (hc : c ≠ '_') : ((c :: t).zip t).any (· = ('_', '_')) = false ∧ (c :: t).getLast? ≠ some '_' := by
  induction 0, t using readRun.induct b generalizing c with
  | case1 => simp [hc]
  | case2 _ d rest hd ih =>
    obtain ⟨_, _, he, -, hrest⟩ := (continues_underscore hb).1 h
    obtain ⟨rfl, rfl⟩ := List.cons.inj he
    obtain ⟨hz, hl⟩ := ih hrest (ne_underscore hb hd)
    simp only [List.zip_cons_cons, List.any_cons, List.getLast?_cons_cons] at hz hl ⊢
    simp [hc, ne_underscore hb hd, hz, hl]
  | case3 _ d rest hd =>
    obtain ⟨_, _, he, hd', _⟩ := (continues_underscore hb).1 h
    obtain ⟨rfl, rfl⟩ := List.cons.inj he
    exact absurd hd' hd
  | case4 _ d rest hnot hd ih =>
    obtain ⟨hz, hl⟩ := ih ((continues_digit hb hd).1 h) (ne_underscore hb hd)
    simp only [List.zip_cons_cons, List.any_cons, List.getLast?_cons_cons] at hz hl ⊢
    simp [hc, hz, hl]
  | case5 _ d rest hnot hd =>
    by_cases hu : d = '_'
    · subst hu
      cases rest with
      | nil => obtain ⟨_, _, he, -⟩ := (continues_underscore hb).1 h; cases he
      | cons d' rest => exact (hnot d' rest rfl rfl).elim
    · exact absurd h (not_continues hu hd)

theorem checkLength_of_grouped {cs : List Char} (h : Grouped 10 cs) :
    checkLength cs = if maxDecimalDigits < (digitsOf cs).length
      then .error (.tooManyDigits (digitsOf cs).length) else .ok () := by
  cases cs with
  | nil => exact absurd h not_grouped_nil
  | cons c t =>
    obtain ⟨hc, hcont⟩ := grouped_cons.1 h
    have hcu := ne_underscore (by decide) hc
    have hrun : (c :: t).takeWhile (fun x => digitValue x < 10 || x = '_') = c :: t := by
      refine List.takeWhile_eq_self_iff.2 fun x hx => ?_
      rcases List.mem_cons.1 hx with rfl | hx
      · simp [hc]
      · rcases mem_of_continues hcont hx with hx | rfl <;> simp [hx]
    obtain ⟨hz, hl⟩ := spacing_of_continues (by decide) t hcont hcu
    unfold digitsOf
    simp only [checkLength, hrun, List.head?_cons, List.drop_one, List.tail_cons, hz, hl, hcu,
      Option.some.injEq, decide_false, Bool.or_false, Bool.false_eq_true, if_false]

theorem readDecimal_eq_ok (cs : List Char) (n : Nat) :
    readDecimal cs = .ok n ↔
      Grouped 10 cs ∧ (digitsOf cs).length ≤ maxDecimalDigits ∧ n = valueOf 10 cs := by
  unfold readDecimal
  rw [except_bind_eq_ok]
  constructor
  · rintro ⟨u, hcheck, hread⟩
    cases hd : readDigits 10 cs with
    | none => simp [hd, throw, throwThe, MonadExceptOf.throw] at hread
    | some k =>
      simp only [hd, pure, Except.pure, Except.ok.injEq] at hread
      subst hread
      obtain ⟨hg, rfl⟩ := (readDigits_eq_some (by decide) cs k).1 hd
      rw [checkLength_of_grouped hg] at hcheck
      split at hcheck
      · cases hcheck
      · exact ⟨hg, by omega, rfl⟩
  · rintro ⟨hg, hlen, rfl⟩
    refine ⟨(), by rw [checkLength_of_grouped hg, if_neg (by omega)], ?_⟩
    simp only [(readDigits_eq_some (by decide) cs _).2 ⟨hg, rfl⟩, pure, Except.pure]

end Decimal

/-! ## Magnitudes -/

section Magnitude

variable {cs : List Char} {n : Nat}

theorem markerBase_spec {m : Char} {b : Nat} (h : markerBase m = some b) :
    b ≤ 16 ∧ m ≠ '_' ∧ ¬ digitValue m < 10 ∧ digitValue m < 99 := by
  unfold markerBase at h
  split_ifs at h with h16 h8 h2 <;> cases h
  · rcases h16 with rfl | rfl <;> decide
  · rcases h8 with rfl | rfl <;> decide
  · rcases h2 with rfl | rfl <;> decide

theorem dropMarkerUnderscore_of_grouped {b : Nat} (hb : b ≤ 16) (h : Grouped b cs) :
    dropMarkerUnderscore cs = cs := by
  cases cs with
  | nil => exact absurd h not_grouped_nil
  | cons c t =>
    have hc := ne_underscore hb (grouped_cons.1 h).1
    unfold dropMarkerUnderscore
    split
    · rename_i heq; exact absurd (List.cons.inj heq).1 hc
    · rfl

theorem Unsigned.head (h : Unsigned cs n) : ∃ c t, cs = c :: t ∧ digitValue c < 10 := by
  cases h with
  | decimal hg _ =>
    cases cs with
    | nil => exact absurd hg not_grouped_nil
    | cons c t => exact ⟨c, t, rfl, (grouped_cons.1 hg).1⟩
  | marked => exact ⟨'0', _, rfl, by decide⟩
  | markedUnderscore => exact ⟨'0', _, rfl, by decide⟩

theorem unsigned_of_decimal (h : readMagnitude .decimal cs = .ok n) : Unsigned cs n := by
  obtain ⟨hg, hlen, rfl⟩ := (readDecimal_eq_ok cs n).1 h
  exact .decimal hg hlen

theorem unsigned_of_auto (h : readMagnitude .auto cs = .ok n) : Unsigned cs n := by
  by_cases hz : ∃ m rest, cs = '0' :: m :: rest
  · obtain ⟨m, rest, rfl⟩ := hz
    rw [readMagnitude.eq_2] at h
    cases hm : markerBase m with
    | some b =>
      obtain ⟨hb, -, -, -⟩ := markerBase_spec hm
      cases hk : readDigits b (dropMarkerUnderscore rest) with
      | none => simp [hm, hk] at h
      | some k =>
        simp only [hm, hk, Except.ok.injEq] at h
        subst h
        cases rest with
        | nil => exact absurd ((readDigits_eq_some hb _ _).1 hk).1 not_grouped_nil
        | cons x r =>
          by_cases hx : x = '_'
          · subst hx
            obtain ⟨hg, rfl⟩ := (readDigits_eq_some hb _ _).1 hk
            exact .markedUnderscore hm hg
          · have hdrop : dropMarkerUnderscore (x :: r) = x :: r := by
              unfold dropMarkerUnderscore
              split
              · rename_i heq; exact absurd (List.cons.inj heq).1 hx
              · rfl
            rw [hdrop] at hk
            obtain ⟨hg, rfl⟩ := (readDigits_eq_some hb _ _).1 hk
            exact .marked hm hg
    | none =>
      -- without a marker the numeral is decimal, and its leading zero makes it zero
      cases hd : readDecimal ('0' :: m :: rest) with
      | error e => simp [hm, hd] at h
      | ok k =>
        cases k with
        | zero =>
          simp only [hm, hd, Except.ok.injEq] at h
          subst h
          exact unsigned_of_decimal hd
        | succ k => simp [hm, hd] at h
  · rw [readMagnitude.eq_3 _ (fun m rest he => hz ⟨m, rest, he⟩)] at h
    exact unsigned_of_decimal h

theorem auto_or_decimal (h : Unsigned cs n) :
    readMagnitude .auto cs = .ok n ∨ readMagnitude .decimal cs = .ok n := by
  cases h with
  | decimal hg hlen => exact .inr ((readDecimal_eq_ok _ _).2 ⟨hg, hlen, rfl⟩)
  | @marked m b cs hm hg =>
    obtain ⟨hb, -, -, -⟩ := markerBase_spec hm
    left
    simp only [readMagnitude, hm, dropMarkerUnderscore_of_grouped hb hg,
      (readDigits_eq_some hb cs _).2 ⟨hg, rfl⟩]
  | @markedUnderscore m b cs hm hg =>
    obtain ⟨hb, -, -, -⟩ := markerBase_spec hm
    left
    simp only [readMagnitude, hm, dropMarkerUnderscore, (readDigits_eq_some hb cs _).2 ⟨hg, rfl⟩]

theorem Unsigned.unique {n' : Nat} (h : Unsigned cs n) (h' : Unsigned cs n') : n = n' := by
  cases h with
  | decimal hg _ =>
    cases h' with
    | decimal => rfl
    | marked hm _ | markedUnderscore hm _ =>
      obtain ⟨-, hu, hd, -⟩ := markerBase_spec hm
      exact absurd (grouped_cons.1 hg).2 (not_continues hu hd)
  | marked hm hg =>
    cases h' with
    | decimal hg' _ =>
      obtain ⟨-, hu, hd, -⟩ := markerBase_spec hm
      exact absurd (grouped_cons.1 hg').2 (not_continues hu hd)
    | marked hm' _ =>
      rw [hm] at hm'
      cases hm'
      rfl
    | markedUnderscore hm' _ =>
      obtain ⟨hb, -, -, -⟩ := markerBase_spec hm
      exact absurd (grouped_cons.1 hg).1 (by rw [digitValue_underscore]; omega)
  | markedUnderscore hm hg =>
    cases h' with
    | decimal hg' _ =>
      obtain ⟨-, hu, hd, -⟩ := markerBase_spec hm
      exact absurd (grouped_cons.1 hg').2 (not_continues hu hd)
    | marked hm' hg' =>
      obtain ⟨hb, -, -, -⟩ := markerBase_spec hm'
      exact absurd (grouped_cons.1 hg').1 (by rw [digitValue_underscore]; omega)
    | markedUnderscore hm' _ =>
      rw [hm] at hm'
      cases hm'
      rfl

theorem Unsigned.of_grouped_decimal (hg : Grouped 10 cs) (h : Unsigned cs n) :
    (digitsOf cs).length ≤ maxDecimalDigits ∧ n = valueOf 10 cs := by
  cases h with
  | decimal _ hlen => exact ⟨hlen, rfl⟩
  | marked hm _ | markedUnderscore hm _ =>
    obtain ⟨-, hu, hd, -⟩ := markerBase_spec hm
    exact absurd (grouped_cons.1 hg).2 (not_continues hu hd)

end Magnitude

/-! ## Signs -/

section Signs

variable {U V : List Char → Nat → Prop} {cs : List Char} {v : Int}

/-- Magnitudes that start with a decimal digit leave the sign, if any, to be read apart. -/
def StartsWithDigit (U : List Char → Nat → Prop) : Prop :=
  ∀ cs n, U cs n → ∃ c t, cs = c :: t ∧ digitValue c < 10

theorem Signed.mono (h : Signed U cs v) (hUV : ∀ cs n, U cs n → V cs n) : Signed V cs v := by
  cases h with
  | plain hu => exact .plain (hUV _ _ hu)
  | plus hu => exact .plus (hUV _ _ hu)
  | minus hu => exact .minus (hUV _ _ hu)

theorem Signed.or_elim (h : Signed (fun cs n => U cs n ∨ V cs n) cs v) :
    Signed U cs v ∨ Signed V cs v := by
  cases h with
  | plain hu => exact hu.elim (fun h => .inl (.plain h)) (fun h => .inr (.plain h))
  | plus hu => exact hu.elim (fun h => .inl (.plus h)) (fun h => .inr (.plus h))
  | minus hu => exact hu.elim (fun h => .inl (.minus h)) (fun h => .inr (.minus h))

theorem signed_minus_iff (hU : StartsWithDigit U) (rest : List Char) :
    Signed U ('-' :: rest) v ↔ ∃ n, U rest n ∧ v = -n := by
  constructor
  · intro h
    cases h with
    | plain hu =>
      obtain ⟨c, t, he, hc⟩ := hU _ _ hu
      obtain ⟨rfl, -⟩ := List.cons.inj he
      exact absurd hc (by decide)
    | minus hu => exact ⟨_, hu, rfl⟩
  · rintro ⟨n, hu, rfl⟩
    exact .minus hu

theorem signed_plus_iff (hU : StartsWithDigit U) (rest : List Char) :
    Signed U ('+' :: rest) v ↔ ∃ n, U rest n ∧ v = n := by
  constructor
  · intro h
    cases h with
    | plain hu =>
      obtain ⟨c, t, he, hc⟩ := hU _ _ hu
      obtain ⟨rfl, -⟩ := List.cons.inj he
      exact absurd hc (by decide)
    | plus hu => exact ⟨_, hu, rfl⟩
  · rintro ⟨n, hu, rfl⟩
    exact .plus hu

theorem signed_unsigned_iff (hne : ∀ rest, cs ≠ '-' :: rest) (hpl : ∀ rest, cs ≠ '+' :: rest) :
    Signed U cs v ↔ ∃ n, U cs n ∧ v = n := by
  constructor
  · intro h
    cases h with
    | plain hu => exact ⟨_, hu, rfl⟩
    | plus => exact absurd rfl (hpl _)
    | minus => exact absurd rfl (hne _)
  · rintro ⟨n, hu, rfl⟩
    exact .plain hu

theorem startsWithDigit_unsigned : StartsWithDigit Unsigned := fun _ _ h => h.head

theorem startsWithDigit_reader (radix : Radix) :
    StartsWithDigit (fun cs n => readMagnitude radix cs = .ok n) := fun _ _ h => by
  cases radix with
  | auto => exact (unsigned_of_auto h).head
  | decimal => exact (unsigned_of_decimal h).head

theorem Signed.unique {v' : Int} (h : Signed Unsigned cs v) (h' : Signed Unsigned cs v') :
    v = v' := by
  cases h with
  | plain hu =>
    obtain ⟨n', hu', rfl⟩ := (signed_unsigned_iff
      (fun r he => by obtain ⟨c, t, he', hc⟩ := hu.head; rw [he] at he'; cases he'; exact absurd hc (by decide))
      (fun r he => by obtain ⟨c, t, he', hc⟩ := hu.head; rw [he] at he'; cases he'; exact absurd hc (by decide))).1 h'
    rw [hu.unique hu']
  | plus hu =>
    obtain ⟨n', hu', rfl⟩ := (signed_plus_iff startsWithDigit_unsigned _).1 h'
    rw [hu.unique hu']
  | minus hu =>
    obtain ⟨n', hu', rfl⟩ := (signed_minus_iff startsWithDigit_unsigned _).1 h'
    rw [hu.unique hu']

theorem toOption_map_eq_some {x : Except Refusal Nat} {f : Int → Int} {v : Int} :
    (Except.map f (x >>= fun a => pure (a : Int))).toOption = some v ↔ ∃ n, x = .ok n ∧ v = f n := by
  cases x <;> simp [Except.map, Except.toOption, bind, Except.bind, pure, Except.pure, eq_comm]

theorem read_eq_some_iff (radix : Radix) (s : String) (v : Int) :
    read radix s = some v ↔
      Signed (fun cs n => readMagnitude radix cs = .ok n) (trim (s.toList.map normalize)) v := by
  have hU := startsWithDigit_reader radix
  unfold read parse
  generalize trim (s.toList.map normalize) = body
  split
  · rw [toOption_map_eq_some, signed_minus_iff hU]
  · rw [toOption_map_eq_some, signed_plus_iff hU]
  · rename_i hne hpl
    rw [toOption_map_eq_some, signed_unsigned_iff (fun r h => hne r h) (fun r h => hpl r h)]

end Signs

/-! ## Spaces around a numeral -/

section Spaces

variable {cs : List Char} {n : Nat} {v : Int}

theorem char_le_iff_toNat {c d : Char} : c ≤ d ↔ c.toNat ≤ d.toNat := by
  simp only [Char.le_def, UInt32.le_iff_toNat_le, Char.toNat_val]

theorem digitValue_of_toNat_lt {c : Char} (h : c.toNat < 48) : digitValue c = 99 := by
  unfold digitValue
  have h0 : ¬ ('0' ≤ c ∧ c ≤ '9') := fun ⟨a, _⟩ => by rw [char_le_iff_toNat] at a; simp at a; omega
  have ha : ¬ ('a' ≤ c ∧ c ≤ 'z') := fun ⟨a, _⟩ => by rw [char_le_iff_toNat] at a; simp at a; omega
  have hA : ¬ ('A' ≤ c ∧ c ≤ 'Z') := fun ⟨a, _⟩ => by rw [char_le_iff_toNat] at a; simp at a; omega
  rw [if_neg h0, if_neg ha, if_neg hA]

theorem not_space_of_digitValue_lt {c : Char} (h : digitValue c < 99) : isSpace c = false := by
  by_contra hs
  have hlt : c.toNat < 48 := by
    simp only [Bool.not_eq_false, isSpace, Bool.or_eq_true, decide_eq_true_eq,
      Bool.and_eq_true] at hs
    rcases hs with rfl | ⟨_, h2⟩
    · decide
    · rw [char_le_iff_toNat] at h2; simp at h2; omega
  rw [digitValue_of_toNat_lt hlt] at h
  exact absurd h (by decide)

theorem Grouped.not_space {b : Nat} (hb : b ≤ 16) (h : Grouped b cs) : ∀ c ∈ cs, isSpace c = false := by
  intro c hc
  obtain ⟨g, gs, -, hd, hgs, rfl⟩ := h
  simp only [List.mem_append, List.mem_flatten, List.mem_map] at hc
  rcases hc with hc | ⟨_, ⟨h, hh, rfl⟩, hc⟩
  · exact not_space_of_digitValue_lt (by have := hd c hc; omega)
  · rcases List.mem_cons.1 hc with rfl | hc
    · decide
    · exact not_space_of_digitValue_lt (by have := (hgs h hh).2 c hc; omega)

theorem Unsigned.not_space (h : Unsigned cs n) : ∀ c ∈ cs, isSpace c = false := by
  cases h with
  | decimal hg _ => exact hg.not_space (by decide)
  | marked hm hg | markedUnderscore hm hg =>
    obtain ⟨hb, -, -, hl⟩ := markerBase_spec hm
    intro c hc
    simp only [List.mem_cons] at hc
    rcases hc with rfl | rfl | hc
    · decide
    · exact not_space_of_digitValue_lt hl
    · first
        | exact hg.not_space hb c hc
        | rcases hc with rfl | hc
          · decide
          · exact hg.not_space hb c hc

theorem Signed.not_space (h : Signed Unsigned cs v) : cs ≠ [] ∧ ∀ c ∈ cs, isSpace c = false := by
  cases h with
  | plain hu =>
    obtain ⟨c, t, rfl, -⟩ := hu.head
    exact ⟨List.cons_ne_nil _ _, hu.not_space⟩
  | plus hu | minus hu =>
    refine ⟨List.cons_ne_nil _ _, fun c hc => ?_⟩
    rcases List.mem_cons.1 hc with rfl | hc
    · decide
    · exact hu.not_space c hc

theorem trim_of_spaced {pre body post : List Char} (hpre : ∀ c ∈ pre, isSpace c)
    (hpost : ∀ c ∈ post, isSpace c) (hne : body ≠ []) (hbody : ∀ c ∈ body, isSpace c = false) :
    trim (pre ++ body ++ post) = body := by
  obtain ⟨c, t, rfl⟩ := List.exists_cons_of_ne_nil hne
  have h1 : (pre ++ c :: t ++ post).dropWhile isSpace = c :: t ++ post := by
    rw [List.append_assoc, List.dropWhile_append_of_pos hpre, List.cons_append,
      List.dropWhile_cons_of_neg (by simp [hbody c List.mem_cons_self])]
  obtain ⟨d, u, hdu⟩ := List.exists_cons_of_ne_nil (List.reverse_ne_nil_iff.2 hne)
  have hd : isSpace d = false := hbody d (by rw [← List.mem_reverse, hdu]; exact List.mem_cons_self)
  have h2 : ((c :: t ++ post).reverse).dropWhile isSpace = (c :: t).reverse := by
    rw [List.reverse_append, List.dropWhile_append_of_pos (by simpa using hpost), hdu,
      List.dropWhile_cons_of_neg (by simp [hd])]
  simp only [trim, h1, h2, List.reverse_reverse]

theorem spaced_iff (cs : List Char) (v : Int) : Spaced cs v ↔ Signed Unsigned (trim cs) v := by
  constructor
  · rintro ⟨pre, body, post, rfl, hpre, hpost, h⟩
    obtain ⟨hne, hbody⟩ := h.not_space
    rwa [trim_of_spaced hpre hpost hne hbody]
  · intro h
    let rest := cs.dropWhile isSpace
    have hrest : rest = trim cs ++ (rest.reverse.takeWhile isSpace).reverse := by
      rw [trim, ← List.reverse_append, List.takeWhile_append_dropWhile, List.reverse_reverse]
    refine ⟨cs.takeWhile isSpace, trim cs, (rest.reverse.takeWhile isSpace).reverse, ?_,
      fun c hc => List.mem_takeWhile_imp hc,
      fun c hc => List.mem_takeWhile_imp (List.mem_reverse.1 hc), h⟩
    rw [List.append_assoc, ← hrest]
    exact List.takeWhile_append_dropWhile.symm

theorem Spaced.unique {w : Int} (hv : Spaced cs v) (hw : Spaced cs w) : v = w :=
  ((spaced_iff cs v).1 hv).unique ((spaced_iff cs w).1 hw)

end Spaces

theorem read_orElse_eq_some (s : String) (v : Int) :
    (read .auto s).orElse (fun _ => read .decimal s) = some v ↔
      Signed Unsigned (trim (s.toList.map normalize)) v := by
  constructor
  · intro h
    cases ha : read .auto s with
    | some a =>
      rw [ha, Option.orElse_some, Option.some.injEq] at h
      subst h
      exact ((read_eq_some_iff .auto s a).1 ha).mono fun _ _ => unsigned_of_auto
    | none =>
      rw [ha, Option.orElse_none] at h
      exact ((read_eq_some_iff .decimal s v).1 h).mono fun _ _ => unsigned_of_decimal
  · intro h
    rcases (h.mono fun _ _ hu => auto_or_decimal hu).or_elim with ha | hd
    · rw [(read_eq_some_iff .auto s v).2 ha, Option.orElse_some]
    · cases ha : read .auto s with
      | some a =>
        have h' := ((read_eq_some_iff .auto s a).1 ha).mono fun _ _ => unsigned_of_auto
        rw [Option.orElse_some, h'.unique h]
      | none => rw [Option.orElse_none, (read_eq_some_iff .decimal s v).2 hd]

theorem reading_eq (t : List Glyph) : (Glyph.toText t).toList.map normalize = reading t := by
  simp [Glyph.toText, reading, Function.comp_def]

theorem not_signed_of_long (hg : Grouped 10 cs) (hlong : maxDecimalDigits < (digitsOf cs).length)
    (v : Int) : ¬ Signed Unsigned cs v := by
  obtain ⟨c, t, rfl, hc⟩ : ∃ c t, cs = c :: t ∧ digitValue c < 10 := by
    cases cs with
    | nil => exact absurd hg not_grouped_nil
    | cons c t => exact ⟨c, t, rfl, (grouped_cons.1 hg).1⟩
  have hsign : ∀ s, s = '-' ∨ s = '+' → c ≠ s := by
    rintro s (rfl | rfl) rfl <;> exact absurd hc (by decide)
  intro h
  obtain ⟨n, hu, -⟩ := (signed_unsigned_iff (fun r he => hsign _ (.inl rfl) (List.cons.inj he).1)
    (fun r he => hsign _ (.inr rfl) (List.cons.inj he).1)).1 h
  exact absurd (hu.of_grouped_decimal hg).1 (by omega)

end DoipWire.Numeral

namespace DoipWire

open Numeral

theorem readVersion_eq_some (t : List Glyph) (v : Int) :
    (read .auto (Glyph.toText t)).orElse (fun _ => read .decimal (Glyph.toText t)) = some v ↔
      Spaced (reading t) v := by
  rw [read_orElse_eq_some, spaced_iff, reading_eq]

theorem parseVersion_of_not_spaced {t : List Glyph} (h : ∀ v, ¬ Spaced (reading t) v) :
    parseVersion t = .error (.versionSyntax t) := by
  have hnone : (read .auto (Glyph.toText t)).orElse (fun _ => read .decimal (Glyph.toText t)) =
      none := by
    rw [Option.eq_none_iff_forall_ne_some]
    exact fun v hv => h v ((readVersion_eq_some t v).1 hv)
  simp only [parseVersion, hnone]

theorem parseVersion_of_spaced {t : List Glyph} {w : Int} (hw : Spaced (reading t) w) :
    parseVersion t = if 0 ≤ w ∧ w ≤ 255 then .ok w else .error (.versionRange t) := by
  simp only [parseVersion, (readVersion_eq_some t w).2 hw]

/-- A protocol version text is read exactly when it is a numeral, spaces around it allowed, of
value `0 .. 255`: decimal digits with any leading zeros and at most `maxDecimalDigits` of them,
or a zero, a base marker (`x`, `o` or `b`, either case) and digits of that base, with one
underscore after the marker and single underscores between digits allowed, and a sign or none.
A numeral of another value is refused as out of range, and every other text as no version;
characters are taken as numerals read them, so a space or decimal digit of any script counts
as one. -/
theorem parseVersion_reads_numerals (t : List Glyph) :
    (∀ v, parseVersion t = .ok v ↔ Spaced (reading t) v ∧ 0 ≤ v ∧ v ≤ 255) ∧
    (parseVersion t = .error (.versionRange t) ↔
      ∃ v, Spaced (reading t) v ∧ ¬ (0 ≤ v ∧ v ≤ 255)) ∧
    (parseVersion t = .error (.versionSyntax t) ↔ ∀ v, ¬ Spaced (reading t) v) ∧
    (Error.versionRange t).message =
      "DoIP protocol version out of range 0..255: " ++ Quoted.quoteGlyphs t ∧
    (Error.versionSyntax t).message = "Invalid DoIP protocol version: " ++ Quoted.quoteGlyphs t := by
  by_cases hs : ∃ w, Spaced (reading t) w
  · -- the text spells one numeral, and its value decides
    obtain ⟨w, hw⟩ := hs
    have hv : ∀ v, Spaced (reading t) v ↔ v = w := fun v => ⟨fun h => h.unique hw, fun h => h ▸ hw⟩
    rw [parseVersion_of_spaced hw]
    refine ⟨fun v => ?_, ?_, ?_, rfl, rfl⟩ <;> by_cases hr : 0 ≤ w ∧ w ≤ 255 <;>
      simp [hv, hr, eq_comm] <;> omega
  · -- the text spells no numeral
    simp only [not_exists] at hs
    rw [parseVersion_of_not_spaced hs]
    refine ⟨fun v => ?_, ?_, ?_, rfl, rfl⟩ <;> simp [hs]

theorem parseVersion_of_long_decimal {t : List Glyph} (hg : Grouped 10 (reading t))
    (hlong : maxDecimalDigits < (digitsOf (reading t)).length) :
    parseVersion t = .error (.versionSyntax t) := by
  have htrim : trim (reading t) = reading t := by
    simpa using @trim_of_spaced [] (reading t) [] (by simp) (by simp)
      (fun he => not_grouped_nil (he ▸ hg)) (hg.not_space (by decide))
  refine parseVersion_of_not_spaced fun v hv => ?_
  rw [spaced_iff, htrim] at hv
  exact not_signed_of_long hg hlong v hv

/-- Four thousand three hundred zeros and a seven are grouped decimal digits that spell seven,
yet the text is refused as no version at all. -/
theorem version_of_too_many_digits :
    Grouped 10 (reading (List.replicate 4300 (Glyph.char '0') ++ [Glyph.char '7'])) ∧
    valueOf 10 (reading (List.replicate 4300 (Glyph.char '0') ++ [Glyph.char '7'])) = 7 ∧
    parseVersion (List.replicate 4300 (Glyph.char '0') ++ [Glyph.char '7']) =
      .error (.versionSyntax (List.replicate 4300 (Glyph.char '0') ++ [Glyph.char '7'])) := by
  have h0 : normalize '0' = '0' := by decide
  have h7 : normalize '7' = '7' := by decide
  have hread : reading (List.replicate 4300 (Glyph.char '0') ++ [Glyph.char '7']) =
      List.replicate 4300 '0' ++ ['7'] := by
    simp only [reading, List.map_append, List.map_replicate, List.map_cons, List.map_nil,
      Glyph.toChar, h0, h7]
  have hdig : Digits 10 (List.replicate 4300 '0' ++ ['7']) := by
    intro c hc
    simp only [List.mem_append, List.mem_replicate, List.mem_singleton] at hc
    rcases hc with ⟨-, rfl⟩ | rfl <;> decide
  have hdigits := digitsOf_of_digits (by decide) hdig
  have hgrouped := grouped_of_digits (List.append_ne_nil_of_right_ne_nil _ (List.cons_ne_nil _ _)) hdig
  have hlong : maxDecimalDigits < (digitsOf (List.replicate 4300 '0' ++ ['7'])).length := by
    rw [hdigits, List.length_append, List.length_replicate]
    simp only [maxDecimalDigits, List.length_singleton]
    omega
  refine ⟨hread ▸ hgrouped, ?_, parseVersion_of_long_decimal (hread ▸ hgrouped) (hread ▸ hlong)⟩
  have hv0 : digitValue '0' = 0 := rfl
  have hv7 : digitValue '7' = 7 := rfl
  simp only [hread, valueOf, hdigits, List.map_append, List.map_replicate, List.map_cons,
    List.map_nil, hv0, hv7, List.reverse_append, List.reverse_replicate, List.reverse_cons,
    List.reverse_nil, List.nil_append, List.singleton_append, Nat.ofDigits_cons,
    Nat.ofDigits_replicate_zero]

end DoipWire
