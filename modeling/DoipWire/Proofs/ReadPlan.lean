import DoipWire.Proofs.Delivery

/-!
# Decoders as plans of requests

A `Plan` lays a decoder out as steps that each make at most one request; `Plan.trace` lists the
requests a run makes. Under any limits a plan runs as it runs without them, cut at its first
request over the read limit (`Plan.run_limited`).
-/

namespace DoipWire

open Source Decoder

def mapState {ε σ β : Type} (g : σ → σ) : EStateM.Result ε σ β → EStateM.Result ε σ β
  | .ok b s => .ok b (g s)
  | .error e s => .error e (g s)

def ReadLimits.uncapped (l : ReadLimits) : ReadLimits := ⟨l.fills, none, none⟩

@[simp] theorem ReadLimits.uncapped_fills (l : ReadLimits) : l.uncapped.fills = l.fills := rfl

@[simp] theorem ReadLimits.uncapped_readCap (l : ReadLimits) : l.uncapped.readCap = none := rfl

@[simp] theorem ReadLimits.uncapped_fillCap (l : ReadLimits) : l.uncapped.fillCap = none := rfl

namespace Source

def withLimits (s : Source) (l : ReadLimits) : Source := { s with limits := l }

def uncapped (s : Source) : Source := s.withLimits s.limits.uncapped

variable (s : Source) (l l' : ReadLimits) (n : Nat)

@[simp] theorem withLimits_rest : (s.withLimits l).rest = s.rest := rfl

@[simp] theorem withLimits_limits : (s.withLimits l).limits = l := rfl

@[simp] theorem withLimits_withLimits : (s.withLimits l).withLimits l' = s.withLimits l' := rfl

@[simp] theorem withLimits_self : s.withLimits s.limits = s := rfl

@[simp] theorem skip_withLimits : (s.skip n).withLimits l = (s.withLimits l).skip n := rfl

@[simp] theorem uncapped_rest : s.uncapped.rest = s.rest := rfl

@[simp] theorem uncapped_limits : s.uncapped.limits = s.limits.uncapped := rfl

@[simp] theorem uncapped_withLimits : s.uncapped.withLimits l = s.withLimits l := rfl

@[simp] theorem skip_uncapped : (s.skip n).uncapped = s.uncapped.skip n := rfl

theorem withLimits_of_eq {s : Source} {l : ReadLimits} (h : s.limits = l) : s.withLimits l = s := by
  subst h
  rfl

end Source

def Reading.relimit {β : Type} (l : ReadLimits) :
    EStateM.Result Error Source β → EStateM.Result Error Source β :=
  mapState (·.withLimits l)

namespace Source


theorem requestSize_of_passes {s : Source} {n : Nat} (hc : ∀ k, s.limits.readCap = some k → n ≤ k) :
    s.requestSize n = s.uncapped.requestSize n := by
  unfold requestSize
  cases hk : s.limits.readCap with
  | none => rfl
  | some k =>
    have := hc k hk
    simp only [uncapped_limits, ReadLimits.uncapped_readCap, uncapped_rest]
    omega

theorem readExact_of_passes {s : Source} {n : Nat} (hc : ∀ k, s.limits.readCap = some k → n ≤ k) :
    readExact n s = Reading.relimit s.limits (readExact n s.uncapped) := by
  rw [readExact_eq, readExact_eq, requestSize_of_passes hc]
  by_cases h0 : n = 0
  · simp [h0, Reading.relimit, mapState]
  · by_cases hlt : s.uncapped.requestSize n < n <;> simp [h0, hlt, Reading.relimit, mapState]

theorem readExact_of_cap_lt {s : Source} {n k : Nat} (hc : s.limits.readCap = some k) (hlt : k < n) :
    readExact n s = .error (.truncated (min k s.rest.length) n) (s.skip (min k s.rest.length)) := by
  have hn : s.requestSize n = min k s.rest.length := by
    simp only [requestSize, hc]
    omega
  rw [readExact_eq, if_neg (by omega), hn, if_pos (by omega)]

end Source

/-! ## One step under limits -/

namespace Decoder

variable {α β : Type}

def relimit (l : ReadLimits) :
    EStateM.Result Error (Source × α) β → EStateM.Result Error (Source × α) β :=
  mapState fun st => (st.1.withLimits l, st.2)

def limitsLeft : EStateM.Result Error (Source × α) β → ReadLimits
  | .ok _ st => st.1.limits
  | .error _ st => st.1.limits

/-- A request of `n` bytes cut at `k`: it brings what the source holds up to `k` bytes, and the
decoding fails there with the instance as it stands. -/
def cutShort (k n : Nat) (st : Source × α) : EStateM.Result Error (Source × α) β :=
  .error (.truncated (min k st.1.rest.length) n) (st.1.skip (min k st.1.rest.length), st.2)

/-- Runs `d`, whose one request is `request`, under a read limit `c`: a limit below the request
cuts it, and `d` does not run. -/
def cut (c : Option Nat) (request : Bool → α → Option Nat) (d : Decoder α β) : Decoder α β :=
  fun st =>
    match request st.1.limits.fills st.2, c with
    | some n, some k => if k < n then cutShort k n st else d st
    | _, _ => d st

@[simp] theorem limitsLeft_relimit (r : EStateM.Result Error (Source × α) β) :
    limitsLeft (relimit l r) = l := by
  cases r <;> rfl

theorem cut_cases (c : Option Nat) (request : Bool → α → Option Nat) (d : Decoder α β)
    (st : Source × α) :
    (∃ n k, request st.1.limits.fills st.2 = some n ∧ c = some k ∧ k < n ∧
        cut c request d st = cutShort k n st) ∨
      ((∀ n k, request st.1.limits.fills st.2 = some n → c = some k → n ≤ k) ∧
        cut c request d st = d st) := by
  unfold cut
  cases hr : request st.1.limits.fills st.2 with
  | none => exact .inr ⟨by simp, rfl⟩
  | some n =>
    cases c with
    | none => exact .inr ⟨by simp, rfl⟩
    | some k =>
      by_cases hlt : k < n
      · exact .inl ⟨n, k, rfl, rfl, hlt, if_pos hlt⟩
      · refine .inr ⟨?_, if_neg hlt⟩
        rintro n' k' ⟨⟩ ⟨⟩
        omega

theorem cut_of_passes {c : Option Nat} {request : Bool → α → Option Nat} {d : Decoder α β}
    {st : Source × α} (h : ∀ n k, request st.1.limits.fills st.2 = some n → c = some k → n ≤ k) :
    cut c request d st = d st := by
  rcases cut_cases c request d st with ⟨n, k, hr, hc, hlt, -⟩ | ⟨-, hcut⟩
  · exact absurd (h n k hr hc) (by omega)
  · exact hcut

theorem cut_of_lt {c n : Nat} {request : Bool → α → Option Nat} {d : Decoder α β}
    {st : Source × α} (hr : request st.1.limits.fills st.2 = some n) (hlt : c < n) :
    cut (some c) request d st = cutShort c n st := by
  simp only [cut, hr, if_pos hlt]

@[simp] theorem cut_none (request : Bool → α → Option Nat) (d : Decoder α β) :
    cut none request d = d :=
  funext fun _ => cut_of_passes (by simp)

theorem into_of_relimit {d d' : Decoder α β} {m : α} {s s' : Source} {l : ReadLimits}
    (h : d (s, m) = relimit l (d' (s', m))) : d.into m s = Reading.relimit l (d'.into m s') := by
  unfold into
  rw [h]
  rcases d' (s', m) with ⟨_, s₁, m₁⟩ | ⟨e, s₁, m₁⟩ <;> rfl

end Decoder

/-- A step of a decoder: it makes at most one request of the source, of the size `request` gives
from whether the source fills buffers and from the instance, before it hands anything out. Under
any limits whose fills bring bytes it runs as without limits, except that a read limit below its
request cuts it. -/
structure ReadStep (α β : Type) where
  request : Bool → α → Option Nat
  run : Decoder α β
  limited : ∀ s m, s.limits.FillsAdvance →
    run (s, m) = relimit s.limits (cut s.limits.readCap request run (s.uncapped, m))

namespace ReadStep

variable {α β : Type}

def check (r : Except Error β) : ReadStep α β where
  request _ _ := none
  run := Decoder.check r
  limited _ _ _ := by cases r <;> rfl

def update (f : α → α) : ReadStep α Unit where
  request _ _ := none
  run := Decoder.update f
  limited _ _ _ := rfl

def target : ReadStep α α where
  request _ _ := none
  run := Decoder.target
  limited _ _ _ := rfl

def fail (e : Error) : ReadStep α β where
  request _ _ := none
  run := Decoder.fail e
  limited _ _ _ := rfl

/-- Reads `n` bytes with one exact read and makes of them a value, or a refusal. -/
def exactThen (n : Nat) (g : List UInt8 → Except Error β) : Reading β := fun s =>
  match readExact n s with
  | .ok bs s' =>
    match g bs with
    | .ok b => .ok b s'
    | .error e => .error e s'
  | .error e s' => .error e s'

theorem read_exactThen (n : Nat) (g : List UInt8 → Except Error β) (s : Source) (m : α) :
    read (exactThen n g) (s, m) =
      match readExact n s with
      | .ok bs s' =>
        match g bs with
        | .ok b => .ok b (s', m)
        | .error e => .error e (s', m)
      | .error e s' => .error e (s', m) := by
  simp only [read_apply, exactThen]
  cases readExact n s with
  | ok bs s' =>
    dsimp only
    cases g bs <;> rfl
  | error e s' => rfl

theorem relimit_exactThen (n : Nat) (g : List UInt8 → Except Error β) (s : Source) (m : α)
    (l : ReadLimits) :
    relimit l (read (exactThen n g) (s, m)) =
      match Reading.relimit l (readExact n s) with
      | .ok bs s' =>
        match g bs with
        | .ok b => .ok b (s', m)
        | .error e => .error e (s', m)
      | .error e s' => .error e (s', m) := by
  rw [read_exactThen]
  cases readExact n s with
  | ok bs s' =>
    dsimp only [Reading.relimit, mapState]
    cases g bs <;> rfl
  | error e s' => rfl

theorem exactThen_limited (n : Nat) (g : List UInt8 → Except Error β) (s : Source) (m : α) :
    read (exactThen n g) (s, m) =
      relimit s.limits (cut s.limits.readCap (fun _ _ => if n = 0 then none else some n)
        (read (exactThen n g)) (s.uncapped, m)) := by
  rcases cut_cases s.limits.readCap (fun _ _ => if n = 0 then none else some n)
    (read (exactThen n g)) (s.uncapped, m) with ⟨n', k, hr, hc, hlt, hcut⟩ | ⟨hpass, hcut⟩
  · -- the limit cuts the request
    obtain ⟨h0, rfl⟩ : n ≠ 0 ∧ n = n' := by simpa using hr
    rw [hcut]
    simp [exactThen, readExact_of_cap_lt hc hlt, cutShort, Decoder.relimit, mapState]
  · have hc : ∀ k, s.limits.readCap = some k → n ≤ k := by
      intro k hk
      by_cases h0 : n = 0
      · omega
      · exact hpass n k (by simp [h0]) hk
    rw [hcut, relimit_exactThen, ← readExact_of_passes hc, read_exactThen]

theorem readExact_eq_exactThen (n : Nat) : readExact n = exactThen n .ok := by
  funext s
  unfold exactThen
  cases readExact n s <;> rfl

def ofExact (r : Reading β) (n : Nat) (g : List UInt8 → Except Error β) (hr : r = exactThen n g) :
    ReadStep α β where
  request _ _ := if n = 0 then none else some n
  run := read r
  limited s m _ := by
    subst hr
    exact exactThen_limited n g s m

def readExact (n : Nat) : ReadStep α (List UInt8) :=
  ofExact (Source.readExact n) n .ok (readExact_eq_exactThen n)

theorem readInto_limited (s : Source) (buf : List UInt8) (hf : s.limits.FillsAdvance) :
    Source.readInto (s, buf) =
      relimit s.limits (cut s.limits.readCap
        (fun fills buf => if buf.length = 0 ∨ fills then none else some buf.length)
        Source.readInto (s.uncapped, buf)) := by
  rcases cut_cases s.limits.readCap
    (fun fills (buf : List UInt8) => if buf.length = 0 ∨ fills then none else some buf.length)
    Source.readInto (s.uncapped, buf) with ⟨n, k, hr, hc, hlt, hcut⟩ | ⟨hpass, hcut⟩
  · -- one exact read, cut by the limit
    obtain ⟨⟨h0, hfl⟩, rfl⟩ : (buf.length ≠ 0 ∧ s.limits.fills = false) ∧ buf.length = n := by
      simpa using hr
    rw [hcut]
    simp [Source.readInto, h0, hfl, readExact_of_cap_lt hc hlt, cutShort, Decoder.relimit, mapState]
  · rw [hcut]
    by_cases h0 : buf.length = 0
    · simp [Source.readInto, h0, Decoder.relimit, mapState]
    · cases hfl : s.limits.fills with
      | true =>
        -- every fill brings bytes: the fill limit only changes how many fills it takes
        have hu : s.uncapped.limits.FillsAdvance := fillsAdvance_of_none rfl
        simp only [Source.readInto, h0, if_false, uncapped_limits, ReadLimits.uncapped_fills, hfl,
          if_true, fillFrom_eq _ _ _ buf rfl, fillable_of_advance hf, fillable_of_advance hu, uncapped_rest]
        split <;> simp [Decoder.relimit, mapState]
      | false =>
        have hc : ∀ k, s.limits.readCap = some k → buf.length ≤ k :=
          fun k hk => hpass buf.length k (by simp [h0, hfl]) hk
        simp only [Source.readInto, h0, if_false, uncapped_limits, ReadLimits.uncapped_fills, hfl,
          Bool.false_eq_true, readExact_of_passes hc]
        cases Source.readExact buf.length s.uncapped <;> rfl

def readInto : ReadStep (List UInt8) Unit where
  request fills buf := if buf.length = 0 ∨ fills then none else some buf.length
  run := Source.readInto
  limited := readInto_limited

end ReadStep

/-! ## Plans -/

/-- A decoder laid out as steps that each make at most one request: a step, a plan followed by
the plan its value chooses, and a plan run on a part of the instance. -/
inductive Plan : Type → Type → Type 1 where
  | step {α β : Type} (st : ReadStep α β) : Plan α β
  | bind {α β γ : Type} (p : Plan α γ) (f : γ → Plan α β) : Plan α β
  | part {α β γ : Type} (get : α → β) (put : β → α → α) (p : Plan β γ) : Plan α γ

namespace Plan

/-- The decoder a plan lays out. -/
def run : {α β : Type} → Plan α β → Decoder α β
  | _, _, .step st => st.run
  | _, _, .bind p f => p.run >>= fun x => (f x).run
  | _, _, .part get put p => onPart get put p.run

@[simp] theorem run_step {α β : Type} (st : ReadStep α β) : (step st).run = st.run := rfl

@[simp] theorem run_bind {α β γ : Type} (p : Plan α γ) (f : γ → Plan α β) :
    (p.bind f).run = p.run >>= fun x => (f x).run := rfl

@[simp] theorem run_part {α β γ : Type} (get : α → β) (put : β → α → α) (p : Plan β γ) :
    (part get put p).run = onPart get put p.run := rfl

/-- The plan run with each step cut at the read limit `c`. -/
def cutRun (c : Option Nat) : {α β : Type} → Plan α β → Decoder α β
  | _, _, .step st => cut c st.request st.run
  | _, _, .bind p f => p.cutRun c >>= fun x => (f x).cutRun c
  | _, _, .part get put p => onPart get put (p.cutRun c)

/-- The requests the plan's run makes from a state, in order, each with the state it is made in.
A step that fails ends the run, and with it the requests. -/
def trace : {α β : Type} → Plan α β → Source × α → List (Nat × (Source × α))
  | _, _, .step st, st₀ => (st.request st₀.1.limits.fills st₀.2).toList.map fun n => (n, st₀)
  | _, _, .bind p f, st₀ =>
    p.trace st₀ ++
      match p.run st₀ with
      | .ok x st₁ => (f x).trace st₁
      | .error _ _ => []
  | _, _, .part get put p, st₀ =>
    (p.trace (st₀.1, get st₀.2)).map fun r => (r.1, (r.2.1, put r.2.2 st₀.2))

def requests {α β : Type} (p : Plan α β) (st : Source × α) : List Nat := (p.trace st).map Prod.fst

/-- The run of a plan from a source without limits, cut at its first request of more than `c`
bytes, which brings what the source holds up to `c` bytes and fails there. -/
def cutAt {α β : Type} (p : Plan α β) : Option Nat → Decoder α β
  | none => p.run
  | some c => fun st =>
    match (p.trace st).find? (fun r => c < r.1) with
    | some (n, σ) => cutShort c n σ
    | none => p.run st

variable {α β : Type}

theorem cutRun_none (p : Plan α β) : p.cutRun none = p.run := by
  induction p with
  | step st => exact cut_none st.request st.run
  | bind p f ihp ihf => simp only [cutRun, run, ihp, ihf]
  | part get put p ih => simp only [cutRun, run, ih]

theorem limitsLeft_cutRun (p : Plan α β) (c : Option Nat) (s : Source) (m : α)
    (hf : s.limits.FillsAdvance) : limitsLeft (p.cutRun c (s, m)) = s.limits := by
  induction p generalizing s with
  | step st =>
    rcases cut_cases c st.request st.run (s, m) with ⟨n, k, -, -, -, hcut⟩ | ⟨-, hcut⟩
    · rw [cutRun, hcut]
      rfl
    · rw [cutRun, hcut, st.limited s m hf, limitsLeft_relimit]
  | bind p f ihp ihf =>
    have hp := ihp s m hf
    simp only [cutRun, bind_apply]
    rcases hr : p.cutRun c (s, m) with ⟨x, s₁, m₁⟩ | ⟨e, s₁, m₁⟩
    · rw [hr] at hp
      change s₁.limits = s.limits at hp
      rw [← hp]
      exact ihf x s₁ m₁ (hp ▸ hf)
    · rw [hr] at hp
      exact hp
  | part get put p ih =>
    have hp := ih s (get m) hf
    simp only [cutRun, onPart_apply]
    rcases hr : p.cutRun c (s, get m) with ⟨x, s₁, b⟩ | ⟨e, s₁, b⟩ <;> rw [hr] at hp <;> exact hp

theorem run_eq_cutRun (p : Plan α β) (s : Source) (m : α) (hf : s.limits.FillsAdvance) :
    p.run (s, m) = relimit s.limits (p.cutRun s.limits.readCap (s.uncapped, m)) := by
  induction p generalizing s with
  | step st => exact st.limited s m hf
  | bind p f ihp ihf =>
    have hl := limitsLeft_cutRun p s.limits.readCap s.uncapped m (fillsAdvance_of_none rfl)
    simp only [run, cutRun, bind_apply]
    rw [ihp s m hf]
    rcases hr : p.cutRun s.limits.readCap (s.uncapped, m) with ⟨x, s₁, m₁⟩ | ⟨e, s₁, m₁⟩
    · rw [hr] at hl
      change s₁.limits = s.limits.uncapped at hl
      -- the rest of the plan starts from where the first part left the source
      have hs : (s₁.withLimits s.limits).uncapped = s₁ := withLimits_of_eq hl
      have := ihf x (s₁.withLimits s.limits) m₁ hf
      rw [withLimits_limits, hs] at this
      exact this
    · rfl
  | part get put p ih =>
    simp only [run, cutRun, onPart_apply]
    rw [ih s (get m) hf]
    rcases p.cutRun s.limits.readCap (s.uncapped, get m) with ⟨x, s₁, b⟩ | ⟨e, s₁, b⟩ <;> rfl

theorem cutRun_of_le (p : Plan α β) (c : Nat) (st : Source × α) (h : ∀ r ∈ p.trace st, r.1 ≤ c) :
    p.cutRun (some c) st = p.run st := by
  induction p with
  | step st' =>
    refine cut_of_passes fun n k hr hk => ?_
    cases hk
    exact h (n, st) (by simp [trace, hr])
  | bind p f ihp ihf =>
    simp only [trace, List.mem_append] at h
    simp only [cutRun, run, bind_apply]
    rw [ihp st fun r hr => h r (.inl hr)]
    rcases hr : p.run st with ⟨x, st₁⟩ | ⟨e, st₁⟩
    · refine ihf x st₁ fun r hr' => h r (.inr ?_)
      rw [hr]
      exact hr'
    · rfl
  | part get put p ih =>
    obtain ⟨s, m⟩ := st
    have hp : ∀ r ∈ p.trace (s, get m), r.1 ≤ c := fun r hr =>
      h _ (List.mem_map.2 ⟨r, hr, rfl⟩)
    simp only [cutRun, run, onPart_apply, ih (s, get m) hp]

theorem cutRun_of_find (p : Plan α β) (c : Nat) (st : Source × α) {n : Nat} {σ : Source × α}
    (h : (p.trace st).find? (fun r => c < r.1) = some (n, σ)) :
    p.cutRun (some c) st = cutShort c n σ := by
  induction p with
  | step st' =>
    cases hr : st'.request st.1.limits.fills st.2 with
    | none => simp [trace, hr] at h
    | some n' =>
      simp only [trace, hr, Option.toList_some, List.map_cons, List.map_nil, List.find?_cons,
        List.find?_nil] at h
      split at h
      · -- the step's one request is the first over the limit
        rename_i hlt
        cases h
        exact cut_of_lt hr (by simpa using hlt)
      · cases h
  | bind p f ihp ihf =>
    simp only [trace, List.find?_append] at h
    simp only [cutRun, bind_apply]
    cases hp : (p.trace st).find? (fun r => c < r.1) with
    | some r =>
      rw [hp, Option.some_or] at h
      cases h
      rw [ihp st hp]
      rfl
    | none =>
      -- the first part passes the limit and runs as without it
      rw [hp, Option.none_or] at h
      have hle : ∀ r ∈ p.trace st, r.1 ≤ c := fun r hr => by
        have := List.find?_eq_none.1 hp r hr
        simpa using this
      rw [cutRun_of_le p c st hle]
      rcases hr : p.run st with ⟨x, st₁⟩ | ⟨e, st₁⟩
      · rw [hr] at h
        exact ihf x st₁ h
      · rw [hr] at h
        cases h
  | part get put p ih =>
    obtain ⟨s, m⟩ := st
    simp only [trace, List.find?_map] at h
    obtain ⟨r, hr, hrσ⟩ := Option.map_eq_some_iff.1 h
    simp only [Prod.mk.injEq] at hrσ
    obtain ⟨rfl, rfl⟩ := hrσ
    have hr' : (p.trace (s, get m)).find? (fun r => c < r.1) = some r := by
      rw [← hr]
      rfl
    simp only [cutRun, onPart_apply, ih (s, get m) hr', cutShort]

theorem cutRun_eq_cutAt (p : Plan α β) (c : Option Nat) : p.cutRun c = p.cutAt c := by
  cases c with
  | none => exact cutRun_none p
  | some c =>
    funext st
    dsimp only [cutAt]
    split
    · rename_i n σ h
      exact cutRun_of_find p c st h
    · rename_i h
      refine cutRun_of_le p c st fun r hr => ?_
      have := List.find?_eq_none.1 h r hr
      simpa using this

theorem cutAt_of_le (p : Plan α β) {c : Nat} {st : Source × α} (h : ∀ n ∈ p.requests st, n ≤ c) :
    p.cutAt (some c) st = p.run st := by
  rw [← cutRun_eq_cutAt]
  exact cutRun_of_le p c st fun r hr => h r.1 (List.mem_map.2 ⟨r, hr, rfl⟩)

theorem run_limited (p : Plan α β) (s : Source) (m : α) (hf : s.limits.FillsAdvance) :
    p.run (s, m) = relimit s.limits (p.cutAt s.limits.readCap (s.uncapped, m)) := by
  rw [run_eq_cutRun p s m hf, cutRun_eq_cutAt]

/-! ## Requests -/

theorem requests_step (st : ReadStep α β) (σ : Source × α) :
    (step st).requests σ = (st.request σ.1.limits.fills σ.2).toList := by
  simp [requests, trace, Function.comp_def]

theorem requests_bind {γ : Type} (p : Plan α γ) (f : γ → Plan α β) (σ : Source × α) :
    (p.bind f).requests σ = p.requests σ ++ match p.run σ with
      | .ok x σ' => (f x).requests σ'
      | .error _ _ => [] := by
  simp only [requests, trace, List.map_append]
  split <;> rfl

theorem requests_part {γ : Type} (get : α → β) (put : β → α → α) (p : Plan β γ) (s : Source)
    (m : α) : (part get put p).requests (s, m) = p.requests (s, get m) := by
  simp [requests, trace, List.map_map, Function.comp_def]

theorem requests_target_bind (f : α → Plan α β) (s : Source) (m : α) :
    ((step .target).bind f).requests (s, m) = (f m).requests (s, m) := rfl

theorem requests_bind_of_nil {γ : Type} (p : Plan α γ) {f : γ → Plan α β} (σ : Source × α)
    (hf : ∀ x σ', (f x).requests σ' = []) : (p.bind f).requests σ = p.requests σ := by
  rw [requests_bind]
  split <;> simp [hf]

theorem requests_bind_within {γ : Type} {p : Plan α γ} {f : γ → Plan α β} {σ : Source × α}
    {A B : List Nat} (hp : p.requests σ <+: A)
    (hf : ∀ x σ', p.run σ = .ok x σ' → p.requests σ = A ∧ (f x).requests σ' <+: B) :
    (p.bind f).requests σ <+: A ++ B := by
  rw [requests_bind]
  rcases hr : p.run σ with ⟨x, σ'⟩ | ⟨e, σ'⟩
  · obtain ⟨hA, hB⟩ := hf x σ' hr
    rw [hA]
    exact (List.prefix_append_right_inj A).2 hB
  · rw [List.append_nil]
    exact hp.trans (List.prefix_append A B)

end Plan

end DoipWire
