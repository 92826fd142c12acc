import DoipWire.Proofs.Framing
import DoipWire.Proofs.PartialFill
import Mathlib.Algebra.GroupWithZero.Nat

/-!
# Fields are stored in wire order

Decoding a routing activation stores each field as soon as it arrived and was accepted, never
rolling back: seen as a list of fields (`WireField`), a failed decoding has stored exactly the
fields before the one that failed. Every kind checks the length before it reads.
-/

namespace DoipWire

open Source Decoder

/-- A field of a payload: `width` bytes read with one request and decoded into a value of its
slot in the instance, which `get` reads and `set` writes. Decoding may refuse the bytes. -/
structure WireField (α : Type) where
  {β : Type}
  width : Nat
  decode : List UInt8 → Except Error β
  get : α → β
  set : β → α → α

theorem oemPresent_eq_error {len : Int} {short : Nat} {e : Error}
    (h : oemPresent len short = .error e) : e = .payloadLength len short := by
  unfold oemPresent at h
  split_ifs at h
  cases h
  rfl

namespace WireField

variable {α : Type}

def step (f : WireField α) : Decoder α Unit := do
  let bs ← read (readExact f.width)
  let v ← check (f.decode bs)
  update (f.set v)

def run : List (WireField α) → Decoder α Unit
  | [] => pure ()
  | f :: fs => do
    f.step
    run fs

def widthOf (fs : List (WireField α)) : Nat := (fs.map (·.width)).sum

/-- The instance after storing the fields, each decoded from its own bytes of `bs` in order;
refused when a field refuses its bytes. -/
def storeAll : List (WireField α) → List UInt8 → α → Except Error α
  | [], _, m => .ok m
  | f :: fs, bs, m => do
    let v ← f.decode (bs.take f.width)
    storeAll fs (bs.drop f.width) (f.set v m)

/-- Storing `f` leaves the slot of `g` as it was. -/
def Separate (f g : WireField α) : Prop := ∀ v m, g.get (f.set v m) = g.get m

variable {f : WireField α} {fs : List (WireField α)} {s s' : Source} {m m' : α} {e : Error}

@[simp] theorem widthOf_nil : widthOf ([] : List (WireField α)) = 0 := rfl

@[simp] theorem widthOf_cons : widthOf (f :: fs) = f.width + widthOf fs := by
  simp [widthOf]

theorem step_error (h : f.step (s, m) = .error e (s', m')) : m' = m := by
  simp only [step, bind_apply, read_apply] at h
  cases hr : readExact f.width s with
  | error e₁ s₁ =>
    rw [hr] at h
    cases h
    rfl
  | ok bs s₁ =>
    rw [hr] at h
    cases hd : f.decode bs with
    | error e₂ =>
      simp only [hd, check_error] at h
      cases h
      rfl
    | ok v =>
      simp only [hd, check_ok, update_apply] at h
      cases h

theorem step_ok {u : Unit} (h : f.step (s, m) = .ok u (s', m')) :
    ∃ v, f.decode (s.rest.take f.width) = .ok v ∧ s' = s.skip f.width ∧ m' = f.set v m := by
  simp only [step, bind_apply, read_apply] at h
  cases hr : readExact f.width s with
  | error e₁ s₁ =>
    rw [hr] at h
    cases h
  | ok bs s₁ =>
    rw [hr] at h
    obtain ⟨-, rfl, rfl⟩ := readExact_eq_ok hr
    cases hd : f.decode (s.rest.take f.width) with
    | error e₂ =>
      simp only [hd, check_error] at h
      cases h
    | ok v =>
      simp only [hd, check_ok, update_apply, EStateM.Result.ok.injEq, Prod.mk.injEq] at h
      obtain ⟨-, rfl, rfl⟩ := h
      exact ⟨v, rfl, rfl, rfl⟩

theorem run_cons (f : WireField α) (fs : List (WireField α)) :
    run (f :: fs) = (f.step >>= fun _ => run fs) := rfl

theorem run_error (h : run fs (s, m) = .error e (s', m')) :
    ∃ pre f post, fs = pre ++ f :: post ∧ storeAll pre s.rest m = .ok m' ∧
      f.step (s.skip (widthOf pre), m') = .error e (s', m') := by
  induction fs generalizing s m with
  | nil => cases h
  | cons f fs ih =>
    rw [run_cons, bind_apply] at h
    cases hf : f.step (s, m) with
    | error e₁ st =>
      obtain ⟨s₁, m₁⟩ := st
      rw [hf] at h
      cases h
      -- the first field failed: nothing was stored
      have hm := step_error hf
      subst hm
      exact ⟨[], f, fs, rfl, rfl, by rw [widthOf_nil, skip_zero]; exact hf⟩
    | ok u₁ st =>
      obtain ⟨s₁, m₁⟩ := st
      rw [hf] at h
      obtain ⟨v, hv, rfl, rfl⟩ := step_ok hf
      obtain ⟨pre, g, post, rfl, hs, hg⟩ := ih h
      refine ⟨f :: pre, g, post, rfl, ?_, ?_⟩
      · simp only [storeAll, hv, except_ok_bind]
        exact hs
      · rw [widthOf_cons, ← skip_skip]
        exact hg

theorem get_of_storeAll {g : WireField α} {bs : List UInt8} (hsep : ∀ f ∈ fs, Separate f g)
    (h : storeAll fs bs m = .ok m') : g.get m' = g.get m := by
  induction fs generalizing bs m with
  | nil =>
    cases h
    rfl
  | cons f fs ih =>
    simp only [storeAll] at h
    obtain ⟨v, -, hs⟩ := except_bind_eq_ok.1 h
    rw [ih (fun f' hf' => hsep f' (List.mem_cons_of_mem f hf')) hs]
    exact hsep f List.mem_cons_self v m

theorem step_error_cases (h : f.step (s, m) = .error e (s', m')) :
    (∃ got, e = .truncated got f.width) ∨ ∃ bs, f.decode bs = .error e := by
  simp only [step, bind_apply, read_apply] at h
  cases hr : readExact f.width s with
  | error e₁ s₁ =>
    rw [hr] at h
    cases h
    exact .inl ⟨_, (readExact_error hr).2.1⟩
  | ok bs s₁ =>
    rw [hr] at h
    cases hd : f.decode bs with
    | error e₂ =>
      simp only [hd, check_error] at h
      cases h
      exact .inr ⟨bs, hd⟩
    | ok v =>
      simp only [hd, check_ok, update_apply] at h
      cases h

theorem get_of_run_error {pre post : List (WireField α)} (hsep : (pre ++ f :: post).Pairwise Separate)
    {bs : List UInt8} (h : storeAll pre bs m = .ok m') : ∀ g ∈ f :: post, g.get m' = g.get m := by
  intro g hg
  exact get_of_storeAll (fun f' hf' => List.pairwise_append.1 hsep |>.2.2 f' hf' g hg) h

theorem checked_run_error {fields : Bool → List (WireField α)}
    (hsep : ∀ b, (fields b).Pairwise Separate) {L : Int} {short : Nat}
    (h : (check (oemPresent L short) >>= fun b => run (fields b)) (s, m) = .error e (s', m')) :
    (e = .payloadLength L short ∧ s' = s ∧ m' = m) ∨
    ∃ hasOem pre f post, oemPresent L short = .ok hasOem ∧ fields hasOem = pre ++ f :: post ∧
      storeAll pre s.rest m = .ok m' ∧ (∀ g ∈ f :: post, g.get m' = g.get m) ∧
      f.step (s.skip (widthOf pre), m') = .error e (s', m') := by
  rw [bind_apply] at h
  cases ho : oemPresent L short with
  | error e₁ =>
    simp only [ho, check_error] at h
    cases h
    exact .inl ⟨oemPresent_eq_error ho, rfl, rfl⟩
  | ok hasOem =>
    simp only [ho, check_ok] at h
    obtain ⟨pre, f, post, hfs, hs, hf⟩ := run_error h
    have hs' := hsep hasOem
    rw [hfs] at hs'
    exact .inr ⟨hasOem, pre, f, post, rfl, hfs, hs, get_of_run_error hs' hs, hf⟩

theorem checked_run_error_length {fields : Bool → List (WireField α)}
    (hsep : ∀ b, (fields b).Pairwise Separate)
    (hdec : ∀ b, ∀ f ∈ fields b, ∀ bs e, f.decode bs = .error e → ∀ v w, e ≠ .payloadLength v w)
    {L : Int} {short : Nat} {v w : Int}
    (h : (check (oemPresent L short) >>= fun b => run (fields b)) (s, m) =
      .error (.payloadLength v w) (s', m')) :
    s' = s ∧ m' = m := by
  rcases checked_run_error hsep h with ⟨-, rfl, rfl⟩ | ⟨hasOem, pre, f, post, -, hfs, -, -, hf⟩
  · exact ⟨rfl, rfl⟩
  · have hmem : f ∈ fields hasOem := by
      rw [hfs]
      exact List.mem_append_right pre List.mem_cons_self
    rcases step_error_cases hf with ⟨got, he⟩ | ⟨bs, hd⟩
    · cases he
    · exact absurd rfl (hdec hasOem f hmem bs _ hd v w)

/-! ### The shapes of routing activation fields -/

def number (width : Nat) (get : α → Int) (set : Int → α → α) : WireField α where
  width := width
  decode bs := .ok (BigEndian.ofBytes bs : Int)
  get := get
  set := set

def code {γ : Type} (ofByte : Int → Except Error γ) (get : α → ClosedCode γ)
    (set : ClosedCode γ → α → α) : WireField α where
  width := 1
  decode bs := ClosedCode.member <$> ofByte (BigEndian.ofBytes bs)
  get := get
  set := set

def bytes (width : Nat) (get : α → Option (List UInt8)) (set : Option (List UInt8) → α → α) :
    WireField α where
  width := width
  decode bs := .ok (some bs)
  get := get
  set := set

/-- Bytes present only when the length has room for them; absent, the slot is cleared without
reading. -/
def optional (present : Bool) (width : Nat) (get : α → Option (List UInt8))
    (set : Option (List UInt8) → α → α) : WireField α where
  width := if present then width else 0
  decode bs := .ok (if present then some bs else none)
  get := get
  set := set

theorem number_step (width : Nat) (get : α → Int) (set : Int → α → α) :
    (number width get set).step = (read (readNumber width) >>= fun v => update (set v)) := by
  funext st
  obtain ⟨s, m⟩ := st
  simp only [step, number, bind_apply, read_apply, readNumber]
  cases readExact width s <;> rfl

theorem code_step {γ : Type} (ofByte : Int → Except Error γ) (get : α → ClosedCode γ)
    (set : ClosedCode γ → α → α) :
    (code ofByte get set).step =
      (read (readNumber 1) >>= fun b => check (ofByte b) >>= fun c => update (set (.member c))) := by
  funext st
  obtain ⟨s, m⟩ := st
  simp only [step, code, bind_apply, read_apply, readNumber]
  cases readExact 1 s with
  | error e s₁ => rfl
  | ok bs s₁ =>
    dsimp only
    cases ofByte (BigEndian.ofBytes bs : Int) <;> rfl

theorem bytes_step (width : Nat) (get : α → Option (List UInt8))
    (set : Option (List UInt8) → α → α) :
    (bytes width get set).step = (read (readExact width) >>= fun r => update (set (some r))) := by
  funext st
  obtain ⟨s, m⟩ := st
  simp only [step, bytes, bind_apply, read_apply]
  cases readExact width s <;> rfl

theorem optional_step (present : Bool) (width : Nat) (get : α → Option (List UInt8))
    (set : Option (List UInt8) → α → α) :
    (optional present width get set).step =
      if present then (read (readExact width) >>= fun r => update (set (some r)))
      else update (set none) := by
  funext st
  obtain ⟨s, m⟩ := st
  cases present with
  | true =>
    simp only [step, optional, bind_apply, read_apply, if_true]
    cases readExact width s <;> rfl
  | false =>
    simp only [step, optional, bind_apply, read_apply, Bool.false_eq_true, if_false]
    rfl

end WireField

/-! ## Routing activation requests -/

namespace ActivationRequest

/-- The fields of a request in wire order: the source address, the activation type, the
reserved bytes, and the optional field. -/
def fields (hasOem : Bool) : List (WireField ActivationRequest) :=
  [.number 2 (·.sourceAddress) fun v m => { m with sourceAddress := v },
   .code ActivationType.ofByte (·.activationType) fun v m => { m with activationType := v },
   .bytes reservedSize (·.reserved) fun v m => { m with reserved := v },
   .optional hasOem oemSize (·.reservedOem) fun v m => { m with reservedOem := v }]

theorem readReplace_eq_run (L : Int) :
    readReplace L = (check (oemPresent L 7) >>= fun hasOem => WireField.run (fields hasOem)) := by
  simp only [readReplace, fields, WireField.run, WireField.number_step, WireField.code_step,
    WireField.bytes_step, WireField.optional_step, bind_assoc, bind_pure_unit]

theorem fields_separate (hasOem : Bool) : (fields hasOem).Pairwise WireField.Separate := by
  simp [fields, WireField.Separate, WireField.number, WireField.code, WireField.bytes,
    WireField.optional]

theorem decode_error {hasOem : Bool} {f : WireField ActivationRequest} (hf : f ∈ fields hasOem)
    {bs : List UInt8} {e : Error} (h : f.decode bs = .error e) :
    e = .unknownActivationType (BigEndian.ofBytes bs) := by
  simp only [fields, List.mem_cons, List.not_mem_nil, or_false] at hf
  rcases hf with rfl | rfl | rfl | rfl
  · cases h
  · cases ho : ActivationType.ofByte (BigEndian.ofBytes bs : Int) with
    | error e' =>
      simp only [WireField.code, ho] at h
      cases h
      exact Message.ActivationType.ofByte_eq_error ho
    | ok a => simp [WireField.code, ho] at h
  · cases h
  · cases h

theorem readReplace_error {L : Int} {s s' : Source} {r r' : ActivationRequest} {e : Error}
    (h : readReplace L (s, r) = .error e (s', r')) :
    (e = .payloadLength L 7 ∧ s' = s ∧ r' = r) ∨
    ∃ hasOem pre f post, oemPresent L 7 = .ok hasOem ∧ fields hasOem = pre ++ f :: post ∧
      WireField.storeAll pre s.rest r = .ok r' ∧ (∀ g ∈ f :: post, g.get r' = g.get r) ∧
      f.step (s.skip (WireField.widthOf pre), r') = .error e (s', r') := by
  rw [readReplace_eq_run] at h
  exact WireField.checked_run_error fields_separate h

theorem readReplace_error_length {L : Int} {s s' : Source} {r r' : ActivationRequest}
    {v w : Int} (h : readReplace L (s, r) = .error (.payloadLength v w) (s', r')) :
    s' = s ∧ r' = r := by
  rw [readReplace_eq_run] at h
  refine WireField.checked_run_error_length fields_separate ?_ h
  intro b f hf bs e hd v w he
  rw [decode_error hf hd] at he
  cases he

end ActivationRequest

/-! ## Routing activation responses -/

namespace ActivationResponse

/-- The fields of a response in wire order: both logical addresses, the response code, the
reserved bytes, and the optional field. -/
def fields (hasOem : Bool) : List (WireField ActivationResponse) :=
  [.number 2 (·.testerAddress) fun v m => { m with testerAddress := v },
   .number 2 (·.entityAddress) fun v m => { m with entityAddress := v },
   .code ResponseCode.ofByte (·.responseCode) fun v m => { m with responseCode := v },
   .bytes reservedSize (·.reservedOem) fun v m => { m with reservedOem := v },
   .optional hasOem oemSize (·.oemSpecific) fun v m => { m with oemSpecific := v }]

theorem readReplace_eq_run (L : Int) :
    readReplace L = (check (oemPresent L 9) >>= fun hasOem => WireField.run (fields hasOem)) := by
  simp only [readReplace, fields, WireField.run, WireField.number_step, WireField.code_step,
    WireField.bytes_step, WireField.optional_step, bind_assoc, bind_pure_unit]

theorem fields_separate (hasOem : Bool) : (fields hasOem).Pairwise WireField.Separate := by
  simp [fields, WireField.Separate, WireField.number, WireField.code, WireField.bytes,
    WireField.optional]

theorem decode_error {hasOem : Bool} {f : WireField ActivationResponse} (hf : f ∈ fields hasOem)
    {bs : List UInt8} {e : Error} (h : f.decode bs = .error e) :
    e = .unknownResponseCode (BigEndian.ofBytes bs) := by
  simp only [fields, List.mem_cons, List.not_mem_nil, or_false] at hf
  rcases hf with rfl | rfl | rfl | rfl | rfl
  · cases h
  · cases h
  · cases ho : ResponseCode.ofByte (BigEndian.ofBytes bs : Int) with
    | error e' =>
      simp only [WireField.code, ho] at h
      cases h
      exact Message.ResponseCode.ofByte_eq_error ho
    | ok a => simp [WireField.code, ho] at h
  · cases h
  · cases h

theorem readReplace_error {L : Int} {s s' : Source} {r r' : ActivationResponse} {e : Error}
    (h : readReplace L (s, r) = .error e (s', r')) :
    (e = .payloadLength L 9 ∧ s' = s ∧ r' = r) ∨
    ∃ hasOem pre f post, oemPresent L 9 = .ok hasOem ∧ fields hasOem = pre ++ f :: post ∧
      WireField.storeAll pre s.rest r = .ok r' ∧ (∀ g ∈ f :: post, g.get r' = g.get r) ∧
      f.step (s.skip (WireField.widthOf pre), r') = .error e (s', r') := by
  rw [readReplace_eq_run] at h
  exact WireField.checked_run_error fields_separate h

theorem readReplace_error_length {L : Int} {s s' : Source} {r r' : ActivationResponse}
    {v w : Int} (h : readReplace L (s, r) = .error (.payloadLength v w) (s', r')) :
    s' = s ∧ r' = r := by
  rw [readReplace_eq_run] at h
  refine WireField.checked_run_error_length fields_separate ?_ h
  intro b f hf bs e hd v w he
  rw [decode_error hf hd] at he
  cases he

end ActivationResponse

/-! ## Every kind -/

/-- The kinds whose payload is read with one request, or not at all. -/
def Kind.readAtOnce : Kind → Bool
  | .routingActivationRequest | .routingActivationResponse | .diagnosticMessage
  | .diagnosticPositiveAck | .diagnosticNegativeAck => false
  | _ => true

namespace Message

variable {L : Int} {s s' : Source} {p p' : Message} {e : Error}

theorem within_error {β : Type} {wrap : β → Message} {b : β} {d : Decoder β Unit}
    (h : within wrap b d (s, p) = .error e (s', p')) :
    ∃ b', d (s, b) = .error e (s', b') ∧ p' = wrap b' := by
  simp only [within, onPart_apply] at h
  cases hd : d (s, b) with
  | ok u st =>
    rw [hd] at h
    cases h
  | error e₁ st =>
    obtain ⟨s₁, b₁⟩ := st
    rw [hd] at h
    cases h
    exact ⟨b₁, rfl, rfl⟩

theorem replaceFixed_error {size : Nat} {spell : List UInt8 → Message}
    (h : replaceFixed L size spell (s, p) = .error e (s', p')) :
    p' = p ∧ ∀ v w, e = .payloadLength v w → s' = s := by
  simp only [replaceFixed, bind_apply, read_apply] at h
  cases hr : readFixed L size s with
  | ok data s₁ =>
    rw [hr] at h
    cases h
  | error e₁ s₁ =>
    rw [hr] at h
    cases h
    refine ⟨rfl, fun v w he => ?_⟩
    unfold readFixed at hr
    split_ifs at hr
    · -- the read came up short: a truncation, not a length refusal
      rw [(readExact_error hr).2.1] at he
      cases he
    · cases hr
      rfl

theorem checkEmpty_error
    (h : check (if L = 0 then .ok () else .error (.payloadLength L 0)) (s, p) = .error e (s', p')) :
    s' = s ∧ p' = p := by
  split_ifs at h
  · cases h
  · cases h
    exact ⟨rfl, rfl⟩

theorem readReplace_error_readAtOnce (hk : p.kind.readAtOnce = true)
    (h : readReplace L (s, p) = .error e (s', p')) :
    p' = p ∧ ∀ v w, e = .payloadLength v w → s' = s := by
  cases p <;> simp only [kind, Kind.readAtOnce, Bool.false_eq_true] at hk <;>
    simp only [readReplace, bind_apply, target_apply] at h
  all_goals first
    | exact replaceFixed_error h
    | exact ⟨(checkEmpty_error h).2, fun _ _ _ => (checkEmpty_error h).1⟩

theorem readReplace_error_length {v w : Int}
    (h : readReplace L (s, p) = .error (.payloadLength v w) (s', p')) : s' = s ∧ p' = p := by
  cases p with
  | routingActivationRequest r =>
    simp only [readReplace, bind_apply, target_apply] at h
    obtain ⟨r', hr, rfl⟩ := within_error h
    obtain ⟨rfl, rfl⟩ := ActivationRequest.readReplace_error_length hr
    exact ⟨rfl, rfl⟩
  | routingActivationResponse r =>
    simp only [readReplace, bind_apply, target_apply] at h
    obtain ⟨r', hr, rfl⟩ := within_error h
    obtain ⟨rfl, rfl⟩ := ActivationResponse.readReplace_error_length hr
    exact ⟨rfl, rfl⟩
  | diagnosticMessage d =>
    simp only [readReplace, bind_apply, target_apply] at h
    obtain ⟨d', hd, rfl⟩ := within_error h
    cases Diagnostic.failsWith_of_readReplace hd with
    | length _ => exact ⟨rfl, rfl⟩
    | allocation _ _ _ _ _ hc => rcases (checkAllocation_error hc).2 with h | h <;> cases h
  | diagnosticPositiveAck a =>
    simp only [readReplace, bind_apply, target_apply] at h
    obtain ⟨a', ha, rfl⟩ := within_error h
    cases DiagnosticAck.failsWith_of_readReplace ha with
    | length _ => exact ⟨rfl, rfl⟩
    | allocation _ _ _ _ _ hc => rcases (checkAllocation_error hc).2 with h | h <;> cases h
  | diagnosticNegativeAck a =>
    simp only [readReplace, bind_apply, target_apply] at h
    obtain ⟨a', ha, rfl⟩ := within_error h
    cases DiagnosticAck.failsWith_of_readReplace ha with
    | length _ => exact ⟨rfl, rfl⟩
    | allocation _ _ _ _ _ hc => rcases (checkAllocation_error hc).2 with h | h <;> cases h
  | _ =>
    obtain ⟨rfl, hs⟩ := readReplace_error_readAtOnce rfl h
    exact ⟨hs v w rfl, rfl⟩

/-- A failed decoding leaves the message as far as it got. A refused length changes nothing,
whatever the kind, and takes nothing from the source; the kinds read in one request or not at
all are left as they were. A routing activation has stored exactly the fields in wire order
before the one that failed, each from the bytes it was read from, and left the failing field and
every later one as they were. -/
theorem failed_decoding_stores_fields_read (L : Int) (s s' : Source) (p p' : Message) (e : Error)
    (h : readReplace L (s, p) = .error e (s', p')) :
    (∀ v w, e = .payloadLength v w → s' = s ∧ p' = p) ∧
    (p.kind.readAtOnce = true → p' = p) ∧
    (∀ r, p = routingActivationRequest r → ∃ r', p' = routingActivationRequest r' ∧
      ((e = .payloadLength L 7 ∧ s' = s ∧ r' = r) ∨
        ∃ hasOem pre f post, oemPresent L 7 = .ok hasOem ∧
          ActivationRequest.fields hasOem = pre ++ f :: post ∧
          WireField.storeAll pre s.rest r = .ok r' ∧ (∀ g ∈ f :: post, g.get r' = g.get r) ∧
          f.step (s.skip (WireField.widthOf pre), r') = .error e (s', r'))) ∧
    (∀ r, p = routingActivationResponse r → ∃ r', p' = routingActivationResponse r' ∧
      ((e = .payloadLength L 9 ∧ s' = s ∧ r' = r) ∨
        ∃ hasOem pre f post, oemPresent L 9 = .ok hasOem ∧
          ActivationResponse.fields hasOem = pre ++ f :: post ∧
          WireField.storeAll pre s.rest r = .ok r' ∧ (∀ g ∈ f :: post, g.get r' = g.get r) ∧
          f.step (s.skip (WireField.widthOf pre), r') = .error e (s', r'))) := by
  refine ⟨fun v w he => ?_, fun hk => (readReplace_error_readAtOnce hk h).1, ?_, ?_⟩
  · subst he
    exact readReplace_error_length h
  · rintro r rfl
    simp only [readReplace, bind_apply, target_apply] at h
    obtain ⟨r', hr, rfl⟩ := within_error h
    exact ⟨r', rfl, ActivationRequest.readReplace_error hr⟩
  · rintro r rfl
    simp only [readReplace, bind_apply, target_apply] at h
    obtain ⟨r', hr, rfl⟩ := within_error h
    exact ⟨r', rfl, ActivationResponse.readReplace_error hr⟩

theorem failed_decoding_stores_fields_read_unknownType :
    readReplace 11 (Source.ofBytes .plain [0x0E, 0x80, 0x07],
        routingActivationRequest ⟨0x0E00, .member .default, some [1, 2, 3, 4], none⟩) =
      .error (.unknownActivationType 7) ((Source.ofBytes .plain [0x0E, 0x80, 0x07]).skip 3,
        routingActivationRequest ⟨0x0E80, .member .default, some [1, 2, 3, 4], none⟩) ∧
    ∃ r', routingActivationRequest ⟨0x0E80, .member .default, some [1, 2, 3, 4], none⟩ =
        routingActivationRequest r' ∧
      ((Error.unknownActivationType 7 = .payloadLength 11 7 ∧
          (Source.ofBytes .plain [0x0E, 0x80, 0x07]).skip 3 = Source.ofBytes .plain [0x0E, 0x80, 0x07] ∧
          r' = ⟨0x0E00, .member .default, some [1, 2, 3, 4], none⟩) ∨
        ∃ hasOem pre f post, oemPresent 11 7 = .ok hasOem ∧
          ActivationRequest.fields hasOem = pre ++ f :: post ∧
          WireField.storeAll pre [0x0E, 0x80, 0x07] ⟨0x0E00, .member .default, some [1, 2, 3, 4], none⟩ =
            .ok r' ∧
          (∀ g ∈ f :: post, g.get r' = g.get ⟨0x0E00, .member .default, some [1, 2, 3, 4], none⟩) ∧
          f.step ((Source.ofBytes .plain [0x0E, 0x80, 0x07]).skip (WireField.widthOf pre), r') =
            .error (.unknownActivationType 7) ((Source.ofBytes .plain [0x0E, 0x80, 0x07]).skip 3, r')) := by
  have hrun : readReplace 11 (Source.ofBytes .plain [0x0E, 0x80, 0x07],
        routingActivationRequest ⟨0x0E00, .member .default, some [1, 2, 3, 4], none⟩) =
      .error (.unknownActivationType 7) ((Source.ofBytes .plain [0x0E, 0x80, 0x07]).skip 3,
        routingActivationRequest ⟨0x0E80, .member .default, some [1, 2, 3, 4], none⟩) := rfl
  exact ⟨hrun, (failed_decoding_stores_fields_read _ _ _ _ _ _ hrun).2.2.1 _ rfl⟩

end Message

end DoipWire
