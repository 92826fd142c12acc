import DoipWire.Proofs.ReadPlan
import DoipWire.Proofs.Dispatch
import DoipWire.Proofs.FieldOrder

/-!
# Chunked delivery

Every decoder of a message is a plan of requests (`Message.plan`, `Message.readPlan`), so the
limits of a source act on it as on any plan: fills never show, and a read limit cuts the run
without limits at its first request over the limit. The requests are fixed by the kind and the
length (`Kind.payloadRequests`).
-/

namespace DoipWire

open Source Decoder

/-! ## Steps that read -/

theorem readNumber_eq_exactThen (w : Nat) :
    readNumber w = ReadStep.exactThen w fun bs => .ok (BigEndian.ofBytes bs : Int) := by
  funext s
  unfold readNumber ReadStep.exactThen
  cases readExact w s <;> rfl

theorem Header.read_eq_exactThen : Header.read = ReadStep.exactThen headerSize Header.ofBytes := by
  funext s
  cases hr : readExact headerSize s with
  | ok bs s' =>
    cases hb : Header.ofBytes bs <;> simp [Header.read, ReadStep.exactThen, hr, hb]
  | error e s' => simp [Header.read, ReadStep.exactThen, hr]

namespace ReadStep

variable {α : Type}

def number (w : Nat) : ReadStep α Int :=
  ofExact (readNumber w) w _ (readNumber_eq_exactThen w)

def header : ReadStep α Header :=
  ofExact Header.read headerSize Header.ofBytes Header.read_eq_exactThen

/-- A fixed-size body: a length other than `size` is refused before anything is read. -/
def fixed (len : Int) (size : Nat) : ReadStep α (List UInt8) where
  request _ _ := if len = size then (if size = 0 then none else some size) else none
  run := read (readFixed len size)
  limited s m _ := by
    by_cases hl : len = size
    · subst hl
      have hr : readFixed size size = exactThen size .ok := by
        funext s'
        rw [← readExact_eq_exactThen]
        simp [readFixed]
      simp only [hr, if_true]
      exact exactThen_limited size _ s m
    · have hr : readFixed len size = fun s' => .error (.payloadLength len size) s' := by
        funext s'
        simp [readFixed, hl]
      simp only [hr, hl, if_false]
      rfl

end ReadStep

/-! ## Routing activation, field by field -/

namespace WireField

variable {α : Type}

def plan (f : WireField α) : Plan α Unit :=
  .bind (.step (.readExact f.width)) fun bs =>
    .bind (.step (.check (f.decode bs))) fun v => .step (.update (f.set v))

def plans : List (WireField α) → Plan α Unit
  | [] => .step (.check (.ok ()))
  | f :: fs => .bind f.plan fun _ => plans fs

theorem run_plans (fs : List (WireField α)) : (plans fs).run = run fs := by
  induction fs with
  | nil =>
    funext st
    rfl
  | cons f fs ih =>
    simp only [plans, Plan.run, ih]
    rfl

def widths (fs : List (WireField α)) : List Nat := (fs.map (·.width)).filter (· ≠ 0)

theorem requests_plan (f : WireField α) (σ : Source × α) :
    f.plan.requests σ = if f.width = 0 then [] else [f.width] := by
  rw [plan, Plan.requests_bind_of_nil _ _ fun bs σ' =>
    Plan.requests_bind_of_nil _ _ fun v σ'' => Plan.requests_step _ _]
  rw [Plan.requests_step]
  simp only [ReadStep.readExact, ReadStep.ofExact]
  split <;> rfl

theorem requests_plans (fs : List (WireField α)) (σ : Source × α) :
    (plans fs).requests σ <+: widths fs := by
  induction fs generalizing σ with
  | nil => simp [plans, widths, Plan.requests_step, ReadStep.check]
  | cons f fs ih =>
    have hf : (if f.width = 0 then [] else [f.width]) ++ widths fs = widths (f :: fs) := by
      by_cases h : f.width = 0 <;> simp [widths, h]
    rw [plans, ← hf]
    refine Plan.requests_bind_within ?_ fun _ σ' _ => ⟨requests_plan f σ, ih σ'⟩
    simp only [requests_plan, List.prefix_refl]

/-- A length check that decides whether the optional field is there, then the fields in wire
order, as a plan. -/
def checkedPlan (short : Nat) (fields : Bool → List (WireField α)) (L : Int) : Plan α Unit :=
  .bind (.step (.check (oemPresent L short))) fun hasOem => plans (fields hasOem)

theorem run_checkedPlan (short : Nat) (fields : Bool → List (WireField α)) (L : Int) :
    (checkedPlan short fields L).run =
      (check (oemPresent L short) >>= fun hasOem => run (fields hasOem)) := by
  simp only [checkedPlan, Plan.run, ReadStep.check, run_plans]

theorem requests_checkedPlan (short : Nat) (fields : Bool → List (WireField α)) (L : Int)
    (σ : Source × α) :
    (checkedPlan short fields L).requests σ <+:
      if L = short then widths (fields false)
      else if L = short + oemSize then widths (fields true) else [] := by
  rw [checkedPlan, Plan.requests_bind, Plan.requests_step]
  unfold oemPresent
  by_cases hs : L = short
  · simpa [hs, ReadStep.check] using requests_plans (fields false) σ
  · by_cases ho : L = short + oemSize
    · simp only [if_neg hs, if_pos ho]
      simpa [ReadStep.check] using requests_plans (fields true) σ
    · simp [hs, ho, ReadStep.check]

end WireField

namespace ActivationRequest

def plan (L : Int) : Plan ActivationRequest Unit := WireField.checkedPlan 7 fields L

theorem run_plan (L : Int) : (plan L).run = readReplace L := by
  rw [readReplace_eq_run, plan, WireField.run_checkedPlan]

theorem widths_fields (hasOem : Bool) :
    WireField.widths (fields hasOem) = if hasOem then [2, 1, 4, 4] else [2, 1, 4] := by
  cases hasOem <;> rfl

theorem requests_plan (L : Int) (σ : Source × ActivationRequest) :
    (plan L).requests σ <+: if L = 7 then [2, 1, 4] else if L = 11 then [2, 1, 4, 4] else [] := by
  simpa [plan, widths_fields, oemSize] using WireField.requests_checkedPlan 7 fields L σ

end ActivationRequest

namespace ActivationResponse

def plan (L : Int) : Plan ActivationResponse Unit := WireField.checkedPlan 9 fields L

theorem run_plan (L : Int) : (plan L).run = readReplace L := by
  rw [readReplace_eq_run, plan, WireField.run_checkedPlan]

theorem widths_fields (hasOem : Bool) :
    WireField.widths (fields hasOem) = if hasOem then [2, 2, 1, 4, 4] else [2, 2, 1, 4] := by
  cases hasOem <;> rfl

theorem requests_plan (L : Int) (σ : Source × ActivationResponse) :
    (plan L).requests σ <+:
      if L = 9 then [2, 2, 1, 4] else if L = 13 then [2, 2, 1, 4, 4] else [] := by
  simpa [plan, widths_fields, oemSize] using WireField.requests_checkedPlan 9 fields L σ

end ActivationResponse

/-! ## The diagnostic kinds -/

/-- The request for opaque data of `n` bytes: none when the source fills buffers, which no read
limit cuts, or when there is nothing to read. -/
def dataRequest (n : Nat) (fills : Bool) : List Nat := if n = 0 ∨ fills then [] else [n]

theorem requests_readInto {α : Type} (get : α → List UInt8) (put : List UInt8 → α → α)
    (s : Source) (m : α) :
    (Plan.part get put (.step .readInto)).requests (s, m) =
      dataRequest (get m).length s.limits.fills := by
  rw [Plan.requests_part, Plan.requests_step]
  simp only [ReadStep.readInto, dataRequest]
  split <;> rfl

theorem requests_addressed {β : Type} (L : Int) (head : Nat) (store : List UInt8 → β → β)
    (rest : Plan β Unit) {B : List Nat} (s : Source) (m : β)
    (hrest : ∀ addresses, rest.requests (s.skip 4, store addresses m) <+: B) :
    (Plan.bind (.step (.check (checkMinimum L head))) fun _ =>
      .bind (.step (.readExact 4)) fun addresses =>
        .bind (.step (.update (store addresses))) fun _ => rest).requests (s, m) <+:
      if L < head then [] else 4 :: B := by
  rw [Plan.requests_bind, Plan.requests_step]
  simp only [ReadStep.check, Option.toList_none, List.nil_append, Plan.run_step]
  unfold checkMinimum
  by_cases hL : L < head
  · simp [hL]
  · simp only [hL, if_false, check_ok]
    have h4 : (Plan.step (ReadStep.readExact 4 : ReadStep β _)).requests (s, m) = [4] := by
      simp [Plan.requests_step, ReadStep.readExact, ReadStep.ofExact]
    refine Plan.requests_bind_within (h4 ▸ List.prefix_refl _) fun addresses σ₁ hread =>
      ⟨h4, ?_⟩
    -- the addresses arrived: the source is four bytes on and they are stored
    obtain ⟨s₁, hs₁, rfl⟩ := Decoder.read_eq_ok.1 hread
    obtain ⟨-, -, rfl⟩ := readExact_eq_ok hs₁
    exact hrest addresses

namespace Diagnostic

def plan (L : Int) : Plan Diagnostic Unit :=
  .bind (.step (.check (checkMinimum L diagnosticHead))) fun _ =>
  .bind (.step (.readExact 4)) fun addresses =>
  .bind (.step (.update fun m => { m with sourceAddress := BigEndian.ofBytes (slice addresses 0 2),
                                          targetAddress := BigEndian.ofBytes (slice addresses 2 2) }))
    fun _ =>
  .bind (.step .target) fun m =>
  .bind (.step (.check (m.userData.resize (L - diagnosticHead).toNat))) fun resized =>
  .bind (.step (.update fun m => { m with userData := .owned resized })) fun _ =>
  .part (·.userData.bytes) (fun bs m => { m with userData := .owned bs }) (.step .readInto)

theorem run_plan (L : Int) : (plan L).run = readReplace L := rfl

theorem requests_plan (L : Int) (s : Source) (m : Diagnostic) :
    (plan L).requests (s, m) <+:
      if L < diagnosticHead then [] else 4 :: dataRequest (L - diagnosticHead).toNat s.limits.fills := by
  refine requests_addressed L diagnosticHead _ _ s m fun addresses => ?_
  rw [Plan.requests_target_bind]
  simp only [Plan.requests_bind, Plan.requests_step, ReadStep.check, ReadStep.update, Plan.run_step,
    update_apply, Option.toList_none, List.nil_append]
  -- borrowed data refuses the resize and ends the requests; owned data is filled
  cases hr : Opaque.resize (L - diagnosticHead).toNat m.userData with
  | error e => simp
  | ok resized =>
    simp only [check_ok]
    rw [requests_readInto]
    simp only [Opaque.bytes, Opaque.length_of_resize hr, skip_limits, dataRequest, List.prefix_refl]

end Diagnostic

namespace DiagnosticAck

variable {α : Type} [CodeTable α]

def plan (L : Int) : Plan (DiagnosticAck α) Unit :=
  .bind (.step (.check (checkMinimum L ackHead))) fun _ =>
  .bind (.step (.readExact 4)) fun addresses =>
  .bind (.step (.update fun m => { m with sourceAddress := BigEndian.ofBytes (slice addresses 0 2),
                                          targetAddress := BigEndian.ofBytes (slice addresses 2 2) }))
    fun _ =>
  .bind (.step .target) fun m =>
  .bind (.step (.check (m.previousData.resize (L - ackHead).toNat))) fun resized =>
  .bind (.step (.update fun m => { m with previousData := .owned resized })) fun _ =>
  .bind (.step (.number 1)) fun code =>
  .bind (.step (.update fun m => { m with ackCode := OpenCode.ofByte code })) fun _ =>
  .part (·.previousData.bytes) (fun bs m => { m with previousData := .owned bs }) (.step .readInto)

theorem run_plan (L : Int) : (plan L : Plan (DiagnosticAck α) Unit).run = readReplace L := rfl

theorem requests_plan (L : Int) (s : Source) (m : DiagnosticAck α) :
    (plan L).requests (s, m) <+:
      if L < ackHead then [] else 4 :: 1 :: dataRequest (L - ackHead).toNat s.limits.fills := by
  refine requests_addressed L ackHead _ _ s m fun addresses => ?_
  rw [Plan.requests_target_bind]
  simp only [Plan.requests_bind, Plan.requests_step, ReadStep.check, ReadStep.update, Plan.run_step,
    update_apply, Option.toList_none, List.nil_append]
  cases hr : Opaque.resize (L - ackHead).toNat m.previousData with
  | error e => simp
  | ok resized =>
    -- the code's one byte, then the data
    simp only [check_ok, ReadStep.number, ReadStep.ofExact, read_apply]
    cases hn : readNumber 1 (s.skip 4) with
    | error e s₂ => simp
    | ok code s₂ =>
      obtain ⟨-, -, rfl⟩ := readNumber_eq_ok hn
      simp only [Nat.one_ne_zero, if_false, Option.toList_some, List.singleton_append,
        List.cons_prefix_cons, true_and]
      rw [requests_readInto]
      simp only [Opaque.bytes, Opaque.length_of_resize hr, skip_limits, dataRequest, List.prefix_refl]

end DiagnosticAck

/-! ## Every kind -/

/-- The requests decoding a payload of `len` bytes of kind `k` makes when every read comes
through, in order: a fixed-size body at once, a routing activation field by field, and the
diagnostic kinds their addresses, the acknowledgement code, and their data. A length the kind
refuses makes none. -/
def Kind.payloadRequests (k : Kind) (len : Int) (fills : Bool) : List Nat :=
  match k with
  | .genericHeaderNack | .powerModeResponse => if len = 1 then [1] else []
  | .vehicleIdResponse => if len = 33 then [33] else []
  | .routingActivationRequest =>
    if len = 7 then [2, 1, 4] else if len = 11 then [2, 1, 4, 4] else []
  | .routingActivationResponse =>
    if len = 9 then [2, 2, 1, 4] else if len = 13 then [2, 2, 1, 4, 4] else []
  | .aliveCheckResponse => if len = 2 then [2] else []
  | .entityStatusResponse => if len = 7 then [7] else []
  | .diagnosticMessage =>
    if len < diagnosticHead then [] else 4 :: dataRequest (len - diagnosticHead).toNat fills
  | .diagnosticPositiveAck | .diagnosticNegativeAck =>
    if len < ackHead then [] else 4 :: 1 :: dataRequest (len - ackHead).toNat fills
  | _ => []

/-- The requests reading a header from `bs` and decoding its payload into a message of kind `k`
makes when every read comes through: the header's eight bytes, then the payload's when the
header announces `k`. -/
def Kind.requests (k : Kind) (bs : List UInt8) (fills : Bool) : List Nat :=
  headerSize :: match Header.ofBytes bs with
    | .ok hd => if hd.announces k then k.payloadRequests hd.payloadLength fills else []
    | .error _ => []

/-- The kind the header at the start of `bs` announces; the first kind when there is none. -/
def Kind.announced (bs : List UInt8) : Kind :=
  match Header.ofBytes bs with
  | .ok hd =>
    match hd.payloadType with
    | .member k => k
    | _ => default
  | .error _ => default

namespace Message

def fixedPlan (len : Int) (size : Nat) (spell : List UInt8 → Message) : Plan Message Unit :=
  .bind (.step (.fixed len size)) fun data => .step (.update fun _ => spell data)

def plan (len : Int) : Plan Message Unit :=
  .bind (.step .target) fun
    | genericHeaderNack _ =>
      fixedPlan len 1 fun data => genericHeaderNack (OpenCode.ofByte (byteAt data 0))
    | vehicleIdResponse _ =>
      fixedPlan len 33 fun data => vehicleIdResponse (Announcement.ofBody data)
    | routingActivationRequest m =>
      .part (fun _ => m) (fun m' _ => routingActivationRequest m') (ActivationRequest.plan len)
    | routingActivationResponse m =>
      .part (fun _ => m) (fun m' _ => routingActivationResponse m') (ActivationResponse.plan len)
    | aliveCheckResponse _ =>
      fixedPlan len 2 fun data => aliveCheckResponse (BigEndian.ofBytes data)
    | entityStatusResponse _ =>
      fixedPlan len 7 fun data => entityStatusResponse (EntityStatus.ofBody data)
    | powerModeResponse _ => fixedPlan len 1 fun data => powerModeResponse (byteAt data 0)
    | diagnosticMessage m =>
      .part (fun _ => m) (fun m' _ => diagnosticMessage m') (Diagnostic.plan len)
    | diagnosticPositiveAck m =>
      .part (fun _ => m) (fun m' _ => diagnosticPositiveAck m') (DiagnosticAck.plan len)
    | diagnosticNegativeAck m =>
      .part (fun _ => m) (fun m' _ => diagnosticNegativeAck m') (DiagnosticAck.plan len)
    | _ => .step (.check (if len = 0 then .ok () else .error (.payloadLength len 0)))

def readPlan : Plan Message Unit :=
  .bind (.step .header) fun h =>
    .bind (.step .target) fun m =>
      if h.announces m.kind then plan h.payloadLength else .step (.fail h.unexpected)

theorem run_plan (len : Int) : (plan len).run = readReplace len := by
  simp only [plan, readReplace, Plan.run_bind, Plan.run_step, ReadStep.target]
  congr 1
  funext m
  cases m <;> simp [fixedPlan, replaceFixed, within, ActivationRequest.run_plan,
    ActivationResponse.run_plan, Diagnostic.run_plan, DiagnosticAck.run_plan, ReadStep.fixed,
    ReadStep.update, ReadStep.check]

theorem run_readPlan : readPlan.run = readReplaceMessage := by
  simp only [readPlan, readReplaceMessage, Plan.run_bind, Plan.run_step, ReadStep.header,
    ReadStep.ofExact, ReadStep.target, apply_ite Plan.run, run_plan, ReadStep.fail]

theorem requests_fixedPlan (len : Int) {size : Nat} (hs : size ≠ 0) (spell : List UInt8 → Message)
    (σ : Source × Message) :
    (fixedPlan len size spell).requests σ = if len = size then [size] else [] := by
  rw [fixedPlan, Plan.requests_bind_of_nil _ _ fun _ _ => Plan.requests_step _ _,
    Plan.requests_step]
  simp only [ReadStep.fixed, hs, if_false]
  split <;> rfl

theorem requests_plan (len : Int) (s : Source) (m : Message) :
    (plan len).requests (s, m) <+: m.kind.payloadRequests len s.limits.fills := by
  rw [plan, Plan.requests_target_bind]
  cases m with
  | genericHeaderNack _ => simp [requests_fixedPlan, kind, Kind.payloadRequests]
  | vehicleIdResponse _ => simp [requests_fixedPlan, kind, Kind.payloadRequests]
  | routingActivationRequest r =>
    rw [Plan.requests_part]
    exact ActivationRequest.requests_plan len (s, r)
  | routingActivationResponse r =>
    rw [Plan.requests_part]
    exact ActivationResponse.requests_plan len (s, r)
  | aliveCheckResponse _ => simp [requests_fixedPlan, kind, Kind.payloadRequests]
  | entityStatusResponse _ => simp [requests_fixedPlan, kind, Kind.payloadRequests]
  | powerModeResponse _ => simp [requests_fixedPlan, kind, Kind.payloadRequests]
  | diagnosticMessage d =>
    rw [Plan.requests_part]
    exact Diagnostic.requests_plan len s d
  | diagnosticPositiveAck a =>
    rw [Plan.requests_part]
    exact DiagnosticAck.requests_plan len s a
  | diagnosticNegativeAck a =>
    rw [Plan.requests_part]
    exact DiagnosticAck.requests_plan len s a
  | _ => simp [Plan.requests_step, ReadStep.check]

theorem requests_readPlan (s : Source) (m : Message) :
    readPlan.requests (s, m) <+: m.kind.requests s.rest s.limits.fills := by
  rw [readPlan, Plan.requests_bind, Plan.requests_step]
  simp only [ReadStep.header, ReadStep.ofExact, Plan.run_step, read_apply, Kind.requests]
  cases hh : Header.read s with
  | error e s' => simp [headerSize]
  | ok hd s' =>
    obtain ⟨hb, rfl⟩ := Header.read_eq_ok hh
    simp only [hb, Plan.requests_target_bind, headerSize]
    by_cases ha : hd.announces m.kind = true
    · simpa [ha] using requests_plan hd.payloadLength (s.skip 8) m
    · simp [ha, Plan.requests_step, ReadStep.fail]

/-! ## Every way of reading under limits -/

theorem zeroed_owns_data (k : Kind) : ∀ d ∈ (zeroed k).opaque?, d.isOwned = true := by
  cases k <;> simp [zeroed, opaque?, Opaque.isOwned]

section Limited

variable (s : Source) (hf : s.limits.FillsAdvance)
include hf

theorem readReplace_limited (L : Int) (m : Message) :
    readReplace L (s, m) = relimit s.limits ((plan L).cutAt s.limits.readCap (s.uncapped, m)) := by
  rw [← run_plan]
  exact Plan.run_limited _ s m hf

theorem read_limited (k : Kind) (L : Int) :
    read k L s =
      Reading.relimit s.limits (((plan L).cutAt s.limits.readCap).into (zeroed k) s.uncapped) := by
  rw [read_eq_into_zeroed]
  exact into_of_relimit (readReplace_limited s hf L (zeroed k))

theorem readReplaceMessage_limited (m : Message) :
    readReplaceMessage (s, m) =
      relimit s.limits (readPlan.cutAt s.limits.readCap (s.uncapped, m)) := by
  rw [← run_readPlan]
  exact Plan.run_limited _ s m hf

theorem readOf_limited (k : Kind) :
    readOf k s =
      Reading.relimit s.limits ((readPlan.cutAt s.limits.readCap).into (zeroed k) s.uncapped) := by
  rw [← kind_zeroed k, ← into_readReplaceMessage (zeroed k) (zeroed_owns_data k), kind_zeroed]
  exact into_of_relimit (readReplaceMessage_limited s hf (zeroed k))

theorem readReplace_of_le (L : Int) (m : Message) {c : Nat} (hc : s.limits.readCap = some c)
    (hle : ∀ n ∈ m.kind.payloadRequests L s.limits.fills, n ≤ c) :
    readReplace L (s, m) = relimit s.limits (readReplace L (s.uncapped, m)) := by
  rw [readReplace_limited s hf, hc, Plan.cutAt_of_le, run_plan]
  intro n hn
  exact hle n ((requests_plan L s.uncapped m).subset hn)

theorem readReplaceMessage_of_le (m : Message) {c : Nat} (hc : s.limits.readCap = some c)
    (hle : ∀ n ∈ m.kind.requests s.rest s.limits.fills, n ≤ c) :
    readReplaceMessage (s, m) = relimit s.limits (readReplaceMessage (s.uncapped, m)) := by
  rw [readReplaceMessage_limited s hf, hc, Plan.cutAt_of_le, run_readPlan]
  intro n hn
  exact hle n ((requests_readPlan s.uncapped m).subset hn)

end Limited

theorem readAny_eq_readOf_announced (s : Source) : readAny s = readOf (Kind.announced s.rest) s := by
  unfold readAny readOf
  cases hr : Header.read s with
  | error e s' => rfl
  | ok hd s' =>
    obtain ⟨hb, -⟩ := Header.read_eq_ok hr
    simp only [Kind.announced, hb]
    cases ht : hd.payloadType with
    | member k => simp [Header.announces, ht]
    | reserved c => simp [Header.announces, ht]
    | vmSpecific c => simp [Header.announces, ht]

end Message

open Message in
/-- Every way of reading messages from `s` reads as its run from the same bytes without limits,
cut at its first request over the read limit (`Plan.cutAt`), on a source that keeps the limits
of `s`; the requests are those the kind and the length fix, so a read limit at least as large
as each of them changes nothing. -/
structure Source.ReadsAsCutRun (s : Source) : Prop where
  /-- Decoding a payload into a message. -/
  payloadInPlace : ∀ L m, Message.readReplace L (s, m) =
    relimit s.limits ((plan L).cutAt s.limits.readCap (s.uncapped, m))
  /-- A fresh read of a payload of each kind. -/
  payloadFresh : ∀ k L, Message.read k L s =
    Reading.relimit s.limits (((plan L).cutAt s.limits.readCap).into (zeroed k) s.uncapped)
  /-- Reading a header and decoding its payload into a message. -/
  messageInPlace : ∀ m, readReplaceMessage (s, m) =
    relimit s.limits (readPlan.cutAt s.limits.readCap (s.uncapped, m))
  /-- A fresh read of a message of each kind. -/
  messageFresh : ∀ k, readOf k s =
    Reading.relimit s.limits ((readPlan.cutAt s.limits.readCap).into (zeroed k) s.uncapped)
  /-- Reading any message reads a message of the kind its header announces. -/
  anyMessage : readAny s = readOf (Kind.announced s.rest) s
  /-- The requests of decoding a payload, in order. -/
  payloadOrder : ∀ L m, (plan L).requests (s.uncapped, m) <+: m.kind.payloadRequests L s.limits.fills
  /-- The requests of reading a header and its payload, in order. -/
  messageOrder : ∀ m, readPlan.requests (s.uncapped, m) <+: m.kind.requests s.rest s.limits.fills
  /-- A read limit that each request of a payload passes changes nothing. -/
  payloadInPlace_of_le : ∀ L m c, s.limits.readCap = some c →
    (∀ n ∈ m.kind.payloadRequests L s.limits.fills, n ≤ c) →
    Message.readReplace L (s, m) = relimit s.limits (Message.readReplace L (s.uncapped, m))
  /-- A read limit that each request of a header and its payload passes changes nothing. -/
  messageInPlace_of_le : ∀ m c, s.limits.readCap = some c →
    (∀ n ∈ m.kind.requests s.rest s.limits.fills, n ≤ c) →
    readReplaceMessage (s, m) = relimit s.limits (readReplaceMessage (s.uncapped, m))

open Message in
/-- Chunked delivery is simulated exactly. The decoders are plans of requests, and from every
source whose fills bring bytes, each way of reading runs as it runs on the same bytes without
limits, cut at its first request of `n` bytes over the read limit `c`, which brings what is left
up to `c` bytes and fails with `truncated (min c left) n`; the fill limit never shows. -/
theorem chunked_reads_are_cut_unlimited_runs :
    (∀ L, (plan L).run = Message.readReplace L) ∧ readPlan.run = readReplaceMessage ∧
      ∀ s : Source, s.limits.FillsAdvance → s.ReadsAsCutRun :=
  ⟨run_plan, run_readPlan, fun s hf =>
    { payloadInPlace := readReplace_limited s hf
      payloadFresh := read_limited s hf
      messageInPlace := readReplaceMessage_limited s hf
      messageFresh := readOf_limited s hf
      anyMessage := readAny_eq_readOf_announced s
      payloadOrder := fun L m => requests_plan L s.uncapped m
      messageOrder := fun m => requests_readPlan s.uncapped m
      payloadInPlace_of_le := fun L m _ hc hle => readReplace_of_le s hf L m hc hle
      messageInPlace_of_le := fun m _ hc hle => readReplaceMessage_of_le s hf m hc hle }⟩

theorem chunked_reads_are_cut_unlimited_runs_diagnostic :
    (Source.ofBytes ⟨false, some 3, some fun _ => 1⟩
        [2, 253, 0x80, 0x01, 0, 0, 0, 6, 0x0e, 0x80, 0x10, 0x01, 0x3e, 0x00]).limits.FillsAdvance ∧
      (Source.ofBytes ⟨false, some 3, some fun _ => 1⟩
        [2, 253, 0x80, 0x01, 0, 0, 0, 6, 0x0e, 0x80, 0x10, 0x01, 0x3e, 0x00]).ReadsAsCutRun := by
  have hf : (Source.ofBytes ⟨false, some 3, some fun _ => 1⟩
      [2, 253, 0x80, 0x01, 0, 0, 0, 6, 0x0e, 0x80, 0x10, 0x01, 0x3e, 0x00]).limits.FillsAdvance := by
    rintro c hc pos
    cases hc
    exact Nat.one_pos
  exact ⟨hf, chunked_reads_are_cut_unlimited_runs.2.2 _ hf⟩

end DoipWire
