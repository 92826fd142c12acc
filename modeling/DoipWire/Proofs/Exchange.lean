import DoipWire.Tester
import DoipWire.Proofs.Valid
import DoipWire.Proofs.Writing

/-!
# The tester's exchanges

A tester asks for routing, then sends a diagnostic request, waits for a positive acknowledgement
and the response, and acknowledges the response in turn (`confirmation`). Each step is stated for
every exchange it may start from, and a run over a port that a script drives ends by exactly one
rule of `Answered` or `Granted`.
-/

namespace DoipWire

/-! ## Ports and outcomes -/

/-- The port after `bytes` went out on it: they are added to what it was given, and come back as
incoming bytes when it echoes. -/
def Port.put (p : Port) (bytes : List UInt8) : Port :=
  { p with
    written := p.written ++ bytes
    incoming := if p.echo then p.incoming.feed bytes else p.incoming }

@[simp] theorem Port.put_written (p : Port) (bytes : List UInt8) :
    (p.put bytes).written = p.written ++ bytes := rfl

/-- A port that a script drives: it delivers the bytes of `s`, has been given `w` so far, and
takes every write in time without echoing it. -/
def Port.driven (s : Source) (w : List UInt8) : Port := ⟨s, w, false, fun _ => true⟩

theorem Port.scripted_eq_driven (incoming : List UInt8) :
    Port.scripted incoming = Port.driven (Source.ofBytes .plain incoming) [] := rfl

def Tester.outcome {α : Type} : EStateM.Result TesterError Exchange α → Except TesterError α × Exchange
  | .ok a x => (.ok a, x)
  | .error e x => (.error e, x)

/-! ## Steps of a tester -/

namespace Tester

variable {α β : Type} {x x' : Exchange}

theorem bind_of_ok {a : Tester α} {f : α → Tester β} {v : α} (h : a x = .ok v x') :
    (a >>= f) x = f v x' := by
  show EStateM.bind a f x = _
  simp only [EStateM.bind, h]

theorem bind_of_error {a : Tester α} {f : α → Tester β} {e : TesterError}
    (h : a x = .error e x') : (a >>= f) x = .error e x' := by
  show EStateM.bind a f x = _
  simp only [EStateM.bind, h]

theorem get_apply : (get : Tester Exchange) x = .ok x x := rfl

theorem set_apply (y : Exchange) : (set y : Tester PUnit) x = .ok ⟨⟩ y := rfl

theorem throw_apply (e : TesterError) : (throw e : Tester α) x = .error e x := rfl

theorem checked_of_valid {m : Message} (h : m.validate = .ok ()) : checked m x = .ok m x := by
  simp [checked, fromExcept, h, bind, EStateM.bind, pure, EStateM.pure]

theorem checked_of_invalid {m : Message} {e : Error} (h : m.validate = .error e) :
    checked m x = .error (.codec e) x := by
  simp [checked, fromExcept, h, bind, EStateM.bind, throw_apply]

theorem send_of_encode_ok {m : Message} {bytes : List UInt8}
    (h : m.encode defaultVersion = .ok bytes) (ht : x.port.inTime bytes.length = true) :
    send m x = .ok () { x with port := x.port.put bytes } := by
  simp [send, fromExcept, h, ht, Port.put, bind, EStateM.bind, pure, EStateM.pure, get_apply,
    set_apply]

theorem send_of_late {m : Message} {bytes : List UInt8}
    (h : m.encode defaultVersion = .ok bytes) (ht : x.port.inTime bytes.length = false) :
    send m x = .error .writeTimeout x := by
  simp [send, fromExcept, h, ht, bind, EStateM.bind, pure, EStateM.pure, get_apply, throw_apply]

theorem send_of_encode_error {m : Message} {e : Error} (h : m.encode defaultVersion = .error e) :
    send m x = .error (.codec e) x := by
  simp [send, fromExcept, h, bind, EStateM.bind, throw_apply]

theorem readOf_of_ok {k : Kind} {m : Message} {s : Source}
    (h : Message.readOf k x.port.incoming = .ok m s) :
    readOf k x = .ok m { x with port := { x.port with incoming := s } } := by
  simp [readOf, onPort, h, bind, EStateM.bind, pure, EStateM.pure]

theorem readOf_of_error {k : Kind} {e : Error} {s : Source}
    (h : Message.readOf k x.port.incoming = .error e s) :
    ∃ log, readOf k x = .error (.codec e) ⟨{ x.port with incoming := s }, log⟩ := by
  simp only [readOf, onPort, h, bind, EStateM.bind]
  -- a header of another type is noted in the log first
  split <;> exact ⟨_, rfl⟩

theorem readAny_of_ok {m : Message} {s : Source} (h : Message.readAny x.port.incoming = .ok m s) :
    readAny x = .ok m { x with port := { x.port with incoming := s } } := by
  simp [readAny, onPort, h, bind, EStateM.bind, pure, EStateM.pure]

theorem readAny_of_error {e : Error} {s : Source}
    (h : Message.readAny x.port.incoming = .error e s) :
    ∃ log, readAny x = .error (.codec e) ⟨{ x.port with incoming := s }, log⟩ := by
  simp only [readAny, onPort, h, bind, EStateM.bind]
  -- a header of an unnamed type is noted in the log first
  split <;> exact ⟨_, rfl⟩

/-! ### Waiting for the acknowledgement -/

theorem awaitAck_of_positive {a : DiagnosticAck PositiveAckCode} {s : Source}
    (h : Message.readAny x.port.incoming = .ok (.diagnosticPositiveAck a) s) :
    ∃ log, awaitAck x = .ok () ⟨{ x.port with incoming := s }, log⟩ := by
  rw [awaitAck, bind_of_ok (readAny_of_ok h)]
  exact ⟨_, rfl⟩

theorem awaitAck_of_negative {a : DiagnosticAck NegativeAckCode} {s : Source}
    (h : Message.readAny x.port.incoming = .ok (.diagnosticNegativeAck a) s) :
    awaitAck x = .error (.refused a.ackCode) { x with port := { x.port with incoming := s } } := by
  unfold awaitAck
  exact (bind_of_ok (readAny_of_ok h)).trans rfl

theorem awaitAck_of_stray {m : Message} {s : Source} (h : Message.readAny x.port.incoming = .ok m s)
    (hp : m.kind ≠ .diagnosticPositiveAck) (hn : m.kind ≠ .diagnosticNegativeAck) :
    awaitAck x = .error (.unexpectedReply m.kind) { x with port := { x.port with incoming := s } } := by
  rw [awaitAck, bind_of_ok (readAny_of_ok h)]
  cases m <;> first | rfl | exact absurd rfl hp | exact absurd rfl hn

theorem awaitAck_of_error {e : Error} {s : Source} (h : Message.readAny x.port.incoming = .error e s) :
    ∃ log, awaitAck x = .error (.codec e) ⟨{ x.port with incoming := s }, log⟩ := by
  obtain ⟨log, hr⟩ := readAny_of_error h
  exact ⟨log, by rw [awaitAck, bind_of_error hr]⟩

end Tester

/-! ## Acknowledging the response -/

theorem Message.kind_of_readOf {k : Kind} {s s' : Source} {m : Message}
    (h : Message.readOf k s = .ok m s') : m.kind = k := by
  obtain ⟨hd, s₁, hh, -, hr⟩ := Message.readOf_eq_ok h
  obtain ⟨_, _, _, _, _, _, _, _, _, -, -, -, -, hk, -⟩ := Message.writesBack_announced hh hr
  exact hk

theorem Message.diagnostic_of_readOf {s s' : Source} {m : Message}
    (h : Message.readOf .diagnosticMessage s = .ok m s') :
    ∃ r, m = .diagnosticMessage r ∧ 0 ≤ r.sourceAddress ∧ r.sourceAddress ≤ 0xFFFF := by
  have hk := kind_of_readOf h
  have hv := (writable_of_readOf h).1.checks
  cases m with
  | diagnosticMessage r =>
    simp [Message.validate, checkAddresses] at hv
    exact ⟨r, rfl, hv.1.1, by omega⟩
  | _ => cases hk

/-- The acknowledgement a tester at address `source` sends for a diagnostic response: to the
response's source, confirming routing, echoing a copy of its data. -/
def confirmation (source : Int) (r : Diagnostic) : DiagnosticAck PositiveAckCode :=
  ⟨source, r.sourceAddress, .member .routingConfirmationAck, .owned r.userData.bytes⟩

theorem confirmation_valid {source : Int} {r : Diagnostic} (hs : 0 ≤ source ∧ source ≤ 0xFFFF)
    (hr : 0 ≤ r.sourceAddress ∧ r.sourceAddress ≤ 0xFFFF) :
    (Message.diagnosticPositiveAck (confirmation source r)).validate = .ok () := by
  simp [Message.validate, checkAddresses, confirmation, hs.1, hr.1, OpenCode.value,
    CodeTable.value]
  omega

theorem Message.encodes_iff_fits {m : Message} (hv : m.validate = .ok ()) (hr : m.HoldsReserved)
    {v : Int} (hv0 : 0 ≤ v) (hv1 : v < 256) :
    (∃ bytes, m.encode v = .ok bytes) ↔ m.length < 2 ^ 32 := by
  constructor
  · rintro ⟨bytes, h⟩
    obtain ⟨-, -, -, -, -, hl, -⟩ := Message.encode_eq_ok h
    exact hl
  · intro hl
    obtain ⟨bytes, h, -⟩ := Message.encode_of_writable ⟨⟨hv, hl⟩, hr⟩ hv0 hv1
    exact ⟨bytes, h⟩

theorem diagnosticRequest_valid {source target : Int} (hs : 0 ≤ source ∧ source ≤ 0xFFFF)
    (ht : 0 ≤ target ∧ target ≤ 0xFFFF) (request : List UInt8) :
    (Message.diagnosticMessage ⟨source, target, .owned request⟩).validate = .ok () := by
  simp [Message.validate, checkAddresses, hs.1, ht.1]
  omega

theorem diagnosticRequest_encodes_iff {source target : Int} (hs : 0 ≤ source ∧ source ≤ 0xFFFF)
    (ht : 0 ≤ target ∧ target ≤ 0xFFFF) (request : List UInt8) :
    (∃ bytes, (Message.diagnosticMessage ⟨source, target, .owned request⟩).encode defaultVersion =
      .ok bytes) ↔ request.length + 4 < 2 ^ 32 := by
  have hv := diagnosticRequest_valid hs ht request
  rw [Message.encodes_iff_fits hv trivial (by decide) (by decide)]
  simp [Message.length, Opaque.bytes]
  omega

theorem confirmation_encodes_iff {source : Int} {r : Diagnostic} (hs : 0 ≤ source ∧ source ≤ 0xFFFF)
    (hr : 0 ≤ r.sourceAddress ∧ r.sourceAddress ≤ 0xFFFF) :
    (∃ bytes, (Message.diagnosticPositiveAck (confirmation source r)).encode defaultVersion =
      .ok bytes) ↔ r.userData.bytes.length + 5 < 2 ^ 32 := by
  rw [Message.encodes_iff_fits (confirmation_valid hs hr) trivial (by decide) (by decide)]
  simp [Message.length, confirmation, Opaque.bytes]
  omega

namespace Tester

variable {x : Exchange} {source : Int} {r : Diagnostic}

theorem acknowledge_of_encode_ok {bytes : List UInt8}
    (hv : (Message.diagnosticPositiveAck (confirmation source r)).validate = .ok ())
    (h : (Message.diagnosticPositiveAck (confirmation source r)).encode defaultVersion = .ok bytes)
    (ht : x.port.inTime bytes.length = true) :
    acknowledge source (.diagnosticMessage r) x =
      .ok (confirmation source r) { x with port := x.port.put bytes } := by
  simp only [acknowledge, Message.sourceAddress?, pure_bind]
  refine (bind_of_ok (checked_of_valid hv)).trans ?_
  exact (bind_of_ok (send_of_encode_ok h ht)).trans rfl

theorem acknowledge_of_encode_error {e : Error}
    (hv : (Message.diagnosticPositiveAck (confirmation source r)).validate = .ok ())
    (h : (Message.diagnosticPositiveAck (confirmation source r)).encode defaultVersion = .error e) :
    acknowledge source (.diagnosticMessage r) x = .error (.codec e) x := by
  simp only [acknowledge, Message.sourceAddress?, pure_bind]
  refine (bind_of_ok (checked_of_valid hv)).trans ?_
  exact bind_of_error (send_of_encode_error h)

theorem receiveResponse_of_error {e : Error} {s : Source}
    (h : Message.readOf .diagnosticMessage x.port.incoming = .error e s) :
    ∃ log, receiveResponse source x = .error (.codec e) ⟨{ x.port with incoming := s }, log⟩ := by
  obtain ⟨log, hr⟩ := readOf_of_error h
  exact ⟨log, by rw [receiveResponse, bind_of_error hr]⟩

theorem receiveResponse_of_confirmed {s : Source} {bytes : List UInt8}
    (h : Message.readOf .diagnosticMessage x.port.incoming = .ok (.diagnosticMessage r) s)
    (hv : (Message.diagnosticPositiveAck (confirmation source r)).validate = .ok ())
    (he : (Message.diagnosticPositiveAck (confirmation source r)).encode defaultVersion = .ok bytes)
    (ht : x.port.inTime bytes.length = true) :
    receiveResponse source x = .ok r ⟨({ x.port with incoming := s }).put bytes, x.log⟩ := by
  rw [receiveResponse, bind_of_ok (readOf_of_ok h)]
  dsimp only
  refine (bind_of_ok (acknowledge_of_encode_ok hv he ?_)).trans rfl
  exact ht

theorem receiveResponse_of_unconfirmed {s : Source} {e : Error}
    (h : Message.readOf .diagnosticMessage x.port.incoming = .ok (.diagnosticMessage r) s)
    (hv : (Message.diagnosticPositiveAck (confirmation source r)).validate = .ok ())
    (he : (Message.diagnosticPositiveAck (confirmation source r)).encode defaultVersion = .error e) :
    receiveResponse source x = .error (.codec e) { x with port := { x.port with incoming := s } } := by
  rw [receiveResponse, bind_of_ok (readOf_of_ok h)]
  dsimp only
  exact bind_of_error (acknowledge_of_encode_error hv he)

end Tester

/-! ## A diagnostic request -/

/-- How a diagnostic request is answered, by what the port delivers after it, with the bytes the
tester writes in turn. Only a positive acknowledgement followed by a diagnostic response makes the
tester return the response, and only then does it write anything more: the acknowledgement of the
response (`confirmation`). -/
inductive Answered (source : Int) (s : Source) : Except TesterError Diagnostic → List UInt8 → Prop
  /-- The response is returned and its acknowledgement written. -/
  | response {a : DiagnosticAck PositiveAckCode} {s₁ s₂ : Source} {r : Diagnostic}
      {bytes : List UInt8} :
      Message.readAny s = .ok (.diagnosticPositiveAck a) s₁ →
      Message.readOf .diagnosticMessage s₁ = .ok (.diagnosticMessage r) s₂ →
      (Message.diagnosticPositiveAck (confirmation source r)).encode defaultVersion = .ok bytes →
      Answered source s (.ok r) bytes
  /-- The acknowledgement of the response cannot be encoded. -/
  | unconfirmed {a : DiagnosticAck PositiveAckCode} {s₁ s₂ : Source} {r : Diagnostic} {e : Error} :
      Message.readAny s = .ok (.diagnosticPositiveAck a) s₁ →
      Message.readOf .diagnosticMessage s₁ = .ok (.diagnosticMessage r) s₂ →
      (Message.diagnosticPositiveAck (confirmation source r)).encode defaultVersion = .error e →
      Answered source s (.error (.codec e)) []
  /-- The response cannot be decoded. -/
  | noResponse {a : DiagnosticAck PositiveAckCode} {s₁ s₂ : Source} {e : Error} :
      Message.readAny s = .ok (.diagnosticPositiveAck a) s₁ →
      Message.readOf .diagnosticMessage s₁ = .error e s₂ →
      Answered source s (.error (.codec e)) []
  /-- The request is refused. -/
  | refused {a : DiagnosticAck NegativeAckCode} {s₁ : Source} :
      Message.readAny s = .ok (.diagnosticNegativeAck a) s₁ →
      Answered source s (.error (.refused a.ackCode)) []
  /-- The reply is no acknowledgement. -/
  | stray {m : Message} {s₁ : Source} :
      Message.readAny s = .ok m s₁ → m.kind ≠ .diagnosticPositiveAck →
      m.kind ≠ .diagnosticNegativeAck → Answered source s (.error (.unexpectedReply m.kind)) []
  /-- The reply cannot be decoded. -/
  | noReply {e : Error} {s₁ : Source} :
      Message.readAny s = .error e s₁ → Answered source s (.error (.codec e)) []

theorem Answered.unique {source : Int} {s : Source} {out out' : Except TesterError Diagnostic}
    {bytes bytes' : List UInt8} (h : Answered source s out bytes)
    (h' : Answered source s out' bytes') : out = out' ∧ bytes = bytes' := by
  cases h <;> cases h' <;> grind [Message.kind]

namespace Tester

variable {x : Exchange} {source : Int}

theorem sendDiagnostic_of_sent {target : Int} {request bytes : List UInt8}
    (hs : 0 ≤ source ∧ source ≤ 0xFFFF) (ht : 0 ≤ target ∧ target ≤ 0xFFFF)
    (h : (Message.diagnosticMessage ⟨source, target, .owned request⟩).encode defaultVersion =
      .ok bytes)
    (hin : x.port.inTime bytes.length = true) :
    ∃ log, sendDiagnostic source target request x =
      (awaitAck >>= fun _ => receiveResponse source) ⟨x.port.put bytes, log⟩ := by
  have hv := diagnosticRequest_valid hs ht request
  rw [sendDiagnostic, bind_of_ok (checked_of_valid hv), bind_of_ok (send_of_encode_ok h hin)]
  exact ⟨_, bind_of_ok rfl⟩

theorem sendDiagnostic_of_encode_error {target : Int} {request : List UInt8} {e : Error}
    (hs : 0 ≤ source ∧ source ≤ 0xFFFF) (ht : 0 ≤ target ∧ target ≤ 0xFFFF)
    (h : (Message.diagnosticMessage ⟨source, target, .owned request⟩).encode defaultVersion =
      .error e) :
    sendDiagnostic source target request x = .error (.codec e) x := by
  have hv := diagnosticRequest_valid hs ht request
  rw [sendDiagnostic, bind_of_ok (checked_of_valid hv), bind_of_error (send_of_encode_error h)]

theorem answered_after_request (hs : 0 ≤ source ∧ source ≤ 0xFFFF) (y : Exchange)
    (htime : ∀ n, y.port.inTime n = true) :
    ∃ bytes, Answered source y.port.incoming
        (outcome ((awaitAck >>= fun _ => receiveResponse source) y)).1 bytes ∧
      (outcome ((awaitAck >>= fun _ => receiveResponse source) y)).2.port.written =
        y.port.written ++ bytes := by
  cases hA : Message.readAny y.port.incoming with
  | error e s₁ =>
    obtain ⟨log, h⟩ := awaitAck_of_error hA
    rw [bind_of_error h]
    exact ⟨[], .noReply hA, by simp [outcome]⟩
  | ok m s₁ =>
    cases m with
    | diagnosticPositiveAck a =>
      obtain ⟨log, h⟩ := awaitAck_of_positive hA
      rw [bind_of_ok h]
      -- the acknowledgement was read; now the response
      cases hR : Message.readOf .diagnosticMessage s₁ with
      | error e s₂ =>
        obtain ⟨log', h'⟩ : ∃ log', receiveResponse source ⟨{ y.port with incoming := s₁ }, log⟩ =
            .error (.codec e) ⟨{ y.port with incoming := s₂ }, log'⟩ := receiveResponse_of_error hR
        rw [h']
        exact ⟨[], .noResponse hA hR, by simp [outcome]⟩
      | ok m₂ s₂ =>
        obtain ⟨r, rfl, hr⟩ := Message.diagnostic_of_readOf hR
        have hv := confirmation_valid hs hr
        cases hE : (Message.diagnosticPositiveAck (confirmation source r)).encode defaultVersion with
        | ok bytes =>
          have hrun : receiveResponse source ⟨{ y.port with incoming := s₁ }, log⟩ =
              .ok r ⟨({ y.port with incoming := s₂ }).put bytes, log⟩ :=
            receiveResponse_of_confirmed hR hv hE (htime _)
          rw [hrun]
          exact ⟨bytes, .response hA hR hE, by simp [outcome]⟩
        | error e =>
          have hrun : receiveResponse source ⟨{ y.port with incoming := s₁ }, log⟩ =
              .error (.codec e) ⟨{ y.port with incoming := s₂ }, log⟩ :=
            receiveResponse_of_unconfirmed hR hv hE
          rw [hrun]
          exact ⟨[], .unconfirmed hA hR hE, by simp [outcome]⟩
    | diagnosticNegativeAck a =>
      rw [bind_of_error (awaitAck_of_negative hA)]
      exact ⟨[], .refused hA, by simp [outcome]⟩
    | _ =>
      rw [bind_of_error (awaitAck_of_stray hA (by simp [Message.kind]) (by simp [Message.kind]))]
      exact ⟨[], .stray hA (by simp [Message.kind]) (by simp [Message.kind]), by simp [outcome]⟩

end Tester

/-! ## Asking for routing -/

/-- The request of a tester at address `source` for routing of type `t`: its reserved bytes and
the bytes for the manufacturer are all zero. -/
def routingRequest (source : Int) (t : ActivationType) : Message :=
  .routingActivationRequest ⟨source, .member t, some (List.replicate 4 0), some (List.replicate 4 0)⟩

theorem routingRequest_writable {source : Int} (hs : 0 ≤ source ∧ source ≤ 0xFFFF)
    (t : ActivationType) : (routingRequest source t).Writable := by
  refine ⟨⟨?_, by simp [routingRequest, Message.length]⟩, rfl⟩
  cases t <;> simp [routingRequest, Message.validate, hs.1, reservedSize, oemSize,
    CodeTable.value] <;> omega

theorem routingRequest_encodes {source : Int} (hs : 0 ≤ source ∧ source ≤ 0xFFFF)
    (t : ActivationType) :
    ∃ bytes, (routingRequest source t).encode defaultVersion = .ok bytes ∧ bytes.length = 19 := by
  obtain ⟨bytes, h, hl, -⟩ := Message.encode_of_writable (routingRequest_writable hs t)
    (show (0 : Int) ≤ defaultVersion by decide) (show defaultVersion < 256 by decide)
  exact ⟨bytes, h, hl.trans rfl⟩

/-- How a request for routing is answered, by what the port delivers after it: the entity's
response is returned when it grants routing; otherwise the exchange fails with the code that
denies it, or with the failure to decode the response. -/
inductive Granted (s : Source) : Except TesterError ActivationResponse → Prop
  | granted {r : ActivationResponse} {s₁ : Source} :
      Message.readOf .routingActivationResponse s = .ok (.routingActivationResponse r) s₁ →
      (∀ c, r.responseCode = .member c → c.activated = true) → Granted s (.ok r)
  | denied {r : ActivationResponse} {s₁ : Source} {c : ResponseCode} :
      Message.readOf .routingActivationResponse s = .ok (.routingActivationResponse r) s₁ →
      r.responseCode = .member c → c.activated = false → Granted s (.error (.denied c))
  | failed {e : Error} {s₁ : Source} :
      Message.readOf .routingActivationResponse s = .error e s₁ → Granted s (.error (.codec e))

theorem Granted.unique {s : Source} {out out' : Except TesterError ActivationResponse}
    (h : Granted s out) (h' : Granted s out') : out = out' := by
  cases h <;> cases h' <;> grind

namespace Tester

variable {x : Exchange} {source : Int} {r : ActivationResponse} {s : Source}

theorem awaitActivation_of_error {e : Error}
    (h : Message.readOf .routingActivationResponse x.port.incoming = .error e s) :
    ∃ log, awaitActivation x = .error (.codec e) ⟨{ x.port with incoming := s }, log⟩ := by
  obtain ⟨log, hr⟩ := readOf_of_error h
  exact ⟨log, by rw [awaitActivation, bind_of_error hr]⟩

theorem awaitActivation_of_granted
    (h : Message.readOf .routingActivationResponse x.port.incoming =
      .ok (.routingActivationResponse r) s)
    (hc : ∀ c, r.responseCode = .member c → c.activated = true) :
    ∃ log, awaitActivation x = .ok r ⟨{ x.port with incoming := s }, log⟩ := by
  rw [awaitActivation, bind_of_ok (readOf_of_ok h)]
  dsimp only
  cases hr : r.responseCode with
  | member c =>
    simp only [hc c hr, if_true]
    exact ⟨_, bind_of_ok rfl⟩
  | raw v => exact ⟨_, rfl⟩

theorem awaitActivation_of_denied {c : ResponseCode}
    (h : Message.readOf .routingActivationResponse x.port.incoming =
      .ok (.routingActivationResponse r) s)
    (hc : r.responseCode = .member c) (hn : c.activated = false) :
    awaitActivation x = .error (.denied c) { x with port := { x.port with incoming := s } } := by
  rw [awaitActivation, bind_of_ok (readOf_of_ok h)]
  simp [hc, hn, throw_apply]

theorem granted_after_request (y : Exchange) :
    Granted y.port.incoming (outcome (awaitActivation y)).1 ∧
      (outcome (awaitActivation y)).2.port.written = y.port.written := by
  cases hR : Message.readOf .routingActivationResponse y.port.incoming with
  | error e s₁ =>
    obtain ⟨log, h⟩ := awaitActivation_of_error hR
    rw [h]
    exact ⟨.failed hR, rfl⟩
  | ok m s₁ =>
    have hk := Message.kind_of_readOf hR
    cases m with
    | routingActivationResponse r =>
      by_cases hc : ∀ c, r.responseCode = .member c → c.activated = true
      · obtain ⟨log, h⟩ := awaitActivation_of_granted hR hc
        rw [h]
        exact ⟨.granted hR hc, rfl⟩
      · obtain ⟨c, hrc, hn⟩ : ∃ c, r.responseCode = .member c ∧ c.activated = false := by
          simpa using hc
        rw [awaitActivation_of_denied hR hrc hn]
        exact ⟨.denied hR hrc hn, rfl⟩
    | _ => cases hk

theorem activateRouting_of_sent {t : ActivationType} {bytes : List UInt8}
    (hs : 0 ≤ source ∧ source ≤ 0xFFFF)
    (h : (routingRequest source t).encode defaultVersion = .ok bytes)
    (hin : x.port.inTime bytes.length = true) :
    ∃ log, activateRouting source (.member t) x = awaitActivation ⟨x.port.put bytes, log⟩ := by
  have hv := (routingRequest_writable hs t).1.checks
  unfold activateRouting
  exact ⟨_, (bind_of_ok (checked_of_valid hv)).trans <|
    (bind_of_ok (send_of_encode_ok h hin)).trans (bind_of_ok rfl)⟩

theorem activateRouting_of_late {t : ActivationType} {bytes : List UInt8}
    (hs : 0 ≤ source ∧ source ≤ 0xFFFF)
    (h : (routingRequest source t).encode defaultVersion = .ok bytes)
    (hin : x.port.inTime bytes.length = false) :
    activateRouting source (.member t) x = .error .writeTimeout x := by
  have hv := (routingRequest_writable hs t).1.checks
  unfold activateRouting
  exact (bind_of_ok (checked_of_valid hv)).trans (bind_of_error (send_of_late h hin))

theorem activateRouting_of_invalid (t : ClosedCode ActivationType)
    (hs : ¬ (0 ≤ source ∧ source ≤ 0xFFFF)) :
    activateRouting source t x =
      .error (.codec (.fieldRange "source_address" source 2)) x := by
  have hv : (Message.routingActivationRequest ⟨source, t, some (List.replicate reservedSize 0),
      some (List.replicate oemSize 0)⟩).validate = .error (.fieldRange "source_address" source 2) := by
    have hr : ¬ (0 ≤ source ∧ source < 256 ^ 2) := by omega
    simp only [Message.validate, checkUnsigned, int_pow_eq, if_neg hr, bind, Except.bind]
  rw [activateRouting, bind_of_error (checked_of_invalid hv)]

end Tester

open Tester in
/-- The tester's exchanges over a port that a script drives, for tester and target addresses of
two bytes and every script. A diagnostic request that cannot be encoded, its data too long for a
header, fails before anything is written. Otherwise the request is written first, and the exchange
ends as `Answered` says and in no other way: it returns a response exactly when a positive
acknowledgement and then a diagnostic message arrive and the acknowledgement of the response
encodes; then, and only then, it writes that acknowledgement, addressed to the response's source;
every failure writes nothing after the request. Asking for routing writes exactly one routing
activation request, with zero reserved and manufacturer bytes, and ends as `Granted` says. -/
theorem exchange_as_documented (source target : Int) (hs : 0 ≤ source ∧ source ≤ 0xFFFF)
    (ht : 0 ≤ target ∧ target ≤ 0xFFFF) (request : List UInt8) (t : ActivationType) (s : Source)
    (w : List UInt8) (log : List LogRecord) :
    (∀ e, (Message.diagnosticMessage ⟨source, target, .owned request⟩).encode defaultVersion =
        .error e →
      sendDiagnostic source target request ⟨Port.driven s w, log⟩ =
        .error (.codec e) ⟨Port.driven s w, log⟩) ∧
    (∀ reqBytes, (Message.diagnosticMessage ⟨source, target, .owned request⟩).encode
        defaultVersion = .ok reqBytes →
      ∀ out bytes,
        ((outcome (sendDiagnostic source target request ⟨Port.driven s w, log⟩)).1 = out ∧
          (outcome (sendDiagnostic source target request ⟨Port.driven s w, log⟩)).2.port.written =
            w ++ reqBytes ++ bytes) ↔ Answered source s out bytes) ∧
    ∃ reqBytes, (routingRequest source t).encode defaultVersion = .ok reqBytes ∧
      (outcome (activateRouting source (.member t) ⟨Port.driven s w, log⟩)).2.port.written =
        w ++ reqBytes ∧
      ∀ out, (outcome (activateRouting source (.member t) ⟨Port.driven s w, log⟩)).1 = out ↔
        Granted s out := by
  refine ⟨fun e he => sendDiagnostic_of_encode_error hs ht he, fun reqBytes he out bytes => ?_, ?_⟩
  · -- the request goes out; what follows is answered in exactly one way
    obtain ⟨log', hrun⟩ : ∃ log', sendDiagnostic source target request ⟨Port.driven s w, log⟩ =
        (awaitAck >>= fun _ => receiveResponse source) ⟨(Port.driven s w).put reqBytes, log'⟩ :=
      sendDiagnostic_of_sent hs ht he rfl
    obtain ⟨b₀, hA, hw⟩ := answered_after_request hs ⟨(Port.driven s w).put reqBytes, log'⟩
      fun _ => rfl
    rw [hrun]
    constructor
    · rintro ⟨rfl, hw'⟩
      rw [hw] at hw'
      obtain rfl := List.append_cancel_left hw'
      exact hA
    · intro hA'
      obtain ⟨rfl, rfl⟩ := hA.unique hA'
      exact ⟨rfl, hw⟩
  · obtain ⟨reqBytes, he, -⟩ := routingRequest_encodes hs t
    obtain ⟨log', hrun⟩ : ∃ log', activateRouting source (.member t) ⟨Port.driven s w, log⟩ =
        awaitActivation ⟨(Port.driven s w).put reqBytes, log'⟩ := activateRouting_of_sent hs he rfl
    obtain ⟨hG, hw⟩ := granted_after_request ⟨(Port.driven s w).put reqBytes, log'⟩
    rw [hrun]
    refine ⟨reqBytes, he, hw, fun out => ⟨fun h => h ▸ hG, fun h => hG.unique h⟩⟩

theorem exchange_as_documented_defaults :
    (0 ≤ (0x0F02 : Int) ∧ (0x0F02 : Int) ≤ 0xFFFF) ∧ (0 ≤ (0x0077 : Int) ∧ (0x0077 : Int) ≤ 0xFFFF) ∧
    (∀ e, (Message.diagnosticMessage ⟨0x0F02, 0x0077, .owned [0x22, 0xF1, 0x90]⟩).encode
        defaultVersion = .error e →
      Tester.sendDiagnostic 0x0F02 0x0077 [0x22, 0xF1, 0x90]
          ⟨Port.driven (Source.ofBytes .plain []) [], []⟩ =
        .error (.codec e) ⟨Port.driven (Source.ofBytes .plain []) [], []⟩) ∧
    (∀ reqBytes, (Message.diagnosticMessage ⟨0x0F02, 0x0077, .owned [0x22, 0xF1, 0x90]⟩).encode
        defaultVersion = .ok reqBytes →
      ∀ out bytes,
        ((Tester.outcome (Tester.sendDiagnostic 0x0F02 0x0077 [0x22, 0xF1, 0x90]
            ⟨Port.driven (Source.ofBytes .plain []) [], []⟩)).1 = out ∧
          (Tester.outcome (Tester.sendDiagnostic 0x0F02 0x0077 [0x22, 0xF1, 0x90]
            ⟨Port.driven (Source.ofBytes .plain []) [], []⟩)).2.port.written =
            [] ++ reqBytes ++ bytes) ↔ Answered 0x0F02 (Source.ofBytes .plain []) out bytes) ∧
    ∃ reqBytes, (routingRequest 0x0F02 .default).encode defaultVersion = .ok reqBytes ∧
      (Tester.outcome (Tester.activateRouting 0x0F02 (.member .default)
        ⟨Port.driven (Source.ofBytes .plain []) [], []⟩)).2.port.written = [] ++ reqBytes ∧
      ∀ out, (Tester.outcome (Tester.activateRouting 0x0F02 (.member .default)
        ⟨Port.driven (Source.ofBytes .plain []) [], []⟩)).1 = out ↔
        Granted (Source.ofBytes .plain []) out :=
  ⟨by decide, by decide, exchange_as_documented 0x0F02 0x0077 (by decide) (by decide)
    [0x22, 0xF1, 0x90] .default (Source.ofBytes .plain []) [] []⟩

end DoipWire
