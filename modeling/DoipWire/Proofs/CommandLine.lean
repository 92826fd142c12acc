import DoipWire.Cli.Run
import DoipWire.Proofs.Dispatch
import DoipWire.Proofs.Exchange
import DoipWire.SerialHost.Library

/-!
# Running the tester over a loopback port

Over a loopback port the tester reads back its own request for routing, whose payload type is
not the response's, and the run ends with exit code 1; a request that is not hexadecimal ends it
with 2. A negative timeout and a tester address beyond two bytes escape the run. The serial
library is a parameter, with what it documents of `loop://` as hypotheses (`LoopbackBehaviour`).
-/

namespace DoipWire

/-! ## Reading back one's own request -/

namespace Tester

theorem activateRouting_echoed {x : Exchange} {source : Int} (hs : 0 ≤ source ∧ source ≤ 0xFFFF)
    (t : ActivationType) (hecho : x.port.echo = true) (hnil : x.port.incoming.rest = [])
    (hc : x.port.incoming.limits.Passes headerSize) (hin : x.port.inTime 19 = true) :
    ∃ x', activateRouting source (.member t) x =
      .error (.codec (.unexpectedPayloadType 0x0005 11)) x' := by
  obtain ⟨bytes, he, hl⟩ := routingRequest_encodes hs t
  obtain ⟨log, hrun⟩ := activateRouting_of_sent hs he (hl ▸ hin)
  obtain ⟨body, -, -, -, -, hlen, rfl⟩ := Message.encode_eq_ok he
  -- the request comes back as the only bytes to read, and its header announces a request
  have hback : (x.port.put (headerBytes defaultVersion (routingRequest source t).kind
      (routingRequest source t).length ++ body)).incoming.rest =
      headerBytes defaultVersion (routingRequest source t).kind (routingRequest source t).length ++
        body := by
    simp [Port.put, hecho, Source.feed, hnil]
  have hhd := Header.ofBytes_headerBytes (show (0 : Int) ≤ defaultVersion by decide)
    (show defaultVersion < 256 by decide) (routingRequest source t).kind hlen body
  rw [← hback] at hhd
  have hread := Message.readOf_of_mismatch (k := .routingActivationResponse)
    (by simpa [Port.put, hecho, Source.feed] using hc) hhd (by simp [routingRequest, Message.kind])
  obtain ⟨log', h⟩ := awaitActivation_of_error (x := ⟨_, log⟩) hread
  exact ⟨_, hrun.trans (h.trans rfl)⟩

end Tester

/-! ## Runs over the loopback port -/

/-- A port that gives back what is written to it: it starts empty, and its reads let a header
through in one request. -/
structure Port.Echoing (p : Port) : Prop where
  echoes : p.echo = true
  empty : p.incoming.rest = []
  whole : p.incoming.limits.Passes headerSize

namespace Cli

def loopUrl : List Glyph := Glyph.ofString "loop://"

/-- The settings of a run over the loopback port, every other setting given. -/
def loopArguments (request : List Glyph) (source target : Int) (t : ActivationType) (timeout : Float)
    (verbose : Bool) : Arguments :=
  ⟨request, .value loopUrl, .value source, .value target, .value t, .value timeout, verbose⟩

def timeoutRefusal (t : Float) : PortFailure :=
  ⟨"ValueError", Glyph.ofString s!"Not a valid timeout: {Decimal.render t}"⟩

/-- What a serial library documents of its loopback port: with a timeout of zero or more,
`loop://` opens a port that gives back what is written to it; a timeout below zero is refused. -/
structure LoopbackBehaviour (lib : SerialLibrary) : Prop where
  opens : ∀ t : Float, ¬ t < 0 → ∃ records level port,
    lib.openPort (.value loopUrl) (.value t) = .opened records level port ∧ port.Echoing
  refuses : ∀ t : Float, t < 0 → ∃ records level,
    lib.openPort (.value loopUrl) (.value t) = .escaped records level (timeoutRefusal t)

/-- How a run over the loopback port ends: exit code 2 for a request that is not hexadecimal;
otherwise a timeout below zero escapes as the library's refusal, a tester address beyond two bytes
escapes as the codec's, and every other run ends with exit code 1. -/
def loopbackEnding (request : List Glyph) (source : Int) (timeout : Float) : Ending :=
  match Hex.decode (Glyph.toText request) with
  | .error _ => .exit 2
  | .ok _ =>
    if timeout < 0 then .escape (.port (timeoutRefusal timeout))
    else if 0 ≤ source ∧ source ≤ 0xFFFF then .exit 1
    else .escape (.codec (.fieldRange "source_address" source 2))

section Endings

variable {lib : SerialLibrary} {request : List Glyph} {source target : Int} {t : ActivationType}
  {timeout : Float} {verbose : Bool} {bytes : List UInt8}

theorem runWith_of_bad_request {p : Nat} (h : Hex.decode (Glyph.toText request) = .error p) :
    (runWith lib (loopArguments request source target t timeout verbose)).ending = .exit 2 := by
  simp only [runWith, loopArguments, h]

theorem runWith_of_negative_timeout (hlib : LoopbackBehaviour lib)
    (h : Hex.decode (Glyph.toText request) = .ok bytes) (hτ : timeout < 0) :
    (runWith lib (loopArguments request source target t timeout verbose)).ending =
      .escape (.port (timeoutRefusal timeout)) := by
  obtain ⟨records, level, hopen⟩ := hlib.refuses timeout hτ
  simp only [runWith, loopArguments, h, hopen]

theorem runWith_of_wide_source (hlib : LoopbackBehaviour lib)
    (h : Hex.decode (Glyph.toText request) = .ok bytes) (hτ : ¬ timeout < 0)
    (hs : ¬ (0 ≤ source ∧ source ≤ 0xFFFF)) :
    (runWith lib (loopArguments request source target t timeout verbose)).ending =
      .escape (.codec (.fieldRange "source_address" source 2)) := by
  obtain ⟨records, level, port, hopen, -⟩ := hlib.opens timeout hτ
  simp [runWith, loopArguments, h, hopen, exchange, Tester.activateRouting_of_invalid _ hs,
    Error.isProtocol]

theorem runWith_of_loopback (hlib : LoopbackBehaviour lib)
    (h : Hex.decode (Glyph.toText request) = .ok bytes) (hτ : ¬ timeout < 0)
    (hs : 0 ≤ source ∧ source ≤ 0xFFFF) :
    (runWith lib (loopArguments request source target t timeout verbose)).ending = .exit 1 := by
  obtain ⟨records, level, port, hopen, hport⟩ := hlib.opens timeout hτ
  -- the exchange starts on the open port, after the records of its opening
  obtain ⟨e, x', hact, he⟩ : ∃ e x', Tester.activateRouting source (.member t)
      ⟨port, records ++ [⟨.debug, Tester.testerLog, Glyph.ofString "Opened " ++ loopUrl⟩]⟩ =
        .error e x' ∧ (e = .codec (.unexpectedPayloadType 0x0005 11) ∨ e = .writeTimeout) := by
    obtain ⟨bytes, henc, hl⟩ := routingRequest_encodes hs t
    cases hin : port.inTime 19 with
    | true =>
      obtain ⟨x', hx⟩ := Tester.activateRouting_echoed (x := ⟨port, _⟩) hs t hport.echoes
        hport.empty hport.whole hin
      exact ⟨_, x', hx, .inl rfl⟩
    | false =>
      exact ⟨_, _, Tester.activateRouting_of_late hs henc (hl ▸ hin), .inr rfl⟩
  rcases he with rfl | rfl
  · simp [runWith, loopArguments, h, hopen, shownPort, exchange, hact, Error.isProtocol]
  · simp [runWith, loopArguments, h, hopen, shownPort, exchange, hact]

end Endings

/-- Every run over the loopback port of a library that behaves as documented, with every setting
given, ends as `loopbackEnding` says, whatever the target address, the activation type and the
verbosity: with exit code 2 for a request that is not hexadecimal and otherwise with exit code 1,
never 0, except that a timeout below zero and a tester address beyond two bytes escape the run.
A command line that the parser reads as such settings runs them. -/
theorem loopback_run_ending (lib : SerialLibrary) (hlib : LoopbackBehaviour lib)
    (request : List Glyph) (source target : Int) (t : ActivationType) (timeout : Float)
    (verbose : Bool) :
    (runWith lib (loopArguments request source target t timeout verbose)).ending =
      loopbackEnding request source timeout ∧
    ∀ words, parse words = .run (loopArguments request source target t timeout verbose) →
      (run lib words).ending = loopbackEnding request source timeout := by
  have hrun : (runWith lib (loopArguments request source target t timeout verbose)).ending =
      loopbackEnding request source timeout := by
    unfold loopbackEnding
    cases hx : Hex.decode (Glyph.toText request) with
    | error p => exact runWith_of_bad_request hx
    | ok bytes =>
      dsimp only
      split_ifs with hτ hs
      · exact runWith_of_negative_timeout hlib hx hτ
      · exact runWith_of_loopback hlib hx hτ hs
      · exact runWith_of_wide_source hlib hx hτ hs
  exact ⟨hrun, fun words hp => by simp only [run, hp, hrun]⟩

theorem SerialHost.openPort_loopUrl (valid : Bool) (shown : String) :
    SerialHost.openPort loopUrl valid shown =
      if valid then .opened [] none else .escaped [] none (.badTimeout shown) := by
  cases valid <;> rfl

theorem SerialHost.library_loopback : LoopbackBehaviour SerialHost.library where
  opens t hτ := ⟨[], none, SerialHost.loopback t,
    by simp [SerialHost.library, SerialHost.openGiven, SerialHost.timeoutShown, hτ,
      SerialHost.openPort_loopUrl],
    ⟨rfl, rfl, fun _ hc => by cases hc⟩⟩
  refuses t hτ := ⟨[], none,
    by simp [SerialHost.library, SerialHost.openGiven, SerialHost.timeoutShown, hτ,
      SerialHost.openPort_loopUrl]; rfl⟩

theorem loopback_run_ending_host :
    LoopbackBehaviour SerialHost.library ∧
      (runWith SerialHost.library
          (loopArguments (Glyph.ofString "22f190") 0x0f02 0x0077 .default 2.0 false)).ending =
        loopbackEnding (Glyph.ofString "22f190") 0x0f02 2.0 :=
  ⟨SerialHost.library_loopback,
    (loopback_run_ending SerialHost.library SerialHost.library_loopback _ _ _ _ _ _).1⟩

/-- The command line "-u loop:// -s 0x10000" asks for a run over the loopback port with the
default request, timeout and target address and the tester address 0x10000; over any library
that behaves as documented, that run does not end with an exit code but escapes. -/
theorem wide_source_escapes :
    parse [Glyph.ofString "-u", Glyph.ofString "loop://", Glyph.ofString "-s",
        Glyph.ofString "0x10000"] =
      .run (loopArguments (Glyph.ofString "22f190") 0x10000 0x0077 .default 2.0 false) ∧
    ∀ lib, LoopbackBehaviour lib → ∃ e, (run lib [Glyph.ofString "-u", Glyph.ofString "loop://",
        Glyph.ofString "-s", Glyph.ofString "0x10000"]).ending = .escape e := by
  have hp : parse [Glyph.ofString "-u", Glyph.ofString "loop://", Glyph.ofString "-s",
      Glyph.ofString "0x10000"] =
      .run (loopArguments (Glyph.ofString "22f190") 0x10000 0x0077 .default 2.0 false) := rfl
  have hx : Hex.decode (Glyph.toText (Glyph.ofString "22f190")) = .ok [0x22, 0xF1, 0x90] := rfl
  refine ⟨hp, fun lib hlib => ?_⟩
  simp only [run, hp]
  by_cases hτ : (2.0 : Float) < 0
  · exact ⟨_, runWith_of_negative_timeout hlib hx hτ⟩
  · exact ⟨_, runWith_of_wide_source hlib hx hτ (by decide)⟩

end Cli

end DoipWire
