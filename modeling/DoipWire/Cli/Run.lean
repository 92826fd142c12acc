import DoipWire.Cli.Serial

/-!
# Running the tester from the command line

A run reads the command line, checks the request is hexadecimal, opens the port through the serial
library it is given, asks for routing, sends the request and prints the response. Log records at
the chosen level and above go to the error stream as `LEVEL:logger:text`; the records of a port's
own log go there when they reach that log's threshold. The exit code is 2 for a request that is
not hexadecimal or a command line that cannot be read, 1 for a port the library refused or a
failed exchange, 0 for a response. An exception of the library, and a tester address that does
not fit, escape the run; so does a setting the exchange needs that the command line left as an
empty list, once the port is open.
-/

namespace DoipWire.Cli

/-- A failure that escapes a run. -/
inductive Escape where
  /-- A value the codec refuses, such as a tester address that does not fit. -/
  | codec (e : Error)
  /-- An exception of the serial library, opening the port. -/
  | port (e : PortFailure)
  /-- An activation type given as an empty list, looked up as a name. -/
  | listAsName
  /-- An address given as an empty list, compared with a number. -/
  | listAsNumber

/-- The words of an escaping failure. -/
def Escape.message : Escape → List Glyph
  | codec e => Glyph.ofString e.message
  | port e => e.words
  | listAsName => Glyph.ofString ("unhashable type: " ++ Quoted.quote "list")
  | listAsNumber =>
    Glyph.ofString ("'<=' not supported between instances of " ++ Quoted.quote "int" ++ " and " ++
      Quoted.quote "list")

/-- How a run ends: with an exit code, or with a failure that escapes it. -/
inductive Ending where
  | exit (code : Nat)
  | escape (e : Escape)

/-- A finished run: how it ended and what it printed on each stream. -/
structure Outcome where
  ending : Ending
  stdout : String
  stderr : List Glyph

/-- The name a program logs under. -/
def program : String := "doip-client"

/-- The lines of the records that reach their logger's threshold: the port's own for records of
the port logs `portLogs`, `threshold` for all others. -/
def logLines (portLogs : List String) (threshold : LogLevel) (portLevel : Option LogLevel)
    (records : List LogRecord) : List Glyph :=
  let shown := fun (r : LogRecord) =>
    if portLogs.contains r.logger then (portLevel.map r.level.reaches).getD false
    else r.level.reaches threshold
  ((records.filter shown).map LogRecord.line).flatten

/-- How the exchange of a run ends: with the entity's response, with a failure the run reports,
or with a failure that escapes it; each with the exchange reached. -/
inductive Finish where
  | response (d : Diagnostic) (x : Exchange)
  | failed (e : TesterError) (x : Exchange)
  | escaped (e : Escape) (x : Exchange)

/-- The exchange of a run, after the port is open: routing is asked for, then the request is
sent. Each setting is needed as the exchange reaches it. -/
def exchange (a : Arguments) (request : List UInt8) (x : Exchange) : Finish :=
  match a.activationType, a.sourceAddress with
  | .empty, _ => .escaped .listAsName x
  | _, .empty => .escaped .listAsNumber x
  | .value t, .value source =>
    match Tester.activateRouting source (.member t) x with
    | .error e x => .failed e x
    | .ok _ x =>
      match a.targetAddress with
      | .empty => .escaped .listAsNumber x
      | .value target =>
        match Tester.sendDiagnostic source target request x with
        | .ok d x => .response d x
        | .error e x => .failed e x

/-- How the port a command line gave is written in the run's records. -/
def shownPort : Given (List Glyph) → List Glyph
  | .value url => url
  | .empty => Glyph.ofString "[]"

/-- Runs the tester with the settings a command line gave, logging at the level it chose, over a
port opened by `lib`. -/
def runWith (lib : SerialLibrary) (a : Arguments) : Outcome :=
  let threshold := if a.verbose then LogLevel.debug else LogLevel.info
  let say := fun (records : List LogRecord) => logLines lib.logs threshold none records
  let failLine := fun (text : List Glyph) => LogRecord.mk .error Tester.testerLog text
  match Hex.decode (Glyph.toText a.request) with
  | .error p =>
    let words := s!"Invalid UDS request {Quoted.quoteGlyphs a.request}: {Hex.errorText p}"
    ⟨.exit 2, "", say [failLine (Glyph.ofString words)]⟩
  | .ok request =>
    let url := shownPort a.url
    match lib.openPort a.url a.timeout with
    | .escaped records level e => ⟨.escape (.port e), "", logLines lib.logs threshold level records⟩
    | .failed records level reason =>
      let line := failLine (Glyph.ofString "Cannot open " ++ url ++ Glyph.ofString ": " ++ reason)
      ⟨.exit 1, "", logLines lib.logs threshold level (records ++ [line])⟩
    | .opened records level port =>
      let say := logLines lib.logs threshold level
      let opened : LogRecord := ⟨.debug, Tester.testerLog, Glyph.ofString "Opened " ++ url⟩
      match exchange a request ⟨port, records ++ [opened]⟩ with
      | .response response x =>
        ⟨.exit 0, s!"response: {Hex.encode response.userData.bytes}\n", say x.log⟩
      | .escaped e x => ⟨.escape e, "", say x.log⟩
      | .failed e x =>
        let reported := fun (what : String) =>
          ⟨.exit 1, "", say (x.log ++ [failLine (Glyph.ofString s!"{what}: {e.message}")])⟩
        match e with
        | .codec err =>
          if err.isProtocol then reported "DoIP error"
          else ⟨.escape (.codec err), "", say x.log⟩
        | .writeTimeout => reported "Connection error"
        | _ => reported "DoIP error"

/-- Runs the tester with a command line, over a port opened by `lib`. -/
def run (lib : SerialLibrary) (words : List (List Glyph)) : Outcome :=
  match parse words with
  | .help => ⟨.exit 0, helpText, []⟩
  | .error msg =>
    ⟨.exit 2, "", Glyph.ofString (usage ++ s!"{program}: error: ") ++ msg ++ [.char '\n']⟩
  | .run a => runWith lib a

end DoipWire.Cli
