import DoipWire.SerialHost.Device
import DoipWire.Log
import DoipWire.SerialHost.Regex.Check
import DoipWire.Text.Decimal
import DoipWire.SerialHost.Lowercase
import DoipWire.Text.Numeral
import DoipWire.SerialHost.Query
import DoipWire.SerialHost.Url.Split

/-!
# Opening ports by name on the host

The port handlers of the host's serial library. A port is named by a device path or by a URL.
Text with `://` in it is a URL, and what stands before the first `://` of its lowercase must name
a port handler. The handlers differ in what they read from the URL and in when the timeout is
checked:

* `loop`: the timeout, then the URL, whose query may set the level of the port's own log
  (`logging`); any other option is refused. The port opens, noting each step at level info.
* `alt`: the URL first, whose query may name the class of the port (`class`); then the timeout,
  and the authority and path are opened as a device path.
* `spy`: the timeout, then the URL, whose query may hold `file`, `color`, `raw` and `all`, read
  in order; `file` opens its first value for writing. The authority and path are then opened as
  a device path.
* `hwgrep`: the timeout, then a URL starting with `hwgrep://` in that case is a pattern and
  options split by `&` (`n` and `skip_busy`); the options are read, then the pattern is checked,
  and the host lists no serial ports to match it. In any other case the whole text is opened as
  a device path.
* `socket` and `rfc2217`: the timeout, then the URL, its options and its port; every failure is
  reported as the port not opening, and the host reaches no network.
-/

namespace DoipWire.SerialHost

/-- The URL schemes that name a port handler. -/
def handlers : List String := ["alt", "hwgrep", "loop", "rfc2217", "socket", "spy"]

/-- The elements before the first occurrence of `pat`, if it occurs. -/
def beforeFirst? {α : Type} [BEq α] (pat : List α) : List α → Option (List α)
  | [] => if pat.isEmpty then some [] else none
  | c :: rest =>
    if pat.isPrefixOf (c :: rest) then some []
    else (beforeFirst? pat rest).map (c :: ·)

/-- How a port is addressed. -/
inductive Address where
  /-- A device path. -/
  | device (path : List Glyph)
  /-- A URL, with the lowercase of the text before its first `://`. -/
  | url (scheme : List Glyph)

/-- The address a text names. -/
def Address.of (s : List Glyph) : Address :=
  match beforeFirst? (Glyph.ofString "://") (Unicode.lowercaseGlyphs s) with
  | some scheme => .url scheme
  | none => .device s

/-- A failure of opening a port that escapes the run. -/
inductive PortError where
  /-- The scheme names no port handler. -/
  | unknownScheme (scheme : List Glyph)
  /-- A timeout below zero or given as an empty list, as written. -/
  | badTimeout (shown : String)
  /-- The port was given as an empty list, which is no text. -/
  | portNotText
  /-- The URL cannot be split. -/
  | url (e : UrlError)
  /-- A lookup by a name that is not there: an unknown log level, or, by a slip in the wording
  of a refusal, the level names themselves. -/
  | missingKey (key : List Glyph)
  /-- The class an alternative port names does not exist. -/
  | unknownClass (name : List Glyph)
  /-- The class an alternative port names is no port class. -/
  | notPortClass (name : List Glyph)
  /-- The name an alternative port gives holds no class at all. -/
  | notAClass
  /-- An option of a port pattern that is not known. -/
  | unknownOption (name : List Glyph)
  /-- The count of a port pattern is no integer. -/
  | notANumber (value : List Glyph)
  /-- The count of a port pattern has more digits than a numeral may have. -/
  | tooManyDigits (count : Nat)
  /-- The count of a port pattern is below two. -/
  | countTooSmall (value : List Glyph)
  /-- The count of a port pattern has no value. -/
  | countMissing
  /-- A device path that names no file. -/
  | badName (e : NameError)
  /-- The file a spying port writes to cannot be opened. -/
  | file (e : SystemError) (path : List Glyph)
  /-- The pattern of a port pattern is refused. -/
  | pattern (e : Regex.RegexError)

/-- The most characters of a quoted value that a refused count shows. -/
def shownLength : Nat := 200

/-- The words of a failure. -/
def PortError.message : PortError → List Glyph
  | .unknownScheme s => Glyph.ofString s!"invalid URL, protocol {Quoted.quoteGlyphs s} not known"
  | .badTimeout shown => Glyph.ofString s!"Not a valid timeout: {shown}"
  | .portNotText =>
    Glyph.ofString ("\"port\" must be None or a string, not <class " ++ Quoted.quote "list" ++ ">")
  | .url e => e.message
  | .missingKey k => Glyph.ofString (Quoted.quoteGlyphs k)
  | .unknownClass n => Glyph.ofString s!"unknown class: {Quoted.quoteGlyphs n}"
  | .notPortClass n => Glyph.ofString s!"class {Quoted.quoteGlyphs n} is not an instance of Serial"
  | .notAClass => Glyph.ofString "issubclass() arg 1 must be a class"
  | .unknownOption n => Glyph.ofString s!"unknown option: {Quoted.quoteGlyphs n}"
  | .notANumber v =>
    let shown := String.ofList ((Quoted.quoteGlyphs v).toList.take shownLength)
    Glyph.ofString s!"invalid literal for int() with base 10: {shown}"
  | .tooManyDigits count => Glyph.ofString (Numeral.limitWords count)
  | .countTooSmall v =>
    Glyph.ofString ("option \"n\" expects a positive integer larger than 1: " ++ Quoted.quoteGlyphs v)
  | .countMissing =>
    Glyph.ofString ("int() argument must be a string, a bytes-like object or a real number, not " ++
      Quoted.quote "NoneType")
  | .badName e => Glyph.ofString e.message
  | .file e path => Glyph.ofString (e.about path)
  | .pattern e => e.message

/-- How opening a port ends, with the records its own log wrote and that log's threshold. -/
inductive Attempt where
  /-- Open. -/
  | opened (records : List LogRecord) (portLevel : Option LogLevel)
  /-- Refused for a reason that the run reports. -/
  | failed (records : List LogRecord) (portLevel : Option LogLevel) (reason : List Glyph)
  /-- Refused by a failure that escapes the run. -/
  | escaped (records : List LogRecord) (portLevel : Option LogLevel) (e : PortError)

/-- The names the port handlers log under. -/
def portLogs : List String := ["pySerial.loop", "pySerial.socket", "pySerial.rfc2217"]

/-- The name every refused option of a loopback or socket port is looked up by. -/
def levelsForm : String := "debug|info|warning|error"

/-- The options of a URL's query: each name with its values. -/
abbrev Options := List (List Glyph × List (List Glyph))

/-- What reading the options of a port gives: the records written, the threshold of the port's
own log (none for a port without one), and the failure that stopped the reading, if any. -/
structure OptionReading where
  records : List LogRecord
  level : Option LogLevel
  refusal : Option (Sum (List Glyph) PortError)

/-- Reads the options of a port in order with `other` judging the options besides `logging`,
which sets the level of the log `logger`; what was read stays when a later option is
refused. -/
def readOptions (logger : String)
    (other : List Glyph → List (List Glyph) → Option (Sum (List Glyph) PortError)) :
    Options → Option LogLevel → OptionReading
  | [], level => ⟨[], level, none⟩
  | (name, values) :: rest, level =>
    if name == Glyph.ofString "logging" then
      let wanted := values.headD []
      match LogLevel.ofName? (Glyph.toText wanted) with
      | none => ⟨[], level, some (.inr (.missingKey wanted))⟩
      | some l =>
        let after := readOptions logger other rest (some l)
        { after with records := LogRecord.say .debug logger "enabled logging" :: after.records }
    else match other name values with
      | some r => ⟨[], level, some r⟩
      | none => readOptions logger other rest level

/-- The steps of opening a loopback port, each noted at level info on a port with a log. -/
def openingSteps : List String :=
  ["_reconfigure_port()", "_update_dtr_state(True) -> state of DSR",
   "_update_rts_state(True) -> state of CTS", "reset_input_buffer()", "reset_output_buffer()"]

/-- Opens a port by a device path. -/
def openPath (path : List Glyph) : Attempt :=
  match openDevice path with
  | .name e => .escaped [] none (.badName e)
  | e => .failed [] none e.message

/-- Opens a loopback port by its URL. -/
def openLoopback (url : List Glyph) : Attempt :=
  match Url.split url with
  | .error e => .escaped [] none (.url e)
  | .ok u =>
    let refuse := fun (_ : List Glyph) (_ : List (List Glyph)) =>
      some (Sum.inr (PortError.missingKey (Glyph.ofString levelsForm)))
    let read := readOptions "pySerial.loop" refuse (Query.options u.query) none
    match read.refusal with
    | some (.inr e) => .escaped read.records read.level e
    | some (.inl reason) => .failed read.records read.level reason
    | none =>
      let steps := if read.level.isSome then openingSteps.map (LogRecord.say .info "pySerial.loop") else []
      .opened (read.records ++ steps) read.level

/-- The port classes an alternative port may name. -/
def portClasses : List String := ["Serial", "PosixPollSerial", "VTIMESerial"]

/-- The other classes among the names of the serial package. -/
def otherClasses : List String :=
  ["SerialBase", "SerialException", "SerialTimeoutException", "PortNotOpenError", "Timeout",
   "unicode", "__class__"]

/-- The names of the serial package that hold no class: its own names, and those every module
has by its type. -/
def otherNames : List String :=
  ["absolute_import", "basestring", "io", "time", "sys", "os", "importlib", "iterbytes",
   "to_bytes", "XON", "XOFF", "CR", "LF", "PARITY_NONE", "PARITY_EVEN", "PARITY_ODD",
   "PARITY_MARK", "PARITY_SPACE", "PARITY_NAMES", "STOPBITS_ONE", "STOPBITS_ONE_POINT_FIVE",
   "STOPBITS_TWO", "FIVEBITS", "SIXBITS", "SEVENBITS", "EIGHTBITS", "protocol_handler_packages",
   "serial_for_url", "VERSION", "serialutil", "serialposix", "urlhandler", "__version__",
   "__name__", "__doc__", "__file__", "__package__", "__path__", "__loader__", "__spec__",
   "__builtins__", "__cached__", "__dict__", "__annotations__", "__delattr__", "__dir__",
   "__eq__", "__format__", "__ge__", "__getattribute__", "__getstate__", "__gt__", "__hash__",
   "__init__", "__init_subclass__", "__le__", "__lt__", "__ne__", "__new__", "__reduce__",
   "__reduce_ex__", "__repr__", "__setattr__", "__sizeof__", "__str__", "__subclasshook__"]

/-- Whether a text is one of the names. -/
def isOneOf (names : List String) (gs : List Glyph) : Bool :=
  names.any (Glyph.ofString · == gs)

/-- The form an alternative port's URL is expected in. -/
def alternativeForm : String := "\"alt://port[?option[=value][&option[=value]]]\""

/-- The form a spying port's URL is expected in. -/
def spyForm : String := "\"spy://port[?option[=value][&option[=value]]]\""

/-- The form a remote port's URL is expected in. -/
def remoteForm : String := "\"rfc2217://<host>:<port>[?option[&option...]]\""

/-- A refusal by a handler that names the form of its URLs. -/
def refuseIn (form : String) (words : String) : List Glyph :=
  Glyph.ofString s!"expected a string in the form {form}: {words}"

/-- Opens an alternative port: the URL and its class are checked before the timeout. -/
def openAlternative (url : List Glyph) (timeoutValid : Bool) (shown : String) : Attempt :=
  match Url.split url with
  | .error e => .escaped [] none (.url e)
  | .ok u =>
    let options := Query.options u.query
    let isClass := fun (name : List Glyph) => name == Glyph.ofString "class"
    match options.find? (!isClass ·.1) with
    | some (name, _) =>
      let inner := Quoted.quote s!"unknown option: {Quoted.quoteGlyphs name}"
      .failed [] none (refuseIn alternativeForm s!"ValueError({inner})")
    | none =>
      let cls := ((options.find? (isClass ·.1)).bind (·.2.head?)).getD (Glyph.ofString "Serial")
      if isOneOf otherClasses cls then .escaped [] none (.notPortClass cls)
      else if isOneOf otherNames cls then .escaped [] none .notAClass
      else if !isOneOf portClasses cls then .escaped [] none (.unknownClass cls)
      else if !timeoutValid then .escaped [] none (.badTimeout shown)
      else openPath (u.authority ++ u.path)

/-- Reads the options of a spying port in order: the first refusal, if any. -/
def spyOptions : Options → Option Attempt
  | [] => none
  | (name, values) :: rest =>
    if name == Glyph.ofString "file" then
      let path := values.headD []
      match createFile path with
      | .error (.name e) => some (.failed [] none (refuseIn spyForm e.message))
      | .error (.system e p) => some (.escaped [] none (.file e p))
      | .ok () => spyOptions rest
    else if isOneOf ["color", "raw", "all"] name then spyOptions rest
    else some (.failed [] none (refuseIn spyForm s!"unknown option: {Quoted.quoteGlyphs name}"))

/-- Opens a spying port by its URL, after the timeout was checked. -/
def openSpy (url : List Glyph) : Attempt :=
  match Url.split url with
  | .error e => .escaped [] none (.url e)
  | .ok u =>
    match spyOptions (Query.options u.query) with
    | some refused => refused
    | none => openPath (u.authority ++ u.path)

/-- Reads the options of a port pattern: the first refusal, if any. -/
def patternOptions : List (List Glyph) → Option PortError
  | [] => none
  | arg :: rest =>
    let (option, value) := Glyph.splitFirst '=' arg
    if option == Glyph.ofString "n" then
      match value with
      | none => some .countMissing
      | some v => match Numeral.parse .decimal (Glyph.toText v) with
        | .error .invalid => some (.notANumber v)
        | .error (.tooManyDigits count) => some (.tooManyDigits count)
        | .ok n => if n - 1 < 1 then some (.countTooSmall v) else patternOptions rest
    else if option == Glyph.ofString "skip_busy" then patternOptions rest
    else some (.unknownOption option)

/-- Opens a port by a pattern over the serial ports of the host, after the timeout was
checked. The text after `hwgrep://` is the pattern and the options, split by `&`; once the
options are read, the pattern is compiled, ignoring case, to be matched against the ports. -/
def openPattern (url : List Glyph) : Attempt :=
  if Glyph.startsWith url "hwgrep://" then
    let rest := url.drop 9
    let pieces := Glyph.pieces '&' rest
    match patternOptions (pieces.drop 1) with
    | some e => .escaped [] none e
    | none =>
      match Regex.check (pieces.headD []) Regex.ignoreCaseFlag with
      | .error e => .escaped [] none (.pattern e)
      | .ok () =>
        .failed [] none (Glyph.ofString s!"no ports found matching regexp {Quoted.quoteGlyphs rest}")
  else openPath url

/-- The host and port text of an authority. -/
def hostAndPort (authority : List Glyph) : List Glyph × Option (List Glyph) :=
  let info := Glyph.afterLast '@' authority
  match Glyph.splitFirst '[' info with
  | (_, some bracketed) =>
    let (host, after) := Glyph.splitFirst ']' bracketed
    (host, (after.bind fun a => (Glyph.splitFirst ':' a).2).filter (!·.isEmpty))
  | (_, none) =>
    let (host, port) := Glyph.splitFirst ':' info
    (host, port.filter (!·.isEmpty))

/-- Why connecting to a host fails on a host without network: the local host refuses, a
numeric address is unreachable, and a name cannot be resolved. -/
def connectFailure (host : List Glyph) : String :=
  let host := Glyph.toText (Glyph.splitFirst '%' (Unicode.lowercaseGlyphs host)).1
  if host.isEmpty || host = "localhost" || host = "::1" || host = "0.0.0.0" ||
      (Host.isIpv4 host && host.startsWith "127.") then
    "[Errno 111] Connection refused"
  else if (Host.ipVersion? host).isSome then "[Errno 101] Network is unreachable"
  else "[Errno -3] Temporary failure in name resolution"

/-- Opens a port over the network by its URL, after the timeout was checked; `remote` for the
remote serial port protocol, whose refusals are worded in full. -/
def openNetwork (url : List Glyph) (remote : Bool) : Attempt :=
  let wrap := fun (records : List LogRecord) (level : Option LogLevel) (inner : List Glyph) =>
    Attempt.failed records level (Glyph.ofString "Could not open port " ++ url ++ Glyph.ofString ": " ++ inner)
  let refused := fun (words : String) =>
    if remote then refuseIn remoteForm words else Glyph.ofString (Quoted.quote levelsForm)
  match Url.split url with
  | .error e => wrap [] none e.message
  | .ok u =>
    let logger := if remote then "pySerial.rfc2217" else "pySerial.socket"
    let other := fun (name : List Glyph) (values : List (List Glyph)) =>
      if remote && isOneOf ["ign_set_control", "poll_modem"] name then none
      else if remote && name == Glyph.ofString "timeout" then
        let v := values.headD []
        match Decimal.read (Glyph.toText v) with
        | some _ => none
        | none => some (.inl (refused s!"could not convert string to float: {Quoted.quoteGlyphs v}"))
      else some (.inl (refused s!"unknown option: {Quoted.quoteGlyphs name}"))
    let read := readOptions logger other (Query.options u.query) none
    match read.refusal with
    | some (.inl words) => wrap read.records read.level words
    | some (.inr e) => wrap read.records read.level e.message
    | none =>
      let (host, port) := hostAndPort u.authority
      match port with
      | none =>
        wrap read.records read.level
          (Glyph.ofString ("'<=' not supported between instances of " ++ Quoted.quote "int" ++
            " and " ++ Quoted.quote "NoneType"))
      | some p =>
        if !p.all fun g => Host.isDigit g.toChar then
          wrap read.records read.level
            (refused s!"Port could not be cast to integer value as {Quoted.quoteGlyphs p}")
        else if Host.decimalValue (p.map Glyph.toChar) > 65535 then
          wrap read.records read.level (refused "Port out of range 0-65535")
        else wrap read.records read.level (Glyph.ofString (connectFailure host))

/-- Opens the port a text names, with the timeout it is given: whether that is valid, and how
it is written. -/
def openPort (name : List Glyph) (timeoutValid : Bool) (shown : String) : Attempt :=
  match Address.of name with
  | .url scheme =>
    if !isOneOf handlers scheme then .escaped [] none (.unknownScheme scheme)
    else if scheme == Glyph.ofString "alt" then openAlternative name timeoutValid shown
    else if !timeoutValid then .escaped [] none (.badTimeout shown)
    else if scheme == Glyph.ofString "loop" then openLoopback name
    else if scheme == Glyph.ofString "spy" then openSpy name
    else if scheme == Glyph.ofString "hwgrep" then openPattern name
    else openNetwork name (scheme == Glyph.ofString "rfc2217")
  | .device path =>
    if !timeoutValid then .escaped [] none (.badTimeout shown) else openPath path

end DoipWire.SerialHost
