import DoipWire.Text.Glyph

/-!
# Log records

A log record has a level, the name of the part of the program that wrote it, and a text. A
logger shows a record when the record's level reaches the logger's threshold; levels are ranked
debug, info, warning, error.
-/

namespace DoipWire

/-- The importance of a log record. -/
inductive LogLevel where
  | debug
  | info
  | warning
  | error
  deriving DecidableEq, Repr

/-- The text of a log level. -/
def LogLevel.text : LogLevel → String
  | .debug => "DEBUG"
  | .info => "INFO"
  | .warning => "WARNING"
  | .error => "ERROR"

/-- The rank of a log level: a record shows when its rank reaches the threshold's. -/
def LogLevel.rank : LogLevel → Nat
  | .debug => 10
  | .info => 20
  | .warning => 30
  | .error => 40

/-- The lowercase name of a log level. -/
def LogLevel.name : LogLevel → String
  | .debug => "debug"
  | .info => "info"
  | .warning => "warning"
  | .error => "error"

/-- The level a lowercase name stands for. -/
def LogLevel.ofName? : String → Option LogLevel
  | "debug" => some .debug
  | "info" => some .info
  | "warning" => some .warning
  | "error" => some .error
  | _ => none

/-- Whether a record of level `l` shows under the threshold `t`. -/
def LogLevel.reaches (l t : LogLevel) : Bool := t.rank ≤ l.rank

/-- One log record: its level, the part of the program that wrote it, and its text, which may
hold lone surrogates taken from outside. -/
structure LogRecord where
  level : LogLevel
  logger : String
  text : List Glyph
  deriving DecidableEq, Repr

/-- A record of a character string. -/
def LogRecord.say (level : LogLevel) (logger text : String) : LogRecord :=
  ⟨level, logger, Glyph.ofString text⟩

/-- The line a record is printed as. -/
def LogRecord.line (r : LogRecord) : List Glyph :=
  Glyph.ofString s!"{r.level.text}:{r.logger}:" ++ r.text ++ [.char '\n']

theorem LogLevel.ofName_name (l : LogLevel) : LogLevel.ofName? l.name = some l := by
  cases l <;> rfl

end DoipWire
