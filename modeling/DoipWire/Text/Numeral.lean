import DoipWire.Text.Blank
import DoipWire.Text.DecimalDigit

/-!
# Integer numerals

A numeral is an optional sign and digits, with blanks around it. Digits may come from any
script's decimal digits, and a single underscore may stand between two digits. With an automatic
base a marker `0x`, `0o` or `0b` of either case selects base 16, 8 or 2 and may be followed by
one underscore, and a decimal numeral has no leading zero unless it is zero itself; with a
decimal base, leading zeros are allowed and no marker is. A decimal numeral has at most 4300
digits, and this is checked before the rest of its spelling.
-/

namespace DoipWire.Numeral

/-- How the base of a numeral is found. -/
inductive Radix where
  /-- By its marker, decimal without one. -/
  | auto
  /-- Always ten. -/
  | decimal
  deriving DecidableEq, Repr

/-- Characters below 127 stay as they are; above them blanks become spaces, decimal digits of
any script become ASCII digits, and every other character becomes one that no numeral holds. -/
def normalize (c : Char) : Char :=
  if c.toNat < 127 then c
  else if Unicode.isBlank c then ' '
  else match Unicode.decimalValue? c with
    | some d => Char.ofNat (48 + d)
    | none => '?'

/-- The value of a digit or letter, ten and up for letters of either case; 99 for anything
else. -/
def digitValue (c : Char) : Nat :=
  if '0' ≤ c ∧ c ≤ '9' then c.toNat - 48
  else if 'a' ≤ c ∧ c ≤ 'z' then c.toNat - 87
  else if 'A' ≤ c ∧ c ≤ 'Z' then c.toNat - 55
  else 99

/-- Continues a run of digits of base `b` after the value `acc`; an underscore must stand
between two digits. -/
def readRun (b : Nat) (acc : Nat) : List Char → Option Nat
  | [] => some acc
  | '_' :: c :: rest =>
    if digitValue c < b then readRun b (acc * b + digitValue c) rest else none
  | c :: rest => if digitValue c < b then readRun b (acc * b + digitValue c) rest else none

/-- A run of digits of base `b` that starts with a digit. -/
def readDigits (b : Nat) : List Char → Option Nat
  | c :: rest => if digitValue c < b then readRun b (digitValue c) rest else none
  | [] => none

/-- The most digits a decimal numeral may have; longer ones are refused, as a guard against
quadratic conversion. Numerals of a power-of-two base have no limit. -/
def maxDecimalDigits : Nat := 4300

/-- The words refusing a numeral of `count` digits, more than allowed. -/
def limitWords (count : Nat) : String :=
  s!"Exceeds the limit ({maxDecimalDigits} digits) for integer string conversion: value has " ++
    s!"{count} digits; use sys.set_int_max_str_digits() to increase the limit"

/-- Why a text is not a numeral. -/
inductive Refusal where
  /-- It is not spelled as one. -/
  | invalid
  /-- Its first run of decimal digits has this many digits, more than allowed. -/
  | tooManyDigits (count : Nat)
  deriving DecidableEq, Repr

/-- Checks the number of digits of a decimal numeral before anything else about it: the run of
digits and underscores it starts with, unless an underscore starts or ends that run or follows
another, must not hold too many digits. -/
def checkLength (cs : List Char) : Except Refusal Unit :=
  let run := cs.takeWhile fun c => digitValue c < 10 || c = '_'
  let digits := (run.filter (· ≠ '_')).length
  if run.head? = some '_' || run.getLast? = some '_' || (run.zip (run.drop 1)).any (· = ('_', '_'))
  then .error .invalid
  else if maxDecimalDigits < digits then .error (.tooManyDigits digits)
  else .ok ()

/-- A decimal run of digits, refused when it has more than the allowed number of digits. -/
def readDecimal (cs : List Char) : Except Refusal Nat := do
  checkLength cs
  match readDigits 10 cs with
  | some n => pure n
  | none => throw .invalid

/-- The base a marker selects. -/
def markerBase (c : Char) : Option Nat :=
  if c = 'x' ∨ c = 'X' then some 16
  else if c = 'o' ∨ c = 'O' then some 8
  else if c = 'b' ∨ c = 'B' then some 2
  else none

/-- Drops the one underscore that may follow a marker. -/
def dropMarkerUnderscore : List Char → List Char
  | '_' :: rest => rest
  | cs => cs

/-- The magnitude of an unsigned numeral. -/
def readMagnitude (radix : Radix) (cs : List Char) : Except Refusal Nat :=
  match radix, cs with
  | .decimal, cs => readDecimal cs
  | .auto, '0' :: m :: rest =>
    match markerBase m with
    | some b => match readDigits b (dropMarkerUnderscore rest) with
      | some n => .ok n
      | none => .error .invalid
    | none =>
      -- a decimal numeral that starts with zero must be zero
      match readDecimal ('0' :: m :: rest) with
      | .ok 0 => .ok 0
      | .ok _ => .error .invalid
      | .error e => .error e
  | .auto, cs => readDecimal cs

/-- The ASCII spaces that may surround a numeral: space, tab, line feed, vertical tab, form
feed and carriage return. The information separators are blank as text but not here. -/
def isSpace (c : Char) : Bool :=
  c = ' ' || ('\t' ≤ c && c ≤ '\r')

/-- Removes spaces at both ends. -/
def trim (cs : List Char) : List Char :=
  ((cs.dropWhile isSpace).reverse.dropWhile isSpace).reverse

/-- The value of a numeral, or why the text is not one. -/
def parse (radix : Radix) (s : String) : Except Refusal Int :=
  match trim (s.toList.map normalize) with
  | '-' :: rest => (readMagnitude radix rest).map (fun n => -(n : Int))
  | '+' :: rest => (readMagnitude radix rest).map (fun n => (n : Int))
  | cs => (readMagnitude radix cs).map (fun n => (n : Int))

/-- The value of a numeral, or nothing if the text is not one. -/
def read (radix : Radix) (s : String) : Option Int :=
  (parse radix s).toOption

end DoipWire.Numeral
