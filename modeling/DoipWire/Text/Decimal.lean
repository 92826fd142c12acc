import DoipWire.Text.Numeral

/-!
# Decimal floating-point text

Reading: blanks around, an optional sign, then `inf`, `infinity` or `nan` in any case, or
digits with an optional point and an optional exponent; a single underscore may stand between
two digits anywhere. The value is the double nearest to the decimal.

Writing a finite double gives the fewest significant digits that read back as the same double,
the nearest such digits to the value. They are written positionally when the decimal point falls
between the fourth place after and the sixteenth place before the digits, with `.0` after a whole
number, and in scientific notation otherwise, with a signed exponent of at least two digits.
-/

namespace DoipWire.Decimal

/-- A decimal number as read. -/
inductive Value where
  /-- `mantissa · 10 ^ exponent`, negated if `negative`. -/
  | finite (negative : Bool) (mantissa : Nat) (exponent : Int)
  | infinity (negative : Bool)
  | nan
  deriving DecidableEq, Repr

/-- Removes the underscores of a text; each must stand between two ASCII digits. -/
def dropUnderscores : List Char → Option (List Char)
  | [] => some []
  | [c] => if c = '_' then none else some [c]
  | a :: '_' :: b :: rest =>
    if a.isDigit ∧ b.isDigit then (dropUnderscores (b :: rest)).map (a :: ·) else none
  | a :: rest => if a = '_' then none else (dropUnderscores rest).map (a :: ·)

/-- The value of a run of ASCII digits. -/
def digitsValue (cs : List Char) : Nat :=
  cs.foldl (fun acc c => acc * 10 + (c.toNat - 48)) 0

/-- Reads an unsigned decimal: digits, an optional point with digits, an optional exponent. -/
def readUnsigned (cs : List Char) : Option (Nat × Int) :=
  let whole := cs.takeWhile Char.isDigit
  let rest := cs.dropWhile Char.isDigit
  let (frac, rest) := match rest with
    | '.' :: r => (r.takeWhile Char.isDigit, r.dropWhile Char.isDigit)
    | r => ([], r)
  if whole.isEmpty ∧ frac.isEmpty then none
  else
    let m := digitsValue (whole ++ frac)
    match rest with
    | [] => some (m, -(frac.length : Int))
    | e :: r =>
      if e = 'e' ∨ e = 'E' then
        let (neg, ds) := match r with
          | '-' :: ds => (true, ds)
          | '+' :: ds => (false, ds)
          | ds => (false, ds)
        if ds.isEmpty ∨ !ds.all Char.isDigit then none
        else
          let x : Int := digitsValue ds
          some (m, (if neg then -x else x) - frac.length)
      else none

/-- Reads a decimal floating-point text. -/
def read (s : String) : Option Value := do
  let cs ← dropUnderscores (s.toList.map Numeral.normalize)
  let cs := Numeral.trim cs
  let (negative, body) := match cs with
    | '-' :: r => (true, r)
    | '+' :: r => (false, r)
    | r => (false, r)
  let word := String.ofList (body.map Char.toLower)
  if word = "inf" ∨ word = "infinity" then pure (.infinity negative)
  else if word = "nan" then pure .nan
  else
    let (m, e) ← readUnsigned body
    pure (.finite negative m e)

/-- The number of decimal digits of a positive number. -/
def digitCount (n : Nat) : Nat := (Nat.toDigits 10 n).length

/-- `num / den` rounded to the nearest natural number, a tie to the even one. -/
def roundDiv (num den : Nat) : Nat :=
  let q := num / den
  let r := num % den
  if 2 * r > den ∨ (2 * r = den ∧ q % 2 = 1) then q + 1 else q

/-- The binary exponent `E` with `2 ^ E ≤ num / den < 2 ^ (E + 1)`, for positive values. -/
def binaryExponent (num den : Nat) : Int :=
  let guess : Int := (num.log2 : Int) - den.log2
  -- the guess is off by at most one
  let below (E : Int) : Bool :=
    if E ≥ 0 then den * Nat.pow 2 E.toNat ≤ num else den ≤ num * Nat.pow 2 E.natAbs
  if below guess then guess else guess - 1

/-- The bit pattern of the positive double nearest to `num / den`, a tie going to the even
significand; infinity when the value is beyond the largest double. The significand has 53 bits,
fewer below the smallest normal exponent. -/
def nearestBits (num den : Nat) : UInt64 :=
  if num = 0 then 0
  else
    let q : Int := max (binaryExponent num den - 52) (-1074)
    let m := if q ≥ 0 then roundDiv num (den * Nat.pow 2 q.toNat)
      else roundDiv (num * Nat.pow 2 q.natAbs) den
    -- rounding may carry into the next binade
    let (m, q) := if m = Nat.pow 2 53 then (Nat.pow 2 52, q + 1) else (m, q)
    if m < Nat.pow 2 52 then UInt64.ofNat m
    else if q + 1075 ≥ 2047 then 0x7FF0000000000000
    else UInt64.ofNat ((q + 1075).toNat * Nat.pow 2 52 + (m - Nat.pow 2 52))

/-- The double nearest to a decimal number. Exponents far outside the range of doubles give
infinity or zero without building their powers of ten. -/
def Value.toFloat : Value → Float
  | .nan => 0.0 / 0.0
  | .infinity neg => if neg then -(1.0 / 0.0) else 1.0 / 0.0
  | .finite neg m e =>
    let magnitude : Float :=
      if m = 0 then 0.0
      else if e + digitCount m > 330 then 1.0 / 0.0
      else if e + digitCount m < -350 then 0.0
      else if e < 0 then Float.ofBits (nearestBits m (Nat.pow 10 e.natAbs))
      else Float.ofBits (nearestBits (m * Nat.pow 10 e.toNat) 1)
    if neg then -magnitude else magnitude

/-- A positive finite double as `m · 2 ^ q`. -/
def binary (x : Float) : Nat × Int :=
  let bits : Nat := x.toBits.toNat
  let frac : Nat := bits % Nat.pow 2 52
  let expBits : Nat := bits / Nat.pow 2 52 % Nat.pow 2 11
  if expBits = 0 then (frac, -1074) else (frac + Nat.pow 2 52, (expBits : Int) - 1075)

/-- The decimal exponent `E` with `10 ^ E ≤ num / den < 10 ^ (E + 1)`, for positive values. -/
def decimalExponent (num den : Nat) : Int :=
  let guess : Int := (digitCount num : Int) - digitCount den
  -- the guess is off by at most one
  let below (E : Int) : Bool :=
    if E ≥ 0 then den * Nat.pow 10 E.toNat ≤ num else den ≤ num * Nat.pow 10 E.natAbs
  if below guess then guess else guess - 1

/-- The `n` significant digits nearest to `num / den`, with the decimal exponent of the first,
and the other `n`-digit neighbour of `num / den` (the same digits when they are exact). -/
def roundTo (num den n : Nat) : (Nat × Int) × (Nat × Int) :=
  let E := decimalExponent num den
  let scale : Int := (n : Int) - 1 - E
  let (num', den') := if scale ≥ 0 then (num * Nat.pow 10 scale.toNat, den)
    else (num, den * Nat.pow 10 scale.natAbs)
  let d := roundDiv num' den'
  let floor := num' / den'
  let other := if num' % den' = 0 then d else if d = floor then floor + 1 else floor
  let fit (d : Nat) : Nat × Int := if d = Nat.pow 10 n then (Nat.pow 10 (n - 1), E + 1) else (d, E)
  (fit d, fit other)

/-- The fewest digits that read back as a positive finite double, and the decimal exponent of
the first digit. Of two neighbours with equally few digits that both read back, the nearer one
is taken. -/
def shortest (x : Float) : Nat × Int :=
  let (m, q) := binary x
  let num := if q ≥ 0 then m * Nat.pow 2 q.toNat else m
  let den := if q ≥ 0 then 1 else Nat.pow 2 q.natAbs
  let readsBack (c : Nat × Int) : Bool :=
    let n := digitCount c.1
    (Value.finite false c.1 (c.2 - (n - 1 : Nat))).toFloat.toBits == x.toBits
  let pick (n : Nat) : Option (Nat × Int) :=
    let (near, other) := roundTo num den n
    if readsBack near then some near else if readsBack other then some other else none
  ((List.range 17).findSome? fun i => pick (i + 1)).getD (roundTo num den 17).1

/-- The text of a double. -/
def render (x : Float) : String :=
  if x.isNaN then "nan"
  else if x.isInf then (if x < 0 then "-inf" else "inf")
  else
    let sign := if x < 0 ∨ (x == 0 ∧ (1.0 / x) < 0) then "-" else ""
    let a := x.abs
    if a == 0 then sign ++ "0.0"
    else
      let (d, E) := shortest a
      let digits := Nat.toDigits 10 d
      let digits := (digits.reverse.dropWhile (· = '0')).reverse
      let n := digits.length
      let point := E + 1
      let body :=
        if point ≤ -4 ∨ point > 16 then
          let mant := match digits with
            | [c] => [c]
            | c :: rest => c :: '.' :: rest
            | [] => ['0']
          let e := point - 1
          let eDigits := Nat.toDigits 10 e.natAbs
          let eDigits := if eDigits.length < 2 then '0' :: eDigits else eDigits
          String.ofList mant ++ "e" ++ (if e < 0 then "-" else "+") ++ String.ofList eDigits
        else if point ≤ 0 then
          "0." ++ String.ofList (List.replicate point.natAbs '0' ++ digits)
        else if n ≤ point.toNat then
          String.ofList (digits ++ List.replicate (point.toNat - n) '0') ++ ".0"
        else
          String.ofList (digits.take point.toNat ++ '.' :: digits.drop point.toNat)
      sign ++ body

end DoipWire.Decimal
