import DoipWire.Message.Codes
import DoipWire.Text.Decimal
import DoipWire.Text.Quoted

/-!
# The tester's command line

The command line takes one optional request, a URL, the tester and target addresses, the
activation type, a timeout and a verbosity flag. Options are read left to right: a long option
may be shortened to any prefix that names it alone and may take its value after `=`; a short
option may carry its value attached, and short flags may be run together. A word that starts
with a dash is an option unless it is a negative number or holds a space, and everything after
`--` is a plain word. Values are converted as their option is reached, so the first bad value
is the one reported; a help request ends reading at once. The first `--` among an option's
values is dropped before it is converted: a value `--` attached to its option leaves the option
with an empty list, which is neither converted nor checked. Words may hold lone surrogates.
-/

namespace DoipWire.Cli

/-- The options. -/
inductive Opt where
  | help
  | url
  | sourceAddress
  | targetAddress
  | activationType
  | timeout
  | verbose
  deriving DecidableEq, Repr

/-- Every option word, in the order the options are declared, with its option. -/
def optionWords : List (String × Opt) :=
  [("-h", .help), ("--help", .help), ("-u", .url), ("--url", .url), ("-s", .sourceAddress),
   ("--source-address", .sourceAddress), ("-t", .targetAddress),
   ("--target-address", .targetAddress), ("-a", .activationType),
   ("--activation-type", .activationType), ("--timeout", .timeout), ("-v", .verbose),
   ("--verbose", .verbose)]

namespace Opt

/-- Whether an option takes a value. -/
def takesValue : Opt → Bool
  | help | verbose => false
  | _ => true

/-- How an option is named in messages. -/
def title : Opt → String
  | help => "-h/--help"
  | url => "-u/--url"
  | sourceAddress => "-s/--source-address"
  | targetAddress => "-t/--target-address"
  | activationType => "-a/--activation-type"
  | timeout => "--timeout"
  | verbose => "-v/--verbose"

end Opt

/-- The first line of every message about the command line. -/
def usage : String :=
  "usage: doip-client [-h] [-u URL] [-s SOURCE_ADDRESS] [-t TARGET_ADDRESS]\n" ++
  "                   [-a \x7bDEFAULT,WWH_OBD,CENTRAL_SECURITY\x7d] [--timeout TIMEOUT]\n" ++
  "                   [-v]\n" ++
  "                   [request]\n"

/-- The full help. -/
def helpText : String :=
  "usage: doip-client [-h] [-u URL] [-s SOURCE_ADDRESS] [-t TARGET_ADDRESS]\n" ++
  "                   [-a \x7bDEFAULT,WWH_OBD,CENTRAL_SECURITY\x7d] [--timeout TIMEOUT]\n" ++
  "                   [-v]\n" ++
  "                   [request]\n" ++
  "\n" ++
  "Send one UDS request to a DoIP entity\n" ++
  "\n" ++
  "positional arguments:\n" ++
  "  request               UDS request as hex (default: 22f190)\n" ++
  "\n" ++
  "options:\n" ++
  "  -h, --help            show this help message and exit\n" ++
  "  -u URL, --url URL     pyserial URL (default: socket://127.0.0.1:13400)\n" ++
  "  -s SOURCE_ADDRESS, --source-address SOURCE_ADDRESS\n" ++
  "                        Tester logical address (default: 0x0f02)\n" ++
  "  -t TARGET_ADDRESS, --target-address TARGET_ADDRESS\n" ++
  "                        Target logical address (default: 0x0077)\n" ++
  "  -a \x7bDEFAULT,WWH_OBD,CENTRAL_SECURITY\x7d, --activation-type \x7bDEFAULT,WWH_OBD,CENTRAL_SECURITY\x7d\n" ++
  "                        Routing activation type (default: DEFAULT)\n" ++
  "  --timeout TIMEOUT     Read/write timeout in seconds (default: 2.0)\n" ++
  "  -v, --verbose         Debug logging\n" ++
  "\n" ++
  "Examples:\n" ++
  "  doip-client                                   ReadDID 0xF190 on 127.0.0.1:13400\n" ++
  "  doip-client -u socket://192.168.0.10:13400 -t 0x1001 1003\n" ++
  ""

/-- A value given on the command line: converted, or the empty list an option holds when its
only value was the `--` that ends options. -/
inductive Given (α : Type) where
  | value (a : α)
  | empty

/-- The settings of one run. -/
structure Arguments where
  request : List Glyph
  url : Given (List Glyph)
  sourceAddress : Given Int
  targetAddress : Given Int
  activationType : Given ActivationType
  timeout : Given Float
  verbose : Bool

/-- The request when none is given. -/
def defaultRequest : String := "22f190"

/-- The settings when nothing is given. -/
def Arguments.defaults : Arguments :=
  ⟨Glyph.ofString defaultRequest, .value (Glyph.ofString "socket://127.0.0.1:13400"), .value 0x0F02,
    .value 0x0077, .value .default, .value 2.0, false⟩

/-- How reading a command line ends. -/
inductive Parsed where
  | run (a : Arguments)
  | help
  | error (message : List Glyph)

/-- A word matched to an option: the option (none for an unknown one), the word that names it,
and a value carried in the same word, after `=` or attached. -/
structure Match where
  opt : Option Opt
  word : List Glyph
  explicit : Option (List Glyph)

/-- The option a word names exactly. -/
def lookup (w : List Glyph) : Option Opt :=
  (optionWords.find? (Glyph.ofString ·.1 == w)).map (·.2)

/-- The options a word could stand for: long words by prefix, short words also by their first
two characters with the rest attached. -/
def candidates (w : List Glyph) : List Match :=
  if (w.drop 1).head? == some (.char '-') then
    let (pre, v) := Glyph.splitFirst '=' w
    (optionWords.filter (pre.isPrefixOf <| Glyph.ofString ·.1)).map fun (s, o) =>
      ⟨some o, Glyph.ofString s, v⟩
  else
    optionWords.filterMap fun (s, o) =>
      if Glyph.ofString s == w.take 2 then some ⟨some o, Glyph.ofString s, some (w.drop 2)⟩
      else if w.isPrefixOf (Glyph.ofString s) then some ⟨some o, Glyph.ofString s, none⟩
      else none

/-- Whether a word reads as a negative number: a dash, then digits, or digits around a point
with at least one after it; digits of any script count, and one line feed may end the word. -/
def isNegativeNumber (w : List Glyph) : Bool :=
  let isD := fun c => (Unicode.decimalValue? c).isSome
  let cs := w.map Glyph.toChar
  let cs := if cs.getLast? == some '\n' then cs.dropLast else cs
  match cs with
  | '-' :: rest =>
    let before := rest.takeWhile isD
    let after := rest.dropWhile isD
    (!before.isEmpty && after.isEmpty) ||
      (match after with
        | '.' :: frac => !frac.isEmpty && frac.all isD
        | _ => false)
  | _ => false

/-- What a word is: a plain word (none), or an option. -/
def classify (w : List Glyph) : Except (List Glyph) (Option Match) :=
  if w.head? != some (.char '-') then .ok none
  else match lookup w with
  | some o => .ok (some ⟨some o, w, none⟩)
  | none =>
    if w.length == 1 then .ok none
    else
      let (pre, v) := Glyph.splitFirst '=' w
      match v, lookup pre with
      | some e, some o => .ok (some ⟨some o, pre, some e⟩)
      | _, _ =>
        match candidates w with
        | [m] => .ok (some m)
        | [] =>
          if isNegativeNumber w || w.contains (.char ' ') then .ok none
          else .ok (some ⟨none, w, none⟩)
        | ms =>
          .error (Glyph.ofString "ambiguous option: " ++ w ++ Glyph.ofString " could match " ++
            Glyph.joinWith ", " (ms.map (·.word)))

/-- A word of the command line, classified. -/
inductive Token where
  | plain
  /-- The `--` that ends options. -/
  | dashes
  | option (m : Match)

/-- The word that ends options. -/
def dashes : List Glyph := Glyph.ofString "--"

/-- Classifies the words; after `--` every word is plain. -/
def tokenize : List (List Glyph) → Except (List Glyph) (List Token)
  | [] => .ok []
  | w :: rest =>
    if w == dashes then .ok (.dashes :: rest.map fun _ => .plain)
    else do
      let t := match ← classify w with
        | some m => Token.option m
        | none => Token.plain
      let ts ← tokenize rest
      pure (t :: ts)

/-- The state of reading: the settings so far, the words not understood, and whether the request
was taken. -/
structure Reading where
  args : Arguments
  extras : List (List Glyph)
  requestTaken : Bool

/-- How a step of reading ends. -/
inductive Step where
  | next (r : Reading) (index : Nat)
  | help
  | error (message : List Glyph)

/-- Converts the value of an option by `read`, refusing it with `refusal` when it cannot be
read; an empty list stays as it is. -/
def convert {α : Type} (read : List Glyph → Option α) (refusal : List Glyph → String) :
    List (List Glyph) → Except (List Glyph) (Given α)
  | [] => .ok .empty
  | v :: _ => match read v with
    | some a => .ok (.value a)
    | none => .error (Glyph.ofString (refusal v))

/-- Applies an option to its value words, of which the first `--` is dropped. -/
def apply (r : Reading) (o : Opt) (values : List (List Glyph)) :
    Except (List Glyph) (Option Reading) := do
  let a := r.args
  let values := values.erase dashes
  let invalid := fun (what : String) (v : List Glyph) =>
    s!"argument {o.title}: invalid {what} value: {Quoted.quoteGlyphs v}"
  let number := fun (v : List Glyph) => Numeral.read .auto (Glyph.toText v)
  match o with
  | .help => pure none
  | .url => pure (some { r with args := { a with url := ← convert some (fun _ => "") values } })
  | .sourceAddress =>
    pure (some { r with args := { a with sourceAddress := ← convert number (invalid "<lambda>") values } })
  | .targetAddress =>
    pure (some { r with args := { a with targetAddress := ← convert number (invalid "<lambda>") values } })
  | .activationType =>
    let refusal := fun (v : List Glyph) =>
      s!"argument {o.title}: invalid choice: {Quoted.quoteGlyphs v} (choose from 'DEFAULT', 'WWH_OBD', 'CENTRAL_SECURITY')"
    let choice := fun (v : List Glyph) => CodeTable.ofName? (Glyph.toText v)
    pure (some { r with args := { a with activationType := ← convert choice refusal values } })
  | .timeout =>
    let seconds := fun (v : List Glyph) => (Decimal.read (Glyph.toText v)).map Decimal.Value.toFloat
    pure (some { r with args := { a with timeout := ← convert seconds (invalid "float") values } })
  | .verbose => pure (some { r with args := { a with verbose := true } })

/-- Applies the options gathered from one word, in order. -/
def applyAll (r : Reading) : List (Opt × List (List Glyph)) → Except (List Glyph) (Option Reading)
  | [] => .ok (some r)
  | (o, vs) :: rest => do
    match ← apply r o vs with
    | some r => applyAll r rest
    | none => pure none

/-- Gathers the options of a word whose flags may run together, at most `fuel` of them. A short
flag with text attached takes the next character as the next flag; a character that names no
flag refuses the whole rest of the word. -/
def gather (words : List (List Glyph)) (tokens : List Token) (index : Nat) :
    Nat → Opt → List Glyph → Option (List Glyph) → List (Opt × List (List Glyph)) →
      Except (List Glyph) (List (Opt × List (List Glyph)) × Nat)
  | 0, _, _, _, acc => .ok (acc, index + 1)
  | fuel + 1, o, word, explicit, acc =>
    let refuse := fun (e : List Glyph) =>
      Except.error (Glyph.ofString s!"argument {o.title}: ignored explicit argument {Quoted.quoteGlyphs e}")
    match explicit with
    | some e =>
      if o.takesValue then .ok (acc ++ [(o, [e])], index + 1)
      else if (word.drop 1).head? != some (.char '-') && !e.isEmpty then
        let next := Glyph.char '-' :: e.take 1
        match lookup next with
        | some o' =>
          let rest := e.drop 1
          let rest := if rest.isEmpty then none else some rest
          gather words tokens index fuel o' next rest (acc ++ [(o, [])])
        | none => refuse e
      else refuse e
    | none =>
      if o.takesValue then
        match tokens[index + 1]?, words[index + 1]? with
        | some .plain, some w => .ok (acc ++ [(o, [w])], index + 2)
        | _, _ => .error (Glyph.ofString s!"argument {o.title}: expected one argument")
      else .ok (acc ++ [(o, [])], index + 1)

/-- Reads the option at `index`. -/
def consumeOption (words : List (List Glyph)) (tokens : List Token) (r : Reading) (index : Nat) :
    Step :=
  match tokens[index]? with
  | some (.option m) =>
    match m.opt with
    | none => .next { r with extras := r.extras ++ [words[index]?.getD []] } (index + 1)
    | some o =>
      -- each flag taken from the attached text shortens it by one character
      let fuel := (m.explicit.map List.length).getD 0 + 2
      match gather words tokens index fuel o m.word m.explicit [] with
      | .error msg => .error msg
      | .ok (acts, stop) =>
        match applyAll r acts with
        | .error msg => .error msg
        | .ok none => .help
        | .ok (some r) => .next r stop
  | _ => .next r (index + 1)

/-- Takes the request from the plain words at `index`: any `--` around it, and at most one
word. -/
def consumeRequest (words : List (List Glyph)) (tokens : List Token) (r : Reading) (index : Nat) :
    Reading × Nat :=
  if r.requestTaken then (r, index)
  else
    let rest := tokens.drop index
    let lead := (rest.takeWhile fun t => match t with | .dashes => true | _ => false).length
    let hasWord := match rest[lead]? with | some .plain => true | _ => false
    let afterWord := lead + (if hasWord then 1 else 0)
    let trail := ((rest.drop afterWord).takeWhile fun t => match t with | .dashes => true | _ => false).length
    let count := afterWord + trail
    let taken := (words.drop index).take count
    let values := taken.erase dashes
    let request := values.headD Arguments.defaults.request
    ({ r with args := { r.args with request := request }, requestTaken := true }, index + count)

/-- Whether a token is an option. -/
def Token.isOption : Token → Bool
  | .option _ => true
  | _ => false

/-- Reads the words from `index` on, at most `fuel` steps. -/
def readFrom (words : List (List Glyph)) (tokens : List Token) : Nat → Reading → Nat → Step
  | 0, r, index => .next r index
  | fuel + 1, r, index =>
    let optionAt := (List.range tokens.length).filter fun i => i ≥ index && (tokens[i]?.map Token.isOption).getD false
    match optionAt.head? with
    | none => .next r index
    | some nextOpt =>
      if index != nextOpt then
        let (r', stop) := consumeRequest words tokens r index
        if stop > index then readFrom words tokens fuel r' stop
        else
          let r' := { r' with extras := r'.extras ++ (words.drop stop).take (nextOpt - stop) }
          match consumeOption words tokens r' nextOpt with
          | .next r'' i => readFrom words tokens fuel r'' i
          | s => s
      else
        match consumeOption words tokens r index with
        | .next r' i => readFrom words tokens fuel r' i
        | s => s

/-- Reads a command line. -/
def parse (words : List (List Glyph)) : Parsed :=
  match tokenize words with
  | .error msg => .error msg
  | .ok tokens =>
    let start : Reading := ⟨Arguments.defaults, [], false⟩
    match readFrom words tokens (words.length + 1) start 0 with
    | .help => .help
    | .error msg => .error msg
    | .next r index =>
      let (r, stop) := consumeRequest words tokens r index
      let extras := r.extras ++ words.drop stop
      if extras.isEmpty then .run r.args
      else .error (Glyph.ofString "unrecognized arguments: " ++ Glyph.joinWith " " extras)

end DoipWire.Cli
