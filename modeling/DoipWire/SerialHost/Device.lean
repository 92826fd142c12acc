import DoipWire.Text.Quoted

/-!
# Device paths on the host

A port named by a path is opened on the test host for reading and writing, and a file named by a path
may be opened for writing, which creates it when it is missing. The host has the directories of
a usual system root, and in `/dev` the character devices that are no terminal; a relative path
starts in a working directory that holds nothing of interest. A path is walked component by
component: an empty component and `.` stay, `..` goes up (the root is its own parent), and any
other name must be an entry of the directory reached. Opening a directory fails with "Is a
directory", a missing entry with "No such file or directory" (unless it is the last one and the
file is created), a walk that goes on past a device with "Not a directory"; a device opens, but
a serial port cannot be configured on it.

Before anything is opened, the path is encoded as bytes: characters as UTF-8, and the lone
surrogates `U+DC80` to `U+DCFF` as the bytes `0x80` to `0xFF` they stand for. Any other lone
surrogate refuses the path, and so does a null character.
-/

namespace DoipWire.SerialHost

/-- What a path leads to on the host. -/
inductive Node where
  | directory
  | device
  /-- A missing entry on the way. -/
  | missing
  /-- A missing last entry of a directory that exists. -/
  | absent
  /-- A walk that goes on past a device. -/
  | notDirectory
  deriving DecidableEq, Repr

/-- The directories at the root of the host. -/
def rootDirectories : List String :=
  ["bin", "boot", "dev", "etc", "home", "lib", "media", "mnt", "opt", "proc", "root", "run", "sbin",
   "srv", "sys", "tmp", "usr", "var"]

/-- The devices in `/dev` that are no terminal. -/
def devices : List String := ["full", "null", "random", "urandom", "zero"]

/-- What the entry `name` of the directory `dir` (its names from the root, innermost last) is,
if there is one. -/
def entry (dir : List String) (name : String) : Option Node :=
  match dir with
  | [] => if rootDirectories.contains name then some .directory else none
  | ["dev"] => if devices.contains name then some .device else none
  | _ => none

/-- Walks the components of a path from the directory `dir`; `none` for a directory whose place
is not known, which holds nothing. -/
def walk : Option (List String) → List String → Node
  | _, [] => .directory
  | dir, c :: rest =>
    if c = "" ∨ c = "." then walk dir rest
    else if c = ".." then walk (dir.map List.dropLast) rest
    else match dir.bind (entry · c) with
      | some .directory => walk (dir.map (· ++ [c])) rest
      | some .device => if rest.isEmpty then .device else .notDirectory
      | _ => if rest.isEmpty then .absent else .missing

/-- What a path leads to. -/
def resolve (path : List Glyph) : Node :=
  let parts := (Glyph.pieces '/' path).map Glyph.toText
  if path.isEmpty then .missing
  else if Glyph.startsWith path "/" then walk (some []) parts
  else walk none parts

/-- Why a text cannot name a file. -/
inductive NameError where
  /-- The lone surrogates from `start` to before `stop`, the first of them `code`, stand for no
  byte. -/
  | surrogates (start stop code : Nat)
  /-- The text holds a null character. -/
  | nullByte
  deriving DecidableEq, Repr

/-- Whether a lone surrogate stands for a byte of a file name. -/
def isByteSurrogate (n : Nat) : Bool := 0xDC80 ≤ n && n ≤ 0xDCFF

/-- The first stretch of lone surrogates, from `index` on, that holds one standing for no byte:
where that one is, where the stretch ends, and its code; `bad` is that one for the stretch open
before `index`, if any. -/
def unencodable : Nat → Option (Nat × Nat) → List Glyph → Option (Nat × Nat × Nat)
  | index, bad, [] => bad.map fun (start, code) => (start, index, code)
  | index, bad, .surrogate n :: rest =>
    let bad := bad.orElse fun _ => if isByteSurrogate n then none else some (index, n)
    unencodable (index + 1) bad rest
  | index, bad, .char _ :: rest =>
    match bad with
    | some (start, code) => some (start, index, code)
    | none => unencodable (index + 1) none rest

/-- Checks that a text can name a file: its surrogates first, then null characters. -/
def checkName (path : List Glyph) : Option NameError :=
  match unencodable 0 none path with
  | some (start, stop, code) => some (.surrogates start stop code)
  | none => if path.contains (.char (Char.ofNat 0)) then some .nullByte else none

/-- The words of a refusal of a name. -/
def NameError.message : NameError → String
  | .surrogates start stop code =>
    let q := String.singleton Quoted.apostrophe
    let shown := String.ofList (Quoted.fixedHex 4 code)
    if stop = start + 1 then
      q ++ "utf-8" ++ q ++ " codec can" ++ q ++ "t encode character " ++ q ++ "\\u" ++ shown ++ q ++
        s!" in position {start}: surrogates not allowed"
    else
      q ++ "utf-8" ++ q ++ " codec can" ++ q ++
        s!"t encode characters in position {start}-{stop - 1}: surrogates not allowed"
  | .nullByte => "embedded null byte"

/-- A failure of a call on the host, with its number and words. -/
structure SystemError where
  errno : Nat
  words : String
  deriving DecidableEq, Repr

/-- The failure of a directory opened as a file. -/
def isADirectory : SystemError := ⟨21, "Is a directory"⟩

/-- The failure of a missing entry. -/
def noSuchFile : SystemError := ⟨2, "No such file or directory"⟩

/-- The failure of a walk past a file. -/
def notADirectory : SystemError := ⟨20, "Not a directory"⟩

/-- The words of a failure about a path, as the host reports them. -/
def SystemError.about (e : SystemError) (path : List Glyph) : String :=
  s!"[Errno {e.errno}] {e.words}: {Quoted.quoteGlyphs path}"

/-- Why a path cannot be opened as a port. -/
inductive DeviceError where
  /-- The path names no file. -/
  | name (e : NameError)
  /-- The call failed. -/
  | system (e : SystemError) (path : List Glyph)
  /-- The path opened, but the settings of a serial port could not be read from it. -/
  | notTerminal
  deriving DecidableEq, Repr

/-- The words of the failure of opening a port by its path. -/
def DeviceError.message : DeviceError → List Glyph
  | .name e => Glyph.ofString e.message
  | .system e path =>
    Glyph.ofString s!"[Errno {e.errno}] could not open port " ++ path ++
      Glyph.ofString (": " ++ e.about path)
  | .notTerminal =>
    Glyph.ofString ("Could not configure port: (25, " ++ Quoted.quote "Inappropriate ioctl for device" ++ ")")

/-- Opens a port by its path. -/
def openDevice (path : List Glyph) : DeviceError :=
  match checkName path with
  | some e => .name e
  | none =>
    match resolve path with
    | .directory => .system isADirectory path
    | .missing | .absent => .system noSuchFile path
    | .notDirectory => .system notADirectory path
    | .device => .notTerminal

/-- Why a file cannot be opened for writing. -/
inductive FileError where
  /-- The path names no file. -/
  | name (e : NameError)
  /-- The call failed. -/
  | system (e : SystemError) (path : List Glyph)
  deriving DecidableEq, Repr

/-- Opens a file for writing, creating it when it is missing. -/
def createFile (path : List Glyph) : Except FileError Unit :=
  match checkName path with
  | some e => .error (.name e)
  | none =>
    match resolve path with
    | .directory => .error (.system isADirectory path)
    | .missing => .error (.system noSuchFile path)
    | .notDirectory => .error (.system notADirectory path)
    | .device | .absent => .ok ()

end DoipWire.SerialHost
