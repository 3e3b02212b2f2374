import ClusterDeploy.Ledger.Schema
import ClusterDeploy.Text.FileName
import ClusterDeploy.Text.Percent

/-!
# Locations of ledgers

Where a ledger is kept, and what may be done with it there.

## Main definitions

* `Ledger.Location` — the file of a ledger and how it is opened.
* `Ledger.Location.parse` — reads a location.
* `Ledger.Options` — what a location that begins with `file:` says after its path.

## Implementation notes

Most locations are paths. A location that begins with `file:` has a path, in which bytes can be
escaped, and options after a question mark; what follows a number sign does not count. A text ends
at an escaped NUL. Of the options `mode`, `cache` and `vfs` the last one counts, but a mode can only
take away from what the mode before it allows.

A ledger at the empty path, at `:memory:` or in memory by its options is forgotten after each
operation.
-/

namespace ClusterDeploy.Ledger

/-- Where a ledger is kept, and how it is opened. -/
structure Location where
  /-- The path of its file, unless it is forgotten after each operation. -/
  file : Option String
  /-- Whether a file that is missing is made. -/
  creates : Bool
  access : Access
  deriving DecidableEq, Repr, Inhabited

/-! ## Options -/

/-- How a ledger is opened. -/
inductive OpenMode where
  | readOnly
  | readWrite
  | readWriteCreate
  | inMemory
  deriving DecidableEq, Repr, Inhabited

namespace OpenMode

/-- The mode with a name. -/
def ofName? : String → Option OpenMode
  | "ro" => some .readOnly
  | "rw" => some .readWrite
  | "rwc" => some .readWriteCreate
  | "memory" => some .inMemory
  | _ => none

/-- How much a mode asks for. -/
def demand : OpenMode → Nat
  | .readOnly => 1
  | .readWrite => 2
  | .readWriteCreate => 3
  | .inMemory => 0

/-- The most that a mode after this one can ask for. -/
def bound : OpenMode → Nat
  | .inMemory => 3
  | mode => mode.demand

end OpenMode

/-- What a location says after its path. -/
structure Options where
  mode : OpenMode := .readWriteCreate
  /-- The name of the file system. -/
  system : String := "unix"
  /-- Whether nobody changes the file, and whether anything was said about it. -/
  immutable : Option Bool := none
  deriving DecidableEq, Repr, Inhabited

/-- The names of the file systems that keep files. -/
def fileSystems : List String :=
  ["unix", "unix-none", "unix-dotfile", "unix-excl"]

/-- The name of the file system that keeps files in memory. -/
def memorySystem : String := "memdb"

/-- The name of the aspect of a ledger that its mode is about. -/
def accessAspect : String := "access"

/-- The name of the aspect of a ledger that its cache is about. -/
def cacheAspect : String := "cache"

/-- Whether a text means yes. Numbers count up to 255, as they are kept in a byte. -/
def meansYes (text : String) : Bool :=
  let digits := text.toList.takeWhile Char.isDigit
  if digits.isEmpty then ["on", "yes", "true"].contains text.toLower
  else Text.valueOf digits % 256 != 0

/-- Takes in one option. -/
def Options.apply (o : Options) (option : String × String) : Except Fault Options :=
  let (name, value) := option
  if name == "vfs" then .ok { o with system := value }
  else if name == "cache" then
    if ["shared", "private"].contains value then .ok o
    else .error (.unknownMode cacheAspect value)
  else if name == "mode" then
    match OpenMode.ofName? value with
    | none => .error (.unknownMode accessAspect value)
    | some mode =>
      if o.mode.bound < mode.demand then .error (.modeNotAllowed accessAspect value)
      else .ok { o with mode }
  else if name == "immutable" then
    .ok { o with immutable := o.immutable <|> some (meansYes value) }
  else .ok o

/-! ## Reading -/

/-- A part of a location without escaped bytes. -/
def plainPart (s : List Char) : String :=
  Utf8.decodeLossy ((Text.unescape s).takeWhile (· != 0))

/-- An option as a name and a value, unless the name is empty. -/
def readOption (s : List Char) : Option (String × String) :=
  let name := plainPart (s.takeWhile (· != '='))
  if name == "" then none else some (name, plainPart ((s.dropWhile (· != '=')).drop 1))

/-- The rest of a location after the host, which has to be this one. -/
def dropHost (s : List Char) : Except Fault (List Char) :=
  match s with
  | '/' :: '/' :: rest =>
    let host := String.ofList (rest.takeWhile (· != '/'))
    if host == "" || host == "localhost" then .ok (rest.dropWhile (· != '/'))
    else .error (.badHost host)
  | _ => .ok s

/-- Whether a path means no file. -/
def isTransient (path : String) : Bool :=
  path == "" || path == ":memory:"

/-- The location of a path with options. -/
def Location.ofOptions (path : String) (o : Options) : Except Fault Location :=
  let isMemory := isTransient path || o.mode = .inMemory
  let onlyRead := o.mode = .readOnly || (!isMemory && o.immutable == some true)
  let access := if onlyRead then Access.reading else .writing
  if o.system == memorySystem || fileSystems.contains o.system then
    .ok {
      file := if isMemory || o.system == memorySystem then none else some path
      creates := o.mode = .readWriteCreate
      access }
  else .error (.unknownSystem o.system)

/-- Reads a location after `file:`. -/
def Location.parseUri (s : List Char) : Except Fault Location := do
  let counted := (← dropHost s).takeWhile (· != '#')
  let path := plainPart (counted.takeWhile (· != '?'))
  let options := (Text.splitAt '&' ((counted.dropWhile (· != '?')).drop 1)).filterMap readOption
  Location.ofOptions path (← options.foldlM Options.apply {})

/-- Reads a location. -/
def Location.parse (location : String) : Except Fault Location :=
  let position := (Utf8.encode location).idxOf 0
  if position < location.utf8ByteSize then .error (.nulByte position)
  else match location.toList with
    | 'f' :: 'i' :: 'l' :: 'e' :: ':' :: rest => Location.parseUri rest
    | _ => .ok ⟨if isTransient location then none else some location, true, .writing⟩

end ClusterDeploy.Ledger
