import ClusterDeploy.Http.Exchange

/-!
# HTTP on the wire

The bytes of a request, and the reading of the bytes that come back for it.

## Main definitions

* `Http.Request.bytes` — what is sent for a request.
* `Http.Head` — the status and the fields of an answer.
* `Http.Received` — what the bytes so far say of a body.
* `Http.Reply.read` — what comes back, as soon as the bytes so far tell.

## Implementation notes

A connection serves one request, and the server is told so. The body of an answer is counted, or cut
into chunks with a size before each, or it ends with the connection. The names of fields are told
apart without regard to case.
-/

namespace ClusterDeploy.Http

/-! ## Requests -/

/-- A server as it is named in a request. -/
def Server.text (s : Server) : String :=
  let host := match s.host with
    | .v6 _ => String.ofList ('[' :: s.host.text.toList ++ [']'])
    | _ => s.host.text
  if s.number = usualNumber then host else s!"{host}:{s.number}"

/-- The fields of a request. A request that brings something says what it is and how long. -/
def Request.fields (r : Request) : List (String × String) :=
  let brought := match r.content with
    | some content => [("Content-Type", content.type),
        ("Content-Length", String.ofList (Text.decimal content.bytes.length))]
    | none => if r.method = "GET" then [] else [("Content-Length", "0")]
  ("Host", r.server.text) :: ("Accept", "*/*") :: ("Connection", "close") :: brought

/-- The lines of a request before its content. -/
def Request.lines (r : Request) : List String :=
  s!"{r.method} {r.target} HTTP/1.1" :: r.fields.map fun (name, value) => s!"{name}: {value}"

/-- What is sent for a request. -/
def Request.bytes (r : Request) : Bytes :=
  let content := match r.content with
    | some content => content.bytes
    | none => []
  Utf8.encode (String.join (r.lines.map (· ++ "\r\n")) ++ "\r\n") ++ content

/-! ## Heads -/

/-- The bytes before and after the first end of a line. -/
def splitLine : Bytes → Option (Bytes × Bytes)
  | [] => none
  | 13 :: 10 :: rest => some ([], rest)
  | b :: rest => (splitLine rest).map fun (line, after) => (b :: line, after)

/-- The bytes before and after the first empty line. -/
def splitHead : Bytes → Option (Bytes × Bytes)
  | [] => none
  | 13 :: 10 :: 13 :: 10 :: rest => some ([], rest)
  | b :: rest => (splitHead rest).map fun (head, after) => (b :: head, after)

/-- The status and the fields of an answer. -/
structure Head where
  status : Nat
  fields : List (String × String)
  deriving DecidableEq, Repr

/-- The status in the first line of an answer. -/
def readStatus (line : List Char) : Option Nat :=
  match Text.splitAt ' ' line with
  | version :: code :: _ =>
    if ['H', 'T', 'T', 'P', '/'].isPrefixOf version && code.length = 3 then Text.readNatural code
    else none
  | _ => none

/-- The name and the value in a line. -/
def readField (line : List Char) : Option (String × String) :=
  (Text.splitOnce ':' line).map fun (name, value) =>
    (String.ofList (Text.foldCase name), String.ofList (Text.trim value))

/-- Reads the head of an answer. -/
def Head.read (head : Bytes) : Option Head :=
  let text := (Utf8.decodeLossy head).toList.filter (· != '\r')
  match Text.splitAt '\n' text with
  | first :: rest => (readStatus first).map fun status => ⟨status, rest.filterMap readField⟩
  | [] => none

/-- The value of a field. -/
def Head.field? (h : Head) (name : String) : Option String :=
  (h.fields.find? fun field => field.1 == name).map (·.2)

/-! ## Bodies -/

/-- What the bytes so far say of a body. -/
inductive Received where
  /-- The body is there. -/
  | whole (body : Bytes)
  /-- More bytes have to come. -/
  | unfinished
  /-- The bytes make no sense. -/
  | broken
  deriving DecidableEq, Repr

/-- The same with bytes in front of the body. -/
def Received.after (before : Bytes) : Received → Received
  | .whole body => .whole (before ++ body)
  | other => other

/-- The size in the line before a chunk. -/
def chunkSize (line : Bytes) : Option Nat :=
  let digits := (Utf8.decodeLossy line).toList.takeWhile fun c => c != ';' && !Text.isBlank c
  Text.readInBase 16 digits

/-- Reads at most a given number of chunks. The last one is empty. -/
def readChunks : Nat → Bytes → Received
  | 0, _ => .unfinished
  | count + 1, s =>
    match splitLine s with
    | none => .unfinished
    | some (line, rest) =>
      match chunkSize line with
      | none => .broken
      | some 0 => .whole []
      | some size =>
        if rest.length < size + 2 then .unfinished
        else (readChunks count (rest.drop (size + 2))).after (rest.take size)

/-- Reads the body after a head; `closed` tells that nothing more will come. -/
def readBodyAfter (h : Head) (closed : Bool) (s : Bytes) : Received :=
  if h.status = 204 ∨ h.status = 304 then .whole []
  else if (h.field? "transfer-encoding").any fun value => value.toLower == "chunked" then
    readChunks (s.length + 1) s
  else match h.field? "content-length" with
    | some value =>
      match Text.readNatural value.toList with
      | some size => if s.length < size then .unfinished else .whole (s.take size)
      | none => .broken
    | none => if closed then .whole s else .unfinished

/-! ## Answers -/

/-- What comes back for a request, as soon as the bytes so far tell; `closed` tells that nothing
more will come. -/
def Reply.read (closed : Bool) (s : Bytes) : Option Reply :=
  match splitHead s with
  | none => if closed then some .dropped else none
  | some (head, rest) =>
    match Head.read head with
    | none => some .dropped
    | some h =>
      match readBodyAfter h closed rest with
      | .whole body => some (.answered h.status (some body))
      | .broken => some (.answered h.status none)
      | .unfinished => if closed then some (.answered h.status none) else none

end ClusterDeploy.Http
