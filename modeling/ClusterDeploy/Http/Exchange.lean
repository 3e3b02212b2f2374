import ClusterDeploy.Dialogue
import ClusterDeploy.Duration
import ClusterDeploy.Error
import ClusterDeploy.Http.Url
import ClusterDeploy.Json.Record

/-!
# HTTP exchanges

A client sends requests to a server and gets answers, or none.

## Main definitions

* `Http.Request`, `Http.Reply` — requests and what comes back.
* `Http.Client` — programs that send requests.
* `Http.send` — sends a request to a URL.
* `Http.Response` — answers, sorted by success.
* `Http.bodyText`, `Http.readBody` — the text of a body, and the value in it.

## Implementation notes

A status of 400 or more is a failure, and all others are successes. What comes with a status that is
not of three digits is no answer. Nothing is sent to a URL that cannot be read. Answers with the
statuses 204 and 304 have no body. Bodies are texts, in which ill-formed parts are replaced.

An exchange is one call of an HTTP client, from the request to the answer that the call returns.
Redirects that such a client follows on its own lie below it: the requests on the way are not shown,
and where a redirect leads is no part of a reply. A client that follows none gets the redirect
itself, which is a success.
-/

namespace ClusterDeploy.Http

/-- The body of a request. -/
structure Content where
  type : String
  bytes : Bytes
  deriving DecidableEq, Repr

/-- A request to a server. -/
structure Request where
  server : Server
  method : String
  target : String
  content : Option Content
  deriving DecidableEq, Repr

/-- What comes back for a request. -/
inductive Reply where
  /-- The connection was closed without an answer. -/
  | dropped
  /-- A status and a body, unless the body cannot be read to its end. -/
  | answered (status : Nat) (body : Option Bytes)
  deriving DecidableEq, Repr

/-- What a client asks. -/
inductive Question where
  /-- Send a request and wait for what comes back. -/
  | exchange (request : Request)
  /-- Wait for a span of time. -/
  | pause (span : Millis)
  deriving DecidableEq, Repr

/-- The answers to a question. What comes back for a request takes some time. -/
abbrev Answer : Question → Type
  | .exchange _ => Millis × Reply
  | .pause _ => Unit

/-- A program that sends requests. -/
abbrev Client (α : Type) := Dialogue Question Answer α

/-- An answer, sorted by success. -/
inductive Response where
  /-- There was no answer, or the request could not be sent. -/
  | none
  | failure (status : Nat) (body : Option Bytes)
  | success (body : Option Bytes)
  deriving DecidableEq, Repr

/-- Sorts what comes back. -/
def Response.ofReply : Reply → Response
  | .dropped => .none
  | .answered status body =>
    let actual := if status = 204 ∨ status = 304 then some [] else body
    if status < 100 ∨ 1000 ≤ status then .none
    else if 400 ≤ status then .failure status actual
    else .success actual

/-- Sends a request to a URL with some parameters: how long it takes, and the answer. -/
def sendTimed (method url : String) (parameters : List (String × String))
    (content : Option Content) : Client (Millis × Response) :=
  match Url.parse url with
  | none => return (0, .none)
  | some u => do
    let (took, reply) ← Dialogue.question (Q := Question) (A := Answer)
      (.exchange ⟨u.server, method, (u.withParameters parameters).target, content⟩)
    return (took, Response.ofReply reply)

/-- Sends a request to a URL with some parameters. -/
def send (method url : String) (parameters : List (String × String)) (content : Option Content) :
    Client Response := do
  return (← sendTimed method url parameters content).2

/-- The text of a body. -/
def bodyText (body : Bytes) : String :=
  Utf8.decodeLossy body

/-- Reads a value from the text of a body. -/
def readBody {α : Type} (read : Json.Reader α) (body : Bytes) : Option α :=
  Json.readWhole read (Utf8.encode (bodyText body))

end ClusterDeploy.Http
