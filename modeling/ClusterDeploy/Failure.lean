import ClusterDeploy.Job
import ClusterDeploy.Json.Record

/-!
# Causes of failed jobs

A cluster says why a job failed in a document that gives the class and the message of an error and,
in the same form, the error that caused it, and so on.

## Main definitions

* `Failure.Frame`, `Failure` — one error, and an error with those that caused it.
* `Failure.decode?` — reads the document.
* `Failure.ofPayload` — never fails: a payload that is no such document becomes the message.
* `Failure.document` — writes the document.

## Implementation notes

The chain of causes is a list, outermost first. The document of an error lies inside the one of the
error that it caused, so its length is bounded by the depth to which documents may be nested.
-/

namespace ClusterDeploy

/-- One error. -/
structure Failure.Frame where
  className : String
  message : String
  stackTrace : Option String
  deriving DecidableEq, Repr, Inhabited

/-- An error and the errors that caused it, each one the cause of the one before it. -/
structure Failure where
  outermost : Failure.Frame
  causes : List Failure.Frame
  deriving DecidableEq, Repr, Inhabited

namespace Failure

/-- The class and the message of an error. -/
def Frame.display (f : Frame) : String :=
  s!"{f.className}: {f.message}"

/-- The fields of an error in a document. -/
def fieldNames : List String := ["class", "message", "stack-trace", "cause"]

/-- Reads an error from the documents in its fields; `readCause` reads the error that caused it. -/
def ofSlots (readCause : Json.Syntax → Option (List Frame)) (depth : Nat) :
    List (Option Json.Syntax) → Option (List Frame)
  | [classSlot, messageSlot, traceSlot, causeSlot] => do
    let className ← Json.required Json.text depth classSlot
    let message ← Json.defaulted "" Json.text depth messageSlot
    let stackTrace ← Json.optional Json.text depth traceSlot
    let causes ← Json.optional (fun _ => readCause) depth causeSlot
    return ⟨className, message, stackTrace⟩ :: causes.getD []
  | _ => none

/-- Reads a chain of errors from documents that lie inside each other. -/
def frames : Json.Reader (List Frame)
  | 0, _ => none
  | depth + 1, doc => (Json.slots fieldNames doc).bind (ofSlots (frames depth) depth)

/-- Reads an error and its causes from a document. -/
def read : Json.Reader Failure := fun depth doc =>
  match frames depth doc with
  | some (outermost :: causes) => some ⟨outermost, causes⟩
  | _ => none

/-- Reads an error and its causes from the text of a document. -/
def decode? (payload : Bytes) : Option Failure :=
  Json.readWhole read payload

/-- The class of an error whose document cannot be read. -/
def undecodable : String := "undecodable"

/-- The error in a payload. A payload that is no document of an error becomes the message. -/
def ofPayload (payload : Bytes) : Failure :=
  (decode? payload).getD ⟨⟨undecodable, Utf8.decodeLossy payload, none⟩, []⟩

/-- What is said of a failed job, from the job down to the innermost cause. -/
def chain (f : Failure) : List String :=
  "job failed" :: (f.outermost :: f.causes).map Frame.display

/-- A member of an object. -/
def member (name : String) (value : List Char) : List Char :=
  Json.quoted name ++ ':' :: value

/-- The document of an error, around the document of the error that caused it. -/
def Frame.document (f : Frame) (cause : Option (List Char)) : List Char :=
  '\x7b' :: Json.commaSeparated
    ([member "class" (Json.quoted f.className), member "message" (Json.quoted f.message)] ++
      (f.stackTrace.map fun trace => member "stack-trace" (Json.quoted trace)).toList ++
      (cause.map (member "cause")).toList) ++ ['\x7d']

/-- The document of the first of a chain of errors. -/
def documentChars : Frame → List Frame → List Char
  | f, [] => f.document none
  | f, next :: rest => f.document (some (documentChars next rest))

/-- The document of an error and its causes. -/
def document (f : Failure) : String :=
  String.ofList (documentChars f.outermost f.causes)

end Failure

/-- What became of a job, as an error if it failed. -/
def JobOutcome.failure? : JobOutcome → Option Failure
  | .succeeded => none
  | .failed cause => some (Failure.ofPayload cause)

end ClusterDeploy
