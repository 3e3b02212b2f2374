import ClusterDeploy.Platform.ResourceManager

/-!
# The result of a job

A cluster tells at a URL what has become of a job. The URL is asked again and again, until the job
is over or too many answers in a row were of no use.

## Main definitions

* `JobResult.read` — an answer: the outcome of the job, or nothing yet.
* `JobResult.withMessage` — the cause of a failure, with a message.
* `JobResult.Polling`, `JobResult.Polling.next` — how often the answers were of no use, and what
  comes of one more answer.
* `JobResult.look`, `JobResult.poll` — one look at the result, and looks until the polling ends.
-/

namespace ClusterDeploy.JobResult

/-! ## Documents -/

/-- The first line of a text, without its line end. -/
def firstLine (text : List Char) : List Char :=
  let line := text.takeWhile (· != '\n')
  if text.length = line.length then line
  else if line.getLast? == some '\r' then line.dropLast else line

/-- What follows the first colon and blank of a line. -/
def afterColon : List Char → Option (List Char)
  | ':' :: ' ' :: rest => some rest
  | _ :: rest => afterColon rest
  | [] => none

/-- The message in a stack trace: what follows the class of the error in the first line. -/
def messageOf (trace : String) : String :=
  String.ofList ((afterColon (firstLine trace.toList)).getD [])

/-- The cause of a failure. If it has no message it gets the one in its stack trace. -/
def withMessage : Json → Json
  | .object members =>
    if ((Json.object members).get? "message").isSome then .object members
    else
      let message := match (Json.object members).get? "stack-trace" with
        | some (.string trace) => messageOf trace
        | _ => ""
      .object (Json.insertMember "message" (.string message) members)
  | cause => cause

/-- The outcome of a job that is over, from the cause of its failure if it has one. -/
def outcomeOf : Option Json → JobOutcome
  | none => .succeeded
  | some .null => .succeeded
  | some cause => .failed (Utf8.encode (withMessage cause).compact)

/-- The outcome in a document, if the job is over. -/
def outcomeReader : Json.Reader (Option JobOutcome) :=
  Json.record ["status", "job-execution-result"] fun
    | depth, [statusSlot, resultSlot] => do
      let status ← Json.required (Json.only "id" Json.text) depth statusSlot
      let cause ← Json.optional (Json.record ["failure-cause"] fun
        | depth, [causeSlot] => Json.optional Json.anything depth causeSlot
        | _, _ => none) depth resultSlot
      return if status = "COMPLETED" then some (outcomeOf (cause.bind id)) else none
    | _, _ => none

/-- An answer: the outcome of the job, nothing yet, or no use. -/
def read (response : Http.Response) : Except DeployError (Option JobOutcome) :=
  ResourceManager.readResponse outcomeReader "job execution result" response

/-! ## Polling -/

/-- The number of answers in a row that are of no use at which the polling ends. -/
def maxErrors : Nat := 5

/-- How many answers in a row were of no use. -/
structure Polling where
  errors : Nat
  deriving DecidableEq, Repr

/-- Before the first answer. -/
def Polling.start : Polling := ⟨0⟩

/-- What comes of one more answer: the end of the polling, or more polling. -/
def Polling.next (p : Polling) : Except DeployError (Option JobOutcome) →
    Except DeployError JobOutcome ⊕ Polling
  | .ok (some outcome) => .inl (.ok outcome)
  | .ok none => .inr ⟨0⟩
  | .error e => if maxErrors ≤ p.errors + 1 then .inl (.error e) else .inr ⟨p.errors + 1⟩

/-- Looks at the result of a job once. -/
def look (url : String) (p : Polling) : Http.Client (Except DeployError JobOutcome ⊕ Polling) := do
  return p.next (read (← Http.send "GET" url [] none))

/-- Looks at the result of a job again and again until the polling ends, but at most a given number
of times. -/
def poll (url : String) (interval : Millis) :
    Nat → Polling → Http.Client (Except DeployError JobOutcome ⊕ Polling)
  | 0, p => return .inr p
  | bound + 1, p => do
    match ← look url p with
    | .inl result => return .inl result
    | .inr next =>
      Dialogue.question (Q := Http.Question) (A := Http.Answer) (.pause interval)
      poll url interval bound next

end ClusterDeploy.JobResult
