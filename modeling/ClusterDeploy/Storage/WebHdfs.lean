import ClusterDeploy.Http.Exchange
import ClusterDeploy.Storage.Call

/-!
# WebHDFS

The shared storage behind the REST interface of its name node.

## Main definitions

* `WebHdfs` — where the name node is and who asks.
* `WebHdfs.homeDirectory`, `WebHdfs.defaultReplication`, `WebHdfs.upload`, `WebHdfs.setReplication`,
  `WebHdfs.stat`, `WebHdfs.deleteRecursive` — the operations.

## Implementation notes

The name node is asked where to write a file, and the content is then sent there, once. An answer
that is not understood is a failure of the storage, whatever the operation.
-/

namespace ClusterDeploy

/-- The address of a name node, and the user that asks. -/
structure WebHdfs where
  url : String
  user : Option String
  deriving DecidableEq, Repr

namespace WebHdfs

/-- A program that asks the name node and may fail. -/
abbrev Program (α : Type) := ExceptT DeployError Http.Client α

/-- The path under which the interface lies. -/
def root : String := "/webhdfs/v1"

/-- Sends a request for an operation on a path. -/
def request (w : WebHdfs) (method path operation : String) (parameters : List (String × String)) :
    Http.Client Http.Response :=
  let user := w.user.toList.map fun name => ("user.name", name)
  Http.send method (Storage.withoutSlashes w.url ++ root ++ path)
    (("op", operation) :: user ++ parameters) none

/-! ## Failures -/

/-- What the name node says of a failure. -/
def exceptionReader : Json.Reader String :=
  Json.record ["RemoteException"] fun
    | depth, [slot] =>
      Json.required (Json.record ["exception", "message"] fun
        | depth, [exceptionSlot, messageSlot] => do
          let exception ← Json.defaulted "" Json.text depth exceptionSlot
          let message ← Json.required Json.text depth messageSlot
          return s!"{exception}: {message}"
        | _, _ => none) depth slot
    | _, _ => none

/-- The failure of a request that was answered with a status that is no success. -/
def statusFailure (operation path : String) (status : Nat) (body : Option Bytes) : DeployError :=
  let detail := (body.bind (Http.readBody exceptionReader)).getD "no remote exception details"
  Storage.failure s!"{operation} on '{path}' failed with HTTP {status}: {detail}"

/-- The failure of a request that was not answered. -/
def transportFailure (operation path : String) : DeployError :=
  Storage.failure s!"{operation} on '{path}' failed: no answer"

/-- The value in an answer. -/
def readResponse {α : Type} (read : Json.Reader α) (operation path : String) :
    Http.Response → Except DeployError α
  | .none => .error (transportFailure operation path)
  | .failure status body => .error (statusFailure operation path status body)
  | .success none =>
    .error (Storage.failure s!"{operation} on '{path}' returned an unreadable body: cut short")
  | .success (some body) =>
    match Http.readBody read body with
    | some value => .ok value
    | none =>
      .error (Storage.failure
        s!"{operation} on '{path}' returned unexpected JSON: another document")

/-- Sends a request for an operation on a path and reads the value in the answer. -/
def fetch {α : Type} (w : WebHdfs) (read : Json.Reader α) (method path operation : String)
    (parameters : List (String × String)) : Program α :=
  ExceptT.mk do
    return readResponse read operation path (← w.request method path operation parameters)

/-! ## Documents -/

/-- The status of a file in a document. -/
def statusReader : Json.Reader FileStatus :=
  Json.only "FileStatus" (Json.record ["length", "replication", "modificationTime"] fun
    | depth, [lengthSlot, replicationSlot, timeSlot] => do
      let len ← Json.required (Json.naturalBelow UInt64.size) depth lengthSlot
      let replication ← Json.required (Json.naturalBelow UInt16.size) depth replicationSlot
      let time ← Json.defaulted 0 (Json.naturalBelow UInt64.size) depth timeSlot
      return ⟨UInt64.ofNat len, UInt16.ofNat replication, UInt64.ofNat time⟩
    | _, _ => none)

/-! ## Operations -/

/-- The home directory of the user. -/
def homeDirectory (w : WebHdfs) : Program String :=
  w.fetch (Json.only "Path" Json.text) "GET" "/" "GETHOMEDIRECTORY" []

/-- The number of copies of a file that is written without asking for one. -/
def defaultReplication (w : WebHdfs) : Program UInt16 := do
  let factor ← w.fetch
    (Json.only "FsServerDefaults" (Json.only "replication" (Json.naturalBelow UInt16.size)))
    "GET" "/" "GETSERVERDEFAULTS" []
  return UInt16.ofNat factor

/-- The content of an upload. -/
def contentOf (content : Bytes) : Http.Content :=
  ⟨"application/octet-stream", content⟩

/-- Writes a file: asks where to, and sends the content there. -/
def upload (w : WebHdfs) (path : String) (content : Bytes) : Program Unit := do
  let operation := "CREATE"
  let location ← w.fetch (Json.only "Location" Json.text) "PUT" path operation
    [("overwrite", "true"), ("noredirect", "true")]
  match ← ExceptT.lift (Http.send "PUT" location [] (some (contentOf content))) with
  | .success _ => return ()
  | .failure status body => throw (statusFailure operation path status body)
  | .none => throw (transportFailure operation path)

/-- Changes the number of copies of a file. -/
def setReplication (w : WebHdfs) (path : String) (factor : UInt16) : Program Unit := do
  let accepted ← w.fetch (Json.only "boolean" Json.truth) "PUT" path "SETREPLICATION"
    [("replication", String.ofList (Text.decimal factor.toNat))]
  if !accepted then
    throw (Storage.failure s!"namenode refused replication {factor.toNat} for '{path}'")

/-- The status of a file, if there is one. -/
def stat (w : WebHdfs) (path : String) : Program (Option FileStatus) :=
  let operation := "GETFILESTATUS"
  ExceptT.mk do
    match ← w.request "GET" path operation [] with
    | .failure 404 _ => return .ok none
    | response => return (readResponse statusReader operation path response).map some

/-- Deletes a file or a directory with all that is in it; tells whether there was any. -/
def deleteRecursive (w : WebHdfs) (path : String) : Program Bool :=
  w.fetch (Json.only "boolean" Json.truth) "DELETE" path "DELETE" [("recursive", "true")]

/-- What the storage does when it is called; `content` is what can be read of the local file of an
upload. -/
def answer (w : WebHdfs) (content : Except FileFault Bytes) :
    (call : Storage.Call) → Program call.Value
  | .homeDirectory => w.homeDirectory
  | .defaultReplication => w.defaultReplication
  | .upload localPath remotePath =>
    match content with
    | .ok bytes => w.upload remotePath bytes
    | .error fault => throw (Storage.unreadable localPath fault)
  | .setReplication path factor => w.setReplication path factor
  | .stat path => w.stat path
  | .deleteRecursive path => w.deleteRecursive path

end WebHdfs

end ClusterDeploy
