import ClusterDeploy.Config
import ClusterDeploy.Text.FileName
import ClusterDeploy.Json.Value

/-!
# Settings on the command line

The configuration of a deployment is the one in a file, with the definitions on the command line
over it.

## Main definitions

* `CommandLine.fileEntries` — the pairs in a file.
* `CommandLine.defineEntry` — the pair in a definition.

## Implementation notes

The file holds one JSON object. The pairs of a file come in ascending order of their keys; a value
that is no string counts as its text. Around the key and the value of a definition blanks do not
count.
-/

namespace ClusterDeploy.CommandLine

/-- The text of a value in a file. -/
def settingText : Json → String
  | .string s => s
  | value => value.compact

/-- The pairs in a file. -/
def fileEntries (content : Bytes) : Option (List (String × String)) :=
  match Json.parse content with
  | some (.object members) => some (members.map fun (key, value) => (key, settingText value))
  | _ => none

/-- A text without the blanks at its ends. -/
def trimmed (s : List Char) : String :=
  String.ofList (Text.trim s)

/-- The pair in a definition. -/
def defineEntry (define : String) : Option (String × String) :=
  (Text.splitOnce '=' define.toList).map fun (key, value) => (trimmed key, trimmed value)

/-- The pairs in definitions, or the first definition without a pair. -/
def defineEntries : List String → Except String (List (String × String))
  | [] => .ok []
  | define :: rest =>
    match defineEntry define with
    | none => .error define
    | some entry => (defineEntries rest).map (entry :: ·)

end ClusterDeploy.CommandLine
