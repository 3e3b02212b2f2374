import ClusterDeploy.Http.Host
import ClusterDeploy.Text.FileName
import ClusterDeploy.Text.Percent

/-!
# URLs

Reading the URLs of HTTP servers as browsers do, and what is sent of them in a request.

## Main definitions

* `Url`, `Url.parse` — a URL and its reading.
* `Url.pathOf` — the segments of a path, with `.` and `..` resolved.
* `Url.withParameters` — a URL with more parameters in its query.
* `Url.target` — what is sent of a URL.

## Implementation notes

Tabs and line ends do not count, nor do blanks and control characters at the ends. A backslash is a
slash. Percent signs in a path are kept: nothing is decoded there but the dots of `.` and `..`. A
segment that looks like the letter of a drive has no directory above it. What follows a number sign
is not sent, and neither is a question mark with nothing behind it. Who asks, which can stand before
the host, does not count.

Only URLs that begin with `http:` are read. Nothing here speaks TLS, so URLs that begin with
`https:` are refused like those of all other protocols.
-/

namespace ClusterDeploy

/-- A URL: the server, the segments of its path, and its query. -/
structure Url where
  server : Http.Server
  segments : List (List Char)
  query : Option (List Char)
  deriving DecidableEq, Repr, Inhabited

namespace Url

/-! ## Escaped characters -/

/-- Whether a character is a control character or no ASCII character. -/
def isExotic (c : Char) : Bool :=
  c.toNat < 0x20 || 0x7E < c.toNat

/-- Whether a character cannot stand in a path as it is. -/
def isEscapedInPath (c : Char) : Bool :=
  isExotic c || [' ', '"', '#', '<', '>', '?', '\x60', '\x7b', '\x7d'].contains c

/-- Whether a character cannot stand in a query as it is. -/
def isEscapedInQuery (c : Char) : Bool :=
  isExotic c || [' ', '"', '#', '<', '>', '\''].contains c

/-- A text with the characters of a set escaped. -/
def escapeAll (isEscaped : Char → Bool) (s : List Char) : List Char :=
  s.flatMap fun c => if isEscaped c then Text.escape c else [c]

/-! ## Paths -/

/-- A text in which escaped dots are dots. -/
def unescapeDots : List Char → List Char
  | '%' :: '2' :: e :: rest =>
    if e == 'e' || e == 'E' then '.' :: unescapeDots rest
    else '%' :: unescapeDots ('2' :: e :: rest)
  | c :: rest => c :: unescapeDots rest
  | [] => []

/-- Whether a segment means the directory itself. -/
def isSingleDot (segment : List Char) : Bool :=
  unescapeDots segment == ['.']

/-- Whether a segment means the directory above. -/
def isDoubleDot (segment : List Char) : Bool :=
  unescapeDots segment == ['.', '.']

/-- Whether a segment looks like the letter of a drive. -/
def isDrive (segment : List Char) : Bool :=
  match segment with
  | [letter, mark] => letter.isAlpha && (mark == ':' || mark == '|')
  | _ => false

/-- The directory above a directory. Above the root and above a drive there is none. -/
def above (dir : List (List Char)) : List (List Char) :=
  if dir.getLast?.any isDrive then dir else dir.dropLast

/-- Goes on from the segments of a directory along further segments. -/
def resolve : List (List Char) → List (List Char) → List (List Char)
  | dir, [] => dir
  | dir, [last] =>
    if isDoubleDot last then above dir ++ [[]]
    else if isSingleDot last then dir ++ [[]]
    else dir ++ [escapeAll isEscapedInPath last]
  | dir, segment :: rest =>
    if isDoubleDot segment then resolve (above dir) rest
    else if isSingleDot segment then resolve dir rest
    else resolve (dir ++ [escapeAll isEscapedInPath segment]) rest

/-- The segments of a path, which begins with a slash or is empty. -/
def pathOf (path : List Char) : List (List Char) :=
  match path with
  | [] => [[]]
  | _ :: rest => resolve [] (Text.splitAt '/' rest)

/-! ## Servers -/

/-- The host and what follows it, if the colons in brackets are part of the host. -/
def splitHost : Bool → List Char → List Char × List Char
  | _, [] => ([], [])
  | inBrackets, c :: rest =>
    if c == ':' && !inBrackets then ([], c :: rest)
    else
      let (host, after) := splitHost (if c == '[' then true else inBrackets && c != ']') rest
      (c :: host, after)

/-- Reads the number under which a server listens, after a colon if there is one. -/
def readNumber (s : List Char) : Option Nat :=
  match s with
  | [] | [':'] => some Http.usualNumber
  | _ :: digits => (Text.readNatural digits).filter (· < UInt16.size)

/-- Reads the server in a URL. -/
def readServer (authority : List Char) : Option Http.Server := do
  let (host, number) := splitHost false (authority.reverse.takeWhile (· != '@')).reverse
  return ⟨← Http.Host.parse host, ← readNumber number⟩

/-! ## Reading -/

/-- The text of a URL without the characters that do not count. -/
def clean (text : String) : List Char :=
  let isEnd (c : Char) : Bool := c.toNat ≤ 0x20
  let trimmed := ((text.toList.dropWhile isEnd).reverse.dropWhile isEnd).reverse
  trimmed.filter fun c => c != '\t' && c != '\n' && c != '\r'

/-- Splits a text before the first character of a set. -/
def splitBefore (isEnd : Char → Bool) (s : List Char) : List Char × List Char :=
  (s.takeWhile fun c => !isEnd c, s.dropWhile fun c => !isEnd c)

/-- The rest of a text after the name of the protocol. -/
def dropScheme : List Char → List Char → Option (List Char)
  | [], s => some s
  | _ :: _, [] => none
  | a :: name, b :: s => if a == b.toLower then dropScheme name s else none

/-- Reads the URL of an HTTP server. -/
def parse (text : String) : Option Url := do
  let rest ← dropScheme ['h', 't', 't', 'p', ':'] (clean text)
  let (hierarchical, _) := splitBefore (· == '#') rest
  let (location, query) := splitBefore (· == '?') hierarchical
  let slashed := (location.map fun c => if c == '\\' then '/' else c).dropWhile (· == '/')
  let (authority, path) := splitBefore (· == '/') slashed
  return {
    server := ← readServer authority
    segments := pathOf path
    query := match query with
      | [] => none
      | _ :: q => some (escapeAll isEscapedInQuery q) }

/-! ## Parameters -/

/-- Whether a character stands for itself in a parameter. -/
def isPlain (c : Char) : Bool :=
  c.isAlphanum || ['*', '-', '.', '_'].contains c

/-- A text as part of a parameter. -/
def formEncode (s : String) : List Char :=
  s.toList.flatMap fun c => if isPlain c then [c] else if c == ' ' then ['+'] else Text.escape c

/-- A parameter as part of a query. -/
def parameter (p : String × String) : List Char :=
  formEncode p.1 ++ '=' :: formEncode p.2

/-- Appends a parameter to a query. -/
def appendParameter (query : List Char) (p : String × String) : List Char :=
  if query.isEmpty then parameter p else query ++ '&' :: parameter p

/-- A URL with more parameters in its query. -/
def withParameters (u : Url) (parameters : List (String × String)) : Url :=
  match parameters with
  | [] => u
  | _ => { u with query := some (parameters.foldl appendParameter (u.query.getD [])) }

/-! ## Writing -/

/-- The text of the path. -/
def pathText (u : Url) : List Char :=
  u.segments.flatMap ('/' :: ·)

/-- What is sent of a URL: its path and its query. -/
def target (u : Url) : String :=
  let query := u.query.getD []
  String.ofList (u.pathText ++ if query.isEmpty then [] else '?' :: query)

end Url

end ClusterDeploy
