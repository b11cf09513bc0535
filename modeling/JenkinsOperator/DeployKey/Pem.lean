import JenkinsOperator.DeployKey.Base64
import JenkinsOperator.Text.Blank
import JenkinsOperator.Text.Cut

/-!
# PEM blocks

A block stands between the lines `-----BEGIN tag-----` and `-----END tag-----`. Only the first block
of a text is read. Markers are found in one pass: at a byte that does not go on with the marker the
search starts afresh at the byte after it, so a marker that begins inside a failed attempt is
missed.

Between the lines may stand headers, then an empty line, then the payload in Base64 with blanks
anywhere. What the tag says is not looked at.
-/

namespace JenkinsOperator.Pem

/-- The bytes of a text of ASCII characters. -/
def ascii (s : String) : List UInt8 := s.toList.map fun c => UInt8.ofNat c.toNat

/-- Walks to the end of the first match of a marker. The value is the number of bytes passed and the
bytes that follow; `pending` is what is still missing of the marker. -/
def scan (marker : List UInt8) : List UInt8 → List UInt8 → Option (Nat × List UInt8)
  | [], input => some (0, input)
  | _ :: _, [] => none
  | expected :: pending, b :: rest =>
    (scan marker (if b = expected then pending else marker) rest).map fun (n, r) => (n + 1, r)

/-- The bytes before and after the first match of a marker. -/
def until? (marker input : List UInt8) : Option (List UInt8 × List UInt8) :=
  (scan marker marker input).map fun (passed, rest) =>
    (input.take (passed - marker.length), rest)

/-- Whether a byte is a space, a tab or part of a line end. -/
def isBlankByte (b : UInt8) : Bool := b == 32 || b == 9 || b == 10 || b == 13

/-- The byte sections of a block. -/
structure Sections where
  beginTag : List UInt8
  headers : List UInt8
  payload : List UInt8
  endTag : List UInt8

/-- Headers and payload: the headers end at the first empty line, if there is one. -/
def headersAndPayload (body : List UInt8) : List UInt8 × List UInt8 :=
  match until? (ascii "\n\n") body with
  | some parts => parts
  | none =>
    match until? (ascii "\r\n\r\n") body with
    | some parts => parts
    | none => ([], body)

/-- The sections of the first block. -/
def sections? (input : List UInt8) : Option Sections := do
  let (_, rest) ← until? (ascii "-----BEGIN ") input
  let (beginTag, rest) ← until? (ascii "-----") rest
  let (body, rest) ← until? (ascii "-----END ") (rest.dropWhile isBlankByte)
  let (endTag, _) ← until? (ascii "-----") rest
  let (headers, payload) := headersAndPayload body
  return ⟨beginTag, headers, payload, endTag⟩

/-- Why a text has no readable block. -/
inductive Error where
  /-- One of the markers is missing. -/
  | framing
  /-- The first marker has an empty tag. -/
  | noBeginTag
  /-- The last marker has an empty tag. -/
  | noEndTag
  /-- The tags differ. -/
  | tagMismatch (beginTag endTag : String)
  /-- A header line has no colon. -/
  | header (line : String)
  /-- The payload is not Base64. -/
  | payload
  /-- A section is not UTF-8. -/
  | encoding
  deriving DecidableEq

/-- The message of an unreadable block. -/
def Error.message : Error → String
  | .framing => "malformedframing"
  | .noBeginTag => "missing BEGIN tag"
  | .noEndTag => "missing END tag"
  | .tagMismatch b e => s!"mismatching BEGIN (\"{b}\") and END (\"{e}\") tags"
  | .header line => s!"invalid header: {line}"
  | .payload => "invalid data"
  | .encoding => "invalid utf-8 value"

/-- The text that bytes encode. -/
def utf8? (bytes : List UInt8) : Option String := String.fromUTF8? (ByteArray.mk bytes.toArray)

/-- The text that bytes encode, or the fault of the section. -/
def utf8 (bytes : List UInt8) : Except Error String :=
  match utf8? bytes with
  | some s => .ok s
  | none => .error .encoding

/-- A line without the carriage return at its end. -/
def withoutReturn (line : List Char) : List Char :=
  if line.getLast? = some '\r' then line.dropLast else line

/-- Lines from the parts between line feeds: what follows the last line feed is a line only if it is
not empty, and then it keeps a carriage return at its end. -/
def linesOf : List (List Char) → List (List Char)
  | [] => []
  | [last] => if last.isEmpty then [] else [last]
  | part :: rest => withoutReturn part :: linesOf rest

/-- The lines of a text. -/
def lines (text : List Char) : List (List Char) := linesOf (Text.splitOn '\n' text)

/-- The first header line without a colon. -/
def badHeader? (headers : List Char) : Option (List Char) :=
  (lines headers).find? fun line => !line.contains ':'

/-- The payload of the first block. -/
def payload (input : List UInt8) : Except Error (List UInt8) :=
  match sections? input with
  | none => .error .framing
  | some s => do
    let beginTag ← utf8 s.beginTag
    if beginTag.isEmpty then throw .noBeginTag
    let endTag ← utf8 s.endTag
    if endTag.isEmpty then throw .noEndTag
    if beginTag ≠ endTag then throw (.tagMismatch beginTag endTag)
    let text ← utf8 s.payload
    match Base64.decode? (text.toList.filter fun c => !Text.isBlank c) with
    | none => throw .payload
    | some bytes =>
      let headers ← utf8 s.headers
      match badHeader? headers.toList with
      | some line => throw (.header (String.ofList line))
      | none => return bytes

/-- Characters broken into lines of a width of at least one, each followed by the line end. -/
def wrap (width : Nat) (lineEnd : List Char) (cs : List Char) : List Char :=
  match cs with
  | [] => []
  | c :: rest =>
    c :: rest.take (width - 1) ++ lineEnd ++ wrap width lineEnd (rest.drop (width - 1))
termination_by cs.length
decreasing_by
  simp only [List.length_drop, List.length_cons]
  omega

/-- The text of a block without headers. -/
def render (tag : List Char) (width : Nat) (lineEnd : List Char) (bytes : List UInt8) : List Char :=
  "-----BEGIN ".toList ++ tag ++ "-----".toList ++ lineEnd
    ++ wrap width lineEnd (Base64.encode bytes)
    ++ "-----END ".toList ++ tag ++ "-----".toList ++ lineEnd

end JenkinsOperator.Pem
