import JenkinsOperator.Api.Url
import JenkinsOperator.Failure
import JenkinsOperator.Json.Fields
import JenkinsOperator.Json.Reader
import JenkinsOperator.Text.Quoted

/-!
# Requests and responses

One request to the API server and its response. An `Exchange` is a request with the reading of its
response, or a failure that keeps the request from being made.

A response from 400 to 599 is a refusal. What it says is taken from its body if that is a status
document, whatever the code of the response; otherwise it is made up from the response itself. Every
other response must hold the expected document.
-/

namespace JenkinsOperator

/-- The method of a request. -/
inductive Method where
  | get
  | put
  | patch
  | post
  deriving DecidableEq

/-- The word for a method. -/
def Method.word : Method → String
  | .get => "GET"
  | .put => "PUT"
  | .patch => "PATCH"
  | .post => "POST"

/-- The content type of a whole document. -/
def documentType : String := "application/json"

/-- The content type of a merge patch. -/
def mergePatchType : String := "application/merge-patch+json"

/-- A request to the API server. -/
structure Request where
  method : Method
  target : Target
  /-- The content type and the body. -/
  content : Option (String × Json)

/-- A response of the API server. -/
structure Response where
  code : Nat
  body : String
  deriving DecidableEq

/-- A request with the reading of its response, or the failure that stands in its way. -/
inductive Exchange (α : Type) where
  | impossible (failure : Failure)
  | send (request : Request) (read : Response → Except Failure α)

/-- The phrase of a refusal. -/
def refusalPhrase (code : Nat) : String :=
  let phrases := [(400, "Bad Request"), (401, "Unauthorized"), (402, "Payment Required"),
    (403, "Forbidden"), (404, "Not Found"), (405, "Method Not Allowed"), (406, "Not Acceptable"),
    (407, "Proxy Authentication Required"), (408, "Request Timeout"), (409, "Conflict"),
    (410, "Gone"), (411, "Length Required"), (412, "Precondition Failed"),
    (413, "Payload Too Large"), (414, "URI Too Long"), (415, "Unsupported Media Type"),
    (416, "Range Not Satisfiable"), (417, "Expectation Failed"), (418, "I'm a teapot"),
    (421, "Misdirected Request"), (422, "Unprocessable Entity"), (423, "Locked"),
    (424, "Failed Dependency"), (425, "Too Early"), (426, "Upgrade Required"),
    (428, "Precondition Required"), (429, "Too Many Requests"),
    (431, "Request Header Fields Too Large"), (451, "Unavailable For Legal Reasons"),
    (500, "Internal Server Error"), (501, "Not Implemented"), (502, "Bad Gateway"),
    (503, "Service Unavailable"), (504, "Gateway Timeout"), (505, "HTTP Version Not Supported"),
    (506, "Variant Also Negotiates"), (507, "Insufficient Storage"), (508, "Loop Detected"),
    (510, "Not Extended"), (511, "Network Authentication Required")]
  (phrases.lookup code).getD "<unknown status code>"

namespace ApiStatus

/-- The code of a status document, a number of 16 bits. -/
def codeOfJson? (json : Json) : Option Nat :=
  match json.int? with
  | some n => if 0 ≤ n ∧ n < 65536 then some n.toNat else none
  | none => none

/-- The status of a document; status and code must be present. -/
def ofJson? (json : Json) : Option ApiStatus := do
  let fields ← json.fields? ["status", "message", "reason", "code"]
  return { status := ← fields.required "status" Json.string?,
           message := ← fields.defaulted "message" "" Json.string?,
           reason := ← fields.defaulted "reason" "" Json.string?,
           code := ← fields.required "code" codeOfJson? }

/-- The status of a response whose body is no status document. -/
def ofResponse (response : Response) : ApiStatus where
  status := s!"{response.code} {refusalPhrase response.code}"
  code := response.code
  reason := "Failed to parse error data"
  message := Text.quoted response.body

end ApiStatus

namespace Response

/-- Whether the response is a refusal. -/
def isRefusal (r : Response) : Bool := decide (400 ≤ r.code) && decide (r.code < 600)

/-- What a refusal says. -/
def refusal (r : Response) : ApiStatus :=
  match (Json.ofText? r.body).bind ApiStatus.ofJson? with
  | some status => status
  | none => .ofResponse r

/-- The document of a response, as read by `decode?`. -/
def document {α : Type} (decode? : Json → Option α) (r : Response) : Except ApiFault α :=
  if r.isRefusal then .error (.refused r.refusal)
  else
    match (Json.ofText? r.body).bind decode? with
    | some value => .ok value
    | none => .error .unreadable

/-- The document of a response, or nothing if the refusal gives `NotFound` as its reason. -/
def documentIfFound {α : Type} (decode? : Json → Option α) (r : Response) :
    Except ApiFault (Option α) :=
  match r.document decode? with
  | .ok value => .ok (some value)
  | .error (.refused status) =>
    if status.reason = "NotFound" then .ok none else .error (.refused status)
  | .error fault => .error fault

end Response

/-- A fault with what was being done. -/
def during {α : Type} (operation : String) : Except ApiFault α → Except Failure α
  | .ok value => .ok value
  | .error fault => .error (.api operation fault)

namespace Exchange

/-- The exchange of a request to a target that may turn out invalid. -/
def toTarget {α : Type} (operation : String) (method : Method) (target : String)
    (content : Option (String × Json)) (read : Response → Except Failure α) : Exchange α :=
  match Target.ofText? target with
  | some t => .send ⟨method, t, content⟩ read
  | none => .impossible (.api operation .unsendable)

end Exchange

end JenkinsOperator
