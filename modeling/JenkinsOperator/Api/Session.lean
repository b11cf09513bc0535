import JenkinsOperator.Api.Client
import JenkinsOperator.Api.Recorder
import JenkinsOperator.Cluster.Rehearsal

/-!
# Sessions with an API server

A `Session` answers the external calls of a pass. Calls on the API server become requests, which are
answered from a list of responses; calls on the collaborators go to a rehearsal. When the responses
run out, the response depends on the target alone.
-/

namespace JenkinsOperator

/-- A session with a server whose responses are given. -/
structure Session where
  collaborators : Rehearsal
  recorder : Recorder
  responses : List Response
  /-- The response to a request for a target once there are no more responses. -/
  otherwise : Target → Response
  /-- The requests so far, the last one first. -/
  requests : List Request

namespace Session

/-- The status of an object that is not there. -/
def notFound : Json :=
  .object [("status", .string "Failure"), ("message", .string "not found"),
    ("reason", .string "NotFound"), ("code", .int 404)]

/-- The response of a server that does not have what is asked for. -/
def absent : Response := ⟨404, notFound.text⟩

/-- A session in which nothing was requested yet, with a server that finds nothing once it has given
its responses. -/
def start (collaborators : Rehearsal) (instanceName : Option String) (responses : List Response) :
    Session :=
  ⟨collaborators, .start instanceName, responses, fun _ => absent, []⟩

/-- A session in which nothing was requested yet, with a server that always answers a target in the
same way. -/
def ofServer (collaborators : Rehearsal) (server : Target → Response) : Session :=
  ⟨collaborators, .start none, [], server, []⟩

/-- The result of an exchange. -/
def perform {α : Type} (s : Session) : Exchange α → Except Failure α × Session
  | .impossible failure => (.error failure, s)
  | .send request read =>
    (read (s.responses.head?.getD (s.otherwise request.target)),
      { s with responses := s.responses.tail, requests := request :: s.requests })

/-- Publishes a notification, and remembers it if the server accepts it. -/
def publish (s : Session) (object : Jenkins) (n : Notification) : Session :=
  let event := s.recorder.eventOf s.collaborators.now object n
  match s.perform (Recorder.exchange event) with
  | (.ok (), s) => { s with recorder := s.recorder.remember event }
  | (.error _, s) => s

/-- The answer of a collaborator. -/
def delegate (s : Session) (c : Call) : c.Answer × Session :=
  let (a, collaborators) := s.collaborators.answer c
  (a, { s with collaborators })

/-- The answer to a call. -/
def answer (c : Call) (s : Session) : c.Answer × Session :=
  match c with
  | .fetch identity => s.perform (Client.fetch identity)
  | .writeSpec object => s.perform (Client.writeSpec object)
  | .writeStatus object => s.perform (Client.writeStatus object)
  | .readConfigMap identity => s.perform (Client.readConfigMap identity)
  | .readSecret identity => s.perform (Client.readSecret identity)
  | .publish object n => ((), s.publish object n)
  | .acceptsSpec object => s.delegate (.acceptsSpec object)
  | .provision object => s.delegate (.provision object)
  | .ensureSeedJobs server object => s.delegate (.ensureSeedJobs server object)
  | .configureScripts server => s.delegate (.configureScripts server)
  | .runScripts server scripts object => s.delegate (.runScripts server scripts object)
  | .clock => s.delegate .clock

/-- The result of a program in the session. -/
def run {ε α : Type} (s : Session) (program : Program ε α) : Except ε α × Session :=
  program.run answer s

end Session

end JenkinsOperator
