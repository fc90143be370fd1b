import RepoAudit.Decimal.Whole
import RepoAudit.Json.Access
import RepoAudit.Json.Writer
import RepoAudit.Text.Case

/-!
The service that starts scans on request. A request names a repository in its body; it is answered
once, and a scan is started exactly if the answer is a success.
-/
namespace RepoAudit.Service

/-- The body of a request. It is at hand, or it is sent over a connection, from which no more than
`room` bytes can be asked for at once. -/
inductive Body where
  | held (bytes : List UInt8)
  | sent (bytes : List UInt8) (room : Nat)

instance : Coe (List UInt8) Body := ⟨.held⟩

structure Request where
  path : Text
  headers : List (Text × Text)
  body : Body

/-- How a request is answered. -/
inductive Status where
  | success
  | badRequest
  | notFound
  | internalError
deriving DecidableEq, Repr

def Status.code : Status → Nat
  | success => 200
  | badRequest => 400
  | notFound => 404
  | internalError => 500

def Status.phrase : Status → Text
  | success => "OK"
  | badRequest => "Bad Request"
  | notFound => "Not Found"
  | internalError => "Internal Server Error"

structure Response where
  status : Status
  message : Text

namespace Response

/-- The lines before the body. -/
def head (r : Response) : List Text := [
  "HTTP/1.0 " ++ Text.ofNat r.status.code ++ " " ++ r.status.phrase,
  "Content-type: application/json"]

/-- The body: whether the request succeeded, and a message. -/
def body (r : Response) : Json :=
  let word : Text := if r.status = .success then "success" else "error"
  .obj [("status", .str word), ("message", .str r.message)]

end Response

namespace Body

/-- The bound of lengths: they have to fit into 64 bits with a sign. -/
def lengthBound : Int := Int.pow 2 63

/-- The most bytes that one piece can have. What is kept beside the bytes takes up the rest. -/
def longest : Int := lengthBound - 34

/-- The bytes that are read for a length, and never more than there are. A negative length stands
for the whole body; over a connection only `-1` does, and for any other the bytes that are asked for
have to find room, whether or not they are there. -/
def read (length : Int) (body : Body) : Except Fault (List UInt8) :=
  if length < -lengthBound || lengthBound ≤ length then .error .indexTooLarge
  else match body with
    | held bytes => .ok (if length < 0 then bytes else bytes.take length.toNat)
    | sent bytes room =>
      if length < -1 then .error .negativeLength
      else if length < 0 then .ok bytes
      else if longest < length then .error .bytesTooLong
      else if room < length.toNat then .error .outOfMemory
      else .ok (bytes.take length.toNat)

end Body

namespace Request

/-- The first header of a name, in any case of letters. -/
def header? (r : Request) (name : Text) : Option Text :=
  (r.headers.find? fun (n, _) => n.lower == name.lower).map (·.2)

/-- The announced length of the body. A header with lone surrogates has no text to read; a server
hands no such header over. -/
def contentLength (r : Request) : Except Fault Int :=
  match r.header? "Content-Length" with
  | some t =>
    if (t.unencodable? .strict).isSome then .error (.notInteger "Header") else Decimal.readWhole t
  | none => .error (.notInteger "NoneType")

def value (r : Request) : Except Fault Json := do
  match Utf8.decode (← r.body.read (← r.contentLength)) with
  | .error bad => throw (.undecodable bad)
  | .ok chars => match Json.read (Text.ofChars chars) with
    | .error e => throw (.document e)
    | .ok v => return v

def repositoryField : Text := "github_repo"

def repository (r : Request) : Except Fault Json := do
  let v ← r.value
  if ← v.holds repositoryField then v.field repositoryField
  else throw (.missingField repositoryField)

end Request

/-- An answer, and the repository and directory of the scan that was started. -/
structure Reply where
  response : Response
  started : Option (Json × Text) := none

def endpoint : Text := "/api/v1/scan"

/-- The answer to a request that failed. -/
def refusal (fault : Fault) : Response :=
  match fault with
  | .document (.flaw ..) => ⟨.badRequest, "Invalid JSON in request body"⟩
  | fault =>
    if fault.isBadValue then ⟨.badRequest, fault.message⟩
    else ⟨.internalError, "Internal server error: " ++ fault.message⟩

/-- Handles a request. `directory` is what making a directory for the scan gives; it is made only
if the request names a repository. -/
def handle (directory : Except Fault Text) (r : Request) : Reply :=
  if r.path == endpoint then
    match r.repository with
    | .error fault => { response := refusal fault }
    | .ok repository => match directory with
      | .error fault => { response := refusal fault }
      | .ok path => {
          response := ⟨.success, "Scan initiated for repository: " ++ repository.display⟩
          started := some (repository, path) }
  else { response := ⟨.notFound, "Endpoint not found"⟩ }

/-- Where a server listens. -/
structure Address where
  host : Json := .str []
  portNumber : Json := .int 8000

namespace Address

def ofArguments (arguments : List (Text × Json)) : Except Fault Address :=
  arguments.foldlM (fun a (name, value) =>
    if name == "host" then .ok { a with host := value }
    else if name == "port" then .ok { a with portNumber := value }
    else .error (.unexpectedKeyword "start_server" name)) {}

def announcement [Output] (a : Address) : Except Fault Text :=
  Text.printed ("Scan server running on http://" ++ (a.host.orElse (.str "localhost")).display
    ++ ":" ++ a.portNumber.display)

end Address

end RepoAudit.Service
