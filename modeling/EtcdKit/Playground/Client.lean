import EtcdKit.Http.Server
import EtcdKit.Playground.Wire
import EtcdKit.Text.Blank
import EtcdKit.Url.Basic
/-!
# Client — calls to the playground over HTTP

Every call is one request to a neighbour of the playground's address.  An answer outside the 200s is
an error with the best reason that its body gives.
-/
namespace EtcdKit.Playground

inductive Call where
  | connect
  | disconnect
  | status
  | submit (request : Request)
  deriving DecidableEq, Repr

namespace Call

def method : Call → Http.Method
  | .connect => .get
  | .disconnect => .delete
  | .status => .get
  | .submit _ => .post

def place : Call → String
  | .connect => "conn"
  | .disconnect => "conn"
  | .status => "server-status"
  | .submit _ => "client-request"

def body : Call → Option Json
  | .submit request => some request.toJson
  | _ => none

def request (c : Call) (endpoint : Url) : Except Error Http.Request :=
  match endpoint.neighbour? c.place with
  | some url => .ok { method := c.method, url := url, body := c.body }
  | none =>
    .error (.backend ("Invalid playground URL for '" ++ c.place ++
      "': relative URL with a cannot-be-a-base base") none)

end Call

def bodyText? (name : String) (value : Json) : Option String :=
  (value.lastMember? name).bind Json.string?

def givenReason? (body : String) : Option String :=
  match Json.readMeaningful body with
  | some value => (bodyText? "Result" value).or (bodyText? "message" value)
  | none => none

/-- The reason of an answer outside the 200s: what its body says, or the body itself, or else a
general one. -/
def reason (answer : Http.Answer) : String :=
  if Text.isBlank answer.text then
    if answer.isServerError then "Server error" else "Playground request failed"
  else (givenReason? answer.text).getD (Text.trim answer.text)

def accept : Option Http.Answer → Except Error Http.Answer
  | none => .error (.backend "HTTP request failed" none)
  | some answer =>
    if answer.isSuccess then .ok answer
    else .error (.backend (reason answer) (some answer.status))

def decodeAnswer {α : Type} (ofJson? : Json → Option α) (answer : Http.Answer) : Except Error α :=
  match decodeText? ofJson? answer.text with
  | some value => .ok value
  | none => .error (.backend "Failed to parse response" (some answer.status))

structure Client where
  endpoint : Url
  server : Http.Server := {}
  calls : List Call := []

namespace Client

def call (c : Client) (k : Call) : Except Error Http.Answer × Client :=
  let called := { c with calls := c.calls ++ [k] }
  match k.request c.endpoint with
  | .error e => (.error e, called)
  | .ok request =>
    let (answer, server) := c.server.exchange request
    (accept answer, { called with server := server })

def callFor {α : Type} (ofJson? : Json → Option α) (c : Client) (k : Call) :
    Except Error α × Client :=
  let (answer, client) := c.call k
  (answer.bind (decodeAnswer ofJson?), client)

def connect (c : Client) : Except Error Connection × Client := c.callFor Connection.ofJson? .connect

def disconnect (c : Client) : Except Error Unit × Client :=
  let (answer, client) := c.call .disconnect
  (answer.map fun _ => (), client)

def status (c : Client) : Except Error ServerStatus × Client :=
  c.callFor ServerStatus.ofJson? .status

def submit (c : Client) (r : Request) : Except Error Response × Client :=
  c.callFor Response.ofJson? (.submit r)

end Client
end EtcdKit.Playground
