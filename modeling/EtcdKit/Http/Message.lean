import EtcdKit.Json.Value
import EtcdKit.Url.Basic
/-!
# Message — what a client and a server say to each other over HTTP
-/
namespace EtcdKit.Http

inductive Method where
  | get
  | post
  | delete
  deriving DecidableEq, Repr

def Method.text : Method → String
  | .get => "GET"
  | .post => "POST"
  | .delete => "DELETE"

structure Request where
  method : Method
  url : Url
  body : Option Json := none

def Request.isSendable (r : Request) : Bool := r.url.scheme == "http" || r.url.scheme == "https"

structure Answer where
  status : Nat
  /-- None if the server breaks off before the body has ended. -/
  body : Option String
  deriving DecidableEq, Repr

/-- The text of the body; one that breaks off counts as empty. -/
def Answer.text (a : Answer) : String := a.body.getD ""

def Answer.isSuccess (a : Answer) : Bool := 200 ≤ a.status && a.status < 300

def Answer.isServerError (a : Answer) : Bool := 500 ≤ a.status && a.status < 600

end EtcdKit.Http
