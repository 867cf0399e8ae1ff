import EtcdKit.Http.Message
/-!
# Server — a server whose answers are prepared

The server gives its answers in order, one for each request that reaches it, and notes the requests.
It may break off without an answer; when all answers have been given, it reports a failure of its
own.  A server that does not listen is reached by no request.
-/
namespace EtcdKit.Http

structure Server where
  listens : Bool := false
  /-- The answers that are left; where there is none, the server breaks off. -/
  answers : List (Option Answer) := []
  received : List Request := []

namespace Server

def exhausted : Answer := ⟨500, ""⟩

/-- Sends a request; there is no answer if it does not reach the server or the server breaks off. -/
def exchange (s : Server) (r : Request) : Option Answer × Server :=
  if s.listens && r.isSendable then
    match s.answers with
    | [] => (some exhausted, { s with received := s.received ++ [r] })
    | answer :: rest => (answer, { s with answers := rest, received := s.received ++ [r] })
  else (none, s)

end Server
end EtcdKit.Http
