import EtcdKit.Playground.Action
/-!
# Request — what a client sends to the playground, and what comes back
-/
namespace EtcdKit.Playground

structure KeyValue where
  key : String := ""
  value : String := ""
  deriving DecidableEq, Repr

namespace KeyValue

/-- The longest text that is shown in full. -/
def shownLength : Nat := 7

/-- A text cut to the length that is shown; dots stand for the rest. -/
def shorten (s : String) : String :=
  if shownLength < s.toList.length then String.ofList (s.toList.take shownLength) ++ "..." else s

def summary (kv : KeyValue) : String :=
  "key: " ++ shorten kv.key ++ ", value: " ++ shorten kv.value

end KeyValue

structure Request where
  action : Action := .write
  /-- The key is the front of many keys. -/
  byPrefix : Bool := false
  /-- Where the cluster carries it out; empty for every member. -/
  endpoints : List String := []
  keyValue : KeyValue := {}
  deriving DecidableEq, Repr

def Request.describe (r : Request) : String :=
  r.action.capitals ++
  (if r.action.needsKey then " (" ++ r.keyValue.summary ++ ")" else "") ++
  (if r.byPrefix then " [prefix]" else "") ++
  (match r.endpoints with
    | [] => ""
    | first :: _ => " via " ++ first)

structure Response where
  request : Request := {}
  success : Bool := false
  result : String := ""
  resultLines : List String := []
  keyValues : List KeyValue := []
  deriving DecidableEq, Repr

/-- The lines for the log: the lines of the result, or else the result itself unless it is empty. -/
def Response.logLines (r : Response) : List String :=
  if r.resultLines.isEmpty then (if r.result = "" then [] else [r.result]) else r.resultLines

end EtcdKit.Playground
