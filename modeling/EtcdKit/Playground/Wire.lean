import EtcdKit.Json.Fields
import EtcdKit.Json.Reader
import EtcdKit.Playground.Request
import EtcdKit.Playground.Status
/-!
# Wire — what goes between a client and the playground, as JSON values

Each shape has a list of field names, a function that writes all fields, and a function that reads
them.  Almost every field may be missing.
-/
namespace EtcdKit.Playground

open Shape (orElse required)

namespace Connection

def wireNames : List String := ["WebPort", "User", "Deleted"]

def toJson (c : Connection) : Json :=
  .object [
    ("WebPort", .integer c.webPort.toNat),
    ("User", .string c.user),
    ("Deleted", .bool c.deleted)]

def ofJson? (value : Json) : Option Connection := do
  match ← value.fields? wireNames with
  | [webPort, user, deleted] =>
    return {
      webPort := ← orElse 0 Json.uint16? webPort
      user := ← orElse "" Json.string? user
      deleted := ← orElse false Json.bool? deleted }
  | _ => none

end Connection

namespace MemberStatus

def wireNames : List String :=
  ["Name", "ID", "Endpoint", "IsLeader", "State", "StateTxt", "DBSize", "DBSizeTxt", "Hash"]

def toJson (m : MemberStatus) : Json :=
  .object [
    ("Name", .string m.name),
    ("ID", .string m.id),
    ("Endpoint", .string m.endpoint),
    ("IsLeader", .bool m.isLeader),
    ("State", .string m.state),
    ("StateTxt", .string m.stateText),
    ("DBSize", .integer m.size.toNat),
    ("DBSizeTxt", .string m.sizeText),
    ("Hash", .integer m.hash.toInt)]

def ofJson? (value : Json) : Option MemberStatus := do
  match ← value.fields? wireNames with
  | [name, id, endpoint, isLeader, state, stateText, size, sizeText, hash] =>
    return {
      name := ← required Json.string? name
      id := ← orElse "" Json.string? id
      endpoint := ← orElse "" Json.string? endpoint
      isLeader := ← orElse false Json.bool? isLeader
      state := ← orElse "" Json.string? state
      stateText := ← orElse "" Json.string? stateText
      size := ← orElse 0 Json.uint64? size
      sizeText := ← orElse "" Json.string? sizeText
      hash := ← orElse 0 Json.int64? hash }
  | _ => none

end MemberStatus

namespace ServerStatus

def wireNames : List String :=
  ["PlaygroundActive", "ServerUptime", "UserN", "Users", "NodeStatuses"]

def toJson (s : ServerStatus) : Json :=
  .object [
    ("PlaygroundActive", .bool s.active),
    ("ServerUptime", .string s.uptime),
    ("UserN", .integer s.userCount.toNat),
    ("Users", .array (s.users.map .string)),
    ("NodeStatuses", .array (s.members.map MemberStatus.toJson))]

/-- A status from a JSON value; a playground that does not say so is active. -/
def ofJson? (value : Json) : Option ServerStatus := do
  match ← value.fields? wireNames with
  | [active, uptime, userCount, users, members] =>
    return {
      active := ← orElse true Json.bool? active
      uptime := ← orElse "" Json.string? uptime
      userCount := ← orElse 0 Json.uint64? userCount
      users := ← orElse [] (Json.list? Json.string?) users
      members := ← orElse [] (Json.list? MemberStatus.ofJson?) members }
  | _ => none

end ServerStatus

namespace KeyValue

def wireNames : List String := ["Key", "Value"]

def toJson (kv : KeyValue) : Json := .object [("Key", .string kv.key), ("Value", .string kv.value)]

def ofJson? (value : Json) : Option KeyValue := do
  match ← value.fields? wireNames with
  | [key, value] =>
    return {
      key := ← orElse "" Json.string? key
      value := ← orElse "" Json.string? value }
  | _ => none

end KeyValue

def Action.ofJson? (value : Json) : Option Action := value.choice?.bind Action.ofText?

namespace Request

def wireNames : List String := ["Action", "RangePrefix", "Endpoints", "KeyValue"]

def toJson (r : Request) : Json :=
  .object [
    ("Action", .string r.action.text),
    ("RangePrefix", .bool r.byPrefix),
    ("Endpoints", .array (r.endpoints.map .string)),
    ("KeyValue", r.keyValue.toJson)]

def ofJson? (value : Json) : Option Request := do
  match ← value.fields? wireNames with
  | [action, byPrefix, endpoints, keyValue] =>
    return {
      action := ← required Action.ofJson? action
      byPrefix := ← orElse false Json.bool? byPrefix
      endpoints := ← orElse [] (Json.list? Json.string?) endpoints
      keyValue := ← orElse {} KeyValue.ofJson? keyValue }
  | _ => none

end Request

namespace Response

def wireNames : List String := ["ClientRequest", "Success", "Result", "ResultLines", "KeyValues"]

def toJson (r : Response) : Json :=
  .object [
    ("ClientRequest", r.request.toJson),
    ("Success", .bool r.success),
    ("Result", .string r.result),
    ("ResultLines", .array (r.resultLines.map .string)),
    ("KeyValues", .array (r.keyValues.map KeyValue.toJson))]

def ofJson? (value : Json) : Option Response := do
  match ← value.fields? wireNames with
  | [request, success, result, resultLines, keyValues] =>
    return {
      request := ← orElse {} Request.ofJson? request
      success := ← orElse false Json.bool? success
      result := ← orElse "" Json.string? result
      resultLines := ← orElse [] (Json.list? Json.string?) resultLines
      keyValues := ← orElse [] (Json.list? KeyValue.ofJson?) keyValues }
  | _ => none

end Response

def decodeText? {α : Type} (ofJson? : Json → Option α) (text : String) : Option α :=
  (Json.read text).bind ofJson?

end EtcdKit.Playground
