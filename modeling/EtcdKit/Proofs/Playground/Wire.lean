import EtcdKit.Playground.Wire
import EtcdKit.Proofs.Json.ReadBack
import EtcdKit.Proofs.Shape.Schema
/-!
# Wire — every shape is decoded from what an object holds of it

The shapes are written down as schemas: the name of each field on the wire, the kind of its values,
and its value where the member is missing.  An object holds a value of a shape if its members say so,
in any order and beside members of any other names.  Such an object is decoded to that value and to
no other, and the object that a shape is written as is one (`Carried`).
-/
namespace EtcdKit.Playground

open Shape (Field Kind Once Says once_of_nodup orElse_of_tells required_of_tells says_of_forall₂)

/-! ## Kinds of JSON values -/

namespace Wire

/-- Strings. -/
def text : Kind Json String where Means v s := v = .string s

/-- Truth values. -/
def truth : Kind Json Bool where Means v b := v = .bool b

/-- Numbers of 16 bits. -/
def uint16 : Kind Json UInt16 where Means v n := v = .integer n.toNat

/-- Numbers of 64 bits. -/
def uint64 : Kind Json UInt64 where Means v n := v = .integer n.toNat

/-- Numbers of 64 bits with a sign. -/
def int64 : Kind Json Int64 where Means v n := v = .integer n.toInt

/-- The words of the actions. -/
def action : Kind Json Action where Means v a := v = .string a.text

/-- Arrays whose items mean the values one by one. -/
def listOf {α : Type} (kind : Kind Json α) : Kind Json (List α) where
  Means v as := ∃ items, v = .array items ∧ List.Forall₂ kind.Means items as

/-- Objects with each field at most once, and with whatever other members. -/
def objectOf {ρ : Type} (fields : List (Field Json ρ)) : Kind Json ρ where
  Means v r := ∃ members, v = .object members ∧ (∀ f ∈ fields, Once f.name members) ∧
    Says fields members r

end Wire

/-! ## The shapes -/

/-- The fields of a connection. -/
def Connection.fields : List (Field Json Connection) :=
  [⟨"WebPort", Wire.uint16, webPort, some 0⟩,
    ⟨"User", Wire.text, user, some ""⟩,
    ⟨"Deleted", Wire.truth, deleted, some false⟩]

/-- The fields of a member; it has no default name. -/
def MemberStatus.fields : List (Field Json MemberStatus) :=
  [⟨"Name", Wire.text, name, none⟩,
    ⟨"ID", Wire.text, id, some ""⟩,
    ⟨"Endpoint", Wire.text, endpoint, some ""⟩,
    ⟨"IsLeader", Wire.truth, isLeader, some false⟩,
    ⟨"State", Wire.text, state, some ""⟩,
    ⟨"StateTxt", Wire.text, stateText, some ""⟩,
    ⟨"DBSize", Wire.uint64, size, some 0⟩,
    ⟨"DBSizeTxt", Wire.text, sizeText, some ""⟩,
    ⟨"Hash", Wire.int64, hash, some 0⟩]

/-- The fields of a status; a playground that does not say so is active. -/
def ServerStatus.fields : List (Field Json ServerStatus) :=
  [⟨"PlaygroundActive", Wire.truth, active, some true⟩,
    ⟨"ServerUptime", Wire.text, uptime, some ""⟩,
    ⟨"UserN", Wire.uint64, userCount, some 0⟩,
    ⟨"Users", Wire.listOf Wire.text, users, some []⟩,
    ⟨"NodeStatuses", Wire.listOf (Wire.objectOf MemberStatus.fields), members, some []⟩]

/-- The fields of a key with its value. -/
def KeyValue.fields : List (Field Json KeyValue) :=
  [⟨"Key", Wire.text, key, some ""⟩, ⟨"Value", Wire.text, value, some ""⟩]

/-- The fields of a request; it has no default action. -/
def Request.fields : List (Field Json Request) :=
  [⟨"Action", Wire.action, action, none⟩,
    ⟨"RangePrefix", Wire.truth, byPrefix, some false⟩,
    ⟨"Endpoints", Wire.listOf Wire.text, endpoints, some []⟩,
    ⟨"KeyValue", Wire.objectOf KeyValue.fields, keyValue, some {}⟩]

/-- The fields of a response. -/
def Response.fields : List (Field Json Response) :=
  [⟨"ClientRequest", Wire.objectOf Request.fields, request, some {}⟩,
    ⟨"Success", Wire.truth, success, some false⟩,
    ⟨"Result", Wire.text, result, some ""⟩,
    ⟨"ResultLines", Wire.listOf Wire.text, resultLines, some []⟩,
    ⟨"KeyValues", Wire.listOf (Wire.objectOf KeyValue.fields), keyValues, some []⟩]

/-! ## Values of each kind are read -/

namespace Wire

variable {α ρ : Type} {v : Json}

@[simp] theorem text_means {s : String} : text.Means v s ↔ v = .string s := Iff.rfl

@[simp] theorem truth_means {b : Bool} : truth.Means v b ↔ v = .bool b := Iff.rfl

@[simp] theorem uint16_means {n : UInt16} : uint16.Means v n ↔ v = .integer n.toNat := Iff.rfl

@[simp] theorem uint64_means {n : UInt64} : uint64.Means v n ↔ v = .integer n.toNat := Iff.rfl

@[simp] theorem int64_means {n : Int64} : int64.Means v n ↔ v = .integer n.toInt := Iff.rfl

@[simp] theorem action_means {a : Action} : action.Means v a ↔ v = .string a.text := Iff.rfl

theorem string?_of_means {s : String} (h : text.Means v s) : v.string? = some s := by
  obtain rfl := h
  rfl

theorem bool?_of_means {b : Bool} (h : truth.Means v b) : v.bool? = some b := by
  obtain rfl := h
  rfl

theorem natBelow?_ofNat {bound n : Nat} (h : n < bound) :
    (Json.integer n).natBelow? bound = some n := by
  have hn : (0 : Int) ≤ n ∧ (n : Int) < bound := ⟨Int.natCast_nonneg n, Int.ofNat_lt.2 h⟩
  rw [Json.natBelow?, if_pos hn]
  rfl

theorem uint16?_of_means {n : UInt16} (h : uint16.Means v n) : v.uint16? = some n := by
  obtain rfl := h
  rw [Json.uint16?, natBelow?_ofNat n.toNat_lt, Option.map_some, UInt16.ofNat_toNat]

theorem uint64?_of_means {n : UInt64} (h : uint64.Means v n) : v.uint64? = some n := by
  obtain rfl := h
  rw [Json.uint64?, natBelow?_ofNat n.toNat_lt, Option.map_some, UInt64.ofNat_toNat]

theorem int64?_of_means {n : Int64} (h : int64.Means v n) : v.int64? = some n := by
  obtain rfl := h
  have hn : -(Text.signedLimit : Int) ≤ n.toInt ∧ n.toInt < Text.signedLimit :=
    ⟨n.le_toInt, n.toInt_lt⟩
  rw [Json.int64?, if_pos hn, Int64.ofInt_toInt]

theorem actionOfJson?_of_means {a : Action} (h : action.Means v a) : Action.ofJson? v = some a := by
  obtain rfl := h
  exact Action.ofText?_text a

theorem list?_of_means {kind : Kind Json α} {read : Json → Option α} {as : List α}
    (hread : ∀ v a, kind.Means v a → read v = some a) (h : (listOf kind).Means v as) :
    v.list? read = some as := by
  obtain ⟨items, rfl, heach⟩ := h
  rw [Json.list?]
  induction heach with
  | nil => rfl
  | cons hitem _ ih => rw [List.mapM_cons, hread _ _ hitem, ih]; rfl

theorem fields?_eq_lookups {fields : List (Field Json ρ)} {members : List (String × Json)}
    (honce : ∀ f ∈ fields, Once f.name members) :
    (Json.object members).fields? (fields.map Field.name) =
      some (fields.map fun f => members.lookup f.name) := by
  rw [Json.fields?, Shape.byName?_eq_lookups, List.map_map]
  · rfl
  · intro name hname
    obtain ⟨f, hf, rfl⟩ := List.mem_map.1 hname
    exact honce f hf

end Wire

theorem Connection.ofJson?_of_means {v : Json} {c : Connection}
    (h : (Wire.objectOf fields).Means v c) : ofJson? v = some c := by
  obtain ⟨members, rfl, honce, hsaid⟩ := h
  have hfields : (Json.object members).fields? wireNames = _ := Wire.fields?_eq_lookups honce
  simp only [Says, fields, List.forall_mem_cons] at hsaid
  obtain ⟨hport, huser, hdeleted, -⟩ := hsaid
  have hport := orElse_of_tells (fun _ => Wire.uint16?_of_means) hport
  have huser := orElse_of_tells (fun _ => Wire.string?_of_means) huser
  have hdeleted := orElse_of_tells (fun _ => Wire.bool?_of_means) hdeleted
  rw [ofJson?, hfields]
  simp [fields, hport, huser, hdeleted]

theorem MemberStatus.ofJson?_of_means {v : Json} {m : MemberStatus}
    (h : (Wire.objectOf fields).Means v m) : ofJson? v = some m := by
  obtain ⟨members, rfl, honce, hsaid⟩ := h
  have hfields : (Json.object members).fields? wireNames = _ := Wire.fields?_eq_lookups honce
  simp only [Says, fields, List.forall_mem_cons] at hsaid
  obtain ⟨hname, hid, hendpoint, hleader, hstate, hstateText, hsize, hsizeText, hhash, -⟩ := hsaid
  have hname := required_of_tells (fun _ => Wire.string?_of_means) hname
  have hid := orElse_of_tells (fun _ => Wire.string?_of_means) hid
  have hendpoint := orElse_of_tells (fun _ => Wire.string?_of_means) hendpoint
  have hleader := orElse_of_tells (fun _ => Wire.bool?_of_means) hleader
  have hstate := orElse_of_tells (fun _ => Wire.string?_of_means) hstate
  have hstateText := orElse_of_tells (fun _ => Wire.string?_of_means) hstateText
  have hsize := orElse_of_tells (fun _ => Wire.uint64?_of_means) hsize
  have hsizeText := orElse_of_tells (fun _ => Wire.string?_of_means) hsizeText
  have hhash := orElse_of_tells (fun _ => Wire.int64?_of_means) hhash
  rw [ofJson?, hfields]
  simp [fields, hname, hid, hendpoint, hleader, hstate, hstateText, hsize, hsizeText, hhash]

theorem ServerStatus.ofJson?_of_means {v : Json} {s : ServerStatus}
    (h : (Wire.objectOf fields).Means v s) : ofJson? v = some s := by
  obtain ⟨entries, rfl, honce, hsaid⟩ := h
  have hfields : (Json.object entries).fields? wireNames = _ := Wire.fields?_eq_lookups honce
  simp only [Says, fields, List.forall_mem_cons] at hsaid
  obtain ⟨hactive, huptime, hcount, husers, hmembers, -⟩ := hsaid
  have hactive := orElse_of_tells (fun _ => Wire.bool?_of_means) hactive
  have huptime := orElse_of_tells (fun _ => Wire.string?_of_means) huptime
  have hcount := orElse_of_tells (fun _ => Wire.uint64?_of_means) hcount
  have husers := orElse_of_tells
    (fun _ => Wire.list?_of_means fun _ _ => Wire.string?_of_means) husers
  have hmembers := orElse_of_tells
    (fun _ => Wire.list?_of_means fun _ _ => MemberStatus.ofJson?_of_means) hmembers
  rw [ofJson?, hfields]
  simp [fields, hactive, huptime, hcount, husers, hmembers]

theorem KeyValue.ofJson?_of_means {v : Json} {kv : KeyValue}
    (h : (Wire.objectOf fields).Means v kv) : ofJson? v = some kv := by
  obtain ⟨members, rfl, honce, hsaid⟩ := h
  have hfields : (Json.object members).fields? wireNames = _ := Wire.fields?_eq_lookups honce
  simp only [Says, fields, List.forall_mem_cons] at hsaid
  obtain ⟨hkey, hvalue, -⟩ := hsaid
  have hkey := orElse_of_tells (fun _ => Wire.string?_of_means) hkey
  have hvalue := orElse_of_tells (fun _ => Wire.string?_of_means) hvalue
  rw [ofJson?, hfields]
  simp [fields, hkey, hvalue]

theorem Request.ofJson?_of_means {v : Json} {r : Request}
    (h : (Wire.objectOf fields).Means v r) : ofJson? v = some r := by
  obtain ⟨members, rfl, honce, hsaid⟩ := h
  have hfields : (Json.object members).fields? wireNames = _ := Wire.fields?_eq_lookups honce
  simp only [Says, fields, List.forall_mem_cons] at hsaid
  obtain ⟨haction, hprefix, hendpoints, hkeyValue, -⟩ := hsaid
  have haction := required_of_tells (fun _ => Wire.actionOfJson?_of_means) haction
  have hprefix := orElse_of_tells (fun _ => Wire.bool?_of_means) hprefix
  have hendpoints := orElse_of_tells
    (fun _ => Wire.list?_of_means fun _ _ => Wire.string?_of_means) hendpoints
  have hkeyValue := orElse_of_tells (fun _ => KeyValue.ofJson?_of_means) hkeyValue
  rw [ofJson?, hfields]
  simp [fields, haction, hprefix, hendpoints, hkeyValue]

theorem Response.ofJson?_of_means {v : Json} {r : Response}
    (h : (Wire.objectOf fields).Means v r) : ofJson? v = some r := by
  obtain ⟨members, rfl, honce, hsaid⟩ := h
  have hfields : (Json.object members).fields? wireNames = _ := Wire.fields?_eq_lookups honce
  simp only [Says, fields, List.forall_mem_cons] at hsaid
  obtain ⟨hrequest, hsuccess, hresult, hlines, hkeyValues, -⟩ := hsaid
  have hrequest := orElse_of_tells (fun _ => Request.ofJson?_of_means) hrequest
  have hsuccess := orElse_of_tells (fun _ => Wire.bool?_of_means) hsuccess
  have hresult := orElse_of_tells (fun _ => Wire.string?_of_means) hresult
  have hlines := orElse_of_tells
    (fun _ => Wire.list?_of_means fun _ _ => Wire.string?_of_means) hlines
  have hkeyValues := orElse_of_tells
    (fun _ => Wire.list?_of_means fun _ _ => KeyValue.ofJson?_of_means) hkeyValues
  rw [ofJson?, hfields]
  simp [fields, hrequest, hsuccess, hresult, hlines, hkeyValues]

/-! ## What a shape is written as -/

namespace Wire

variable {α ρ : Type}

theorem means_map {kind : Kind Json α} {toJson : α → Json}
    (h : ∀ a, kind.Means (toJson a) a) (as : List α) :
    (listOf kind).Means (.array (as.map toJson)) as := by
  refine ⟨_, rfl, ?_⟩
  induction as with
  | nil => exact .nil
  | cons a as ih => exact .cons (h a) ih

theorem means_texts (as : List String) : (listOf text).Means (.array (as.map .string)) as :=
  means_map (fun _ => rfl) as

theorem means_object {fields : List (Field Json ρ)} {members : List (String × Json)} {r : ρ}
    (hnodup : (members.map Prod.fst).Nodup)
    (h : List.Forall₂ (fun f m => m.1 = f.name ∧ f.kind.Means m.2 (f.get r)) fields members) :
    (objectOf fields).Means (.object members) r :=
  ⟨members, rfl, fun f _ => once_of_nodup hnodup f.name, says_of_forall₂ hnodup h⟩

end Wire

theorem Connection.means_toJson (c : Connection) : (Wire.objectOf fields).Means c.toJson c := by
  have hnodup : wireNames.Nodup := by decide
  refine Wire.means_object hnodup ?_
  simp [fields]

theorem MemberStatus.means_toJson (m : MemberStatus) :
    (Wire.objectOf fields).Means m.toJson m := by
  have hnodup : wireNames.Nodup := by decide
  refine Wire.means_object hnodup ?_
  simp [fields]

theorem ServerStatus.means_toJson (s : ServerStatus) :
    (Wire.objectOf fields).Means s.toJson s := by
  have hnodup : wireNames.Nodup := by decide
  have husers := Wire.means_texts s.users
  have hmembers := Wire.means_map MemberStatus.means_toJson s.members
  refine Wire.means_object hnodup ?_
  simp [fields, husers, hmembers]

theorem KeyValue.means_toJson (kv : KeyValue) : (Wire.objectOf fields).Means kv.toJson kv := by
  have hnodup : wireNames.Nodup := by decide
  refine Wire.means_object hnodup ?_
  simp [fields]

theorem Request.means_toJson (r : Request) : (Wire.objectOf fields).Means r.toJson r := by
  have hnodup : wireNames.Nodup := by decide
  have hendpoints := Wire.means_texts r.endpoints
  have hkeyValue := r.keyValue.means_toJson
  refine Wire.means_object hnodup ?_
  simp [fields, hendpoints, hkeyValue]

theorem Response.means_toJson (r : Response) : (Wire.objectOf fields).Means r.toJson r := by
  have hnodup : wireNames.Nodup := by decide
  have hrequest := r.request.means_toJson
  have hlines := Wire.means_texts r.resultLines
  have hkeyValues := Wire.means_map KeyValue.means_toJson r.keyValues
  refine Wire.means_object hnodup ?_
  simp [fields, hrequest, hlines, hkeyValues]

/-! ## Its text -/

section Texts

open Json (Exact Fits64)

theorem Wire.exact_uint64 (n : UInt64) : Exact (.integer n.toNat) := by
  have hlt : n.toNat < UInt64.size := n.toNat_lt
  have hpos : (0 : Int) ≤ n.toNat := Int.natCast_nonneg _
  refine .integer ⟨?_, Int.ofNat_lt.2 hlt⟩
  omega

theorem Wire.exact_uint16 (n : UInt16) : Exact (.integer n.toNat) := by
  have h := Wire.exact_uint64 n.toUInt64
  rwa [UInt16.toNat_toUInt64] at h

theorem Wire.exact_int64 (n : Int64) : Exact (.integer n.toInt) := by
  have hhigh := n.toInt_lt
  have hsize : (UInt64.size : Int) = 2 ^ 64 := rfl
  refine .integer ⟨n.le_toInt, ?_⟩
  omega

theorem Wire.exact_map {α : Type} {toJson : α → Json} (h : ∀ a, Exact (toJson a)) (as : List α) :
    Exact (.array (as.map toJson)) := by
  refine .array ?_
  intro item hitem
  obtain ⟨a, -, rfl⟩ := List.mem_map.1 hitem
  exact h a

theorem Connection.exact_toJson (c : Connection) : Exact c.toJson := by
  refine .object ?_
  simp [Wire.exact_uint16, Exact.string, Exact.bool]

theorem MemberStatus.exact_toJson (m : MemberStatus) : Exact m.toJson := by
  refine .object ?_
  simp [Wire.exact_uint64, Wire.exact_int64, Exact.string, Exact.bool]

theorem ServerStatus.exact_toJson (s : ServerStatus) : Exact s.toJson := by
  have husers := Wire.exact_map Exact.string s.users
  have hmembers := Wire.exact_map MemberStatus.exact_toJson s.members
  refine .object ?_
  simp [Wire.exact_uint64, Exact.string, Exact.bool, husers, hmembers]

theorem KeyValue.exact_toJson (kv : KeyValue) : Exact kv.toJson := by
  refine .object ?_
  simp [Exact.string]

theorem Request.exact_toJson (r : Request) : Exact r.toJson := by
  have hendpoints := Wire.exact_map Exact.string r.endpoints
  have hkeyValue := r.keyValue.exact_toJson
  refine .object ?_
  simp [Exact.string, Exact.bool, hendpoints, hkeyValue]

theorem Response.exact_toJson (r : Response) : Exact r.toJson := by
  have hrequest := r.request.exact_toJson
  have hlines := Wire.exact_map Exact.string r.resultLines
  have hkeyValues := Wire.exact_map KeyValue.exact_toJson r.keyValues
  refine .object ?_
  simp [Exact.string, Exact.bool, hrequest, hlines, hkeyValues]

end Texts

/-! ## Every shape -/

/-- A text that holds an object with a value of the shape is decoded to that value; what the value
is written as is such an object, and its text such a text. -/
def Carried {ρ : Type} (fields : List (Field Json ρ)) (toJson : ρ → Json)
    (ofJson? : Json → Option ρ) : Prop :=
  ∀ r,
    (∀ text v, Json.read text = some v → (Wire.objectOf fields).Means v r →
      decodeText? ofJson? text = some r) ∧
    (Wire.objectOf fields).Means (toJson r) r ∧ decodeText? ofJson? (toJson r).text = some r

theorem carried {ρ : Type} {fields : List (Field Json ρ)} {toJson : ρ → Json}
    {ofJson? : Json → Option ρ}
    (hread : ∀ v r, (Wire.objectOf fields).Means v r → ofJson? v = some r)
    (hmeans : ∀ r, (Wire.objectOf fields).Means (toJson r) r)
    (hexact : ∀ r, (toJson r).Exact) : Carried fields toJson ofJson? := by
  have hdecode : ∀ r text v, Json.read text = some v → (Wire.objectOf fields).Means v r →
      decodeText? ofJson? text = some r := by
    intro r text v htext hv
    rw [decodeText?, htext, Option.bind_some]
    exact hread v r hv
  intro r
  exact ⟨hdecode r, hmeans r, hdecode r _ _ (Json.read_text (hexact r)) (hmeans r)⟩

theorem Request.decode_text (r : Request) : decodeText? ofJson? r.toJson.text = some r :=
  (carried (fun _ _ => ofJson?_of_means) means_toJson exact_toJson r).2.2

theorem ServerStatus.decode_text (s : ServerStatus) : decodeText? ofJson? s.toJson.text = some s :=
  (carried (fun _ _ => ofJson?_of_means) means_toJson exact_toJson s).2.2

/-- **Every shape is decoded from what an object holds of it**, and so from its own text. -/
theorem every_shape_carried :
    Carried Connection.fields Connection.toJson Connection.ofJson? ∧
      Carried MemberStatus.fields MemberStatus.toJson MemberStatus.ofJson? ∧
      Carried ServerStatus.fields ServerStatus.toJson ServerStatus.ofJson? ∧
      Carried KeyValue.fields KeyValue.toJson KeyValue.ofJson? ∧
      Carried Request.fields Request.toJson Request.ofJson? ∧
      Carried Response.fields Response.toJson Response.ofJson? := by
  refine ⟨?connection, ?member, ?status, ?keyValue, ?request, ?response⟩
  case connection =>
    exact carried (fun _ _ => Connection.ofJson?_of_means) Connection.means_toJson
      Connection.exact_toJson
  case member =>
    exact carried (fun _ _ => MemberStatus.ofJson?_of_means) MemberStatus.means_toJson
      MemberStatus.exact_toJson
  case status =>
    exact carried (fun _ _ => ServerStatus.ofJson?_of_means) ServerStatus.means_toJson
      ServerStatus.exact_toJson
  case keyValue =>
    exact carried (fun _ _ => KeyValue.ofJson?_of_means) KeyValue.means_toJson
      KeyValue.exact_toJson
  case request =>
    exact carried (fun _ _ => Request.ofJson?_of_means) Request.means_toJson
      Request.exact_toJson
  case response =>
    exact carried (fun _ _ => Response.ofJson?_of_means) Response.means_toJson
      Response.exact_toJson

/-- A member that its object names last, beside a member that no field has. -/
def straggler : Json :=
  .object [("Hash", .integer (-1)), ("Tags", .array [.null]), ("Name", .string "n1")]

/-- Two members of a status out of their order, and a name twice that no field has. -/
def scrambled : List (String × Json) :=
  [("NodeStatuses", .array [straggler]), ("x", .null), ("UserN", .integer 7), ("x", .bool true)]

theorem straggler_means : (Wire.objectOf MemberStatus.fields).Means straggler
    { name := "n1", hash := -1 } := by
  refine ⟨_, rfl, ?_, ?_⟩
  · simp [MemberStatus.fields, Once]
  · simp [MemberStatus.fields, Says, Shape.Tells]

theorem scrambled_exact : (Json.object scrambled).Exact := by
  have htags : (Json.array [.null]).Exact := .array (by simp [Json.Exact.null])
  have hhash : (Json.integer (-1)).Exact := .integer ⟨by decide, by decide⟩
  have hmember : straggler.Exact := .object (by simp [htags, hhash, Json.Exact.string])
  have hmembers : (Json.array [straggler]).Exact := .array (by simp [hmember])
  have hcount : (Json.integer 7).Exact := .integer ⟨by decide, by decide⟩
  refine .object ?_
  simp [scrambled, hmembers, hcount, Json.Exact.null, Json.Exact.bool]

def scrambledText : String :=
  "\x7b\"NodeStatuses\":[\x7b\"Hash\":-1,\"Tags\":[null],\"Name\":\"n1\"\x7d]," ++
    "\"x\":null,\"UserN\":7,\"x\":true\x7d"

/-- What is left out has its default, and a playground that does not say so is active. -/
theorem scrambled_carried :
    decodeText? ServerStatus.ofJson? scrambledText =
      some { active := true, userCount := 7, members := [{ name := "n1", hash := -1 }] } := by
  have htext : scrambledText = (Json.object scrambled).text := by decide +kernel
  have hread : Json.read scrambledText = some (.object scrambled) := by
    rw [htext, Json.read_text scrambled_exact]
  refine (every_shape_carried.2.2.1 _).1 _ _ hread ⟨scrambled, rfl, ?_, ?_⟩
  · simp [ServerStatus.fields, scrambled, Once]
  · simp [ServerStatus.fields, scrambled, Says, Shape.Tells, Wire.listOf, straggler_means]

end EtcdKit.Playground
