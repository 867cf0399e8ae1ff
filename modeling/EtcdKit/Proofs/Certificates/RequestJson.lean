import EtcdKit.Certificates.Script
import EtcdKit.Proofs.Json.Layout
import EtcdKit.Proofs.Script.Reading
import EtcdKit.Proofs.Text.Splitting
/-!
# RequestJson — the files that the certificate programs read hold what they were made of

The files are written by hand, with every value between its quotes as it is, and are read as JSON.
Each is the text of an object with its members on lines of their own (`rootRequest_toList`,
`memberRequest_toList`, `signingPolicy_toList`), and so it writes that object as soon as no value
holds a character that a string escapes.
-/
namespace EtcdKit

open Json (Blanks Spaces Writes)

/-- The value inside the range, and the nearer end of the range outside it. -/
structure Bounds.Nearest (b : Bounds) (value nearest : Nat) : Prop where
  lower_le : b.lower ≤ nearest
  le_upper : nearest ≤ b.upper
  inside : b.lower ≤ value → value ≤ b.upper → nearest = value
  below : value < b.lower → nearest = b.lower
  above : b.upper < value → nearest = b.upper

theorem Bounds.nearest_clamp {b : Bounds} (h : b.lower ≤ b.upper) (value : Nat) :
    b.Nearest value (b.clamp value) where
  lower_le := (clamp_mem h value).1
  le_upper := (clamp_mem h value).2
  inside lo hi := clamp_eq_self lo hi
  below hlt := by rw [clamp, if_pos (by omega)]
  above hlt := by rw [clamp, if_neg (by omega), if_pos hlt]

theorem certificateHosts_eq (hosts : List String) : certificateHosts hosts =
    ["127.0.0.1", "localhost"] ++ hosts.filter (fun t => t ≠ "" ∧ t ≠ "localhost") := by
  refine congrArg (loopbackHosts ++ ·) (List.filter_congr fun t _ => ?_)
  rw [Bool.eq_iff_iff]
  simp

/-- The given hosts come behind the loopback hosts, so the name of this machine stands once. -/
theorem count_localhost (hosts : List String) : (certificateHosts hosts).count "localhost" = 1 := by
  have hothers :
      (hosts.filter fun host => host != "" && host != "localhost").count "localhost" = 0 :=
    List.count_eq_zero.2 fun h => by simp at h
  rw [certificateHosts, List.count_append, hothers]
  rfl

namespace CertificateAuthority

/-- No value of the requests holds a quote, a backslash or a control character. -/
structure Verbatim (ca : CertificateAuthority) : Prop where
  keyAlgorithm : Json.Verbatim ca.keyAlgorithm
  organization : Json.Verbatim ca.organization
  organizationUnit : Json.Verbatim ca.organizationUnit
  city : Json.Verbatim ca.city
  state : Json.Verbatim ca.state
  country : Json.Verbatim ca.country
  commonName : Json.Verbatim ca.commonName

/-! ## What the files say -/

/-- The members that every request starts with: the key, and the one subject. -/
def headMembers (ca : CertificateAuthority) (size : Nat) : List (String × Json) :=
  [("key", .object [("algo", .string ca.keyAlgorithm), ("size", .integer size)]),
    ("names", .array [.object [
      ("O", .string ca.organization),
      ("OU", .string ca.organizationUnit),
      ("L", .string ca.city),
      ("ST", .string ca.state),
      ("C", .string ca.country)]])]

/-- The request for the authority's own certificate. -/
def rootRequestJson (ca : CertificateAuthority) (size : Nat) : Json :=
  .object (ca.headMembers size ++ [("CN", .string ca.commonName)])

/-- The request for a certificate that is valid on some hosts. -/
def memberRequestJson (ca : CertificateAuthority) (size : Nat) (commonName : String)
    (hosts : List String) : Json :=
  .object (ca.headMembers size ++
    [("CN", .string commonName), ("hosts", .array (hosts.map .string))])

/-- What certificates may be used for, and how long. -/
def signingPolicyJson (expiry : String) : Json :=
  .object [("signing", .object [("default", .object [
    ("usages", .array (
      ["signing", "key encipherment", "server auth", "client auth"].map .string)),
    ("expiry", .string expiry)])])]

end CertificateAuthority

/-! ## Texts with their parts on lines of their own -/

/-- The blanks of a text in which every part stands on a line of its own, behind a margin, and so
does the closing bracket. -/
def onLines (margin closing : Nat) : Blanks where
  lead := '\n' :: List.replicate margin ' '
  comma := '\n' :: List.replicate margin ' '
  colon := [' ']
  close := '\n' :: List.replicate closing ' '
  spaces_lead := by simp [Spaces, Json.isSpace]
  spaces_comma := by simp [Spaces, Json.isSpace]
  spaces_colon := by simp [Spaces, Json.isSpace]
  spaces_close := by simp [Spaces, Json.isSpace]

namespace CertificateAuthority

theorem quotedMember_toList {name content : String} (hname : Json.Verbatim name)
    (hcontent : Json.Verbatim content) : (quotedMember name content).toList =
      Json.quote name ++ ':' :: ' ' :: Json.quote content := by
  simp [quotedMember, hname.quote_eq, hcontent.quote_eq]

/-- The text of the key. -/
def keyText (ca : CertificateAuthority) : List Char :=
  (onLines 4 2).objectText [
    (onLines 4 2).memberText "algo" (Json.quote ca.keyAlgorithm),
    (onLines 4 2).memberText "size" (Json.chars (.integer ca.writtenKeySize))]

/-- The text of the subject. -/
def subjectText (ca : CertificateAuthority) : List Char :=
  (onLines 6 4).objectText ([("O", ca.organization), ("OU", ca.organizationUnit), ("L", ca.city),
    ("ST", ca.state), ("C", ca.country)].map fun m => (onLines 6 4).memberText m.1 (Json.quote m.2))

/-- The texts of the members that every request starts with. -/
def headTexts (ca : CertificateAuthority) : List (List Char) :=
  [(onLines 2 0).memberText "key" ca.keyText,
    (onLines 2 0).memberText "names" ((onLines 4 2).arrayText [ca.subjectText])]

theorem requestHead_toList {ca : CertificateAuthority} (h : ca.Verbatim) :
    (Script.lines ca.requestHead).toList =
      '\x7b' :: '\n' :: ' ' :: ' ' :: ((onLines 2 0).memberText "key" ca.keyText ++
        ',' :: '\n' :: ' ' :: ' ' ::
          ((onLines 2 0).memberText "names" ((onLines 4 2).arrayText [ca.subjectText]) ++
            [',', '\n'])) := by
  have hkey : Json.quote "key" = ['"', 'k', 'e', 'y', '"'] := by decide
  have hnames : Json.quote "names" = ['"', 'n', 'a', 'm', 'e', 's', '"'] := by decide
  have hsize : Json.quote "size" = ['"', 's', 'i', 'z', 'e', '"'] := by decide
  have hnumber : Json.chars (.integer ca.writtenKeySize) = (toString ca.writtenKeySize).toList :=
    rfl
  obtain ⟨_, _, _, _, _, _, _⟩ := h
  simp (disch := first | assumption | exact Json.verbatim_ofList _ rfl) [requestHead,
    Script.lines, quotedMember_toList, keyText, subjectText, Blanks.objectText, Blanks.arrayText,
    Blanks.memberText, Blanks.text, onLines, List.replicate, hkey, hnames, hsize, hnumber]

theorem rootRequest_toList {ca : CertificateAuthority} (h : ca.Verbatim) :
    ca.rootRequest.toList = (onLines 2 0).objectText (ca.headTexts ++
      [(onLines 2 0).memberText "CN" (Json.quote ca.commonName)]) ++ ['\n'] := by
  have hword : Json.Verbatim "CN" := Json.verbatim_ofList _ rfl
  have hname := quotedMember_toList hword h.commonName
  rw [rootRequest, Script.lines_append, String.toList_append, requestHead_toList h]
  simp [Script.lines, hname, headTexts, Blanks.objectText, Blanks.text, onLines, List.replicate,
    Blanks.memberText]

/-- The hosts stand on lines of their own, each between quotes. -/
theorem hostLines_toList {hosts : List String} (hhosts : ∀ t ∈ hosts, Json.Verbatim t)
    (hne : hosts ≠ []) : (String.intercalate ",\n" (hosts.map hostLine)).toList =
      "    ".toList ++ List.intercalate ",\n    ".toList (hosts.map Json.quote) := by
  have hlines : hosts.map hostLine =
      (hosts.map fun t => "\"" ++ t ++ "\"").map ("    " ++ ·) := by
    rw [List.map_map]
    refine List.map_congr_left fun t _ => ?_
    have hfront : "    \"" = "    " ++ "\"" := by decide
    simp only [hostLine, hfront, Function.comp_apply, String.append_assoc]
  have hquotes : (hosts.map fun t => "\"" ++ t ++ "\"").map String.toList =
      hosts.map Json.quote := by
    rw [List.map_map]
    refine List.map_congr_left fun t ht => ?_
    simp [(hhosts t ht).quote_eq]
  obtain ⟨host, hosts, rfl⟩ := List.exists_cons_of_ne_nil hne
  rw [List.map_cons, List.map_cons] at hquotes
  rw [hlines, List.map_cons, Text.intercalate_map_append, String.toList_append,
    String.toList_intercalate, List.map_cons, hquotes]
  rfl

theorem memberRequest_toList {ca : CertificateAuthority} (h : ca.Verbatim) {commonName : String}
    (hname : Json.Verbatim commonName) {hosts : List String}
    (hhosts : ∀ t ∈ hosts, Json.Verbatim t) (hne : hosts ≠ []) :
    (ca.memberRequest commonName hosts).toList = (onLines 2 0).objectText (ca.headTexts ++
      [(onLines 2 0).memberText "CN" (Json.quote commonName),
        (onLines 2 0).memberText "hosts" ((onLines 4 2).arrayText (hosts.map Json.quote))]) ++
      ['\n'] := by
  have hword : Json.Verbatim "CN" := Json.verbatim_ofList _ rfl
  have hmember := quotedMember_toList hword hname
  have hkey : Json.quote "hosts" = ['"', 'h', 'o', 's', 't', 's', '"'] := by decide
  rw [memberRequest, Script.lines_append, String.toList_append, requestHead_toList h]
  simp [Script.lines, hmember, hostLines_toList hhosts hne, hkey, headTexts, Blanks.objectText,
    Blanks.arrayText, Blanks.text, Blanks.memberText, onLines, List.replicate]

/-- The text of what certificates may be used for. -/
def usagesText : List Char :=
  (onLines 8 4).memberText "usages" ((onLines 10 8).arrayText
    (["signing", "key encipherment", "server auth", "client auth"].map Json.quote))

/-- The lines of the signing policy before that of the lifetime. -/
def policyHead : List String :=
  ["\x7b",
    "  \"signing\": \x7b",
    "    \"default\": \x7b",
    "        \"usages\": [",
    "          \"signing\",",
    "          \"key encipherment\",",
    "          \"server auth\",",
    "          \"client auth\"",
    "        ],"]

theorem policyHead_toList : (Script.lines policyHead).toList =
    '\x7b' :: ((onLines 2 0).lead ++ (Json.quote "signing" ++ ':' :: ' ' ::
      '\x7b' :: ((onLines 4 2).lead ++ (Json.quote "default" ++ ':' :: ' ' ::
        '\x7b' :: ((onLines 8 4).lead ++ (usagesText ++ [',', '\n'])))))) := by
  simp only [policyHead, Script.toList_lines_cons, Script.lines_nil]
  simp (disch := exact Json.verbatim_ofList _ rfl) [usagesText, Blanks.arrayText, Blanks.text,
    Blanks.memberText, onLines, List.replicate, Json.Verbatim.quote_eq]

theorem signingPolicy_toList (ca : CertificateAuthority) : ca.signingPolicy.toList =
    (onLines 2 0).objectText [(onLines 2 0).memberText "signing"
      ((onLines 4 2).objectText [(onLines 4 2).memberText "default"
        ((onLines 8 4).objectText [usagesText,
          (onLines 8 4).memberText "expiry"
            (Json.quote (toString ca.writtenExpiryHours ++ "h"))])])] ++ ['\n'] := by
  have hexpiry : Json.Verbatim (toString ca.writtenExpiryHours ++ "h") :=
    (Json.verbatim_toString _).append (Json.verbatim_ofList _ rfl)
  have hword : Json.Verbatim "expiry" := Json.verbatim_ofList _ rfl
  have hmember := quotedMember_toList hword hexpiry
  have hpolicy : ca.signingPolicy = Script.lines (policyHead ++
      ["        " ++ quotedMember "expiry" (toString ca.writtenExpiryHours ++ "h"),
        "    \x7d", "  \x7d", "\x7d"]) := rfl
  rw [hpolicy, Script.lines_append, String.toList_append, policyHead_toList]
  -- the digits of the lifetime play no part in where it stands
  generalize toString ca.writtenExpiryHours ++ "h" = expiry at hmember ⊢
  simp [Script.lines, hmember, Blanks.objectText, Blanks.text, Blanks.memberText, onLines,
    List.replicate]

/-! ## The files are read -/

theorem fits64_ofNat {n bound : Nat} (h : n ≤ bound) (hbound : bound < UInt64.size) :
    Json.Fits64 (n : Int) := by
  unfold Json.Fits64
  omega

theorem writes_headTexts (ca : CertificateAuthority) {texts : List (List Char)}
    {members : List (String × Json)}
    (hmore : List.Forall₂ (Json.WritesMember (onLines 2 0)) texts members) :
    List.Forall₂ (Json.WritesMember (onLines 2 0)) (ca.headTexts ++ texts)
      (ca.headMembers ca.writtenKeySize ++ members) := by
  have hsize : Json.Fits64 (ca.writtenKeySize : Int) :=
    fits64_ofNat (Bounds.clamp_mem (b := Bounds.keySize) (by decide) _).2 (by decide)
  have hkey : Writes ca.keyText
      (.object [("algo", .string ca.keyAlgorithm), ("size", .integer ca.writtenKeySize)]) :=
    Json.writes_object _ (.cons ((Json.writes_string _).member _ _)
      (.cons ((Json.writes_integer hsize).member _ _) .nil))
  have hsubject : Writes ca.subjectText (.object [
      ("O", .string ca.organization), ("OU", .string ca.organizationUnit),
      ("L", .string ca.city), ("ST", .string ca.state), ("C", .string ca.country)]) :=
    Json.writes_object _ (Json.writesMember_strings _ _)
  exact .cons (hkey.member _ _)
    (.cons ((Json.writes_array _ (.cons hsubject .nil)).member _ _) hmore)

/-- A text on lines of its own is read as the value that it writes, if all of that has a meaning. -/
theorem readMeaningful_onLines {cs : List Char} {value : Json} (h : Writes cs value)
    (hmeaning : value.meaningful Json.maxDepth = true) {text : String}
    (htext : text.toList = cs ++ ['\n']) : Json.readMeaningful text = some value := by
  have hread : Json.read text = some value :=
    h.read_eq (by simp [Spaces] : Spaces []) (by simp [Spaces, Json.isSpace]) htext
  rw [Json.readMeaningful, hread]
  simp only [hmeaning, if_true]

theorem readMeaningful_rootRequest {ca : CertificateAuthority} (h : ca.Verbatim) :
    Json.readMeaningful ca.rootRequest = some (ca.rootRequestJson ca.writtenKeySize) :=
  readMeaningful_onLines
    (Json.writes_object _ (ca.writes_headTexts (.cons ((Json.writes_string _).member _ _) .nil)))
    rfl (rootRequest_toList h)

theorem meaningfulItems_strings (depth : Nat) (items : List String) :
    Json.meaningfulItems depth (items.map .string) = true := by
  induction items with
  | nil => rfl
  | cons item items ih => simp [Json.meaningfulItems, Json.meaningful, ih]

theorem readMeaningful_memberRequest {ca : CertificateAuthority} (h : ca.Verbatim)
    {commonName : String} (hname : Json.Verbatim commonName) {hosts : List String}
    (hhosts : ∀ t ∈ hosts, Json.Verbatim t) (hne : hosts ≠ []) :
    Json.readMeaningful (ca.memberRequest commonName hosts) =
      some (ca.memberRequestJson ca.writtenKeySize commonName hosts) := by
  have hwrites := Json.writes_object _ (ca.writes_headTexts
    (.cons ((Json.writes_string commonName).member _ "CN")
      (.cons ((Json.writes_array (onLines 4 2) (Json.writes_strings hosts)).member _ "hosts")
        .nil)))
  refine readMeaningful_onLines hwrites ?_ (memberRequest_toList h hname hhosts hne)
  simp [Json.maxDepth, headMembers, Json.meaningful, Json.meaningfulMembers, Json.meaningfulItems,
    meaningfulItems_strings]

theorem readMeaningful_signingPolicy (ca : CertificateAuthority) :
    Json.readMeaningful ca.signingPolicy =
      some (signingPolicyJson (toString ca.writtenExpiryHours ++ "h")) := by
  have husages := Json.writes_array (onLines 10 8)
    (Json.writes_strings ["signing", "key encipherment", "server auth", "client auth"])
  have hdefault := Json.writes_object (onLines 8 4) (.cons (husages.member _ "usages")
    (.cons ((Json.writes_string (toString ca.writtenExpiryHours ++ "h")).member _ "expiry") .nil))
  have hsigning := Json.writes_object (onLines 4 2) (.cons (hdefault.member _ "default") .nil)
  exact readMeaningful_onLines
    (Json.writes_object (onLines 2 0) (.cons (hsigning.member _ "signing") .nil)) rfl
    ca.signingPolicy_toList

theorem verbatim_certificateHosts {hosts : List String} (h : ∀ t ∈ hosts, Json.Verbatim t) :
    ∀ t ∈ certificateHosts hosts, Json.Verbatim t := by
  have hloopback : ∀ t ∈ loopbackHosts, Json.Verbatim t := by
    simp only [loopbackHosts, List.forall_mem_cons]
    exact ⟨Json.verbatim_ofList _ rfl, Json.verbatim_ofList _ rfl, by simp⟩
  intro t ht
  rcases List.mem_append.1 ht with ht | ht
  · exact hloopback t ht
  · exact h t (List.mem_filter.1 ht).1

/-- **The files that the certificate programs read are JSON and hold what they were made of**, if no
value holds a quote, a backslash or a control character: the key and its size in range, one subject,
the common name, the hosts without empty ones and with the name of this machine once, and the
lifetime in range. -/
theorem certificate_files_hold_values {ca : CertificateAuthority} (h : ca.Verbatim)
    {commonName host extraHosts : String} (hname : Json.Verbatim commonName)
    (hhost : Json.Verbatim host) (hextra : ∀ l ∈ Text.lines extraHosts, Json.Verbatim l)
    (name : String) :
    ∃ (size hours : Nat) (hosts : List String),
      Bounds.Nearest ⟨256, 8192⟩ ca.keySize.toNat size ∧
      Bounds.Nearest ⟨1, 876000⟩ ca.keyExpiryHours.toNat hours ∧
      hosts = ["127.0.0.1", "localhost"] ++
        (host :: Text.lines extraHosts).filter (fun t => t ≠ "" ∧ t ≠ "localhost") ∧
      hosts.count "localhost" = 1 ∧
      ca.rootScript.documents.map (fun d => Json.readMeaningful d.body) =
        [some (ca.rootRequestJson size), some (signingPolicyJson (toString hours ++ "h"))] ∧
      (ca.certificateScript name commonName host extraHosts).documents.map
          (fun d => Json.readMeaningful d.body) =
        [some (ca.memberRequestJson size commonName hosts)] := by
  have hhosts := verbatim_certificateHosts (List.forall_mem_cons.2 ⟨hhost, hextra⟩)
  have hroot : ca.rootScript.documents.map (fun d => Json.readMeaningful d.body) =
      [Json.readMeaningful ca.rootRequest, Json.readMeaningful ca.signingPolicy] := rfl
  have hmember : (ca.certificateScript name commonName host extraHosts).documents.map
      (fun d => Json.readMeaningful d.body) = [Json.readMeaningful
        (ca.memberRequest commonName (certificateHosts (host :: Text.lines extraHosts)))] := rfl
  refine ⟨ca.writtenKeySize, ca.writtenExpiryHours,
    certificateHosts (host :: Text.lines extraHosts), Bounds.nearest_clamp (by decide) _,
    Bounds.nearest_clamp (by decide) _, certificateHosts_eq _, count_localhost _, ?_, ?_⟩
  · rw [hroot, readMeaningful_rootRequest h, readMeaningful_signingPolicy]
  · rw [hmember, readMeaningful_memberRequest h hname hhosts (List.cons_ne_nil _ _)]

/-- An authority whose values look like parts of its requests; its numbers are out of range. -/
def misleading : CertificateAuthority :=
  { keyAlgorithm := "\x7d,", organization := "a, b: [c]", organizationUnit := "", city := "\x7b\x7d",
    state := "null", country := "'", commonName := "EOF", keySize := 100, keyExpiryHours := 900000 }

theorem misleading_files_hold_values :
    (misleading.Verbatim ∧ Json.Verbatim "]," ∧ Json.Verbatim "localhost" ∧
      ∀ l ∈ Text.lines "\r\nlocalhost\r\n,\n", Json.Verbatim l) ∧
    misleading.rootScript.documents.map (fun d => Json.readMeaningful d.body) =
      [some (misleading.rootRequestJson 256), some (signingPolicyJson "876000h")] ∧
    (misleading.certificateScript "m" "]," "localhost" "\r\nlocalhost\r\n,\n").documents.map
        (fun d => Json.readMeaningful d.body) =
      [some (misleading.memberRequestJson 256 "]," ["127.0.0.1", "localhost", ","])] := by
  have h : misleading.Verbatim := by
    constructor <;> exact Json.verbatim_ofList _ rfl
  have hname : Json.Verbatim "]," := Json.verbatim_ofList _ rfl
  have hhost : Json.Verbatim "localhost" := Json.verbatim_ofList _ rfl
  have hlines : Text.lines "\r\nlocalhost\r\n,\n" = ["localhost", ","] := by decide
  have hextra : ∀ l ∈ Text.lines "\r\nlocalhost\r\n,\n", Json.Verbatim l := by
    rw [hlines]
    simp only [List.forall_mem_cons]
    exact ⟨hhost, Json.verbatim_ofList _ rfl, by simp⟩
  obtain ⟨size, hours, hosts, hsize, hhours, hhosts, -, hroot, hmember⟩ :=
    certificate_files_hold_values h hname hhost hextra "m"
  obtain rfl : size = 256 := hsize.below (by decide)
  obtain rfl : hours = 876000 := hhours.above (by decide)
  rw [hlines] at hhosts
  obtain rfl : hosts = ["127.0.0.1", "localhost", ","] := hhosts.trans (by decide)
  exact ⟨⟨h, hname, hhost, hextra⟩, hroot, hmember⟩

end CertificateAuthority
end EtcdKit
