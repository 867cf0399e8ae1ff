import EtcdKit.Proofs.Text.Splitting
import EtcdKit.Target
/-!
# ExtraHosts — the further hosts of certificates, however their lines end

Further hosts are given one on each line.  A line is closed by a line feed, with or without a carriage
return before it, and the last one may be left open.  Reading gives back the lines that are not empty,
character by character (`lines_of_ended`), so a certificate request says the same however the lines of
its hosts end.
-/
namespace EtcdKit

namespace Text

/-- What closes a line. -/
inductive LineEnd where
  | feed
  | returnFeed
  deriving DecidableEq, Repr

def LineEnd.text : LineEnd → String
  | .feed => "\n"
  | .returnFeed => "\r\n"

/-- A text holds these lines: each is closed in one of the two ways, and the last one may be left
open. -/
inductive Ended : List String → String → Prop
  | nothing : Ended [] ""
  | unclosed (line : String) : Ended [line] line
  | closed (line : String) (close : LineEnd) {ls : List String} {rest : String}
      (h : Ended ls rest) : Ended (line :: ls) (line ++ close.text ++ rest)

/-- A text that stands on one line, and whose end cannot be taken for a part of what closes it. -/
def IsLine (line : String) : Prop := '\n' ∉ line.toList ∧ line.toList.getLast? ≠ some '\r'

instance (line : String) : Decidable (IsLine line) := inferInstanceAs (Decidable (_ ∧ _))

theorem dropReturn_of_ne {line : List Char} (h : line.getLast? ≠ some '\r') :
    dropReturn line = line := by
  unfold dropReturn
  split
  · rename_i front hrev
    refine absurd ?_ h
    rw [← List.head?_reverse, hrev, List.head?_cons]
  · rfl

theorem dropReturn_concat (line : List Char) : dropReturn (line ++ ['\r']) = line := by
  unfold dropReturn
  rw [List.reverse_append]
  exact List.reverse_reverse line

theorem closeLines_cons (line : List Char) {parts : List (List Char)} (h : parts ≠ []) :
    closeLines (line :: parts) = dropReturn line :: closeLines parts := by
  obtain ⟨next, rest, rfl⟩ := List.exists_cons_of_ne_nil h
  rfl

/-- A line feed closes what stands before it, with the carriage return at its end. -/
theorem lines_append_feed {front : String} (h : '\n' ∉ front.toList) (rest : String) :
    lines (front ++ "\n" ++ rest) =
      [String.ofList (dropReturn front.toList)].filter (· ≠ "") ++ lines rest := by
  have hsplit : (front ++ "\n" ++ rest).toList.splitOn '\n' =
      front.toList :: rest.toList.splitOn '\n' := by
    have htext : (front ++ "\n" ++ rest).toList = front.toList ++ '\n' :: rest.toList := by simp
    rw [htext, List.splitOn_append_cons_self, List.splitOn_eq_singleton h, List.singleton_append]
  unfold lines
  rw [hsplit, closeLines_cons _ (List.splitOn_ne_nil '\n' _), List.filter_cons]
  cases hline : dropReturn front.toList with
  | nil => simp
  | cons c cs => simp

theorem lines_append_end {line : String} (h : IsLine line) (close : LineEnd) (rest : String) :
    lines (line ++ close.text ++ rest) = [line].filter (· ≠ "") ++ lines rest := by
  cases close with
  | feed =>
    change lines (line ++ "\n" ++ rest) = _
    rw [lines_append_feed h.1, dropReturn_of_ne h.2, String.ofList_toList]
  | returnFeed =>
    have hreturn : '\n' ∉ (line ++ "\r").toList := by
      rw [String.toList_append, List.mem_append, not_or]
      exact ⟨h.1, by decide⟩
    have hdrop : dropReturn (line ++ "\r").toList = line.toList := by
      rw [String.toList_append]
      exact dropReturn_concat _
    have hparts : line ++ LineEnd.returnFeed.text = line ++ "\r" ++ "\n" := by
      rw [String.append_assoc]
      rfl
    rw [hparts, lines_append_feed hreturn, hdrop, String.ofList_toList]

theorem lines_unclosed {line : String} (h : IsLine line) :
    lines line = [line].filter (· ≠ "") := by
  unfold lines
  rw [List.splitOn_eq_singleton h.1, closeLines]
  by_cases hline : line = ""
  · rw [hline]
    rfl
  · simp [hline]

/-- **The lines of a text are given back**, except for empty ones, whatever closes them. -/
theorem lines_of_ended {ls : List String} {text : String} (htext : Ended ls text)
    (hls : ∀ l ∈ ls, IsLine l) : lines text = ls.filter (· ≠ "") := by
  induction htext with
  | nothing => rfl
  | unclosed line => exact lines_unclosed (hls line List.mem_cons_self)
  | closed line close _ ih =>
    obtain ⟨hline, hrest⟩ := List.forall_mem_cons.1 hls
    rw [lines_append_end hline, ih hrest, ← List.filter_append, List.singleton_append]

end Text

open Text

/-- Empty hosts are passed over anyway. -/
theorem certificateHosts_filter (host : String) (hosts : List String) :
    certificateHosts (host :: hosts.filter (· ≠ "")) = certificateHosts (host :: hosts) := by
  unfold certificateHosts
  rw [List.filter_cons, List.filter_cons, List.filter_filter]
  have hsame : hosts.filter (fun h => (h != "" && h != "localhost") && decide (h ≠ "")) =
      hosts.filter fun h => h != "" && h != "localhost" := by
    refine List.filter_congr fun h _ => ?_
    by_cases hempty : h = "" <;> simp [hempty]
  rw [hsame]

/-- The profile with these further hosts. -/
def Profile.withExtraHosts (p : Profile) (text : String) : Profile :=
  { p with certificates := { p.certificates with extraHosts := text } }

theorem CertificateAuthority.certificateScript_congr (ca : CertificateAuthority)
    {text text' : String} (h : lines text = lines text') (name commonName host : String) :
    ca.certificateScript name commonName host text =
      ca.certificateScript name commonName host text' := by
  unfold certificateScript
  rw [h]

/-- The script of a certificate reads the further hosts by their lines only. -/
theorem Target.script_certificate_withExtraHosts (p : Profile) (text : String)
    (node : Option String) :
    script (p.withExtraHosts text) (.certificate node) =
      (p.cluster.nodeOrFirst node).map fun n =>
        p.certificates.certificateScript n.name n.name n.address text :=
  rfl

theorem CertificateAuthority.documents_certificateScript (ca : CertificateAuthority)
    (name commonName host text : String) :
    (ca.certificateScript name commonName host text).documents =
      [⟨ca.file (name ++ "-ca-csr.json"),
        ca.memberRequest commonName (certificateHosts (host :: lines text))⟩] :=
  rfl

/-- **The lines of further hosts may end as they like.**  Reading gives back the lines that are not empty,
in order and character by character.  So whatever closes the lines, the request for the certificate of
every node lists exactly these hosts behind those that every certificate has, and the scripts that make
certificates are the same. -/
theorem line_ends_leave_no_trace {ls : List String} {text : String} (htext : Ended ls text)
    (hls : ∀ l ∈ ls, IsLine l) :
    lines text = ls.filter (· ≠ "") ∧
    (∀ (p : Profile) node n, p.cluster.nodeOrFirst node = .ok n →
      ∃ script, Target.script (p.withExtraHosts text) (.certificate node) = .ok script ∧
        script.documents = [⟨p.certificates.file (n.name ++ "-ca-csr.json"),
          p.certificates.memberRequest n.name (certificateHosts (n.address :: ls))⟩]) ∧
    ∀ text', Ended ls text' →
      (∀ (ca : CertificateAuthority) name commonName host,
        ca.certificateScript name commonName host text =
          ca.certificateScript name commonName host text') ∧
      ∀ (p : Profile) node, Target.render (p.withExtraHosts text) (.certificate node) =
        Target.render (p.withExtraHosts text') (.certificate node) := by
  have hread := lines_of_ended htext hls
  refine ⟨hread, fun p node n hnode => ?_, fun text' htext' => ?_⟩
  · rw [Target.script_certificate_withExtraHosts, hnode]
    refine ⟨_, rfl, ?_⟩
    rw [CertificateAuthority.documents_certificateScript, hread, certificateHosts_filter]
  · have hsame : lines text = lines text' := hread.trans (lines_of_ended htext' hls).symm
    have hscript := fun ca : CertificateAuthority => ca.certificateScript_congr hsame
    refine ⟨hscript, fun p node => ?_⟩
    unfold Target.render
    rw [Target.script_certificate_withExtraHosts, Target.script_certificate_withExtraHosts]
    simp only [hscript]

/-- Hosts with blanks around them and a carriage return inside, and an empty line among them. -/
def strangeHosts : List String := [" a b ", "", "c\rd", "\t", "\u00e9"]

theorem strange_hosts_leave_no_trace :
    let mixed := " a b \n\r\nc\rd\r\n\t\n\u00e9"
    let swapped := " a b \r\n\nc\rd\n\t\r\n\u00e9\r\n"
    (Ended strangeHosts mixed ∧ Ended strangeHosts swapped ∧ ∀ l ∈ strangeHosts, IsLine l) ∧
      lines mixed = [" a b ", "c\rd", "\t", "\u00e9"] ∧
      Sample.profile.cluster.nodeOrFirst none = .ok (Sample.node "s1" 2379 2380) ∧
      (∃ script,
        Target.script (Sample.profile.withExtraHosts mixed) (.certificate none) = .ok script ∧
        script.documents.map (·.body) = [Sample.profile.certificates.memberRequest "s1"
          ["127.0.0.1", "localhost", " a b ", "c\rd", "\t", "\u00e9"]]) ∧
      Target.render (Sample.profile.withExtraHosts mixed) (.certificate none) =
        Target.render (Sample.profile.withExtraHosts swapped) (.certificate none) := by
  intro mixed swapped
  have hmixed : Ended strangeHosts mixed :=
    .closed " a b " .feed (.closed "" .returnFeed
      (.closed "c\rd" .returnFeed (.closed "\t" .feed (.unclosed "\u00e9"))))
  have hswapped : Ended strangeHosts swapped :=
    .closed " a b " .returnFeed (.closed "" .feed
      (.closed "c\rd" .feed (.closed "\t" .returnFeed (.closed "\u00e9" .returnFeed .nothing))))
  have hlines : ∀ l ∈ strangeHosts, IsLine l := by decide
  obtain ⟨hread, hrequest, hsame⟩ := line_ends_leave_no_trace hmixed hlines
  obtain ⟨script, hscript, hdocuments⟩ := hrequest Sample.profile none _ rfl
  refine ⟨⟨hmixed, hswapped, hlines⟩, hread.trans (by decide), rfl, ⟨script, hscript, ?_⟩,
    (hsame swapped hswapped).2 _ none⟩
  rw [hdocuments]
  rfl

end EtcdKit
