import EtcdKit.Certificates.Script
import EtcdKit.Proofs.Profile.Plain
/-!
# RequestFiles — no line of a certificate request closes its here-document

Every line of a request starts with a fixed beginning, but for the lines of its hosts, of which there
are as many as hosts.  Each of these is indented, and each host stands on one line wherever it comes
from, so the hosts are contained (`contained_hosts`).
-/
namespace EtcdKit

open Script

theorem contained_hosts {host : String} {hosts : List String}
    (h : ∀ t ∈ host :: hosts, OneLine t) :
    Contained (String.intercalate ",\n" ((host :: hosts).map CertificateAuthority.hostLine)) := by
  have hquoted : (host :: hosts).map CertificateAuthority.hostLine =
      ((host :: hosts).map (· ++ "\"")).map ("    \"" ++ ·) := by
    rw [List.map_map]
    exact List.map_congr_left fun t _ => String.append_assoc
  have hseparator : Folded (",\n" ++ "    \"") := by
    have hparts : ",\n" ++ "    \"" = "," ++ "\n " ++ "   \"" := by decide
    rw [hparts]
    exact folded_between (oneLine_ofList _ rfl) (oneLine_ofList _ rfl)
  have hfolded : ∀ t ∈ (host :: hosts).map (· ++ "\""), Folded t := by
    intro t ht
    obtain ⟨u, hu, rfl⟩ := List.mem_map.1 ht
    exact (h u hu).folded.append (oneLine_ofList _ rfl).folded
  -- the indent of a host counts to the joint before it, so that the joint is folded by itself
  rw [hquoted, List.map_cons, Text.intercalate_map_append, contained_lead_append (lead_ofList _ rfl)]
  exact folded_intercalate hseparator hfolded

namespace CertificateAuthority.Plain

variable {ca : CertificateAuthority} (h : ca.Plain)
include h

theorem inert_file {name : String} (hname : Inert name) : Inert (ca.file name) :=
  (inert_strip h.certsDir).between hname (word_ofList _ rfl)

theorem contained_requestHead : ∀ l ∈ ca.requestHead, Contained l := by
  have halgorithm := h.keyAlgorithm.1
  have horganization := h.organization.1
  have hunit := h.organizationUnit.1
  have hcity := h.city.1
  have hstate := h.state.1
  have hcountry := h.country.1
  have hsize : OneLine ca.writtenKeySize.repr := (inert_toString _).1
  simp (disch := first | assumption | exact lead_ofList _ rfl | exact oneLine_ofList _ rfl) [
    requestHead, quotedMember, String.append_assoc]

theorem sound_rootRequest : SoundPart (.document ⟨ca.rootRequestFile, ca.rootRequest⟩) := by
  have hpath : Inert ca.rootRequestFile :=
    h.inert_file (h.rootPrefix.before (word_ofList _ rfl))
  have hname := h.commonName.1
  refine ⟨hpath.1, endsLine_lines (by simp), endMarker_not_mem_lines ?_⟩
  rw [List.forall_mem_append]
  refine ⟨h.contained_requestHead, ?_⟩
  simp (disch := first | assumption | exact lead_ofList _ rfl | exact oneLine_ofList _ rfl) [
    quotedMember, String.append_assoc]

theorem sound_signingPolicy : SoundPart (.document ⟨ca.file ca.signingFile, ca.signingPolicy⟩) := by
  have hhours : OneLine ca.writtenExpiryHours.repr := (inert_toString _).1
  refine ⟨(h.inert_file h.signingFile).1, endsLine_lines (by simp), endMarker_not_mem_lines ?_⟩
  simp (disch := first | assumption | exact lead_ofList _ rfl | exact oneLine_ofList _ rfl) [
    quotedMember, String.append_assoc]

theorem sound_memberRequest {path commonName address : String} (hpath : OneLine path)
    (hname : OneLine commonName) (haddress : OneLine address) (extraHosts : String) :
    SoundPart (.document ⟨path, ca.memberRequest commonName
      (certificateHosts (address :: Text.lines extraHosts))⟩) := by
  have hhosts : Contained (String.intercalate ",\n"
      ((certificateHosts (address :: Text.lines extraHosts)).map hostLine)) :=
    contained_hosts (oneLine_certificateHosts haddress)
  refine ⟨hpath, endsLine_lines (by simp), endMarker_not_mem_lines ?_⟩
  rw [List.forall_mem_append]
  refine ⟨h.contained_requestHead, ?_⟩
  simp (disch := first | assumption | exact lead_ofList _ rfl | exact oneLine_ofList _ rfl) [
    quotedMember, String.append_assoc, hhosts]

theorem sound_rootScript : ∀ part ∈ ca.rootScript, SoundPart part := by
  have hdirectory := (inert_strip h.certsDir).2
  have hrequest := h.sound_rootRequest
  have hpolicy := h.sound_signingPolicy
  have hroot := h.rootPrefix.2
  simp only [rootScript, List.forall_mem_cons]
  refine ⟨⟨whole_lines _, ?_⟩, hrequest, ⟨whole_lines _, ?_⟩, hpolicy, ⟨whole_concat "", ?_⟩, by simp⟩
  · simp (disch := first | assumption | exact calm_ofList _ rfl) [directory, quiet_true]
  · simp (disch := first | assumption | exact calm_ofList _ rfl) [file, directory, rootRequestFile,
      CertificateAuthority.rootFile, String.append_assoc, quiet_true]
  · exact quiet_ofList _ rfl

theorem sound_memberScript {n : Node} (hn : n.Plain) :
    ∀ part ∈ ca.memberScript n, SoundPart part := by
  have hdirectory := (inert_strip h.certsDir).2
  have hsigning := h.signingFile.2
  have hroot := h.rootPrefix.2
  have hname := hn.name.2
  have hpath : Inert (ca.file (n.name ++ "-ca-csr.json")) :=
    h.inert_file (hn.name.before (word_ofList _ rfl))
  have hrequest := h.sound_memberRequest hpath.1 hn.name.1 hn.address.1 ca.extraHosts
  simp only [memberScript, certificateScript, List.forall_mem_cons]
  refine ⟨⟨whole_lines _, ?_⟩, hrequest, ⟨whole_lines _, ?_⟩, by simp⟩
  · simp (disch := first | assumption | exact calm_ofList _ rfl) [directory, quiet_true]
  · simp (disch := first | assumption | exact calm_ofList _ rfl) [file, directory, rootKeyFile,
      CertificateAuthority.rootFile, String.append_assoc, quiet_true]

theorem quiet_rootListing : Quiet ca.rootListing := by
  have hdirectory := (inert_strip h.certsDir).2
  have hsigning := h.signingFile.2
  have hroot := h.rootPrefix.2
  simp (disch := first | assumption | exact calm_ofList _ rfl) [rootListing, file, directory,
    rootRequestFile, rootKeyFile, CertificateAuthority.rootFile, String.append_assoc, quiet_true]

theorem quiet_copyScript {dir : String} (hdir : Inert dir) : Quiet (ca.copyScript dir) := by
  have hdirectory := (inert_strip h.certsDir).2
  have htarget := (inert_strip hdir).2
  simp (disch := first | assumption | exact calm_ofList _ rfl) [copyScript, directory,
    String.append_assoc, quiet_true]

end CertificateAuthority.Plain

end EtcdKit
