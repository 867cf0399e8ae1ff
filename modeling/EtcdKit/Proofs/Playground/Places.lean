import EtcdKit.Proofs.CommandLine.ExitCodes
import EtcdKit.Proofs.Directory.Stripping
import EtcdKit.Proofs.Profile.Validity
import EtcdKit.Proofs.Url.Segments
/-!
# Places — where the calls to a playground go

The place of a call is looked up from the address of the playground.  It stands behind the last separator of
the path, and what stood there before is gone (`Url.Beside`); only the drive of a file stays.  So a call keeps
the whole path of the address exactly if nothing stands behind that separator
(`calls_stand_beside_endpoint`).
-/
namespace EtcdKit
namespace Url

/-! ## The text of a path -/

theorem path_text_concat (parts : List String) (last : String) :
    (Path.segments (parts ++ [last])).text = (Path.segments parts).text ++ "/" ++ last := by
  simp only [Path.text, List.map_append, String.join_append, List.map_cons, List.map_nil,
    String.join_cons, String.join_nil, String.append_empty, String.append_assoc]

/-- Every segment is written with a slash, so only a path without segments is written as nothing. -/
theorem path_text_eq_empty_iff {parts : List String} :
    (Path.segments parts).text = "" ↔ parts = [] := by
  rcases List.eq_nil_or_concat' parts with rfl | ⟨front, last, rfl⟩
  · exact iff_of_true rfl rfl
  · rw [path_text_concat]
    simp

/-! ## Drives -/

/-- The path is the drive of a file and nothing else. -/
def OnDrive (u : Url) : Prop :=
  u.scheme = "file" ∧ ∃ letter : Char, letter.isAlpha = true ∧
    u.path.text = "/" ++ String.ofList [letter, ':']

theorem isDriveName_iff {part : String} : isDriveName part = true ↔
    ∃ letter : Char, letter.isAlpha = true ∧ part = String.ofList [letter, ':'] := by
  unfold isDriveName
  constructor
  · intro h
    split at h
    · rename_i letter hpart
      exact ⟨letter, h, String.toList_inj.1 (by rw [hpart, String.toList_ofList])⟩
    · cases h
  · rintro ⟨letter, hletter, rfl⟩
    rwa [String.toList_ofList]

theorem isDriveAlone_iff {scheme : String} {parts : List String} :
    isDriveAlone scheme parts = true ↔
      scheme = "file" ∧ ∃ part, parts = [part] ∧ isDriveName part = true := by
  unfold isDriveAlone
  split
  · rename_i part
    simp [and_comm]
  · rename_i hparts
    refine iff_of_false (by simp) ?_
    rintro ⟨-, part, rfl, -⟩
    exact hparts part rfl

theorem onDrive_iff {u : Url} {parts : List String} (hpath : u.path = .segments parts)
    (hslash : Slashless parts) : u.OnDrive ↔ isDriveAlone u.scheme parts = true := by
  rw [isDriveAlone_iff, OnDrive, hpath]
  refine and_congr_right fun _ => ⟨?_, ?_⟩
  · rintro ⟨letter, hletter, htext⟩
    have hdrive : isDriveName (String.ofList [letter, ':']) = true :=
      isDriveName_iff.2 ⟨letter, hletter, rfl⟩
    rcases List.eq_nil_or_concat' parts with rfl | ⟨front, last, rfl⟩
    · exact absurd htext.symm (by simp [Path.text])
    · have hname : '/' ∉ (String.ofList [letter, ':']).toList := by
        have hne := slash_ne_of_isAlpha hletter
        simpa using hne
      have hlast : '/' ∉ last.toList := hslash last (by simp)
      have hjoints : (Path.segments front).text ++ "/" ++ last =
          "" ++ "/" ++ String.ofList [letter, ':'] := by
        rw [← path_text_concat, htext, String.empty_append]
      obtain ⟨hfront, rfl⟩ := Text.append_joint_inj Directory.toList_separator hlast hname hjoints
      rw [path_text_eq_empty_iff.1 hfront]
      exact ⟨_, rfl, hdrive⟩
  · rintro ⟨part, rfl, hdrive⟩
    obtain ⟨letter, hletter, rfl⟩ := isDriveName_iff.1 hdrive
    exact ⟨letter, hletter, by simp [Path.text]⟩

/-! ## Neighbours -/

/-- The path at which a place is found that is looked up from an address. -/
inductive Beside (u : Url) (place : String) : String → Prop
  | bare (empty : u.path.text = "") : Beside u place ("/" ++ place)
  | drive (drive : u.OnDrive) : Beside u place (u.path.text ++ "/" ++ place)
  /-- The place stands behind the last separator, and what stood there is gone. -/
  | folder {front last : String} (path : u.path.text = front ++ "/" ++ last)
      (whole : '/' ∉ last.toList) (noDrive : ¬ u.OnDrive) : Beside u place (front ++ "/" ++ place)

/-- Nothing stands behind the last separator of the path that a neighbour would take the place of. -/
def KeepsPath (u : Url) : Prop :=
  u.path.text = "" ∨ (∃ front, u.path.text = front ++ "/") ∨ u.OnDrive

/-- An address and one that was looked up from it. -/
structure Neighbour (u : Url) (place : String) (found : Url) : Prop where
  scheme : found.scheme = u.scheme
  authority : found.authority = u.authority
  query : found.query = none
  fragment : found.fragment = none
  path : u.Beside place found.path.text

theorem neighbour_of_neighbour? {u found : Url} {place : String} (hslash : u.path.Slashless)
    (h : u.neighbour? place = some found) : u.Neighbour place found := by
  unfold neighbour? at h
  split at h
  · cases h
  · rename_i parts hpath
    rw [hpath] at hslash
    cases h
    refine ⟨rfl, rfl, rfl, rfl, ?_⟩
    dsimp only
    rw [path_text_concat]
    by_cases hdrive : u.OnDrive
    · rw [if_pos ((onDrive_iff hpath hslash).1 hdrive), ← hpath]
      exact .drive hdrive
    · rw [if_neg (mt (onDrive_iff hpath hslash).2 hdrive)]
      rcases List.eq_nil_or_concat' parts with rfl | ⟨front, last, rfl⟩
      · exact .bare (by rw [hpath]; rfl)
      · rw [List.dropLast_concat]
        have htext : u.path.text = (Path.segments front).text ++ "/" ++ last := by
          rw [hpath, path_text_concat]
        exact .folder htext (hslash last (by simp)) hdrive

example : ((parse? "file:///C:").bind fun u => u.neighbour? "conn").map text =
    some "file:///C:/conn" := by decide +kernel

/-- **A neighbour is behind the whole path** exactly if nothing makes way for it. -/
theorem Beside.eq_iff {u : Url} {place path : String} (h : u.Beside place path) :
    path = Directory.dropSeparator u.path.text ++ "/" ++ place ↔ u.KeepsPath := by
  unfold KeepsPath
  cases h with
  | bare hempty =>
    rw [hempty]
    exact iff_of_true rfl (.inl rfl)
  | drive hdrive =>
    refine iff_of_true ?_ (.inr (.inr hdrive))
    obtain ⟨-, letter, -, htext⟩ := hdrive
    rw [Directory.dropSeparator_of_ne]
    intro x hx
    have hlast := congrArg (fun t : String => t.toList.getLast?) (htext.symm.trans hx)
    simp at hlast
  | @folder front last hpath hlast hdrive =>
    by_cases hend : last = ""
    · rw [hend, String.append_empty] at hpath
      rw [hpath, Directory.dropSeparator_append]
      exact iff_of_true rfl (.inr (.inl ⟨front, rfl⟩))
    · have hplain : ∀ x, u.path.text ≠ x ++ "/" := by
        intro x hx
        have hjoints : front ++ "/" ++ last = x ++ "/" ++ "" := by
          rw [← hpath, hx, String.append_empty]
        exact hend (Text.append_joint_inj Directory.toList_separator hlast List.not_mem_nil hjoints).2
      refine iff_of_false ?_ ?_
      · -- the place stands where the last segment was, not behind it
        rw [Directory.dropSeparator_of_ne hplain, hpath]
        intro hsame
        have hlength := congrArg String.length hsame
        simp only [String.length_append, Directory.length_separator] at hlength
        omega
      · rintro (hempty | ⟨x, hx⟩ | hdrive')
        · rw [hpath] at hempty
          simp at hempty
        · exact hplain x hx
        · exact hdrive hdrive'

end Url

namespace Playground

/-- **Where the calls to a playground go** that is at a valid address.  Every call has a request, and it goes
to the scheme and the authority of the address, beside the last segment of its path and without its query and
fragment.  So the call keeps all of the path, but for a final separator, exactly if nothing stands behind the
last separator that would make way for it.  A client asks for this and nothing else. -/
theorem calls_stand_beside_endpoint {text : String} {s : PlaygroundSettings}
    (hread : Url.parse? text = some s.endpoint) (hvalid : s.fault? = none) (k : Call) :
    ∃ url, k.request s.endpoint = .ok ⟨k.method, url, k.body⟩ ∧ s.endpoint.Neighbour k.place url ∧
      (url.path.text = Directory.dropSeparator s.endpoint.path.text ++ "/" ++ k.place ↔
        s.endpoint.KeepsPath) ∧
      ∀ c : Client, c.endpoint = s.endpoint →
        (c.call k).2.server = (c.server.exchange ⟨k.method, url, k.body⟩).2 ∧
        (c.server.listens = true → s.endpoint.scheme = "http" ∨ s.endpoint.scheme = "https" →
          (c.call k).2.server.received = c.server.received ++ [⟨k.method, url, k.body⟩]) := by
  obtain ⟨-, hbase⟩ := Profile.playground_fault?_eq_none_iff.1 hvalid
  obtain ⟨url, hurl, hrequest⟩ := Call.request_eq_ok hbase k
  have hneighbour := Url.neighbour_of_neighbour? (Url.slashless_of_parse hread) hurl
  refine ⟨url, hrequest, hneighbour, hneighbour.path.eq_iff, fun c hc => ?_⟩
  rw [← hc] at hrequest
  rw [c.call_eq hrequest]
  refine ⟨rfl, fun hlistens hweb => ?_⟩
  rw [← hc] at hweb
  exact c.server.received_exchange hlistens (k.isSendable_of_request hrequest hweb)

example : Url.parse? "http://localhost:2200" = some Sample.endpoint := by decide +kernel

/-- A playground that is at a folder, and asks who calls. -/
def gated : PlaygroundSettings where
  endpoint := {
    scheme := "http"
    authority := some {
      username := "ops", password := "pw", host := .name "playground.test", port := some 4200 }
    path := .segments ["a", "", "b", ""]
    query := some "x/y"
    fragment := some "z" }
  timeoutSeconds := 10

/-- The separators inside of a path are kept as they are, and those of a query make no difference. -/
theorem gated_calls_keep_path :
    (Url.parse? "http://ops:pw@playground.test:4200/a//b/?x/y#z" = some gated.endpoint ∧
      gated.fault? = none) ∧
    ∃ url, Call.status.request gated.endpoint = .ok ⟨.get, url, none⟩ ∧
      gated.endpoint.Neighbour "server-status" url ∧ url.path.text = "/a//b/server-status" ∧
      ∀ c : Client, c.endpoint = gated.endpoint → c.server.listens = true →
        (c.call .status).2.server.received = c.server.received ++ [⟨.get, url, none⟩] := by
  have hread : Url.parse? "http://ops:pw@playground.test:4200/a//b/?x/y#z" = some gated.endpoint := by
    decide +kernel
  have hvalid : gated.fault? = none := by decide
  obtain ⟨url, hrequest, hneighbour, hkept, hserver⟩ :=
    calls_stand_beside_endpoint hread hvalid .status
  have hpath := hkept.2 (.inr (.inl ⟨"/a//b", by decide⟩))
  refine ⟨⟨hread, hvalid⟩, url, hrequest, hneighbour, hpath.trans (by decide), ?_⟩
  exact fun c hc hlistens => (hserver c hc).2 hlistens (.inl rfl)

/-- A path that does not end with a separator loses what stands behind its last one. -/
theorem last_segment_makes_way :
    ∃ endpoint url : Url, Url.parse? "http://playground.test:4200/base" = some endpoint ∧
      (⟨endpoint, 10⟩ : PlaygroundSettings).fault? = none ∧
      Call.connect.request endpoint = .ok ⟨.get, url, none⟩ ∧
      url.path.text = "/conn" ∧
      url.path.text ≠ Directory.dropSeparator endpoint.path.text ++ "/" ++ Call.connect.place := by
  let authority : Url.Authority := { host := .name "playground.test", port := some 4200 }
  refine ⟨⟨"http", some authority, .segments ["base"], none, none⟩,
    ⟨"http", some authority, .segments ["conn"], none, none⟩, ?_, ?_, rfl, ?_, ?_⟩
  · decide +kernel
  · decide
  · decide
  · decide

end Playground
end EtcdKit
