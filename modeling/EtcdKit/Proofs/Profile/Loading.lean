import EtcdKit.Profile.Loading
import EtcdKit.Proofs.Cluster.Validity
/-!
# Loading — what is known of a profile that was loaded

A profile comes from a text that is read and then checked, or it is the sample profile, so it is valid
whatever the file holds (`validate_of_load`).
-/
namespace EtcdKit
namespace Profile

theorem checked_eq_ok {p q : Profile} (h : p.checked = .ok q) : p = q ∧ p.validate = .ok () := by
  unfold checked at h
  split at h
  · rename_i hv
    exact ⟨Except.ok.inj h, hv⟩
  · cases h

theorem validate_of_parsed {found : Option Profile} {e : Error} {p : Profile}
    (h : (match found with | some q => q.checked | none => .error e) = .ok p) :
    p.validate = .ok () := by
  split at h
  · obtain ⟨rfl, hv⟩ := checked_eq_ok h
    exact hv
  · cases h

theorem validate_of_readerFor? {extension : Option String} {read : String → Except Error Profile}
    (hread : readerFor? extension = some read) {text : String} {p : Profile}
    (h : read text = .ok p) : p.validate = .ok () := by
  unfold readerFor? at hread
  split at hread
  · obtain rfl := Option.some.inj hread
    exact validate_of_parsed h
  · obtain rfl := Option.some.inj hread
    exact validate_of_parsed h
  · obtain rfl := Option.some.inj hread
    exact validate_of_parsed h
  · cases hread

/-- **Every profile that is loaded is valid.** -/
theorem validate_of_load {readText : String → Except Error String} {path : Option String}
    {p : Profile} (h : load readText path = .ok p) : p.validate = .ok () := by
  cases path with
  | none =>
    cases Except.ok.inj h
    exact (validate_eq_ok_iff _).2 ⟨by decide, by decide⟩
  | some path =>
    simp only [load, loadFile] at h
    split at h
    · cases h
    · rename_i read hread
      split at h
      · exact validate_of_readerFor? hread h
      · cases h

end Profile
end EtcdKit
