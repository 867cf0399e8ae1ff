import EtcdKit.Proofs.Script.Fragments
import EtcdKit.Proofs.Script.Reading
/-!
# Blocks — titled parts of a guide, read one after the other

A block is a title and a body, and a blank line stands between two blocks.  A block whose title is quiet
is read as it was written if its body is (`reads_of_sound`, `reads_of_quiet`), and a shell that reads
joined blocks reads them block by block (`readsAs_joined`).
-/
namespace EtcdKit
namespace Block

open Script

theorem readsAs_blankLine : ReadsAs "\n" [] :=
  readsAs_plain (whole_concat "") (quiet_ofList _ rfl)

/-- A block that a shell reads as it was written. -/
def Reads (b : Block) : Prop := ReadsAs b.text b.body.documents

/-- A block is read as its body is, if its title is quiet. -/
theorem reads_of_body {b : Block} (htitle : Quiet b.title)
    (hbody : ReadsAs (b.body.text ++ if endsLine b.body.text then "" else "\n") b.body.documents) :
    b.Reads := by
  have hhead : Quiet ("# " ++ b.title ++ "\n") := by
    rw [quiet_append_calm (calm_ofList _ rfl), quiet_calm_append (calm_ofList _ rfl)]
    exact htitle
  unfold Reads
  rw [b.text_eq, String.append_assoc]
  exact (readsAs_plain (whole_concat _) hhead).append hbody

theorem reads_of_sound {b : Block} (htitle : Quiet b.title)
    (hbody : ∀ part ∈ b.body, SoundPart part) : b.Reads := by
  apply reads_of_body htitle
  have hend : ReadsAs (if endsLine b.body.text then "" else "\n") [] := by
    split
    · exact readsAs_empty
    · exact readsAs_blankLine
  simpa using (readsAs_text hbody).append hend

/-- Plain text may lack its last line end, since the block adds it. -/
theorem reads_of_quiet {title content : String} (htitle : Quiet title) (hcontent : Quiet content) :
    Block.Reads ⟨title, .ofText content⟩ := by
  refine @reads_of_body ⟨title, .ofText content⟩ htitle ?_
  rw [Script.text_ofText]
  cases hend : endsLine content with
  | true =>
    rw [if_pos rfl, String.append_empty]
    exact readsAs_plain (whole_of_endsLine hend) hcontent
  | false =>
    have hquiet : Quiet (content ++ "\n") := (quiet_append_calm (calm_ofList _ rfl)).2 hcontent
    rw [if_neg Bool.false_ne_true]
    exact readsAs_plain (whole_concat content) hquiet

/-- **Joined blocks are read block by block.** -/
theorem readsAs_joined : ∀ {bs : List Block}, (∀ b ∈ bs, b.Reads) →
    ReadsAs (joined bs).text (joined bs).documents
  | [], _ => readsAs_empty
  | [b], h => by
    rw [joined, documents_script]
    exact h b List.mem_cons_self
  | b :: c :: bs, h => by
    have hrest := readsAs_joined fun d hd => h d (List.mem_cons_of_mem b hd)
    rw [joined, Script.text_append, Script.text_cons, Script.documents_append, documents_script]
    · exact (h b List.mem_cons_self).append (readsAs_blankLine.append hrest)
    · simp

/-- The files that blocks write, in order. -/
def paths (bs : List Block) : List String :=
  bs.flatMap fun b => b.body.documents.map (·.path)

theorem paths_append (bs cs : List Block) : paths (bs ++ cs) = paths bs ++ paths cs :=
  List.flatMap_append

theorem paths_joined (bs : List Block) : (joined bs).documents.map (·.path) = paths bs := by
  rw [documents_joined, List.map_flatMap]
  rfl

end Block
end EtcdKit
