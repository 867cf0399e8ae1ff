import EtcdKit.Script.Basic
/-!
# Block — a titled script

A block starts with its title in a comment and ends with a line end, whatever its body is.
-/
namespace EtcdKit

structure Block where
  title : String
  body : Script
  deriving DecidableEq, Repr

namespace Block

def endsLine (text : String) : Bool := text.toList.getLast? == some '\n'

/-- The block as one script: the title in a comment, the body, and a line end if it lacks one. -/
def script (b : Block) : Script :=
  .plain ("# " ++ b.title ++ "\n") :: b.body ++
    (if endsLine b.body.text then [] else [.plain "\n"])

def text (b : Block) : String := b.script.text

/-- Blocks with an empty line between them. -/
def joined : List Block → Script
  | [] => []
  | [b] => b.script
  | b :: bs => b.script ++ .plain "\n" :: joined bs

theorem text_eq (b : Block) :
    b.text = "# " ++ b.title ++ "\n" ++ b.body.text ++
      (if endsLine b.body.text then "" else "\n") := by
  rw [text, script, List.cons_append, Script.text_cons, Script.text_append, ← String.append_assoc]
  congr 1
  cases endsLine b.body.text <;> rfl

/-- **Blocks are joined by an empty line**: a line end stands between the texts of two blocks. -/
theorem text_joined : ∀ bs : List Block,
    (joined bs).text = String.intercalate "\n" (bs.map text)
  | [] => rfl
  | [b] => by rw [joined, List.map_singleton, String.intercalate_singleton, text]
  | b :: c :: bs => by
    rw [joined, Script.text_append, Script.text_cons, text_joined (c :: bs)]
    · simp only [List.map_cons, String.intercalate_cons_cons, String.append_assoc, text,
        ScriptPart.text]
    · simp

theorem documents_script (b : Block) : b.script.documents = b.body.documents := by
  have hend : Script.documents (if endsLine b.body.text then [] else [.plain "\n"]) = [] := by
    split <;> rfl
  unfold script
  rw [List.cons_append]
  calc Script.documents (.plain ("# " ++ b.title ++ "\n") ::
        (b.body ++ if endsLine b.body.text then [] else [.plain "\n"]))
      = Script.documents (b.body ++ if endsLine b.body.text then [] else [.plain "\n"]) := rfl
    _ = b.body.documents := by rw [Script.documents_append, hend, List.append_nil]

/-- **Joining blocks adds, drops and moves no file.** -/
theorem documents_joined : ∀ bs : List Block,
    (joined bs).documents = bs.flatMap (·.body.documents)
  | [] => rfl
  | [b] => by rw [joined, documents_script, List.flatMap_singleton]
  | b :: c :: bs => by
    have hrest := documents_joined (c :: bs)
    rw [joined, Script.documents_append, documents_script, List.flatMap_cons, ← hrest]
    · rfl
    · simp

end Block
end EtcdKit
