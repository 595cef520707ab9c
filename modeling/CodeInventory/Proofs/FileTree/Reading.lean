import CodeInventory.FileTree.Resolve
import CodeInventory.Proofs.Text.Encoding

namespace CodeInventory.FileTree

def Legible (tree : FileTree) (path : Path) : Prop :=
  ∃ content, tree.readBytes path = .ok (Text.encode content)

theorem readText_eq_ok_iff {tree : FileTree} {path : Path} {content : String} :
    tree.readText path = .ok content ↔ tree.readBytes path = .ok (Text.encode content) := by
  unfold readText
  cases reading : tree.readBytes path with
  | error fault => simp
  | ok bytes =>
    cases decoding : Text.decode? bytes with
    | none =>
      have refused := Text.decode?_eq_none_iff.1 decoding content
      simp only [decoding, reduceCtorEq, Except.ok.injEq, false_iff]
      exact refused
    | some text =>
      obtain rfl := Text.decode?_eq_some_iff.1 decoding
      simp only [Text.decode?_encode, Except.ok.injEq, Text.encode_inj]

theorem readText_fails_iff {tree : FileTree} {path : Path} :
    (∃ fault, tree.readText path = .error fault) ↔ ¬ tree.Legible path := by
  constructor
  · rintro ⟨fault, failed⟩ ⟨content, reading⟩
    rw [readText_eq_ok_iff.2 reading] at failed
    cases failed
  · intro illegible
    cases reading : tree.readText path with
    | error fault => exact ⟨fault, rfl⟩
    | ok content => exact absurd ⟨content, readText_eq_ok_iff.1 reading⟩ illegible

end CodeInventory.FileTree
