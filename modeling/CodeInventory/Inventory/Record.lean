import CodeInventory.Text.Lines

namespace CodeInventory

structure FileRecord (α : Type) where
  path : String
  extraction : α
  lineCount : Nat
  byteSize : Nat
  deriving DecidableEq

def FileRecord.ofText {α : Type} (path content : String) (extraction : α) : FileRecord α where
  path := path
  extraction := extraction
  lineCount := Text.lineCount content
  byteSize := content.utf8ByteSize

end CodeInventory
