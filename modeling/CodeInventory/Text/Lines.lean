namespace CodeInventory.Text

/-- Line feeds, and one more line if text follows the last of them. -/
def lineCount (text : String) : Nat :=
  let chars := text.toList
  chars.count '\n' + if chars.getLast?.any (· ≠ '\n') then 1 else 0

end CodeInventory.Text
