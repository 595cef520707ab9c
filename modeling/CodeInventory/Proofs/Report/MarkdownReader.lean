import Mathlib
import CodeInventory.Proofs.Report.Items
import CodeInventory.Report.Markdown

namespace CodeInventory.Markdown

open CodeInventory.Report CodeInventory.Source

def pieces? {α : Type} [BEq α] (mark : α) (list : List α) : Option (List (List α)) :=
  [[]].isSuffixOf? (list.splitOn mark)

def paragraphs? (text : String) : Option (List (List String)) :=
  (pieces? '\n' text.toList).bind fun lines => pieces? "" (lines.map String.ofList)

def after? (lead line : String) : Option String :=
  (lead.toList.isPrefixOf? line.toList).map String.ofList

def before? (tail line : String) : Option String :=
  (tail.toList.isSuffixOf? line.toList).map String.ofList

def aroundLast? (mark : Char) : List Char → Option (List Char × List Char)
  | [] => none
  | c :: rest =>
    match aroundLast? mark rest with
    | some (front, back) => some (c :: front, back)
    | none => if c = mark then some ([], rest) else none

/-- The path of an entry, and what is said about the file. The path may have backticks, what
follows it has none. -/
def file? (line : String) : Option (String × String) := do
  let (path, tail) ← aroundLast? '\x60' (← after? "- `" line).toList
  return (String.ofList path, ← after? " - " (String.ofList tail))

def category? (piece : List Char) : Option (String × Nat) := do
  let rest := (← after? " " (String.ofList piece)).toList
  let digits := rest.takeWhile Char.isDigit
  let label ← after? " " (String.ofList (rest.dropWhile Char.isDigit))
  if digits = [] then none else some (label, Nat.ofDigitChars 10 digits 0)

def counts? (detail : String) : Option (List (String × Nat)) :=
  if detail = "No symbols" then some []
  else ((" " ++ detail).toList.splitOn ',').mapM category?

def sourceFile? (line : String) : Option (String × List (String × Nat)) := do
  let (path, detail) ← file? line
  return (path, ← counts? detail)

/-- A file with its labels; the number given for them has to be theirs. -/
def block? (noun : String) : List String → Option (String × List String)
  | [] => none
  | line :: rest => do
    let (path, detail) ← file? line
    let labels ← rest.mapM (after? "  - ")
    if detail = toString labels.length ++ " " ++ noun then some (path, labels) else none

def heading? (name : String) : List String → Option String
  | [line] => (after? ("## " ++ name ++ " (`") line).bind (before? "/`)")
  | _ => none

structure Listing where
  title : String
  generatedOn : String
  counters : List String
  sourceRoot : String
  sources : List (String × List (String × Nat))
  benchmarkRoot : String
  benchmarks : List (String × List String)
  testRoot : String
  tests : List (String × List String)
  deriving DecidableEq

def listing? : List (List String) → Option Listing
  | [title] :: [generatedOn] :: summary :: counters :: sourceHeading :: sources ::
      benchmarkHeading :: rest => do
    guard (summary = ["## Summary"])
    let title ← after? "# " title
    let generatedOn ← after? "Generated on: " generatedOn
    let counters ← counters.mapM (after? "- ")
    let sourceRoot ← heading? "Source Files" sourceHeading
    let sources ← sources.mapM sourceFile?
    let benchmarkRoot ← heading? "Benchmark Files" benchmarkHeading
    let (benchmarks, rest) := readWhile (block? "benchmarks") rest
    let testHeading ← rest.head?
    let testRoot ← heading? "Test Files" testHeading
    let tests ← rest.tail.mapM (block? "test behaviors")
    return ⟨title, generatedOn, counters, sourceRoot, sources, benchmarkRoot, benchmarks, testRoot,
      tests⟩
  | _ => none

def read? (text : String) : Option Listing := (paragraphs? text).bind listing?

theorem after?_append (lead rest : String) : after? lead (lead ++ rest) = some rest := by
  have taken : lead.toList.isPrefixOf? (lead.toList ++ rest.toList) = some rest.toList :=
    List.isPrefixOf?_eq_some_iff_append_eq.2 rfl
  rw [after?, String.toList_append, taken, Option.map_some, String.ofList_toList]

theorem before?_append (rest tail : String) : before? tail (rest ++ tail) = some rest := by
  have taken : tail.toList.isSuffixOf? (rest.toList ++ tail.toList) = some rest.toList :=
    List.isSuffixOf?_eq_some_iff_append_eq.2 rfl
  rw [before?, String.toList_append, taken, Option.map_some, String.ofList_toList]

theorem aroundLast?_of_not_mem {mark : Char} {back : List Char} (absent : mark ∉ back) :
    aroundLast? mark back = none := by
  induction back with
  | nil => rfl
  | cons c rest ih =>
    rw [List.mem_cons, not_or] at absent
    rw [aroundLast?, ih absent.2]
    exact if_neg (Ne.symm absent.1)

theorem aroundLast?_append {mark : Char} (front : List Char) {back : List Char}
    (absent : mark ∉ back) : aroundLast? mark (front ++ mark :: back) = some (front, back) := by
  induction front with
  | nil => rw [List.nil_append, aroundLast?, aroundLast?_of_not_mem absent]; exact if_pos rfl
  | cons c rest ih => rw [List.cons_append, aroundLast?, ih]

theorem pieces?_flatMap {α : Type} [BEq α] [LawfulBEq α] {mark : α} {pieces : List (List α)}
    (absent : ∀ piece ∈ pieces, mark ∉ piece) :
    pieces? mark (pieces.flatMap (· ++ [mark])) = some pieces := by
  have joined : pieces.flatMap (· ++ [mark]) = [mark].intercalate (pieces ++ [[]]) := by
    induction pieces with
    | nil => rfl
    | cons piece rest ih =>
      have more : rest ++ [[]] ≠ [] := by simp
      obtain ⟨next, others, split⟩ := List.exists_cons_of_ne_nil more
      rw [List.flatMap_cons, ih fun piece member => absent piece (List.mem_cons_of_mem _ member),
        List.cons_append, split, List.intercalate_cons_cons]
  have split : (pieces.flatMap (· ++ [mark])).splitOn mark = pieces ++ [[]] := by
    rw [joined]
    apply List.splitOn_intercalate
    · intro piece member
      rcases List.mem_append.1 member with member | member
      · exact absent piece member
      · simp [List.mem_singleton.1 member]
    · simp
  rw [pieces?, split]
  exact List.isSuffixOf?_eq_some_iff_append_eq.2 rfl

def primaryCounts (counts : List (String × Nat)) : Nat :=
  ((counts.filter fun entry => entry.1 ∈ ["classes", "interfaces", "functions"]).map (·.2)).sum

def Listing.recount (listing : Listing) : Summary where
  sourceRoot := listing.sourceRoot
  sourceFiles := listing.sources.length
  benchmarkFiles := listing.benchmarks.length
  testFiles := listing.tests.length
  totalSymbols := (listing.sources.map fun entry => primaryCounts entry.2).sum
  totalBenchmarks := (listing.benchmarks.map fun entry => entry.2.length).sum
  totalBehaviors := (listing.tests.map fun entry => entry.2.length).sum

end CodeInventory.Markdown
