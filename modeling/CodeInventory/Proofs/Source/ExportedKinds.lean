import CodeInventory.Proofs.Source.HiddenDeclarations
import CodeInventory.Proofs.Source.Separators

namespace CodeInventory.Source

open CodeInventory.Text Occurrence Skip

/-- At the place of the occurrence the text has `export`, the keyword of the kind, the whole name and
then `after`. -/
def ExportedAs (kind : String) (text : List Char) (occurrence : Occurrence)
    (after : List Char) : Prop :=
  ∃ first second, SetApart "export" first ∧ SetApart kind second ∧
    Run isWord occurrence.run after ∧
    text.drop occurrence.start = first ++ (second ++ (occurrence.run ++ after))

def ClosedBy (Closing : List Char → Prop) (after : List Char) : Prop :=
  ∃ closing rest, Closing closing ∧ after = closing ++ rest

/-- An exported name is among the names of its kind, as far as what follows it makes it one. -/
structure FiledByKind (text name kind : String) (after : List Char) : Prop where
  asClass : kind = "class" → name ∈ (classify text).classes
  asInterface : kind = "interface" → name ∈ (classify text).interfaces
  asFunction : kind = "function" → ClosedBy (Marked ['(']) after →
    name ∈ (classify text).functions
  asType : kind = "type" → ClosedBy (Marked ['=']) after → name ∈ (classify text).types
  asConstant : kind = "const" → ClosedBy (Marked [':', '=']) after →
    (name ∈ (classify text).constants ↔ ¬ BindsFunction text name)

section Links

variable {front before gap space : List Char} {word other : String}

theorem letters_eq_nil {letters : List Char} (blanks : Gap gap)
    (inside : ∀ c ∈ letters, isWord c = true) (same : front ++ letters = before ++ gap) :
    letters = [] := by
  by_contra filled
  have last : letters.getLast? = gap.getLast? := by
    have ends := congrArg List.getLast? same
    rwa [List.getLast?_append_of_ne_nil _ filled,
      List.getLast?_append_of_ne_nil _ blanks.filled] at ends
  rw [List.getLast?_eq_some_getLast filled, List.getLast?_eq_some_getLast blanks.filled,
    Option.some.injEq] at last
  have letter := inside _ (List.getLast_mem filled)
  have blank := blanks.blank _ (List.getLast_mem blanks.filled)
  rw [last, not_word_of_blank blank] at letter
  cases letter

theorem IsKeyword.run_backwards (keyword : IsKeyword word) (blanks : Gap gap)
    (front : List Char) : Run isBlank gap.reverse (word.toList.reverse ++ front) := by
  refine ⟨by simpa using blanks.filled, by simpa using blanks.blank, ?_⟩
  intro c first
  have filled : word.toList.reverse ≠ [] := by simpa using keyword.filled
  rcases List.exists_cons_of_ne_nil filled with ⟨last, more, split⟩
  rw [split] at first
  cases first
  apply keyword.visible
  rw [← List.mem_reverse, split]
  exact .head _

/-- Where a text ends in a word and blanks, it ends so in one way only. -/
theorem IsKeyword.eq_before_gap (keyword : IsKeyword word) (keywordToo : IsKeyword other)
    (blanks : Gap gap) (spaces : Gap space)
    (same : front ++ (word.toList ++ gap) = before ++ (other.toList ++ space)) :
    front ++ word.toList = before ++ other.toList := by
  have backwards := congrArg List.reverse same
  simp only [List.reverse_append, List.append_assoc] at backwards
  have runs := (keyword.run_backwards blanks front.reverse).unique
    (keywordToo.run_backwards spaces before.reverse) backwards
  rw [← List.reverse_inj, List.reverse_append, List.reverse_append]
  exact runs.2

theorem IsKeyword.no_link_after (keyword : IsKeyword word) (keywordToo : IsKeyword other)
    (apart : ¬ word.toList <:+ other.toList) (apartToo : ¬ other.toList <:+ word.toList)
    {piece : List Char} (set : SetApart other piece) :
    EndsInLinks (SetApart word) 0 (before ++ piece) := by
  apply EndsInLinks.none
  intro link isLink ending
  rcases isLink with ⟨_, letters, ⟨gap, blanks, rfl⟩, inside, rfl⟩
  rcases ending with ⟨front, same⟩
  rcases set with ⟨space, spaces, rfl⟩
  have parts : front ++ (word.toList ++ gap) ++ letters = before ++ other.toList ++ space := by
    simpa using same
  have none := letters_eq_nil spaces inside parts
  subst none
  rw [List.append_nil] at same
  have ends := keyword.eq_before_gap keywordToo blanks spaces same
  have first : word.toList <:+ before ++ other.toList := ⟨front, ends⟩
  rcases List.suffix_or_suffix_of_suffix first (List.suffix_append before other.toList)
    with within | beyond
  · exact apart within
  · exact apartToo beyond

end Links

section Kinds

variable {text name kind : String} {occurrence : Occurrence} {after : List Char}

theorem exists_exportedAs (named : NamedAt ExportHead text.toList occurrence) :
    ∃ kind ∈ exportedKinds, ∃ after, ExportedAs kind text.toList occurrence after := by
  rcases named with ⟨_, after, ⟨kind, member, first, second, exported, set, rfl⟩, whole, split, _⟩
  refine ⟨kind, member, after, first, second, exported, set, whole, ?_⟩
  rw [split, List.append_assoc]

/-- After `export` the keyword of a kind starts a declaration of its own: it could be part of a
name only after a keyword that ends in `export` or is an end of it. -/
theorem ExportedAs.namesInTurn (exported : ExportedAs kind text.toList occurrence after)
    (isKeyword : IsKeyword kind) (apart : ¬ kind.toList <:+ "export".toList)
    (apartToo : ¬ "export".toList <:+ kind.toList) :
    NamesInTurn (SetApart kind) text.toList occurrence.run := by
  rcases exported with ⟨first, second, set, setToo, whole, split⟩
  refine ⟨text.toList.take occurrence.start ++ first, 0, ⟨second, after, setToo, whole, ?_⟩, ?_,
    rfl⟩
  · rw [List.append_assoc, ← split, List.take_append_drop]
  · exact isKeyword.no_link_after (by decide +kernel) apart apartToo set

theorem ExportedAs.mem_open (exported : ExportedAs kind text.toList occurrence after)
    (named : occurrence.run = name.toList) (known : isReportable name = true)
    (isKeyword : IsKeyword kind) (apart : ¬ kind.toList <:+: "export".toList)
    (apartToo : ¬ "export".toList <:+ kind.toList) :
    name ∈ reportable ((declaration (exportedOr (keyword kind)) nothing).capturesIn text) := by
  rw [mem_exportedOr_iff isKeyword apart known, ← named]
  apply exported.namesInTurn isKeyword _ apartToo
  intro ending
  exact apart ending.isInfix

theorem ExportedAs.declares {Closing : List Char → Prop}
    (exported : ExportedAs kind text.toList occurrence after) (closed : ClosedBy Closing after) :
    Declares kind Closing text.toList occurrence.run := by
  rcases exported with ⟨first, second, _, ⟨gap, blanks, rfl⟩, whole, split⟩
  rcases closed with ⟨closing, rest, isClosing, rfl⟩
  refine ⟨text.toList.take occurrence.start ++ first, gap, closing, rest, ?_, blanks,
    whole.inside, isClosing⟩
  calc text.toList
      = text.toList.take occurrence.start ++ text.toList.drop occurrence.start :=
        (List.take_append_drop _ _).symm
    _ = text.toList.take occurrence.start ++ first ++ kind.toList ++ gap ++ occurrence.run ++
        closing ++ rest := by
      rw [split]
      simp only [List.append_assoc]

theorem ExportedAs.mem_marked {tail : Skip} {shape : Shape} {Closing : List Char → Prop}
    (exported : ExportedAs kind text.toList occurrence after)
    (named : occurrence.run = name.toList) (known : isReportable name = true)
    (closed : ClosedBy Closing after) (isKeyword : IsKeyword kind) (closes : tail.Closes Closing)
    (plain : shape.captures text.toList =
      (declaration (keyword kind) tail).captures text.toList) :
    name ∈ shape.capturesIn text := by
  rw [mem_capturesIn_keyword isKeyword closes plain (isReportable_iff.1 known).1, ← named]
  exact exported.declares closed

theorem ExportedAs.filedByKind (exported : ExportedAs kind text.toList occurrence after)
    (named : occurrence.run = name.toList) (known : isReportable name = true) :
    FiledByKind text name kind after := by
  have reported := isReportable_iff.1 known
  constructor
  · intro isClass
    subst isClass
    exact exported.mem_open named known (by decide +kernel) (by decide +kernel)
      (by decide +kernel)
  · intro isInterface
    subst isInterface
    exact exported.mem_open named known (by decide +kernel) (by decide +kernel)
      (by decide +kernel)
  · intro isFunction closed
    subst isFunction
    have captured := exported.mem_marked named known closed (by decide +kernel)
      (closes_mark (by decide +kernel)) (captures_functionShape _)
    exact mem_reportable.2 ⟨reported, captured⟩
  · intro isType closed
    subst isType
    have keyword : IsKeyword "type" := by decide +kernel
    have plain := captures_exportedOr keyword (by decide +kernel) (mark ['=']) text.toList
    have captured : name ∈ typeShape.capturesIn text :=
      exported.mem_marked named known closed keyword (closes_mark (by decide +kernel)) plain
    exact mem_reportable.2 ⟨reported, captured⟩
  · intro isConstant closed
    subst isConstant
    have keyword : IsKeyword "const" := by decide +kernel
    have plain := captures_exportedOr keyword (by decide +kernel) (mark [':', '=']) text.toList
    have captured : name ∈ constantShape.capturesIn text :=
      exported.mem_marked named known closed keyword (closes_mark (by decide +kernel)) plain
    rw [mem_constants_iff]
    simp [reported, captured]

end Kinds

theorem exports_are_filed_by_kind (text : String) :
    let found := reported (exportShape.occurrences text.toList)
    (∀ name, name ∈ (classify text).exports ↔
      isReportable name = true ∧ ∃ occurrence ∈ found, occurrence.run = name.toList) ∧
    ∀ occurrence ∈ found,
      (∃ kind ∈ exportedKinds, ∃ after, ExportedAs kind text.toList occurrence after) ∧
      ∀ kind after name, ExportedAs kind text.toList occurrence after →
        occurrence.run = name.toList → isReportable name = true →
          FiledByKind text name kind after := by
  intro found
  constructor
  · intro name
    rw [isReportable_iff]
    exact (reportedInTurn headedBy_export spells_export text rfl).names name
  · intro occurrence member
    constructor
    · apply exists_exportedAs
      exact (mem_occurrences_iff_namedAt spells_export).1 (mem_of_mem_reportedFrom member)
    · intro kind after name exported named known
      exact exported.filedByKind named known

/-- Two of the three keywords are taken for one class and its name, and the third stands after
`export`. -/
def hiddenText : String := "class class export class Foo"

theorem class_after_export_is_filed :
    (⟨12, 28, "Foo".toList⟩ ∈ reported (exportShape.occurrences hiddenText.toList) ∧
      ExportedAs "class" hiddenText.toList ⟨12, 28, "Foo".toList⟩ [] ∧
      isReportable "Foo" = true) ∧
    FiledByKind hiddenText "Foo" "class" [] := by
  have member : ⟨12, 28, "Foo".toList⟩ ∈ reported (exportShape.occurrences hiddenText.toList) := by
    decide +kernel
  have space : Gap [' '] := ⟨by decide, List.forall_mem_singleton.2 (by decide +kernel)⟩
  have isName : IsKeyword "Foo" := by decide +kernel
  have exported : ExportedAs "class" hiddenText.toList ⟨12, 28, "Foo".toList⟩ [] := by
    refine ⟨"export ".toList, "class ".toList, ⟨[' '], space, rfl⟩, ⟨[' '], space, rfl⟩, ?_,
      by decide +kernel⟩
    exact ⟨isName.filled, isName.letters, by simp⟩
  have known : isReportable "Foo" = true := by decide +kernel
  have filed := (exports_are_filed_by_kind hiddenText).2 _ member
  exact ⟨⟨member, exported, known⟩, filed.2 "class" [] "Foo" exported rfl known⟩

end CodeInventory.Source
