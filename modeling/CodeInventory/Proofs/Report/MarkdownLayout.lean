import CodeInventory.Proofs.Report.MarkdownReader

namespace CodeInventory.Markdown

open CodeInventory.Report CodeInventory.Source

def entryLine (path detail : String) : String := "- `" ++ path ++ "` - " ++ detail

theorem file?_entryLine (path : String) {detail : String} (noTick : '\x60' ∉ detail.toList) :
    file? (entryLine path detail) = some (path, detail) := by
  have lead : after? "- `" (entryLine path detail) = some (path ++ "` - " ++ detail) := by
    rw [entryLine, String.append_assoc, String.append_assoc, after?_append, String.append_assoc]
  have around : aroundLast? '\x60' (path ++ "` - " ++ detail).toList =
      some (path.toList, (" - " ++ detail).toList) := by
    have absent : '\x60' ∉ (" - " ++ detail).toList := by simp [noTick]
    rw [← aroundLast?_append path.toList absent]
    simp
  simp only [file?, lead, around, after?_append, Option.bind_eq_bind, Option.bind_some,
    Option.pure_def, String.ofList_toList]

theorem isDigit_of_mem {count : Nat} {c : Char} (member : c ∈ Nat.toDigits 10 count) :
    c.isDigit = true :=
  Nat.isDigit_of_mem_toDigits (by decide) (by decide) member

theorem not_mem_toDigits {c : Char} (noDigit : c.isDigit = false) (count : Nat) :
    c ∉ Nat.toDigits 10 count := by
  intro member
  rw [isDigit_of_mem member] at noDigit
  exact Bool.noConfusion noDigit

def kinds : List String := ["classes", "interfaces", "functions", "types", "constants"]

theorem mem_kinds_of_mem {symbols : SymbolSet} {entry : String × Nat}
    (member : entry ∈ symbols.categoryCounts) : entry.1 ∈ kinds := by
  have listed := (List.mem_filter.1 member).1
  simp only [List.mem_cons, List.not_mem_nil, or_false] at listed
  rcases listed with rfl | rfl | rfl | rfl | rfl <;> simp [kinds]

theorem isAlpha_of_mem_kind {kind : String} (listed : kind ∈ kinds) {c : Char}
    (member : c ∈ kind.toList) : c.isAlpha = true := by
  have all : kinds.all (fun kind => kind.toList.all Char.isAlpha) = true := by decide
  exact List.all_eq_true.1 (List.all_eq_true.1 all kind listed) c member

def categoryText (entry : String × Nat) : String := toString entry.2 ++ " " ++ entry.1

theorem toList_categoryText (entry : String × Nat) :
    (categoryText entry).toList = Nat.toDigits 10 entry.2 ++ ' ' :: entry.1.toList := by
  simp [categoryText]

theorem category?_categoryText (entry : String × Nat) :
    category? (" " ++ categoryText entry).toList = some entry := by
  have digits : ∀ c ∈ Nat.toDigits 10 entry.2, c.isDigit = true :=
    fun _ member => isDigit_of_mem member
  have taken : (categoryText entry).toList.takeWhile Char.isDigit = Nat.toDigits 10 entry.2 := by
    rw [toList_categoryText, List.takeWhile_append_of_pos digits]
    simp
  have left : String.ofList ((categoryText entry).toList.dropWhile Char.isDigit) =
      " " ++ entry.1 := by
    rw [toList_categoryText, List.dropWhile_append_of_pos digits]
    simp
  simp only [category?, String.ofList_toList, after?_append, Option.bind_eq_bind, Option.bind_some,
    taken, left, if_neg Nat.toDigits_ne_nil, Nat.ofDigitChars_ten_toDigits]

theorem symbolSummary_eq {symbols : SymbolSet} (nonempty : symbols.categoryCounts ≠ []) :
    symbolSummary symbols = ", ".intercalate (symbols.categoryCounts.map categoryText) :=
  if_neg nonempty

theorem mem_of_mem_intercalate {α : Type} {between : List α} {lists : List (List α)} {item : α}
    (member : item ∈ between.intercalate lists) : item ∈ between ∨ ∃ list ∈ lists, item ∈ list := by
  induction lists with
  | nil => simp at member
  | cons first rest ih =>
    cases rest with
    | nil => exact .inr ⟨first, by simp, by simpa using member⟩
    | cons second rest =>
      rw [List.intercalate_cons_cons, List.mem_append, List.mem_append] at member
      rcases member with (here | mark) | later
      · exact .inr ⟨first, by simp, here⟩
      · exact .inl mark
      · exact (ih later).imp_right fun ⟨list, listed, inside⟩ =>
          ⟨list, List.mem_cons_of_mem _ listed, inside⟩

theorem toList_intercalate_comma {texts : List String} (nonempty : texts ≠ []) :
    (" " ++ ", ".intercalate texts).toList = [','].intercalate (texts.map fun text => (" " ++ text).toList) := by
  induction texts with
  | nil => exact absurd rfl nonempty
  | cons first rest ih =>
    cases rest with
    | nil => simp
    | cons second rest =>
      have tail := ih (List.cons_ne_nil _ _)
      simp only [List.map_cons] at tail
      rw [List.map_cons, List.map_cons, List.intercalate_cons_cons, ← tail]
      simp

theorem mem_categoryText {symbols : SymbolSet} {entry : String × Nat}
    (listed : entry ∈ symbols.categoryCounts) {c : Char}
    (member : c ∈ (categoryText entry).toList) : c.isAlphanum = true ∨ c = ' ' := by
  rw [toList_categoryText, List.mem_append, List.mem_cons] at member
  rcases member with digit | rfl | letter
  · simp [Char.isAlphanum, isDigit_of_mem digit]
  · exact .inr rfl
  · simp [Char.isAlphanum, isAlpha_of_mem_kind (mem_kinds_of_mem listed) letter]

theorem symbolSummary_ne {symbols : SymbolSet} (nonempty : symbols.categoryCounts ≠ []) :
    symbolSummary symbols ≠ "No symbols" := by
  obtain ⟨first, rest, split⟩ := List.exists_cons_of_ne_nil nonempty
  obtain ⟨digit, digits, number⟩ : ∃ digit digits, Nat.toDigits 10 first.2 = digit :: digits :=
    List.exists_cons_of_ne_nil Nat.toDigits_ne_nil
  have isDigit : digit.isDigit = true := isDigit_of_mem (number ▸ List.mem_cons_self ..)
  have lead : (symbolSummary symbols).toList.head? = some digit := by
    rw [symbolSummary_eq nonempty, split, List.map_cons]
    cases rest <;> simp [toList_categoryText, number]
  intro same
  rw [same] at lead
  have letter : digit = 'N' := by simpa using lead.symm
  rw [letter] at isDigit
  exact absurd isDigit (by decide)

theorem counts?_symbolSummary (symbols : SymbolSet) :
    counts? (symbolSummary symbols) = some symbols.categoryCounts := by
  by_cases nonempty : symbols.categoryCounts = []
  · rw [counts?, symbolSummary, if_pos nonempty, if_pos rfl, nonempty]
  · have texts : symbols.categoryCounts.map categoryText ≠ [] := by simpa using nonempty
    have commas : ∀ text ∈ (symbols.categoryCounts.map categoryText).map (fun text => (" " ++ text).toList),
        ',' ∉ text := by
      intro text member
      simp only [List.map_map, List.mem_map, Function.comp_apply] at member
      obtain ⟨entry, member, rfl⟩ := member
      have absent : ',' ∉ (categoryText entry).toList := by
        intro comma
        exact absurd (mem_categoryText member comma) (by decide)
      simp [absent]
    rw [counts?, if_neg (symbolSummary_ne nonempty), symbolSummary_eq nonempty,
      toList_intercalate_comma texts, List.splitOn_intercalate _ commas (by simpa using texts)]
    have back := mapM_map_eq_some category?_categoryText symbols.categoryCounts
    rw [List.map_id'] at back
    rw [List.map_map]
    exact back

theorem mem_symbolSummary {symbols : SymbolSet} {c : Char}
    (member : c ∈ (symbolSummary symbols).toList) : c.isAlphanum = true ∨ c = ' ' ∨ c = ',' := by
  by_cases nonempty : symbols.categoryCounts = []
  · have all : "No symbols".toList.all (fun c => c.isAlphanum || c == ' ') = true := by decide
    rw [symbolSummary, if_pos nonempty] at member
    have either := List.all_eq_true.1 all c member
    rw [Bool.or_eq_true, beq_iff_eq] at either
    exact either.imp_right .inl
  · rw [symbolSummary_eq nonempty, String.toList_intercalate] at member
    rcases mem_of_mem_intercalate member with comma | ⟨text, listed, inside⟩
    · have either : c = ',' ∨ c = ' ' := by simpa using comma
      exact .inr either.symm
    · rw [List.map_map] at listed
      obtain ⟨entry, counted, rfl⟩ := List.mem_map.1 listed
      exact (mem_categoryText counted inside).imp_right .inl

def sourceEntry (record : FileRecord SymbolSet) : String :=
  entryLine record.path (symbolSummary record.extraction)

theorem sourceFile?_sourceEntry (record : FileRecord SymbolSet) :
    sourceFile? (sourceEntry record) = some (record.path, record.extraction.categoryCounts) := by
  have noTick : '\x60' ∉ (symbolSummary record.extraction).toList := by
    intro tick
    exact absurd (mem_symbolSummary tick) (by decide)
  simp only [sourceFile?, sourceEntry, file?_entryLine _ noTick, counts?_symbolSummary,
    Option.bind_eq_bind, Option.bind_some, Option.pure_def]

def block (noun path : String) (labels : List String) : List String :=
  entryLine path (toString labels.length ++ " " ++ noun) :: labels.map ("  - " ++ ·)

theorem block?_block {noun : String} (noTick : '\x60' ∉ noun.toList) (path : String)
    (labels : List String) : block? noun (block noun path labels) = some (path, labels) := by
  have absent : '\x60' ∉ (toString labels.length ++ " " ++ noun).toList := by
    simp [noTick, not_mem_toDigits]
  have back := mapM_map_eq_some (after?_append "  - ") labels
  rw [List.map_id'] at back
  simp only [block, block?, file?_entryLine _ absent, back, Option.bind_eq_bind, Option.bind_some,
    if_true]

def headingLine (name root : String) : String := "## " ++ name ++ " (`" ++ root ++ "/`)"

theorem heading?_headingLine (name root : String) :
    heading? name [headingLine name root] = some root := by
  have lead := after?_append ("## " ++ name ++ " (`") (root ++ "/`)")
  rw [← String.append_assoc] at lead
  rw [heading?, headingLine, lead, Option.bind_some, before?_append]

theorem block?_headingLine (noun name root : String) :
    block? noun [headingLine name root] = none := by
  have other : after? "- `" (headingLine name root) = none := by
    simp [after?, headingLine, List.isPrefixOf?]
  simp [block?, file?, other]

def typeset (paragraph : List String) : String :=
  String.join (paragraph.map (· ++ "\n")) ++ "\n"

theorem toList_join_typeset (paragraphs : List (List String)) :
    (String.join (paragraphs.map typeset)).toList =
      ((paragraphs.flatMap (· ++ [""])).map String.toList).flatMap (· ++ ['\n']) := by
  simp [typeset, String.toList_join, List.flatMap_map, List.flatMap_assoc]

def OneLine (text : String) : Prop := '\n' ∉ text.toList

instance (text : String) : Decidable (OneLine text) :=
  inferInstanceAs (Decidable ('\n' ∉ text.toList))

theorem paragraphs?_typeset {paragraphs : List (List String)}
    (lines : ∀ paragraph ∈ paragraphs, ∀ line ∈ paragraph, line ≠ "" ∧ OneLine line) :
    paragraphs? (String.join (paragraphs.map typeset)) = some paragraphs := by
  have present : ∀ paragraph ∈ paragraphs, "" ∉ paragraph :=
    fun paragraph listed inside => (lines paragraph listed "" inside).1 rfl
  have unbroken : ∀ line ∈ (paragraphs.flatMap (· ++ [""])).map String.toList, '\n' ∉ line := by
    intro line member
    obtain ⟨written, found, rfl⟩ := List.mem_map.1 member
    obtain ⟨paragraph, listed, inside⟩ := List.mem_flatMap.1 found
    rcases List.mem_append.1 inside with inside | last
    · exact (lines paragraph listed written inside).2
    · simp [List.mem_singleton.1 last]
  rw [paragraphs?, toList_join_typeset, pieces?_flatMap unbroken, Option.bind_some, List.map_map]
  simp only [Function.comp_def, String.ofList_toList, List.map_id']
  exact pieces?_flatMap present

def paragraphs (header : Header) (sources : Inventory SymbolSet) (benches : Inventory NameSet)
    (tests : Inventory (List String)) : List (List String) :=
  [["# " ++ header.title], ["Generated on: " ++ header.generatedOn], ["## Summary"],
    (Summary.ofInventories sources benches tests).lines.map ("- " ++ ·),
    [headingLine "Source Files" sources.root], sources.sorted.map sourceEntry,
    [headingLine "Benchmark Files" benches.root]] ++
  (benches.sorted.map fun record => block "benchmarks" record.path record.extraction.toList) ++
  [headingLine "Test Files" tests.root] ::
  (tests.sorted.map fun record =>
    block "test behaviors" record.path (record.extraction.mergeSort fun a b => decide (a ≤ b)))

theorem labelBlock_eq (path noun : String) (labels : List String) :
    labelBlock path noun labels = typeset (block noun path labels) := by
  simp [labelBlock, typeset, block, entryLine, String.append_assoc, Function.comp_def]

theorem typeset_line (line : String) : typeset [line] = line ++ "\n\n" := by
  have two : "\n\n" = "\n" ++ "\n" := by decide
  rw [two]
  simp [typeset, String.append_assoc]

theorem heading_eq (name root : String) : heading name root = typeset [headingLine name root] := by
  have closing : "/`)\n\n" = "/`)" ++ "\n\n" := by decide
  rw [typeset_line, heading, headingLine, closing, ← String.append_assoc]

theorem render_eq_typeset (header : Header) (sources : Inventory SymbolSet)
    (benches : Inventory NameSet) (tests : Inventory (List String)) :
    render header sources benches tests =
      String.join ((paragraphs header sources benches tests).map typeset) := by
  have summaryText : typeset ["## Summary"] = "## Summary\n\n" := by
    rw [typeset_line]
    decide
  have counterText (lines : List String) : typeset (lines.map ("- " ++ ·)) =
      String.join (lines.map fun line => "- " ++ line ++ "\n") ++ "\n" := by
    rw [typeset, List.map_map]
    rfl
  have sourceText : typeset (sources.sorted.map sourceEntry) =
      String.join (sources.sorted.map sourceLine) ++ "\n" := by
    simp only [typeset, List.map_map]
    rfl
  have benchmarkText : (benches.sorted.map fun record =>
      block "benchmarks" record.path record.extraction.toList).map typeset =
      benches.sorted.map benchmarkBlock := by
    simp [benchmarkBlock, labelBlock_eq]
  have testText : (tests.sorted.map fun record =>
      block "test behaviors" record.path (record.extraction.mergeSort fun a b => decide (a ≤ b))).map
      typeset = tests.sorted.map testBlock := by
    simp [testBlock, labelBlock_eq]
  simp only [paragraphs, List.map_append, List.map_cons, List.map_nil, String.join_append,
    String.join_cons, String.join_nil]
  rw [benchmarkText, testText, counterText, sourceText, summaryText, typeset_line, typeset_line,
    ← heading_eq, ← heading_eq, ← heading_eq]
  unfold render
  simp only [String.append_assoc, String.append_empty]

theorem oneLine_append {front back : String} :
    OneLine (front ++ back) ↔ OneLine front ∧ OneLine back := by
  simp [OneLine]

theorem oneLine_toString (count : Nat) : OneLine (toString count) := by
  simp [OneLine, not_mem_toDigits]

theorem oneLine_symbolSummary (symbols : SymbolSet) : OneLine (symbolSummary symbols) := by
  intro feed
  exact absurd (mem_symbolSummary feed) (by decide)

end CodeInventory.Markdown
