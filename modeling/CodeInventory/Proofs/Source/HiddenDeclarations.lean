import CodeInventory.Proofs.Source.Chains

namespace CodeInventory.Source

open CodeInventory.Text Occurrence Skip

/-- The start of a declaration, as far as its name goes before the keyword of the next one. -/
def Link (Head : List Char → Prop) (piece : List Char) : Prop :=
  ∃ head letters, Head head ∧ (∀ c ∈ letters, isWord c = true) ∧ piece = head ++ letters

/-- The text ends in that many links, one right after the other, and no more. -/
inductive EndsInLinks (Head : List Char → Prop) : Nat → List Char → Prop
  | none {text : List Char} (free : ∀ link, Link Head link → ¬ link <:+ text) :
    EndsInLinks Head 0 text
  | more {count : Nat} {text link : List Char} (before : EndsInLinks Head count text)
    (isLink : Link Head link) : EndsInLinks Head (count + 1) (text ++ link)

def NamedAfter (Head : List Char → Prop) (before text name : List Char) : Prop :=
  ∃ piece after, Head piece ∧ Run isWord name after ∧ text = before ++ (piece ++ (name ++ after))

def Names (Head : List Char → Prop) (text name : List Char) : Prop :=
  ∃ before, NamedAfter Head before text name

/-- The text declares the name after an even number of links. -/
def NamesInTurn (Head : List Char → Prop) (text name : List Char) : Prop :=
  ∃ before count, NamedAfter Head before text name ∧ EndsInLinks Head count before ∧ count % 2 = 0

section Links

variable {word : String} {Head : List Char → Prop} {text : List Char} {occurrence : Occurrence}

theorem HeadedBy.length_pos (headed : HeadedBy word Head) {piece : List Char}
    (head : Head piece) : 0 < piece.length := by
  obtain ⟨gap, more, _, rfl⟩ := headed.opens piece head
  have filled := List.length_pos_iff.2 headed.keyword.filled
  rw [List.length_append]
  omega

theorem HeadedBy.exists_endsInLinks (headed : HeadedBy word Head) (text : List Char) :
    ∃ count, EndsInLinks Head count text := by
  induction size : text.length using Nat.strongRecOn generalizing text with
  | ind size ih =>
    by_cases linked : ∃ link, Link Head link ∧ link <:+ text
    · obtain ⟨link, isLink, front, rfl⟩ := linked
      obtain ⟨head, letters, isHead, _, rfl⟩ := isLink
      have positive := headed.length_pos isHead
      simp only [List.length_append] at size
      obtain ⟨count, before⟩ := ih front.length (by omega) front rfl
      exact ⟨count + 1, .more before ⟨head, letters, isHead, ‹_›, rfl⟩⟩
    · refine ⟨0, .none fun link isLink ending => linked ⟨link, isLink, ending⟩⟩

theorem namedAfter_of_namedAt (named : NamedAt Head text occurrence) :
    NamedAfter Head (text.take occurrence.start) text occurrence.run := by
  obtain ⟨piece, after, head, whole, split, _⟩ := named
  exact ⟨piece, after, head, whole, by rw [← split, List.take_append_drop]⟩

theorem exists_namedAt {before name : List Char} (named : NamedAfter Head before text name) :
    ∃ occurrence, NamedAt Head text occurrence ∧ text.take occurrence.start = before ∧
      occurrence.run = name := by
  obtain ⟨piece, after, head, whole, rfl⟩ := named
  refine ⟨⟨before.length, before.length + piece.length + name.length, name⟩, ?_, ?_, rfl⟩
  · exact ⟨piece, after, head, whole, List.drop_left, rfl⟩
  · exact List.take_left

/-- A declaration that ends in the keyword of another leaves a link before it. -/
theorem link_before {earlier : Occurrence} (named : NamedAt Head text earlier)
    (ends : EndsInKeyword word earlier occurrence) :
    ∃ link, Link Head link ∧ text.take occurrence.start = text.take earlier.start ++ link := by
  obtain ⟨piece, after, head, whole, split, stop⟩ := named
  obtain ⟨⟨letters, name⟩, meets⟩ := ends
  have lengths := congrArg List.length name
  rw [List.length_append] at lengths
  refine ⟨piece ++ letters, ⟨piece, letters, head, ?_, rfl⟩, ?_⟩
  · exact fun c member => whole.inside c (name ▸ List.mem_append_left _ member)
  · have place : occurrence.start = earlier.start + (piece ++ letters).length := by
      rw [List.length_append]
      omega
    have parts : text.drop earlier.start = (piece ++ letters) ++ (word.toList ++ after) := by
      rw [split, ← name]
      simp
    rw [place, List.take_add, parts, List.take_left]

theorem HeadedBy.earlier_of_link (headed : HeadedBy word Head) {before link : List Char}
    (named : NamedAt Head text occurrence) (isLink : Link Head link)
    (split : text.take occurrence.start = before ++ link) :
    ∃ earlier, NamedAt Head text earlier ∧ text.take earlier.start = before ∧
      EndsInKeyword word earlier occurrence := by
  obtain ⟨head, letters, isHead, inName, rfl⟩ := isLink
  obtain ⟨piece, after, isPiece, _, found, _⟩ := named
  obtain ⟨gap, more, blanks, rfl⟩ := headed.opens piece isPiece
  have filled := List.length_pos_iff.2 headed.keyword.filled
  have lengths := congrArg List.length split
  have lengthsToo := congrArg List.length found
  simp only [List.length_take, List.length_drop, List.length_append] at lengths lengthsToo
  have parts : text = before ++ (head ++ ((letters ++ word.toList) ++
      (gap ++ (more ++ (occurrence.run ++ after))))) := by
    rw [← List.take_append_drop occurrence.start text, split, found]
    simp
  have next := (headed.keyword.run blanks (more ++ (occurrence.run ++ after))).ends
  have whole : Run isWord (letters ++ word.toList)
      (gap ++ (more ++ (occurrence.run ++ after))) := by
    refine ⟨by simpa using fun _ => headed.keyword.filled, fun c member => ?_, next⟩
    rcases List.mem_append.1 member with inLetters | inWord
    · exact inName c inLetters
    · exact headed.keyword.letters c inWord
  refine ⟨⟨before.length, before.length + head.length + (letters ++ word.toList).length,
    letters ++ word.toList⟩, ⟨head, _, isHead, whole, ?_, rfl⟩, ?_, List.suffix_append _ _, ?_⟩
  · rw [parts, List.drop_left]
  · rw [parts, List.take_left]
  · simp only [List.length_append]
    omega

end Links

section Turns

variable {word : String} {Head : List Char → Prop} {text : String} {names : NameSet}
  {found : List Occurrence}

/-- What is left out has its keyword at the end of a name that is reported. -/
theorem ReportedInTurn.left_out_iff_exists (turns : ReportedInTurn word Head text names found)
    (headed : HeadedBy word Head) {occurrence : Occurrence} (member : occurrence ∈ found) :
    occurrence ∉ reported found ↔
      ∃ earlier ∈ reported found, EndsInKeyword word earlier occurrence := by
  have named := (turns.complete occurrence).1 member
  rw [reported, mem_reportedFrom_iff turns.increasing, and_iff_right member,
    and_iff_right (Nat.zero_le _)]
  simp only [Classical.not_forall, Nat.not_le]
  constructor
  · rintro ⟨earlier, kept, less, inside⟩
    have namedToo := (turns.complete earlier).1 (mem_of_mem_reportedFrom kept)
    exact ⟨earlier, kept, headed.endsInKeyword namedToo named less inside⟩
  · rintro ⟨earlier, kept, ends⟩
    obtain ⟨piece, _, head, _, _, stop⟩ :=
      (turns.complete earlier).1 (mem_of_mem_reportedFrom kept)
    have positive := headed.length_pos head
    have filled := List.length_pos_iff.2 headed.keyword.filled
    have short := ends.1.length_le
    have meets := ends.2
    exact ⟨earlier, kept, by omega, by omega⟩

theorem ReportedInTurn.not_before (turns : ReportedInTurn word Head text names found)
    (headed : HeadedBy word Head) {first second next : Occurrence} (isFirst : first ∈ found)
    (isSecond : second ∈ found) (one : EndsInKeyword word first next)
    (two : EndsInKeyword word second next) : ¬ first.start < second.start := by
  intro less
  have named := (turns.complete second).1 isSecond
  have ⟨piece, _, head, _, _, stop⟩ := named
  have positive := headed.length_pos head
  have short := two.1.length_le
  have meets := one.2
  have meetsToo := two.2
  obtain ⟨_, inside⟩ :=
    headed.endsInKeyword ((turns.complete first).1 isFirst) named less (by omega)
  omega

theorem ReportedInTurn.earlier_unique (turns : ReportedInTurn word Head text names found)
    (headed : HeadedBy word Head) {first second next : Occurrence} (isFirst : first ∈ found)
    (isSecond : second ∈ found) (one : EndsInKeyword word first next)
    (two : EndsInKeyword word second next) : first = second := by
  have less := turns.not_before headed isFirst isSecond one two
  have greater := turns.not_before headed isSecond isFirst two one
  exact eq_of_start_eq turns.increasing isFirst isSecond (by omega)

theorem ReportedInTurn.reported_iff_even (turns : ReportedInTurn word Head text names found)
    (headed : HeadedBy word Head) {count : Nat} {before : List Char}
    (links : EndsInLinks Head count before) {occurrence : Occurrence}
    (member : occurrence ∈ found) (place : text.toList.take occurrence.start = before) :
    occurrence ∈ reported found ↔ count % 2 = 0 := by
  -- a link starts a declaration that is reported exactly if the one after it is not
  induction links generalizing occurrence with
  | none free =>
    have kept : occurrence ∈ reported found := by
      apply Classical.byContradiction
      intro leftOut
      obtain ⟨earlier, kept, ends⟩ := (turns.left_out_iff_exists headed member).1 leftOut
      have named := (turns.complete earlier).1 (mem_of_mem_reportedFrom kept)
      obtain ⟨link, isLink, split⟩ := link_before named ends
      exact free link isLink ⟨_, (place.symm.trans split).symm⟩
    simp [kept]
  | @more count front link links isLink ih =>
    obtain ⟨earlier, named, placeToo, ends⟩ :=
      headed.earlier_of_link ((turns.complete occurrence).1 member) isLink place
    have isEarlier := (turns.complete earlier).2 named
    have turned : occurrence ∉ reported found ↔ earlier ∈ reported found := by
      rw [turns.left_out_iff_exists headed member]
      constructor
      · rintro ⟨other, kept, endsToo⟩
        obtain rfl := turns.earlier_unique headed isEarlier (mem_of_mem_reportedFrom kept)
          ends endsToo
        exact kept
      · exact fun kept => ⟨earlier, kept, ends⟩
    rw [ih isEarlier placeToo] at turned
    have parity : (count + 1) % 2 = 0 ↔ ¬ count % 2 = 0 := by omega
    rw [parity, ← turned, Classical.not_not]

/-- A name is reported exactly if it is declared after an even number of links. -/
theorem ReportedInTurn.mem_iff (turns : ReportedInTurn word Head text names found)
    (headed : HeadedBy word Head) {name : String} (long : 1 < name.length)
    (free : isReserved name = false) :
    name ∈ names ↔ NamesInTurn Head text.toList name.toList := by
  rw [turns.names, and_iff_right ⟨long, free⟩]
  constructor
  · rintro ⟨occurrence, kept, run⟩
    have member := mem_of_mem_reportedFrom kept
    obtain ⟨count, links⟩ := headed.exists_endsInLinks (text.toList.take occurrence.start)
    have named := namedAfter_of_namedAt ((turns.complete occurrence).1 member)
    rw [run] at named
    exact ⟨_, count, named, links, (turns.reported_iff_even headed links member rfl).1 kept⟩
  · rintro ⟨before, count, named, links, even⟩
    obtain ⟨occurrence, isNamed, place, run⟩ := exists_namedAt named
    have member := (turns.complete occurrence).2 isNamed
    exact ⟨occurrence, (turns.reported_iff_even headed links member place).2 even, run⟩

end Turns

def ExportsFunction (text name : List Char) : Prop :=
  ∃ before first second closing after, SetApart "export" first ∧ SetApart "function" second ∧
    (∀ c ∈ name, isWord c = true) ∧ Marked ['('] closing ∧
    text = before ++ (first ++ (second ++ (name ++ (closing ++ after))))

/-- Each name that may be reported is reported wherever the text declares it. -/
structure KeepsDeclarations (text : String) : Prop where
  classes : ∀ name, isReportable name = true →
    Names (SetApart "class") text.toList name.toList → name ∈ (classify text).classes
  interfaces : ∀ name, isReportable name = true →
    Names (SetApart "interface") text.toList name.toList → name ∈ (classify text).interfaces
  functions : ∀ name, isReportable name = true →
    ExportsFunction text.toList name.toList →
      name ∈ (classify text).functions ∧ name ∈ (classify text).exports

theorem isReportable_iff {name : String} :
    isReportable name = true ↔ 1 < name.length ∧ isReserved name = false := by
  simp [isReportable]

theorem mem_functions_of_exportsFunction {text name : String} (known : isReportable name = true)
    (exported : ExportsFunction text.toList name.toList) : name ∈ (classify text).functions := by
  have known := isReportable_iff.1 known
  obtain ⟨before, first, _, closing, after, _, ⟨gap, blanks, rfl⟩, letters, marked, split⟩ :=
    exported
  have function : IsKeyword "function" := by decide +kernel
  rw [classify, mem_reportable, mem_capturesIn_keyword function (closes_mark (by decide +kernel))
    (captures_functionShape _) known.1]
  refine ⟨known, before ++ first, gap, closing, after, ?_, blanks, letters, marked⟩
  rw [split]
  simp

theorem mem_exportedOr_iff {word text name : String} (isKeyword : IsKeyword word)
    (apart : ¬ word.toList <:+: "export".toList) (known : isReportable name = true) :
    name ∈ reportable ((declaration (exportedOr (keyword word)) nothing).capturesIn text) ↔
      NamesInTurn (SetApart word) text.toList name.toList := by
  have headed := headedBy_setApart isKeyword
  have turns := reportedInTurn headed (spells_keyword word) text
    (captures_exportedOr isKeyword apart nothing _)
  obtain ⟨long, free⟩ := isReportable_iff.1 known
  exact turns.mem_iff headed long free

theorem mem_exports_iff {text name : String} (known : isReportable name = true) :
    name ∈ (classify text).exports ↔ NamesInTurn ExportHead text.toList name.toList := by
  have turns := reportedInTurn headedBy_export spells_export text rfl
  obtain ⟨long, free⟩ := isReportable_iff.1 known
  exact turns.mem_iff headedBy_export long free

theorem declarations_are_kept_iff_in_turn (text : String) :
    KeepsDeclarations text ↔
      (∀ name, isReportable name = true → Names (SetApart "class") text.toList name.toList →
        NamesInTurn (SetApart "class") text.toList name.toList) ∧
      (∀ name, isReportable name = true → Names (SetApart "interface") text.toList name.toList →
        NamesInTurn (SetApart "interface") text.toList name.toList) ∧
      ∀ name, isReportable name = true → ExportsFunction text.toList name.toList →
        NamesInTurn ExportHead text.toList name.toList := by
  have classes : ∀ name, isReportable name = true → (name ∈ (classify text).classes ↔
      NamesInTurn (SetApart "class") text.toList name.toList) :=
    fun _ => mem_exportedOr_iff (by decide +kernel) (by decide +kernel)
  have interfaces : ∀ name, isReportable name = true → (name ∈ (classify text).interfaces ↔
      NamesInTurn (SetApart "interface") text.toList name.toList) :=
    fun _ => mem_exportedOr_iff (by decide +kernel) (by decide +kernel)
  constructor
  · intro kept
    refine ⟨fun name known declared => ?_, fun name known declared => ?_,
      fun name known exported => ?_⟩
    · exact (classes name known).1 (kept.classes name known declared)
    · exact (interfaces name known).1 (kept.interfaces name known declared)
    · exact (mem_exports_iff known).1 (kept.functions name known exported).2
  · rintro ⟨inClasses, inInterfaces, inExports⟩
    refine ⟨fun name known declared => ?_, fun name known declared => ?_,
      fun name known exported => ⟨?_, ?_⟩⟩
    · exact (classes name known).2 (inClasses name known declared)
    · exact (interfaces name known).2 (inInterfaces name known declared)
    · exact mem_functions_of_exportsFunction known exported
    · exact (mem_exports_iff known).2 (inExports name known exported)

/-- Two declarations, each below a comment that ends in the start of another. -/
def commentedText : String := "// class\nclass Foo;\n// export type\nexport function bar(x)"

theorem comments_hide_declarations :
    ¬ KeepsDeclarations commentedText ∧
      (Names (SetApart "class") commentedText.toList "Foo".toList ∧
        "Foo" ∉ (classify commentedText).classes) ∧
      ExportsFunction commentedText.toList "bar".toList ∧
        "bar" ∉ (classify commentedText).exports := by
  have space : Gap [' '] := ⟨by decide, List.forall_mem_singleton.2 (by decide +kernel)⟩
  have isName : IsKeyword "Foo" := by decide +kernel
  have isNameToo : IsKeyword "bar" := by decide +kernel
  have declared : Names (SetApart "class") commentedText.toList "Foo".toList := by
    refine ⟨"// class\n".toList, "class ".toList,
      ";\n// export type\nexport function bar(x)".toList, ⟨[' '], space, rfl⟩, ?_,
      by decide +kernel⟩
    refine ⟨isName.filled, isName.letters, ?_⟩
    rintro c ⟨⟩
    decide +kernel
  have exported : ExportsFunction commentedText.toList "bar".toList := by
    refine ⟨"// class\nclass Foo;\n// export type\n".toList, "export ".toList,
      "function ".toList, ['('], "x)".toList, ⟨[' '], space, rfl⟩, ⟨[' '], space, rfl⟩,
      isNameToo.letters, ⟨[], '(', by simp, by simp, rfl⟩, by decide +kernel⟩
  have lost : "Foo" ∉ (classify commentedText).classes := by decide +kernel
  refine ⟨fun kept => lost (kept.classes "Foo" (by decide +kernel) declared), ⟨declared, lost⟩,
    exported, by decide +kernel⟩

end CodeInventory.Source
