import CodeInventory.Proofs.Toml.Strings

namespace CodeInventory.Toml

open CodeInventory.Document

variable {gap text rest tail written key before after : List Char} {c : Char} {depth : Nat}

section Following

theorem Blank.parts (blank : Blank gap) (parts : rest.head? ≠ some '"') :
    (gap ++ rest).head? ≠ some '"' := by
  cases gap with
  | nil => exact parts
  | cons c gap => rcases blank c (by simp) with rfl | rfl <;> simp

theorem Newline.parts (breaks : Newline written) (rest : List Char) :
    (written ++ rest).head? ≠ some '"' := by
  cases breaks <;> simp

theorem Ended.parts (ended : Ended tail rest) : tail.head? ≠ some '"' := by
  cases ended with
  | last => simp
  | newline breaks => exact breaks.parts _

theorem Trailer.parts (trails : Trailer gap) (parts : rest.head? ≠ some '"') :
    (gap ++ rest).head? ≠ some '"' := by
  cases trails with
  | blanks blank => exact blank.parts parts
  | comment blank _ =>
    rw [List.append_assoc]
    exact blank.parts (by simp)

theorem Gap.parts (between : Gap gap) (parts : rest.head? ≠ some '"') :
    (gap ++ rest).head? ≠ some '"' := by
  cases between with
  | blanks blank => exact blank.parts parts
  | line trails breaks more =>
    rw [List.append_assoc, List.append_assoc]
    exact trails.parts (breaks.parts _)

theorem ItemsText.parts {items : List String} (reads : ItemsText items written)
    (rest : List Char) : (written ++ rest).head? ≠ some '"' := by
  cases reads with
  | close after =>
    rw [List.append_assoc]
    exact after.parts (by simp)
  | comma after _ =>
    rw [List.append_assoc, List.append_assoc]
    exact after.parts (by simp)
  | item after _ _ _ =>
    simp only [List.append_assoc]
    exact after.parts (by simp)

end Following

section Keys

theorem ne_of_isBareKey {d : Char} (bare : isBareKey c = true) (other : isBareKey d = false) :
    c ≠ d := by
  rintro rfl
  rw [bare] at other
  cases other

theorem Bare.head (bare : Bare key) : ∃ c others, key = c :: others ∧ isBareKey c = true := by
  cases key with
  | nil => exact absurd rfl bare.1
  | cons c others => exact ⟨c, others, rfl, bare.2 c (by simp)⟩

theorem isSpace_of_isBareKey (bare : isBareKey c = true) : isSpace c = false := by
  have noBlank := ne_of_isBareKey bare (d := ' ') (by decide)
  have noTab := ne_of_isBareKey bare (d := '\t') (by decide)
  simp [isSpace, noBlank, noTab]

theorem Bare.skipSpaces_before (bare : Bare key) (blank : Blank before) (rest : List Char) :
    skipSpaces (before ++ (key ++ rest)) = key ++ rest := by
  rcases bare.head with ⟨first, others, rfl, isKey⟩
  exact Toml.skipSpaces_before blank (isSpace_of_isBareKey isKey) _

theorem Blank.takeWhile_isBareKey (blank : Blank after) (stops : isBareKey c = false)
    (rest : List Char) : (after ++ c :: rest).takeWhile isBareKey = [] := by
  cases after with
  | nil => simp [stops]
  | cons d after => rcases blank d (by simp) with rfl | rfl <;> rfl

theorem simpleKey?_bare (bare : Bare key) (stops : rest.takeWhile isBareKey = []) :
    simpleKey? (key ++ rest) = some (String.ofList key, rest) := by
  have taken : (key ++ rest).takeWhile isBareKey = key := by
    rw [List.takeWhile_append_of_pos bare.2, stops, List.append_nil]
  have left : (key ++ rest).dropWhile isBareKey = rest := by
    have whole := List.takeWhile_append_dropWhile (p := isBareKey) (l := rest)
    rw [stops, List.nil_append] at whole
    rw [List.dropWhile_append_of_pos bare.2, whole]
  rcases bare.head with ⟨c, others, rfl, first⟩
  have noQuote := ne_of_isBareKey first (d := '"') (by decide)
  have noApostrophe := ne_of_isBareKey first (d := '\'') (by decide)
  unfold simpleKey?
  split
  · rename_i same
    exact absurd (List.cons.inj same).1 noQuote
  · rename_i same
    exact absurd (List.cons.inj same).1 noApostrophe
  · rw [taken, left]

theorem key?_bare (blankBefore : Blank before) (bare : Bare key) (blankAfter : Blank after)
    (mark : c = '=' ∨ c = ']') (rest : List Char) :
    key? (before ++ (key ++ (after ++ c :: rest))) =
      some (([], String.ofList key), c :: rest) := by
  have stops : isBareKey c = false := by rcases mark with rfl | rfl <;> decide
  have solid : isSpace c = false := by rcases mark with rfl | rfl <;> decide
  have noDot : c ≠ '.' := by rcases mark with rfl | rfl <;> decide
  have single := simpleKey?_bare bare (blankAfter.takeWhile_isBareKey stops rest)
  have trimmed := bare.skipSpaces_before blankBefore (after ++ c :: rest)
  have left := skipSpaces_before blankAfter solid rest
  unfold key?
  rw [trimmed, single]
  simp only [Option.bind_eq_bind, Option.bind_some]
  rw [collect_stop]
  · simp [left, nestingLimit]
  · rw [left]
    split
    · rename_i same
      exact absurd (List.cons.inj same).1 noDot
    · rfl

end Keys

section Values

theorem value?_string {value : String} (reads : StringText value written)
    (parts : rest.head? ≠ some '"') (depth : Nat) :
    value? depth (written ++ rest) = some (.string value, rest) := by
  have read := string?_text reads parts
  cases reads with
  | @quoted pieces reads =>
    have scalar : value? depth ('"' :: pieces.flatten ++ ['"'] ++ rest) =
        (string? ('"' :: pieces.flatten ++ ['"'] ++ rest)).map
          fun found => (.string found.1, found.2) := by
      cases depth <;> rfl
    rw [scalar, read]
    rfl

theorem StringText.skipGap_before {value : String} (reads : StringText value written)
    (between : Gap gap) (rest : List Char) :
    skipGap (gap ++ (written ++ rest)) = written ++ rest := by
  cases reads with
  | quoted _ => exact skipGap_gap between (by decide) _

def nextItem? (element : Reader Value) (text : List Char) : Option (Value × List Char) :=
  match skipGap text with
  | ',' :: rest => element (skipGap rest)
  | _ => none

theorem nextItem?_comma {element : Reader Value} (between : Gap gap) (rest : List Char) :
    nextItem? element (gap ++ ',' :: rest) = element (skipGap rest) := by
  unfold nextItem?
  rw [skipGap_gap between (by decide)]
  rfl

theorem nextItem?_close {element : Reader Value} (between : Gap gap) (rest : List Char) :
    nextItem? element (gap ++ ']' :: rest) = none := by
  unfold nextItem?
  rw [skipGap_gap between (by decide)]
  rfl

theorem value?_bracket (depth : Nat) (rest : List Char) : value? depth (']' :: rest) = none := by
  have scalar : value? depth (']' :: rest) = number? (']' :: rest) := by cases depth <;> rfl
  rw [scalar]
  simp [number?, afterMoment?, afterDate?, afterTime?, fixed?, float?, specialFloat?, integer?,
    decimalInteger?, sign, wholePart?, digits?, digit?, hexDigit?]

def listEnd? (items : List Value) (text : List Char) : Option (Value × List Char) :=
  match skipGap text with
  | ']' :: rest => some (.array items, rest)
  | ',' :: text =>
    match skipGap text with
    | ']' :: rest => some (.array items, rest)
    | _ => none
  | _ => none

theorem array?_eq (element : Reader Value) (text : List Char) :
    array? element text =
      match skipGap text with
      | ']' :: rest => some (.array [], rest)
      | text => (element text).bind fun found =>
        listEnd? (found.1 :: (collect (nextItem? element) found.2).1)
          (collect (nextItem? element) found.2).2 :=
  rfl

theorem listEnd?_close (after : Gap gap) (items : List Value) (rest : List Char) :
    listEnd? items (gap ++ ']' :: rest) = some (.array items, rest) := by
  unfold listEnd?
  rw [skipGap_gap after (by decide)]
  rfl

theorem listEnd?_comma (after : Gap gap) (before : Gap written) (items : List Value)
    (rest : List Char) :
    listEnd? items (gap ++ ',' :: (written ++ ']' :: rest)) = some (.array items, rest) := by
  unfold listEnd?
  rw [skipGap_gap after (by decide)]
  change (match skipGap (written ++ ']' :: rest) with
    | ']' :: rest => some (Value.array items, rest)
    | _ => none) = _
  rw [skipGap_gap before (by decide)]
  rfl

theorem collect_items {items : List String} (reads : ItemsText items written) (depth : Nat)
    (rest : List Char) :
    ∃ left, collect (nextItem? (value? depth)) (written ++ rest) = (items.map .string, left) ∧
      ∀ values, listEnd? values left = some (.array values, rest) := by
  induction reads with
  | @close gap after =>
    rw [List.append_assoc, List.singleton_append]
    exact ⟨_, collect_stop (nextItem?_close after rest),
      fun values => listEnd?_close after values rest⟩
  | @comma gap last after before =>
    -- the comma belongs to no item, since no value starts with a bracket that closes
    have split : gap ++ ',' :: last ++ [']'] ++ rest = gap ++ ',' :: (last ++ ']' :: rest) := by
      simp
    have refused : nextItem? (value? depth) (gap ++ ',' :: (last ++ ']' :: rest)) = none := by
      rw [nextItem?_comma after, skipGap_gap before (by decide), value?_bracket]
    rw [split]
    exact ⟨_, collect_stop refused, fun values => listEnd?_comma after before values rest⟩
  | @item gap next written others item items after before first more ih =>
    rcases ih with ⟨left, collected, closes⟩
    have split : gap ++ ',' :: next ++ written ++ others ++ rest =
        gap ++ ',' :: (next ++ (written ++ (others ++ rest))) := by simp
    have read : nextItem? (value? depth) (gap ++ ',' :: (next ++ (written ++ (others ++ rest)))) =
        some (.string item, others ++ rest) := by
      rw [nextItem?_comma after, first.skipGap_before before,
        value?_string first (more.parts rest)]
    rw [split, collect_step read (by simp; omega), collected]
    exact ⟨left, rfl, closes⟩

theorem array?_empty {element : Reader Value} (inside : Gap gap) (rest : List Char) :
    array? element (gap ++ ']' :: rest) = some (.array [], rest) := by
  rw [array?_eq, skipGap_gap inside (by decide)]
  rfl

theorem array?_items {items : List String} {item : String} {others : List Char} (before : Gap gap)
    (first : StringText item written) (more : ItemsText items others) (depth : Nat)
    (rest : List Char) :
    array? (value? depth) (gap ++ (written ++ (others ++ rest))) =
      some (.array ((item :: items).map .string), rest) := by
  rcases collect_items more depth rest with ⟨left, collected, closes⟩
  rw [array?_eq, first.skipGap_before before]
  split
  · rename_i closed
    rcases first with ⟨pieces⟩
    cases closed
  · rw [value?_string first (more.parts rest), Option.bind_some, collected]
    exact closes _

theorem value?_list {items : List String} (reads : ListText items written) (depth : Nat)
    (rest : List Char) :
    value? (depth + 1) (written ++ rest) = some (.array (items.map .string), rest) := by
  cases reads with
  | @empty gap inside =>
    have split : '[' :: gap ++ [']'] ++ rest = '[' :: (gap ++ ']' :: rest) := by simp
    rw [split]
    exact array?_empty inside rest
  | @items gap written others item items before first more =>
    have split : '[' :: gap ++ written ++ others ++ rest =
        '[' :: (gap ++ (written ++ (others ++ rest))) := by simp
    rw [split]
    exact array?_items before first more depth rest

theorem value?_text {value : Value} (reads : ValueText value written)
    (parts : rest.head? ≠ some '"') (depth : Nat) :
    value? (depth + 1) (written ++ rest) = some (value, rest) := by
  cases reads with
  | string reads => exact value?_string reads parts _
  | yes => rfl
  | no => rfl
  | strings reads => exact value?_list reads depth rest

end Values

section Statements

variable {more trailer : List Char} {value : Value} {statement : Statement}

theorem ValueText.skipSpaces_before (reads : ValueText value written) (blank : Blank before)
    (rest : List Char) : skipSpaces (before ++ (written ++ rest)) = written ++ rest := by
  cases reads with
  | string reads =>
    rcases reads with ⟨pieces⟩
    exact Toml.skipSpaces_before blank (by decide) _
  | yes => exact Toml.skipSpaces_before blank (by decide) _
  | no => exact Toml.skipSpaces_before blank (by decide) _
  | strings reads => cases reads <;> exact Toml.skipSpaces_before blank (by decide) _

theorem keyValue?_text (bare : Bare key) (blankAfter : Blank after) (blankBefore : Blank before)
    (reads : ValueText value written) (parts : rest.head? ≠ some '"') (depth : Nat) :
    keyValue? (value? (depth + 1)) (key ++ (after ++ '=' :: (before ++ (written ++ rest)))) =
      some (([], String.ofList key, value), rest) := by
  have named : key? (key ++ (after ++ '=' :: (before ++ (written ++ rest)))) = _ :=
    key?_bare (List.forall_mem_nil _) bare blankAfter (.inl rfl) _
  unfold keyValue?
  simp [named, reads.skipSpaces_before blankBefore, value?_text reads parts]

theorem headerKey?_text (blankBefore : Blank before) (bare : Bare key) (blankAfter : Blank after)
    (trails : Trailer trailer) (ended : Ended tail rest) :
    headerKey? [']'] (before ++ (key ++ (after ++ ']' :: (trailer ++ tail)))) =
      some (([], String.ofList key), rest) := by
  have named := key?_bare blankBefore bare blankAfter (.inr rfl) (trailer ++ tail)
  unfold headerKey?
  simp [named, restOfLine?_trailer trails ended]

theorem statement?_header (start : skipSpaces text = '[' :: more)
    (single : ∀ others, more ≠ '[' :: others) :
    statement? text = (headerKey? [']'] more).map fun found =>
      (some (.header found.1.1 found.1.2), found.2) := by
  unfold statement?
  rw [start]
  split
  · rename_i same
    cases same
  · rename_i same
    exact absurd (List.cons.inj same).2 (single _)
  · rename_i same
    cases same
    rfl
  · rename_i other
    exact absurd rfl (other _)

theorem statement?_other (start : skipSpaces text = c :: more) (plain : c ≠ '[') :
    statement? text = match restOfLine? (c :: more) with
      | some rest => some (none, rest)
      | none => do
        let ((path, key, value), text) ← keyValue? (value? (nestingLimit - 1)) (c :: more)
        let rest ← restOfLine? text
        return (some (.keyValue path key value), rest) := by
  unfold statement?
  rw [start]
  split
  · rename_i same
    cases same
  · rename_i same
    exact absurd (List.cons.inj same).1 plain
  · rename_i same
    exact absurd (List.cons.inj same).1 plain
  · rfl

theorem statement?_empty (start : skipSpaces text = c :: more) (plain : c ≠ '[')
    (empty : restOfLine? (c :: more) = some rest) : statement? text = some (none, rest) := by
  rw [statement?_other start plain, empty]

theorem statement?_keyValue {path : List String} {name : String} {left : List Char}
    (start : skipSpaces text = c :: more) (plain : c ≠ '[')
    (filled : restOfLine? (c :: more) = none)
    (read : keyValue? (value? (nestingLimit - 1)) (c :: more) = some ((path, name, value), left))
    (ended : restOfLine? left = some rest) :
    statement? text = some (some (.keyValue path name value), rest) := by
  rw [statement?_other start plain, filled]
  simp [read, ended]

theorem restOfLine?_bare (bare : isBareKey c = true) (rest : List Char) :
    restOfLine? (c :: rest) = none := by
  have solid : Solid c := ⟨ne_of_isBareKey bare (by decide), ne_of_isBareKey bare (by decide),
    ne_of_isBareKey bare (by decide), ne_of_isBareKey bare (by decide),
    ne_of_isBareKey bare (by decide)⟩
  have unchanged : skipSpaces (c :: rest) = c :: rest := by simp [skipSpaces, solid.isSpace]
  unfold restOfLine?
  rw [unchanged, solid.skipComment]
  exact solid.newline? rest

theorem statement?_text (blank : Blank gap) (holds : StatementText statement written)
    (trails : Trailer trailer) (ended : Ended tail rest) :
    statement? (gap ++ written ++ trailer ++ tail) = some (some statement, rest) := by
  cases holds with
  | @header before key after blankBefore bare blankAfter =>
    have start : skipSpaces (gap ++ ('[' :: before ++ key ++ after ++ [']']) ++ trailer ++ tail) =
        '[' :: (before ++ (key ++ (after ++ ']' :: (trailer ++ tail)))) := by
      simp only [List.append_assoc, List.cons_append, List.nil_append]
      exact skipSpaces_before blank (by decide) _
    have single : ∀ others,
        before ++ (key ++ (after ++ ']' :: (trailer ++ tail))) ≠ '[' :: others := by
      intro others same
      have trimmed := bare.skipSpaces_before blankBefore (after ++ ']' :: (trailer ++ tail))
      rw [same] at trimmed
      rcases bare.head with ⟨first, more, rfl, isKey⟩
      exact ne_of_isBareKey isKey (by decide) (List.cons.inj trimmed).1.symm
    rw [statement?_header start single, headerKey?_text blankBefore bare blankAfter trails ended]
    rfl
  | @keyValue key after before written value bare blankAfter blankBefore reads =>
    have start : skipSpaces (gap ++ (key ++ after ++ '=' :: before ++ written) ++ trailer ++ tail) =
        key ++ (after ++ '=' :: (before ++ (written ++ (trailer ++ tail)))) := by
      simp only [List.append_assoc, List.cons_append]
      exact bare.skipSpaces_before blank _
    have read := keyValue?_text bare blankAfter blankBefore reads (trails.parts ended.parts) 78
    rcases bare.head with ⟨first, more, rfl, isKey⟩
    exact statement?_keyValue start (ne_of_isBareKey isKey (by decide)) (restOfLine?_bare isKey _)
      read (restOfLine?_trailer trails ended)

/-- The last line counts as empty only if it has a comment. -/
theorem statement?_trailer (trails : Trailer trailer) (ended : Ended tail rest)
    (filled : skipSpaces (trailer ++ tail) ≠ []) :
    statement? (trailer ++ tail) = some (none, rest) := by
  have skipped := restOfLine?_trailer trails ended
  have again : restOfLine? (skipSpaces (trailer ++ tail)) = some rest := by
    rw [← skipped]
    unfold restOfLine? skipSpaces
    rw [List.dropWhile_idempotent]
  cases start : skipSpaces (trailer ++ tail) with
  | nil => exact absurd start filled
  | cons c more =>
    rw [start] at again
    have plain : c ≠ '[' := by
      rintro rfl
      cases again
    exact statement?_empty start plain again

end Statements

section Documents

variable {said : Option Statement} {line newline : List Char} {statements : List Statement}

theorem LineText.read (holds : LineText said line) (ended : Ended tail rest)
    (filled : skipSpaces (line ++ tail) ≠ []) : statement? (line ++ tail) = some (said, rest) := by
  cases holds with
  | empty trails => exact statement?_trailer trails ended filled
  | statement blank holds trails => exact statement?_text blank holds trails ended

theorem statement?_blank (blank : skipSpaces text = []) : statement? text = none := by
  unfold statement?
  rw [blank]

theorem LineText.eq_none (holds : LineText said line) (blank : skipSpaces line = []) :
    said = none := by
  cases holds with
  | empty _ => rfl
  | statement before holds trails =>
    have read := statement?_text before holds trails .last
    rw [List.append_nil, statement?_blank blank] at read
    cases read

theorem Newline.filled (breaks : Newline newline) (line rest : List Char) :
    skipSpaces (line ++ (newline ++ rest)) ≠ [] := by
  intro blank
  have spaces := List.dropWhile_eq_nil_iff.1 blank '\n' (by cases breaks <;> simp)
  cases spaces

theorem collect_document (holds : DocumentText statements text) :
    ∃ items left, collect statement? text = (items, left) ∧ items.filterMap id = statements ∧
      skipSpaces left = [] := by
  induction holds with
  | @last said line holds =>
    by_cases blank : skipSpaces line = []
    -- a blank last line is not read as a statement but left over
    · rw [holds.eq_none blank]
      exact ⟨[], line, collect_stop (statement?_blank blank), rfl, blank⟩
    · have read := holds.read .last (by rwa [List.append_nil])
      rw [List.append_nil] at read
      have shorter : ([] : List Char).length < line.length := by
        cases line with
        | nil => exact absurd rfl blank
        | cons c line => simp
      rw [collect_step read shorter, collect_stop (statement?_blank rfl)]
      exact ⟨[said], [], rfl, by cases said <;> rfl, rfl⟩
  | @line said line newline rest statements holds breaks more ih =>
    rcases ih with ⟨items, left, collected, kept, ended⟩
    have read := holds.read (.newline breaks) (breaks.filled line rest)
    have shorter : rest.length < (line ++ (newline ++ rest)).length := by
      have := breaks.length_pos
      simp
      omega
    rw [List.append_assoc, collect_step read shorter, collected]
    refine ⟨said :: items, left, rfl, ?_, ended⟩
    cases said with
    | none => exact kept
    | some statement => exact congrArg (statement :: ·) kept

theorem DocumentText.no_mark (holds : DocumentText statements text) (rest : List Char) :
    text ≠ byteOrderMark :: rest := by
  -- with a mark in front nothing would be read and the whole text left over
  rintro rfl
  rcases collect_document holds with ⟨items, left, collected, _, ended⟩
  have refused : statement? (byteOrderMark :: rest) = none := by
    simp [statement?, skipSpaces, isSpace, byteOrderMark, restOfLine?, skipComment, lineEnd?,
      newline?, keyValue?, key?, simpleKey?, isBareKey]
  rw [collect_stop refused] at collected
  cases collected
  cases ended

theorem parse_document (holds : DocumentText statements text) :
    parse (String.ofList text) = assemble statements := by
  rcases collect_document holds with ⟨items, left, collected, kept, ended⟩
  unfold parse
  rw [String.toList_ofList]
  cases text with
  | nil => simp only [collected, kept, ended, List.isEmpty_nil, if_true]
  | cons c rest =>
    have noMark : c ≠ byteOrderMark := by
      rintro rfl
      exact holds.no_mark rest rfl
    simp only [if_neg noMark, collected, kept, ended, List.isEmpty_nil, if_true]

end Documents

end CodeInventory.Toml
