import Mathlib
import CodeInventory.Toml.Parser

namespace CodeInventory.Toml

open CodeInventory.Document

def Blank (gap : List Char) : Prop := ∀ c ∈ gap, c = ' ' ∨ c = '\t'

def Plain (c : Char) : Prop := c = '\t' ∨ ' ' ≤ c ∧ c ≠ '\x7f'

instance : DecidablePred Plain := fun _ => inferInstanceAs (Decidable (_ ∨ _ ∧ _))

inductive Newline : List Char → Prop
  | feed : Newline ['\n']
  | returnFeed : Newline ['\r', '\n']

inductive Trailer : List Char → Prop
  | blanks {gap : List Char} (blank : Blank gap) : Trailer gap
  | comment {gap text : List Char} (blank : Blank gap) (plain : ∀ c ∈ text, Plain c) :
    Trailer (gap ++ '#' :: text)

inductive Gap : List Char → Prop
  | blanks {gap : List Char} (blank : Blank gap) : Gap gap
  | line {trailer newline gap : List Char} (trails : Trailer trailer) (breaks : Newline newline)
    (more : Gap gap) : Gap (trailer ++ newline ++ gap)

def shortEscapes : List (Char × Char) :=
  [('b', '\x08'), ('t', '\t'), ('n', '\n'), ('f', '\x0c'), ('r', '\r'), ('"', '"'), ('\\', '\\')]

def numberedEscapes : List (Char × Nat) := [('u', 4), ('U', 8)]

def HexDigit (digit : Fin 16) (c : Char) : Prop :=
  c = digit.val.digitChar ∨ c = digit.val.digitChar.toUpper

inductive CharText : Char → List Char → Prop
  | itself {c : Char} (plain : Plain c) (noQuote : c ≠ '"') (noBackslash : c ≠ '\\') :
    CharText c [c]
  | short {letter c : Char} (known : (letter, c) ∈ shortEscapes) : CharText c ['\\', letter]
  | numbered {letter c : Char} {digits : List (Fin 16)} {written : List Char}
    (known : (letter, digits.length) ∈ numberedEscapes)
    (reads : List.Forall₂ HexDigit digits written)
    (value : Nat.ofDigits 16 (digits.reverse.map Fin.val) = c.toNat) :
    CharText c ('\\' :: letter :: written)

inductive StringText : String → List Char → Prop
  | quoted {text : String} {pieces : List (List Char)}
    (reads : List.Forall₂ CharText text.toList pieces) :
    StringText text ('"' :: pieces.flatten ++ ['"'])

/-- What follows an item of a list: the other items and the bracket, perhaps after a last comma. -/
inductive ItemsText : List String → List Char → Prop
  | close {gap : List Char} (after : Gap gap) : ItemsText [] (gap ++ [']'])
  | comma {gap last : List Char} (after : Gap gap) (before : Gap last) :
    ItemsText [] (gap ++ ',' :: last ++ [']'])
  | item {gap next written others : List Char} {item : String} {items : List String}
    (after : Gap gap) (before : Gap next) (first : StringText item written)
    (more : ItemsText items others) :
    ItemsText (item :: items) (gap ++ ',' :: next ++ written ++ others)

inductive ListText : List String → List Char → Prop
  | empty {gap : List Char} (inside : Gap gap) : ListText [] ('[' :: gap ++ [']'])
  | items {gap written others : List Char} {item : String} {items : List String}
    (before : Gap gap) (first : StringText item written) (more : ItemsText items others) :
    ListText (item :: items) ('[' :: gap ++ written ++ others)

inductive ValueText : Value → List Char → Prop
  | string {text : String} {written : List Char} (reads : StringText text written) :
    ValueText (.string text) written
  | yes : ValueText (.boolean true) ['t', 'r', 'u', 'e']
  | no : ValueText (.boolean false) ['f', 'a', 'l', 's', 'e']
  | strings {items : List String} {written : List Char} (reads : ListText items written) :
    ValueText (.array (items.map .string)) written

def Bare (key : List Char) : Prop := key ≠ [] ∧ ∀ c ∈ key, isBareKey c = true

inductive StatementText : Statement → List Char → Prop
  | header {before key after : List Char} (blankBefore : Blank before) (bare : Bare key)
    (blankAfter : Blank after) :
    StatementText (.header [] (String.ofList key)) ('[' :: before ++ key ++ after ++ [']'])
  | keyValue {key after before written : List Char} {value : Value} (bare : Bare key)
    (blankAfter : Blank after) (blankBefore : Blank before) (reads : ValueText value written) :
    StatementText (.keyValue [] (String.ofList key) value)
      (key ++ after ++ '=' :: before ++ written)

inductive LineText : Option Statement → List Char → Prop
  | empty {trailer : List Char} (trails : Trailer trailer) : LineText none trailer
  | statement {before written trailer : List Char} {statement : Statement} (blank : Blank before)
    (holds : StatementText statement written) (trails : Trailer trailer) :
    LineText (some statement) (before ++ written ++ trailer)

inductive DocumentText : List Statement → List Char → Prop
  | last {said : Option Statement} {line : List Char} (holds : LineText said line) :
    DocumentText said.toList line
  | line {said : Option Statement} {line newline rest : List Char} {statements : List Statement}
    (holds : LineText said line) (breaks : Newline newline) (more : DocumentText statements rest) :
    DocumentText (said.toList ++ statements) (line ++ newline ++ rest)

section Writing

theorem blank_nil : Blank [] := List.forall_mem_nil _

theorem lt_of_not_plain {c : Char} (special : ¬ Plain c) : c.toNat < 128 := by
  unfold Plain at special
  push Not at special
  by_cases low : ' ' ≤ c
  · rw [special.2 low]
    decide
  · have less : c.toNat < ' '.toNat := not_le.1 low
    exact less.trans (by decide)

theorem charText_of_lt {c : Char} (low : c.toNat < 128) : ∃ written, CharText c written := by
  let digits : List (Fin 16) := [0, 0, ⟨c.toNat / 16, by omega⟩, ⟨c.toNat % 16, by omega⟩]
  have known : ('u', digits.length) ∈ numberedEscapes := List.mem_cons_self
  have reads : List.Forall₂ HexDigit digits (digits.map fun digit => digit.val.digitChar) :=
    List.forall₂_map_right_iff.2 (List.forall₂_same.2 fun _ _ => .inl rfl)
  have value : Nat.ofDigits 16 (digits.reverse.map Fin.val) = c.toNat := by
    simp [digits, Nat.ofDigits]
    omega
  exact ⟨_, .numbered known reads value⟩

theorem exists_charText (c : Char) : ∃ written, CharText c written := by
  by_cases plain : Plain c
  · by_cases quote : c = '"'
    · have known : ('"', c) ∈ shortEscapes := by simp [quote, shortEscapes]
      exact ⟨_, .short known⟩
    · by_cases backslash : c = '\\'
      · have known : ('\\', c) ∈ shortEscapes := by simp [backslash, shortEscapes]
        exact ⟨_, .short known⟩
      · exact ⟨[c], .itself plain quote backslash⟩
  · exact charText_of_lt (lt_of_not_plain plain)

theorem exists_stringText (text : String) : ∃ written, StringText text written := by
  have each : ∀ chars : List Char, ∃ pieces, List.Forall₂ CharText chars pieces := by
    intro chars
    induction chars with
    | nil => exact ⟨[], .nil⟩
    | cons c chars ih =>
      rcases ih with ⟨pieces, reads⟩
      rcases exists_charText c with ⟨written, first⟩
      exact ⟨written :: pieces, .cons first reads⟩
  rcases each text.toList with ⟨pieces, reads⟩
  exact ⟨_, .quoted reads⟩

theorem stringText_plain {text : String}
    (plain : ∀ c ∈ text.toList, Plain c ∧ c ≠ '"' ∧ c ≠ '\\') :
    StringText text ('"' :: text.toList ++ ['"']) := by
  have reads : List.Forall₂ CharText text.toList (text.toList.map fun c => [c]) := by
    refine List.forall₂_map_right_iff.2 (List.forall₂_same.2 fun c member => ?_)
    rcases plain c member with ⟨plain, noQuote, noBackslash⟩
    exact .itself plain noQuote noBackslash
  have same : (text.toList.map fun c => [c]).flatten = text.toList := by
    rw [← List.flatMap_def, List.flatMap_singleton']
  rw [← same]
  exact .quoted reads

theorem exists_itemsText (items : List String) : ∃ written, ItemsText items written := by
  induction items with
  | nil => exact ⟨_, .close (.blanks blank_nil)⟩
  | cons item items ih =>
    rcases ih with ⟨others, more⟩
    rcases exists_stringText item with ⟨written, first⟩
    exact ⟨_, .item (.blanks blank_nil) (.blanks blank_nil) first more⟩

theorem exists_listText (items : List String) : ∃ written, ListText items written := by
  cases items with
  | nil => exact ⟨_, .empty (.blanks blank_nil)⟩
  | cons item items =>
    rcases exists_stringText item with ⟨written, first⟩
    rcases exists_itemsText items with ⟨others, more⟩
    exact ⟨_, .items (.blanks blank_nil) first more⟩

theorem exists_documentText {statements : List Statement}
    (each : ∀ statement ∈ statements, ∃ written, StatementText statement written) :
    ∃ text, DocumentText statements text := by
  induction statements with
  | nil => exact ⟨[], .last (.empty (.blanks blank_nil))⟩
  | cons statement statements ih =>
    rcases ih (fun statement member => each statement (by simp [member])) with ⟨rest, more⟩
    rcases each statement (by simp) with ⟨written, holds⟩
    exact ⟨_, .line (.statement blank_nil holds (.blanks blank_nil)) .feed more⟩

end Writing

end CodeInventory.Toml
