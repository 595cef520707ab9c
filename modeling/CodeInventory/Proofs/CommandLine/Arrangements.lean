import Mathlib
import CodeInventory.CommandLine.Arguments

namespace CodeInventory.CommandLine

structure Choice where
  value? : Slot → Option String
  raises : Flag → Bool

inductive Word where
  | option (slot : Slot) (value : String)
  | flag (flag : Flag)
  deriving DecidableEq

def Slot.name : Slot → String
  | path => "path"
  | output => "output"
  | config => "config"
  | format => "format"
  | title => "title"

def Flag.name : Flag → String
  | allowMissingRoots => "allow-missing-roots"
  | verbose => "verbose"

namespace Word

def text : Word → String
  | option slot value => "--" ++ slot.name ++ "=" ++ value
  | flag raised => "--" ++ raised.name

def topic : Word → Slot ⊕ Flag
  | option slot _ => .inl slot
  | flag raised => .inr raised

/-- The path is no option, and a value says something. -/
def Proper : Word → Prop
  | option slot value => slot ≠ .path ∧ value ≠ ""
  | flag _ => True

end Word

namespace Choice

def word? (choice : Choice) : Slot ⊕ Flag → Option Word
  | .inl slot => (choice.value? slot).map (.option slot)
  | .inr flag => if choice.raises flag then some (.flag flag) else none

def words (choice : Choice) : List Word :=
  [.inl .output, .inl .config, .inl .format, .inl .title, .inr .allowMissingRoots,
    .inr .verbose].filterMap choice.word?

def endings (choice : Choice) : List (List String) :=
  match choice.value? .path with
  | some path => [["--", path]]
  | none => [[], ["--"]]

def request (choice : Choice) : Request where
  path := (choice.value? .path).getD "."
  output := choice.value? .output
  config := choice.value? .config
  format := choice.value? .format
  title := choice.value? .title
  allowMissingRoots := choice.raises .allowMissingRoots
  verbose := choice.raises .verbose

end Choice

variable {choice : Choice} {state : State} {word : Word} {words before : List Word}

section Reading

theorem longMeaning?_slot {slot : Slot} (option : slot ≠ .path) :
    longMeaning? slot.name = some (.slot slot) := by
  cases slot <;> first | rfl | contradiction

theorem longMeaning?_flag (flag : Flag) : longMeaning? flag.name = some (.flag flag) := by
  cases flag <;> rfl

theorem no_equals_in_slot (slot : Slot) : ∀ c ∈ slot.name.toList, c ≠ '=' := by
  cases slot <;> simp [Slot.name]

theorem no_equals_in_flag (flag : Flag) : ∀ c ∈ flag.name.toList, c ≠ '=' := by
  cases flag <;> simp [Flag.name]

/-- What a word does to what was given before it. -/
def State.take (state : State) : Word → Except UsageError State
  | .option slot value => state.store slot value
  | .flag flag => state.raise flag

theorem long_option {slot : Slot} (option : slot ≠ .path) (idle : state.pending = none)
    (value : String) :
    state.long (slot.name.toList ++ '=' :: value.toList) = state.store slot value := by
  have plain : ∀ c ∈ slot.name.toList, decide (c ≠ '=') = true := by
    simpa using no_equals_in_slot slot
  have name : (slot.name.toList ++ '=' :: value.toList).takeWhile (· ≠ '=') =
      slot.name.toList := by
    rw [List.takeWhile_append_of_pos plain]
    simp
  have rest : (slot.name.toList ++ '=' :: value.toList).dropWhile (· ≠ '=') =
      '=' :: value.toList := by
    rw [List.dropWhile_append_of_pos plain]
    simp
  simp only [State.long, name, rest, String.ofList_toList, longMeaning?_slot option]
  simp [State.option, State.resolve, idle, Bind.bind, Except.bind]

theorem long_flag (idle : state.pending = none) (flag : Flag) :
    state.long flag.name.toList = state.raise flag := by
  have plain : ∀ c ∈ flag.name.toList, decide (c ≠ '=') = true := by
    simpa using no_equals_in_flag flag
  have name : flag.name.toList.takeWhile (· ≠ '=') = flag.name.toList :=
    List.takeWhile_eq_self_iff.2 plain
  have rest : flag.name.toList.dropWhile (· ≠ '=') = [] := List.dropWhile_eq_nil_iff.2 plain
  simp only [State.long, name, rest, String.ofList_toList, longMeaning?_flag]
  simp [State.option, State.resolve, idle, Bind.bind, Except.bind]

theorem argument_text (proper : word.Proper) (idle : state.pending = none) :
    state.argument word.text = state.take word := by
  cases word with
  | option slot value =>
    have spelled : (Word.option slot value).text.toList =
        '-' :: '-' :: (slot.name.toList ++ '=' :: value.toList) := by
      simp [Word.text]
    rw [State.argument, spelled]
    exact long_option proper.1 idle value
  | flag flag =>
    have spelled : (Word.flag flag).text.toList = '-' :: '-' :: flag.name.toList := by
      simp [Word.text]
    rw [State.argument, spelled]
    exact long_flag idle flag

theorem text_ne_separator (word : Word) : word.text ≠ "--" := by
  intro same
  have longer : word.text.toList.length = 2 := by rw [same]; rfl
  cases word with
  | option slot value => simp [Word.text] at longer
  | flag flag => cases flag <;> simp [Word.text, Flag.name] at longer

theorem take_idle {next : State} (idle : state.pending = none)
    (taken : state.take word = .ok next) : next.pending = none := by
  cases word with
  | option slot value =>
    simp only [State.take, State.store] at taken
    split at taken
    · cases taken
    · split at taken <;> cases taken
      exact idle
  | flag flag =>
    simp only [State.take, State.raise] at taken
    split at taken <;> cases taken
    exact idle

theorem parseRequest_words (proper : ∀ word ∈ words, word.Proper) (idle : state.pending = none)
    (rest : List String) :
    parseRequest state (words.map Word.text ++ rest) =
      words.foldlM State.take state >>= fun next => parseRequest next rest := by
  induction words generalizing state with
  | nil => rfl
  | cons word others ih =>
    have head := argument_text (proper word (List.mem_cons_self ..)) idle
    have tail : ∀ other ∈ others, other.Proper := fun other member =>
      proper other (List.mem_cons_of_mem _ member)
    rw [List.map_cons, List.cons_append, parseRequest, head, List.foldlM_cons]
    · cases taken : state.take word with
      | error error => rfl
      | ok next => exact ih tail (take_idle idle taken)
    · exact fun same => text_ne_separator word same

end Reading

section Taking

/-- What was given so far is what the words say. -/
structure State.Records (state : State) (words : List Word) : Prop where
  idle : state.pending = none
  unplaced : state.positionalGiven = false
  values : ∀ slot value, state.values.lookup slot = some value ↔ .option slot value ∈ words
  flags : ∀ flag, flag ∈ state.flags ↔ .flag flag ∈ words

theorem records_nothing : State.Records {} [] := by
  constructor <;> simp

theorem State.Records.known_slot (records : state.Records before) (slot : Slot) :
    (state.values.lookup slot).isSome = true ↔ .inl slot ∈ before.map Word.topic := by
  rw [Option.isSome_iff_exists]
  simp only [records.values, List.mem_map]
  constructor
  · rintro ⟨value, member⟩
    exact ⟨_, member, rfl⟩
  · rintro ⟨word, member, same⟩
    cases word with
    | option other value =>
      cases same
      exact ⟨value, member⟩
    | flag flag => cases same

theorem State.Records.known_flag (records : state.Records before) (flag : Flag) :
    flag ∈ state.flags ↔ .inr flag ∈ before.map Word.topic := by
  rw [records.flags, List.mem_map]
  constructor
  · intro member
    exact ⟨_, member, rfl⟩
  · rintro ⟨word, member, same⟩
    cases word with
    | option slot value => cases same
    | flag other =>
      cases same
      exact member

theorem State.Records.take_new (records : state.Records before) (proper : word.Proper)
    (new : word.topic ∉ before.map Word.topic) :
    ∃ next, state.take word = .ok next ∧ next.Records (before ++ [word]) := by
  cases word with
  | option slot value =>
    have free : state.values.lookup slot = none :=
      Option.not_isSome_iff_eq_none.1 (mt (records.known_slot slot).1 new)
    have filled : value.isEmpty = false := by simpa using proper.2
    refine ⟨{ state with values := (slot, value) :: state.values }, ?_, ?_⟩
    · simp [State.take, State.store, free, filled]
    · refine ⟨records.idle, records.unplaced, ?_, ?_⟩
      · intro other given
        by_cases same : other = slot
        · subst same
          have absent : .option other given ∉ before := by
            simp [← records.values, free]
          simp [absent, eq_comm]
        · simp [List.lookup_cons, beq_false_of_ne same, records.values, same]
      · intro flag
        simp [records.flags]
  | flag flag =>
    have free : flag ∉ state.flags := mt (records.known_flag flag).1 new
    refine ⟨{ state with flags := flag :: state.flags }, ?_, ?_⟩
    · simp [State.take, State.raise, free]
    · refine ⟨records.idle, records.unplaced, ?_, ?_⟩
      · intro slot value
        simp [records.values]
      · intro other
        simp [records.flags, or_comm]

theorem State.Records.take_again (records : state.Records before)
    (again : word.topic ∈ before.map Word.topic) :
    state.take word = .error .argumentConflict := by
  cases word with
  | option slot value =>
    simp [State.take, State.store, (records.known_slot slot).2 again]
  | flag flag =>
    simp [State.take, State.raise, (records.known_flag flag).2 again]

/-- Whether a run of words is taken depends on nothing but whether it repeats itself. -/
theorem State.Records.take_all (records : state.Records before)
    (distinct : (before.map Word.topic).Nodup) (proper : ∀ word ∈ words, word.Proper) :
    if ((before ++ words).map Word.topic).Nodup then
      ∃ next, words.foldlM State.take state = .ok next ∧ next.Records (before ++ words)
    else words.foldlM State.take state = .error .argumentConflict := by
  induction words generalizing state before with
  | nil =>
    rw [List.append_nil, if_pos distinct]
    exact ⟨state, rfl, records⟩
  | cons word others ih =>
    have tail : ∀ other ∈ others, other.Proper := fun other member =>
      proper other (List.mem_cons_of_mem _ member)
    by_cases again : word.topic ∈ before.map Word.topic
    · have repeated : ¬ ((before ++ word :: others).map Word.topic).Nodup := by
        rw [List.map_append, List.nodup_append]
        intro apart
        exact apart.2.2 _ again _ (by simp) rfl
      rw [if_neg repeated, List.foldlM_cons, records.take_again again]
      rfl
    · obtain ⟨next, taken, recorded⟩ := records.take_new (proper word (List.mem_cons_self ..)) again
      have longer : ((before ++ [word]).map Word.topic).Nodup := by
        rw [List.map_append, List.nodup_append]
        refine ⟨distinct, by simp, ?_⟩
        intro topic member other same
        rintro rfl
        simp only [List.map_cons, List.map_nil, List.mem_singleton] at same
        exact again (same ▸ member)
      have whole := ih recorded longer tail
      rw [List.append_assoc, List.singleton_append] at whole
      rw [List.foldlM_cons, taken]
      exact whole

end Taking

section Choosing

theorem option_mem_words {slot : Slot} {value : String} :
    .option slot value ∈ choice.words ↔ slot ≠ .path ∧ choice.value? slot = some value := by
  cases slot <;> simp [Choice.words, Choice.word?]

theorem flag_mem_words {flag : Flag} : .flag flag ∈ choice.words ↔ choice.raises flag = true := by
  cases flag <;> simp [Choice.words, Choice.word?]

theorem topic_of_word? {topic : Slot ⊕ Flag} (given : choice.word? topic = some word) :
    word.topic = topic := by
  cases topic with
  | inl slot =>
    obtain ⟨value, _, rfl⟩ := Option.map_eq_some_iff.1 given
    rfl
  | inr flag =>
    simp only [Choice.word?] at given
    split at given <;> cases given
    rfl

theorem words_distinct (choice : Choice) : (choice.words.map Word.topic).Nodup := by
  rw [Choice.words, List.map_filterMap]
  apply List.Nodup.filterMap
  · intro topic other shared first second
    obtain ⟨word, given, rfl⟩ := Option.map_eq_some_iff.1 first
    obtain ⟨again, meant, same⟩ := Option.map_eq_some_iff.1 second
    rw [← topic_of_word? given, ← topic_of_word? meant, same]
  · decide

theorem words_proper (filled : ∀ slot value, choice.value? slot = some value → value ≠ "") :
    ∀ word ∈ choice.words, word.Proper := by
  intro word member
  cases word with
  | option slot value =>
    obtain ⟨option, given⟩ := option_mem_words.1 member
    exact ⟨option, filled slot value given⟩
  | flag flag => trivial

theorem State.Records.value_of_choice (records : state.Records words)
    (arranged : words.Perm choice.words) {slot : Slot} (option : slot ≠ .path) :
    state.values.lookup slot = choice.value? slot := by
  apply Option.ext
  intro value
  rw [records.values, arranged.mem_iff, option_mem_words]
  simp [option]

theorem State.Records.flag_of_choice (records : state.Records words)
    (arranged : words.Perm choice.words) (flag : Flag) :
    decide (flag ∈ state.flags) = choice.raises flag := by
  rw [Bool.eq_iff_iff, decide_eq_true_eq, records.flags, arranged.mem_iff, flag_mem_words]

theorem State.Records.no_path (records : state.Records words)
    (arranged : words.Perm choice.words) : state.values.lookup .path = none := by
  apply Option.eq_none_iff_forall_not_mem.2
  intro value given
  have member := (records.values .path value).1 given
  rw [arranged.mem_iff, option_mem_words] at member
  exact member.1 rfl

theorem request_of_choice (values : ∀ slot, state.values.lookup slot = choice.value? slot)
    (flags : ∀ flag, decide (flag ∈ state.flags) = choice.raises flag) :
    state.request = choice.request := by
  simp only [State.request, Choice.request, values, flags]

theorem parseRequest_ending (records : state.Records words) (arranged : words.Perm choice.words)
    (filled : ∀ slot value, choice.value? slot = some value → value ≠ "") {ending : List String}
    (ends : ending ∈ choice.endings) :
    ∃ final, parseRequest state ending = .ok final ∧ final.request = choice.request := by
  have flags := records.flag_of_choice arranged
  cases path : choice.value? .path with
  | none =>
    have settled : state.resolve = .ok state := by simp [State.resolve, records.idle]
    have values : ∀ slot, state.values.lookup slot = choice.value? slot := by
      intro slot
      by_cases option : slot = .path
      · rw [option, path, records.no_path arranged]
      · exact records.value_of_choice arranged option
    refine ⟨state, ?_, request_of_choice values flags⟩
    simp only [Choice.endings, path, List.mem_cons, List.not_mem_nil, or_false] at ends
    rcases ends with rfl | rfl
    · exact settled
    · exact settled
  | some value =>
    simp only [Choice.endings, path, List.mem_cons, List.not_mem_nil, or_false] at ends
    subst ends
    have some_text : value.isEmpty = false := by simpa using filled .path value path
    let final : State :=
      { state with values := (.path, value) :: state.values, positionalGiven := true }
    have read : parseRequest state ["--", value] = .ok final := by
      simp [parseRequest, State.positional, State.resolve, State.store, records.unplaced,
        records.idle, records.no_path arranged, some_text, Except.map, Bind.bind, Except.bind, pure,
        Except.pure, final]
    have values : ∀ slot, final.values.lookup slot = choice.value? slot := by
      intro slot
      by_cases option : slot = .path
      · simp [option, path, final]
      · simp only [final, List.lookup_cons, beq_false_of_ne option]
        exact records.value_of_choice arranged option
    exact ⟨final, read, request_of_choice values flags⟩

end Choosing

theorem parse_words (proper : ∀ word ∈ words, word.Proper) (rest : List String) :
    parse ("generate" :: (words.map Word.text ++ rest)) =
      (words.foldlM State.take {} >>= fun state => parseRequest state rest).map
        fun state => .generate state.request := by
  rw [parse, parseRequest_words proper rfl]

/-- The arguments in any order are read as what they say; with one of them given again, wherever it
stands, they are a conflict. -/
theorem arguments_are_read_in_any_order (choice : Choice)
    (filled : ∀ slot value, choice.value? slot = some value → value ≠ "") :
    (∀ (words : List Word) (ending : List String), words.Perm choice.words →
      ending ∈ choice.endings →
      parse ("generate" :: (words.map Word.text ++ ending)) = .ok (.generate choice.request)) ∧
    ∀ word again : Word, word ∈ choice.words → again.topic = word.topic → again.Proper →
      ∀ (words : List Word) (rest : List String), words.Perm (again :: choice.words) →
      parse ("generate" :: (words.map Word.text ++ rest)) = .error .argumentConflict := by
  have proper := words_proper filled
  constructor
  · intro words ending arranged ends
    have allProper : ∀ word ∈ words, word.Proper := fun word member =>
      proper word (arranged.mem_iff.1 member)
    have distinct : (([] ++ words).map Word.topic).Nodup :=
      (arranged.map Word.topic).nodup_iff.2 (words_distinct choice)
    have run := records_nothing.take_all .nil allProper
    rw [if_pos distinct] at run
    obtain ⟨state, taken, records⟩ := run
    obtain ⟨final, read, meant⟩ := parseRequest_ending records arranged filled ends
    rw [parse_words allProper, taken, ← meant]
    exact congrArg (Except.map fun state => Command.generate state.request) read
  · intro word again member same againProper words rest arranged
    have allProper : ∀ word ∈ words, word.Proper := by
      intro other among
      rcases List.mem_cons.1 (arranged.mem_iff.1 among) with rfl | chosen
      · exact againProper
      · exact proper other chosen
    have repeated : ¬ (([] ++ words).map Word.topic).Nodup := by
      rw [List.nil_append, (arranged.map Word.topic).nodup_iff, List.map_cons, List.nodup_cons]
      intro apart
      exact apart.1 (same ▸ List.mem_map_of_mem member)
    have run := records_nothing.take_all .nil allProper
    rw [if_neg repeated] at run
    rw [parse_words allProper, run]
    rfl

/-- Values that look like options and a path that looks like the separator. -/
def trickyChoice : Choice where
  value?
    | .path => some "--"
    | .output => some "--verbose"
    | .title => some "=-o="
    | _ => none
  raises
    | .allowMissingRoots => false
    | .verbose => true

theorem tricky_arguments_are_read :
    parse ["generate", "--title==-o=", "--verbose", "--output=--verbose", "--", "--"] =
      .ok (.generate ⟨"--", some "--verbose", none, none, some "=-o=", false, true⟩) ∧
    parse ["generate", "--verbose", "--title==-o=", "--output=--verbose", "--verbose"] =
      .error .argumentConflict := by
  have filled : ∀ slot value, trickyChoice.value? slot = some value → value ≠ "" := by
    intro slot value given
    cases slot <;> cases given <;> decide
  have read := arguments_are_read_in_any_order trickyChoice filled
  constructor
  · exact read.1 [.option .title "=-o=", .flag .verbose, .option .output "--verbose"]
      ["--", "--"] (by decide) (by decide)
  · exact read.2 (.flag .verbose) (.flag .verbose) (by decide) rfl trivial
      [.flag .verbose, .option .title "=-o=", .option .output "--verbose", .flag .verbose] []
      (by decide)

end CodeInventory.CommandLine
