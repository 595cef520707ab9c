import CodeInventory.Proofs.Toml.Notation

namespace CodeInventory.Toml

variable {gap text rest tail written : List Char} {c : Char}

section Collecting

variable {α : Type} {step : Reader α} {item : α}

theorem collect_step (read : step text = some (item, rest)) (shorter : rest.length < text.length) :
    collect step text = (item :: (collect step rest).1, (collect step rest).2) := by
  rw [collect, read]
  simp [shorter]

theorem collect_stop (refused : step text = none) : collect step text = ([], text) := by
  rw [collect, refused]

end Collecting

theorem isPlain_iff : isPlain c = true ↔ Plain c := by
  simp [isPlain, Plain]

theorem Blank.isSpace (blank : Blank gap) : ∀ c ∈ gap, isSpace c = true := by
  intro c member
  rcases blank c member with rfl | rfl <;> rfl

theorem skipSpaces_before (blank : Blank gap) (solid : isSpace c = false) (rest : List Char) :
    skipSpaces (gap ++ c :: rest) = c :: rest := by
  unfold skipSpaces
  rw [List.dropWhile_append_of_pos blank.isSpace, List.dropWhile_cons_of_neg (by simp [solid])]

/-- The line is over, and this is what follows it. -/
inductive Ended : List Char → List Char → Prop
  | last : Ended [] []
  | newline {newline rest : List Char} (breaks : Newline newline) : Ended (newline ++ rest) rest

theorem Ended.lineEnd? (ended : Ended tail rest) : lineEnd? tail = some rest := by
  cases ended with
  | last => rfl
  | newline breaks => cases breaks <;> rfl

theorem Ended.dropWhile {p : Char → Bool} (ended : Ended tail rest) (feed : p '\n' = false)
    (returned : p '\r' = false) : tail.dropWhile p = tail := by
  cases ended with
  | last => rfl
  | newline breaks => cases breaks <;> simp [feed, returned]

theorem skipComment_ended (ended : Ended tail rest) : skipComment tail = tail := by
  cases ended with
  | last => rfl
  | newline breaks => cases breaks <;> rfl

theorem skipComment_comment (plain : ∀ c ∈ text, Plain c) (ended : Ended tail rest) :
    skipComment ('#' :: text ++ tail) = tail := by
  have all : ∀ c ∈ text, isPlain c = true := fun c member => isPlain_iff.2 (plain c member)
  change (text ++ tail).dropWhile isPlain = tail
  rw [List.dropWhile_append_of_pos all, ended.dropWhile (by decide) (by decide)]

theorem Trailer.skip (trails : Trailer gap) (ended : Ended tail rest) :
    skipComment (skipSpaces (gap ++ tail)) = tail := by
  cases trails with
  | blanks blank =>
    unfold skipSpaces
    rw [List.dropWhile_append_of_pos blank.isSpace, ended.dropWhile (by decide) (by decide),
      skipComment_ended ended]
  | comment blank plain =>
    rw [List.append_assoc, List.cons_append, skipSpaces_before blank (by decide),
      ← List.cons_append, skipComment_comment plain ended]

theorem restOfLine?_trailer (trails : Trailer gap) (ended : Ended tail rest) :
    restOfLine? (gap ++ tail) = some rest := by
  unfold restOfLine?
  rw [trails.skip ended, ended.lineEnd?]

def Solid (c : Char) : Prop := c ≠ ' ' ∧ c ≠ '\t' ∧ c ≠ '#' ∧ c ≠ '\n' ∧ c ≠ '\r'

instance : DecidablePred Solid := fun _ => inferInstanceAs (Decidable (_ ∧ _))

theorem Solid.isSpace (solid : Solid c) : isSpace c = false := by
  simp [Toml.isSpace, solid.1, solid.2.1]

theorem Solid.skipComment (solid : Solid c) (rest : List Char) :
    skipComment (c :: rest) = c :: rest := by
  simp [Toml.skipComment, solid.2.2.1]

theorem Solid.newline? (solid : Solid c) (rest : List Char) : newline? (c :: rest) = none := by
  rcases solid with ⟨-, -, -, feed, returned⟩
  unfold Toml.newline?
  split <;> simp_all

theorem Newline.newline? (breaks : Newline written) (rest : List Char) :
    newline? (written ++ rest) = some rest := by
  cases breaks <;> rfl

theorem Newline.length_pos (breaks : Newline written) : 0 < written.length := by
  cases breaks <;> decide

theorem skipGap_gap (between : Gap gap) (solid : Solid c) (rest : List Char) :
    skipGap (gap ++ c :: rest) = c :: rest := by
  unfold skipGap
  induction between with
  | blanks blank =>
    rw [collect_stop]
    · exact skipSpaces_before blank solid.isSpace rest
    · rw [skipSpaces_before blank solid.isSpace, solid.skipComment, solid.newline?]
      rfl
  | @line trailer newline gap trails breaks more ih =>
    have read : (newline? (skipComment (skipSpaces (trailer ++ newline ++ gap ++ c :: rest)))).map
        (((), ·)) = some ((), gap ++ c :: rest) := by
      rw [List.append_assoc, List.append_assoc, trails.skip (.newline breaks), breaks.newline?]
      rfl
    have shorter : (gap ++ c :: rest).length < (trailer ++ newline ++ gap ++ c :: rest).length := by
      have := breaks.length_pos
      simp
      omega
    rw [collect_step read shorter]
    exact ih

section Escapes

theorem hexDigit?_of_hexDigit {digit : Fin 16} (reads : HexDigit digit c) :
    hexDigit? c = some digit.val := by
  rcases reads with rfl | rfl
  · revert digit
    decide
  · revert digit
    decide

theorem mapM_hexDigit? {digits : List (Fin 16)} (reads : List.Forall₂ HexDigit digits written) :
    written.mapM hexDigit? = some (digits.map Fin.val) := by
  induction reads with
  | nil => rfl
  | cons first _ ih => simp [hexDigit?_of_hexDigit first, ih]

theorem foldl_digits (digits : List Nat) :
    digits.foldl (fun n d => n * 16 + d) 0 = Nat.ofDigits 16 digits.reverse := by
  rw [Nat.ofDigits_eq_foldr, List.foldr_reverse]
  congr
  funext n d
  simp only [Nat.cast_id]
  ring

theorem codePoint?_digits {digits : List (Fin 16)} (reads : List.Forall₂ HexDigit digits written)
    (value : Nat.ofDigits 16 (digits.reverse.map Fin.val) = c.toNat) (rest : List Char) :
    codePoint? digits.length (written ++ rest) = some (c, rest) := by
  have length : digits.length = written.length := reads.length_eq
  have valid : c.toNat.isValidChar := c.valid
  have enough : ¬ (written ++ rest).length < written.length := by simp
  unfold codePoint?
  rw [length, if_neg enough, List.take_left, List.drop_left, mapM_hexDigit? reads]
  simp only [Option.bind_some, foldl_digits, ← List.map_reverse, value, if_pos valid,
    Char.ofNat_toNat]

theorem escape?_short {letter : Char} (known : (letter, c) ∈ shortEscapes) (rest : List Char) :
    escape? (letter :: rest) = some (c, rest) := by
  simp only [shortEscapes, List.mem_cons, List.not_mem_nil, or_false, Prod.mk.injEq] at known
  rcases known with ⟨rfl, rfl⟩ | ⟨rfl, rfl⟩ | ⟨rfl, rfl⟩ | ⟨rfl, rfl⟩ | ⟨rfl, rfl⟩ | ⟨rfl, rfl⟩ |
    ⟨rfl, rfl⟩ <;> rfl

theorem escape?_numbered {letter : Char} {count : Nat} (known : (letter, count) ∈ numberedEscapes)
    (text : List Char) : escape? (letter :: text) = codePoint? count text := by
  simp only [numberedEscapes, List.mem_cons, List.not_mem_nil, or_false, Prod.mk.injEq] at known
  rcases known with ⟨rfl, rfl⟩ | ⟨rfl, rfl⟩ <;> rfl

end Escapes

section Quotes

def unquoted (text : List Char) : List Char × List Char :=
  ((collect basicPiece? text).1.flatten, (collect basicPiece? text).2)

def standsAlone (c : Char) : Bool := isPlain c && !(['"', '\\'].contains c)

theorem plainRun?_cons {stops : List Char} {c : Char}
    (alone : (isPlain c && !stops.contains c) = true) (text : List Char) :
    plainRun? stops (c :: text) =
      some (c :: text.takeWhile (fun c => isPlain c && !stops.contains c),
        text.dropWhile (fun c => isPlain c && !stops.contains c)) := by
  unfold plainRun?
  simp only [List.takeWhile_cons, List.dropWhile_cons, alone, if_true]

theorem basicPiece?_run (alone : standsAlone c = true) (text : List Char) :
    basicPiece? (c :: text) =
      some (c :: text.takeWhile standsAlone, text.dropWhile standsAlone) := by
  unfold basicPiece?
  rw [plainRun?_cons alone]
  rfl

theorem unquoted_step {piece : List Char} (read : basicPiece? text = some (piece, rest))
    (shorter : rest.length < text.length) :
    unquoted text = (piece ++ (unquoted rest).1, (unquoted rest).2) := by
  unfold unquoted
  rw [collect_step read shorter]
  rfl

/-- Characters that stand alone may be taken one by one, although they are read in runs. -/
theorem unquoted_alone (alone : standsAlone c = true) (text : List Char) :
    unquoted (c :: text) = (c :: (unquoted text).1, (unquoted text).2) := by
  have shorter : (text.dropWhile standsAlone).length < (c :: text).length :=
    Nat.lt_succ_of_le (List.dropWhile_sublist _).length_le
  rw [unquoted_step (basicPiece?_run alone text) shorter]
  cases text with
  | nil => rfl
  | cons next more =>
    by_cases also : standsAlone next = true
    -- the rest is one run as well, and it ends where the whole one does
    · have shorter : (more.dropWhile standsAlone).length < (next :: more).length :=
        Nat.lt_succ_of_le (List.dropWhile_sublist _).length_le
      rw [unquoted_step (basicPiece?_run also more) shorter, List.takeWhile_cons_of_pos also,
        List.dropWhile_cons_of_pos also]
      rfl
    · rw [List.takeWhile_cons_of_neg also, List.dropWhile_cons_of_neg also]
      rfl

theorem unquoted_escape (read : escape? text = some (c, rest))
    (shorter : rest.length ≤ text.length) :
    unquoted ('\\' :: text) = (c :: (unquoted rest).1, (unquoted rest).2) := by
  have piece : basicPiece? ('\\' :: text) = some ([c], rest) := by
    simp [basicPiece?, plainRun?, read]
  exact unquoted_step piece (Nat.lt_succ_of_le shorter)

theorem unquoted_quote (rest : List Char) : unquoted ('"' :: rest) = ([], '"' :: rest) := by
  have refused : basicPiece? ('"' :: rest) = none := by simp [basicPiece?, plainRun?]
  unfold unquoted
  rw [collect_stop refused]
  rfl

theorem unquoted_char (reads : CharText c written) (rest : List Char) :
    unquoted (written ++ rest) = (c :: (unquoted rest).1, (unquoted rest).2) := by
  cases reads with
  | itself plain noQuote noBackslash =>
    have alone : standsAlone c = true := by
      simp [standsAlone, isPlain_iff.2 plain, noQuote, noBackslash]
    exact unquoted_alone alone rest
  | short known => exact unquoted_escape (escape?_short known rest) (by simp)
  | numbered known reads value =>
    apply unquoted_escape
    · exact (escape?_numbered known _).trans (codePoint?_digits reads value rest)
    · simp
      omega

theorem unquoted_chars {chars : List Char} {pieces : List (List Char)}
    (reads : List.Forall₂ CharText chars pieces) (rest : List Char) :
    unquoted (pieces.flatten ++ '"' :: rest) = (chars, '"' :: rest) := by
  induction reads with
  | nil => exact unquoted_quote rest
  | cons first _ ih => rw [List.flatten_cons, List.append_assoc, unquoted_char first, ih]

theorem onOneLine?_unquoted (read : unquoted text = (written, '"' :: rest)) :
    onOneLine? basicPiece? '"' text = some (String.ofList written, rest) := by
  rcases Prod.mk.inj read with ⟨pieces, left⟩
  unfold onOneLine?
  split
  · rename_i found c more collected
    rw [collected] at pieces left
    cases left
    simp only [if_true, pieces]
  · rename_i found collected
    rw [collected] at left
    cases left

theorem string?_short (short : ∀ more, text ≠ '"' :: '"' :: more) :
    string? ('"' :: text) = onOneLine? basicPiece? '"' text := by
  unfold string?
  split
  · rename_i more same
    exact absurd (List.cons.inj same).2 (short more)
  · rename_i same
    cases (List.cons.inj same).1
  · rfl

theorem CharText.head (reads : CharText c written) :
    ∃ first others, written = first :: others ∧ first ≠ '"' := by
  cases reads with
  | itself _ noQuote _ => exact ⟨_, _, rfl, noQuote⟩
  | short _ => exact ⟨_, _, rfl, by decide⟩
  | numbered _ _ _ => exact ⟨_, _, rfl, by decide⟩

/-- The empty string is told from the start of a long one by what follows it. -/
theorem not_long {chars : List Char} {pieces : List (List Char)}
    (reads : List.Forall₂ CharText chars pieces) (follows : rest.head? ≠ some '"')
    (more : List Char) : pieces.flatten ++ '"' :: rest ≠ '"' :: '"' :: more := by
  intro same
  cases reads with
  | nil =>
    have next : rest = '"' :: more := (List.cons.inj same).2
    exact follows (by rw [next]; rfl)
  | cons first _ =>
    rcases first.head with ⟨first, others, rfl, noQuote⟩
    exact noQuote (List.cons.inj same).1

theorem string?_text {value : String} (reads : StringText value written)
    (follows : rest.head? ≠ some '"') : string? (written ++ rest) = some (value, rest) := by
  cases reads with
  | @quoted pieces reads =>
    have line := onOneLine?_unquoted (unquoted_chars reads rest)
    rw [String.ofList_toList] at line
    have split : '"' :: pieces.flatten ++ ['"'] ++ rest =
        '"' :: (pieces.flatten ++ '"' :: rest) := by simp
    rw [split, string?_short (not_long reads follows), line]

end Quotes

end CodeInventory.Toml
