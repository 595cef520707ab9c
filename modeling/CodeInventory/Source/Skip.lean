import CodeInventory.Text.Blank

namespace CodeInventory.Source

open CodeInventory.Text

/-- Patterns that pass over the head of a text. They never retry: in every pattern used here the
characters that end a run cannot also continue it. -/
inductive Skip where
  | word (letters : List Char)
  | one (allowed : Char → Bool)
  | blanks
  | optional (inner : Skip)
  | either (first second : Skip)
  | andThen (first second : Skip)

namespace Skip

def afterWord : List Char → List Char → Option (List Char)
  | [], text => some text
  | _ :: _, [] => none
  | letter :: letters, c :: text => if letter = c then afterWord letters text else none

def after? : Skip → List Char → Option (List Char)
  | word letters, text => afterWord letters text
  | one _, [] => none
  | one allowed, c :: text => if allowed c then some text else none
  | blanks, text => some (text.dropWhile isBlank)
  | optional inner, text => some ((inner.after? text).getD text)
  | either first second, text => (first.after? text).or (second.after? text)
  | andThen first second, text => (first.after? text).bind second.after?

instance : Append Skip := ⟨andThen⟩

def someBlanks : Skip := one isBlank ++ blanks

def keyword (letters : String) : Skip := word letters.toList ++ someBlanks

def mark (chars : List Char) : Skip := blanks ++ one chars.contains

theorem afterWord_suffix {letters text rest : List Char}
    (found : afterWord letters text = some rest) : rest <:+ text := by
  induction letters generalizing text with
  | nil => simp_all [afterWord]
  | cons letter letters ih =>
    cases text with
    | nil => simp [afterWord] at found
    | cons c text =>
      simp only [afterWord] at found
      split at found
      · exact (ih found).trans (List.suffix_cons c text)
      · contradiction

theorem after?_suffix (skip : Skip) {text rest : List Char} (found : skip.after? text = some rest) :
    rest <:+ text := by
  induction skip generalizing text rest with
  | word letters => exact afterWord_suffix found
  | one allowed =>
    cases text with
    | nil => simp [after?] at found
    | cons c text =>
      simp only [after?] at found
      split at found
      · exact Option.some.inj found ▸ List.suffix_cons c text
      · contradiction
  | blanks => exact Option.some.inj found ▸ List.dropWhile_suffix _
  | optional inner ih =>
    rw [← Option.some.inj found]
    cases inside : inner.after? text with
    | none => simp
    | some rest => exact ih inside
  | either first second ihFirst ihSecond =>
    rcases Option.or_eq_some_iff.1 found with here | ⟨_, there⟩
    · exact ihFirst here
    · exact ihSecond there
  | andThen first second ihFirst ihSecond =>
    obtain ⟨middle, here, there⟩ := Option.bind_eq_some_iff.1 found
    exact (ihSecond there).trans (ihFirst here)

end Skip

end CodeInventory.Source
