import CodeInventory.Inventory.Scan
import CodeInventory.Proofs.Glob.Search
import CodeInventory.Proofs.Text.Bytes

namespace CodeInventory.Scanner

open CodeInventory.Glob

variable {scanner : Scanner} {texts : List String} {patterns : List Pattern}

theorem selects_iff (compiled : parseAll texts = .ok patterns)
    (equipped : scanner.patterns = patterns) (path : Path) :
    scanner.selects path = true ↔
      ∃ name, path.fileName? = some name ∧ ∃ text ∈ texts, ∃ pattern,
        Spells true text.toList pattern ∧ Cuts pattern (Text.decodeLossy name).toList := by
  have meant : ∀ name : String, patterns.any (·.accepts name) = true ↔
      ∃ text ∈ texts, ∃ pattern, Spells true text.toList pattern ∧ Cuts pattern name.toList := by
    intro name
    rw [parseAll_any compiled]
    refine exists_congr fun text => and_congr_right fun _ => exists_congr fun pattern => ?_
    rw [← parse_eq_ok_iff]
    exact and_congr_right fun parsed => accepts_iff parsed name
  unfold selects
  rw [equipped]
  cases path.fileName? with
  | none => simp
  | some name => simp [meant]

theorem parsed_of_mem (compiled : parseAll texts = .ok patterns) {pattern : Pattern}
    (member : pattern ∈ patterns) : ∃ text ∈ texts, parse text = .ok pattern := by
  have found : patterns.any (fun other => decide (other = pattern)) = true :=
    List.any_eq_true.2 ⟨pattern, member, decide_eq_true rfl⟩
  obtain ⟨text, given, other, parsed, same⟩ := (parseAll_any compiled _).1 found
  obtain rfl := of_decide_eq_true same
  exact ⟨text, given, parsed⟩

theorem accepts_ending_iff {suffix : String} (plain : ∀ c ∈ suffix.toList, Plain c)
    (name : String) : (ending suffix).accepts name = true ↔ suffix.toList <:+ name.toList := by
  rw [accepts_iff (parse_ending plain), ending, cuts_ending_iff]

theorem selects_ending_iff {suffix : String} (plain : ∀ c ∈ suffix.toList, Plain c)
    (equipped : scanner.patterns = [ending suffix]) (path : Path) :
    scanner.selects path = true ↔
      ∃ name, path.fileName? = some name ∧ suffix.toList <:+ (Text.decodeLossy name).toList := by
  unfold selects
  rw [equipped]
  cases path.fileName? with
  | none => simp
  | some name => simp [accepts_ending_iff plain]

/-- A file is selected exactly if its name can be cut into pieces that the elements of some pattern
stand for. No cut that plain search would find is missed, and a star before plain characters
selects the names that end in them. -/
theorem selection_follows_the_patterns :
    (∀ texts patterns, parseAll texts = .ok patterns →
      (∀ scanner : Scanner, scanner.patterns = patterns → ∀ path,
        (scanner.selects path = true ↔
          ∃ name, path.fileName? = some name ∧ ∃ text ∈ texts, ∃ pattern,
            Spells true text.toList pattern ∧ Cuts pattern (Text.decodeLossy name).toList)) ∧
      ∀ pattern ∈ patterns, ∀ name : String,
        pattern.accepts name = searchAll pattern name.toList) ∧
    ∀ suffix : String, (∀ c ∈ suffix.toList, Plain c) →
      ∃ patterns, parseAll ["*" ++ suffix] = .ok patterns ∧
        ∀ scanner : Scanner, scanner.patterns = patterns → ∀ path,
          (scanner.selects path = true ↔
            ∃ name, path.fileName? = some name ∧
              suffix.toList <:+ (Text.decodeLossy name).toList) := by
  constructor
  · intro texts patterns compiled
    refine ⟨fun scanner equipped => selects_iff compiled equipped, ?_⟩
    intro pattern member name
    obtain ⟨text, _, parsed⟩ := parsed_of_mem compiled member
    rw [Bool.eq_iff_iff, accepts_iff parsed, searchAll_iff]
  · intro suffix plain
    refine ⟨_, ?_, fun scanner equipped => selects_ending_iff plain equipped⟩
    exact parseAll_endings (List.forall_mem_singleton.2 plain)

theorem bare_suffix_is_selected : ∃ patterns, parseAll ["*.ts"] = .ok patterns ∧
    (⟨patterns, false, false⟩ : Scanner).selects (.ofString "src/.ts") = true ∧
    ∀ pattern ∈ patterns, pattern.accepts "a.ts.tsx" = searchAll pattern "a.ts.tsx".toList := by
  have plain : ∀ c ∈ ".ts".toList, Plain c := by simp [Plain]
  obtain ⟨patterns, compiled, selected⟩ := selection_follows_the_patterns.2 ".ts" plain
  have name : (Path.ofString "src/.ts").fileName? = some (Text.encode ".ts") := by cbv
  refine ⟨patterns, compiled, ?_, ?_⟩
  · refine (selected ⟨patterns, false, false⟩ rfl _).2 ⟨_, name, ?_⟩
    rw [Text.decodeLossy_encode]
  · intro pattern member
    exact (selection_follows_the_patterns.1 _ _ compiled).2 pattern member _

end CodeInventory.Scanner
