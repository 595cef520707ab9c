namespace CodeInventory.Text

abbrev Ranges := List (Nat × Nat)

namespace Ranges

def contains : Ranges → Nat → Bool
  | [], _ => false
  | (low, high) :: rest, n => if n < low then false else decide (n ≤ high) || contains rest n

def Increasing (ranges : Ranges) : Prop :=
  (∀ r ∈ ranges, r.1 ≤ r.2) ∧ ranges.Pairwise fun r s => r.2 < s.1

instance (ranges : Ranges) : Decidable ranges.Increasing := by
  unfold Increasing; infer_instance

theorem contains_eq_any (ranges : Ranges) (increasing : ranges.Increasing) (n : Nat) :
    ranges.contains n = ranges.any fun r => decide (r.1 ≤ n) && decide (n ≤ r.2) := by
  induction ranges with
  | nil => rfl
  | cons r rest ih =>
    obtain ⟨low, high⟩ := r
    obtain ⟨nonempty, apart⟩ := increasing
    have tail := ih ⟨fun s member => nonempty s (by simp [member]), (List.pairwise_cons.1 apart).2⟩
    by_cases below : n < low
    · have above : ∀ s ∈ rest, ¬ s.1 ≤ n := by
        intro s member
        have first := nonempty (low, high) (by simp)
        have next := (List.pairwise_cons.1 apart).1 s member
        simp only at first next
        omega
      simp only [contains, below, ↓reduceIte, List.any_cons]
      rw [eq_comm, Bool.or_eq_false_iff]
      refine ⟨by simp; omega, ?_⟩
      simp only [List.any_eq_false, Bool.and_eq_true, decide_eq_true_eq, not_and]
      exact fun s member le => absurd le (above s member)
    · simp [contains, below, tail, Nat.le_of_not_lt below]

end Ranges

end CodeInventory.Text
