import CodeInventory.Text.Utf8

namespace CodeInventory.Text

theorem toList_loop_from (source : ByteArray) (start : Nat) (taken : List UInt8) :
    ByteArray.toList.loop source start taken =
      taken.reverse ++ source.data.toList.drop start := by
  fun_induction ByteArray.toList.loop source start taken with
  | case1 start taken inside ih =>
    have next : source.get! start = source.data[start] := getElem!_pos source.data start inside
    have split := List.drop_eq_getElem_cons (l := source.data.toList) inside
    rw [ih, split, next, List.reverse_cons, List.append_assoc]
    rfl
  | case2 start taken outside =>
    have finished : source.data.toList.drop start = [] :=
      List.drop_eq_nil_of_le (Nat.le_of_not_lt outside)
    rw [finished, List.append_nil]

theorem toList_eq_data (source : ByteArray) : source.toList = source.data.toList :=
  toList_loop_from source 0 []

theorem decode?_eq_some_iff {bytes : Bytes} {text : String} :
    decode? bytes = some text ↔ bytes = encode text := by
  unfold decode? encode String.fromUTF8?
  rw [toList_eq_data]
  constructor
  · intro decoded
    split at decoded
    · cases decoded
      simp [String.fromUTF8]
    · cases decoded
  · intro same
    subst same
    simp [String.fromUTF8, text.isValidUTF8]

theorem decode?_encode (text : String) : decode? (encode text) = some text :=
  decode?_eq_some_iff.2 rfl

theorem encode_inj {text other : String} : encode text = encode other ↔ text = other := by
  rw [← decode?_eq_some_iff, decode?_encode, Option.some.injEq]

theorem decode?_eq_none_iff {bytes : Bytes} :
    decode? bytes = none ↔ ∀ text, bytes ≠ encode text := by
  rw [Option.eq_none_iff_forall_ne_some]
  simp only [ne_eq, decode?_eq_some_iff]

end CodeInventory.Text
