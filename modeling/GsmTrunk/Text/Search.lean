/-!
# Places of a word in a text

`cutFirst?` and `cutLast?` cut a text at the first and at the last occurrence of a word, which
itself is left out.
-/

namespace GsmTrunk.Text

def cutFirst? (word : List Char) : List Char → Option (List Char × List Char)
  | [] => if word.isEmpty then some ([], []) else none
  | c :: rest =>
    if word.isPrefixOf (c :: rest) then some ([], (c :: rest).drop word.length)
    else (cutFirst? word rest).map fun (before, after) => (c :: before, after)

def cutLast? (word : List Char) : List Char → Option (List Char × List Char)
  | [] => if word.isEmpty then some ([], []) else none
  | c :: rest =>
    match cutLast? word rest with
    | some (before, after) => some (c :: before, after)
    | none =>
      if word.isPrefixOf (c :: rest) then some ([], (c :: rest).drop word.length) else none

theorem eq_append_of_cutFirst? {word cs before after : List Char}
    (h : cutFirst? word cs = some (before, after)) : cs = before ++ word ++ after := by
  induction cs generalizing before with
  | nil =>
    simp only [cutFirst?] at h
    split at h <;> simp_all
  | cons c rest ih =>
    simp only [cutFirst?] at h
    split at h
    next hp =>
      obtain ⟨tail, ht⟩ := List.isPrefixOf_iff_prefix.1 hp
      simp only [Option.some.injEq, Prod.mk.injEq] at h
      rw [← h.1, ← h.2, ← ht]
      simp
    next =>
      obtain ⟨p, hp, hpe⟩ := Option.map_eq_some_iff.1 h
      simp only [Prod.mk.injEq] at hpe
      have hrest : rest = p.1 ++ word ++ after := ih (by rw [hp, ← hpe.2])
      rw [hrest, ← hpe.1]
      simp

end GsmTrunk.Text
