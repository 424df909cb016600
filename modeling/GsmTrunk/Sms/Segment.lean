import GsmTrunk.Sms.Alphabet
import GsmTrunk.Text.Utf8

/-!
# Parts of a long message

A body within the single limit of its alphabet is one part. A longer body is cut into parts within
a smaller limit, which leaves room for the header that joins them: each part takes characters for
as long as they fit. Sizes are counted in UTF-8 octets, which for safe text is the number of
septets.
-/

namespace GsmTrunk
open Text

namespace Alphabet

def singleLimit : Alphabet → Nat
  | .gsm7 => 160
  | .ucs2 => 140

def partLimit : Alphabet → Nat
  | .gsm7 => 153
  | .ucs2 => 134

end Alphabet

structure SmsPart where
  /-- Counted from 1. -/
  index : UInt16
  total : UInt16
  text : String
  deriving DecidableEq

namespace Segment

/-- Cuts a text after `piece`, which was collected so far and holds `size` octets. -/
def cut (limit : Nat) (piece : List Char) (size : Nat) : List Char → List (List Char)
  | [] => if piece.isEmpty then [] else [piece]
  | c :: rest =>
    if size + c.utf8Size > limit then piece :: cut limit [c] c.utf8Size rest
    else cut limit (piece ++ [c]) (size + c.utf8Size) rest

def pieces (alphabet : Alphabet) (body : List Char) : List (List Char) :=
  if Utf8.length body ≤ alphabet.singleLimit then [body]
  else cut alphabet.partLimit [] 0 body

def number (pieces : List (List Char)) : List SmsPart :=
  pieces.mapIdx fun i piece =>
    ⟨UInt16.ofNat i + 1, UInt16.ofNat pieces.length, String.ofList piece⟩

end Segment

def segment (body : String) : Alphabet × List SmsPart :=
  let cs := body.toList
  let alphabet := Alphabet.ofText cs
  (alphabet, Segment.number (Segment.pieces alphabet cs))

namespace Segment

theorem flatten_cut (limit : Nat) (piece : List Char) (size : Nat) (cs : List Char) :
    (cut limit piece size cs).flatten = piece ++ cs := by
  induction cs generalizing piece size with
  | nil =>
    simp only [cut]
    split
    · simp_all
    · simp
  | cons c rest ih =>
    simp only [cut]
    split
    · simp [ih]
    · simp [ih]

theorem flatten_pieces (alphabet : Alphabet) (body : List Char) :
    (pieces alphabet body).flatten = body := by
  simp only [pieces]
  split
  · simp
  · simp [flatten_cut]

end Segment

end GsmTrunk
