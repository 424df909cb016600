/-!
# Numbers in text

Digits of a base, and the reading of an unsigned number: an optional plus sign and at least one
digit, with a value below a given bound. `overflows` holds of the decimals that no finite double
stands for. `pad` fills a text on the left, `padRight` on the right.
-/

namespace GsmTrunk.Text

/-- Value of a digit of a base up to 16, letters in either case. -/
def digitValue? (base : Nat) (c : Char) : Option Nat :=
  let n := c.toNat
  let v? :=
    if 48 ≤ n && n ≤ 57 then some (n - 48)
    else if 97 ≤ n && n ≤ 102 then some (n - 87)
    else if 65 ≤ n && n ≤ 70 then some (n - 55)
    else none
  v?.bind fun v => if v < base then some v else none

def digitChar (v : Nat) : Char :=
  Char.ofNat (if v < 10 then 48 + v else 87 + v)

/-- Value of a list of digits, the most significant first. -/
def digitsValue? (base : Nat) (cs : List Char) : Option Nat :=
  cs.foldlM (fun acc c => (digitValue? base c).map fun d => acc * base + d) 0

def unsigned? (base bound : Nat) (cs : List Char) : Option Nat :=
  let digits := match cs with
    | '+' :: rest => rest
    | _ => cs
  if digits.isEmpty then none
  else (digitsValue? base digits).bind fun v => if v < bound then some v else none

def digits (base n : Nat) : List Char :=
  (Nat.toDigits base n)

def decimal (n : Nat) : String :=
  String.ofList (digits 10 n)

def decimalInt (i : Int) : String :=
  match i with
  | .ofNat n => decimal n
  | .negSucc n => "-" ++ decimal (n + 1)

/-- Whether `mantissa * 10 ^ exponent` is beyond the middle between the largest finite double and
the next power of two. Few digits with a small exponent need no long arithmetic. -/
def overflows (mantissa : Nat) (exponent : Int) : Bool :=
  let magnitude := ((digits 10 mantissa).length : Int) + exponent
  if mantissa = 0 || magnitude < 308 then false
  else if magnitude > 310 then true
  else
    let bound := Nat.pow 2 1024 - Nat.pow 2 970
    if exponent < 0 then mantissa ≥ bound * Nat.pow 10 exponent.natAbs
    else mantissa * Nat.pow 10 exponent.natAbs ≥ bound

def pad (fill : Char) (width : Nat) (cs : List Char) : List Char :=
  List.replicate (width - cs.length) fill ++ cs

def padRight (width : Nat) (cs : List Char) : List Char :=
  cs ++ List.replicate (width - cs.length) ' '

/-- Lower case hexadecimal with at least `width` digits. -/
def hex (width n : Nat) : String :=
  String.ofList (pad '0' width (digits 16 n))

end GsmTrunk.Text
