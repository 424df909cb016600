/-!
# Packed septets

Septets are packed into octets without gaps. As a stream of bits, the least significant bit of
each octet first, the septet `i` is the bits from `7 * i` to `7 * i + 6`.

`unpack? data count` takes the first `count` septets, and is `none` when the octets do not hold
that many. `pack` writes septets, with zero bits up to the end of the last octet.
-/

namespace GsmTrunk.Septets

def septetAt? (data : List UInt8) (i : Nat) : Option UInt8 :=
  let bit := 7 * i
  let shift := bit % 8
  data[bit / 8]?.bind fun low =>
    if shift ≤ 1 then some (UInt8.ofNat (low.toNat / Nat.pow 2 shift % 128))
    else data[bit / 8 + 1]?.map fun high =>
      UInt8.ofNat ((low.toNat / Nat.pow 2 shift + high.toNat * Nat.pow 2 (8 - shift)) % 128)

def unpackFrom? (data : List UInt8) (i : Nat) : Nat → Option (List UInt8)
  | 0 => some []
  | n + 1 => (septetAt? data i).bind fun s => (unpackFrom? data (i + 1) n).map (s :: ·)

def unpack? (data : List UInt8) (count : Nat) : Option (List UInt8) :=
  unpackFrom? data 0 count

/-- The low `width` bits of an octet, the least significant first. -/
def bits (width : Nat) (b : UInt8) : List Bool :=
  (List.range width).map fun k => b.toNat.testBit k

def ofBits (bs : List Bool) : UInt8 :=
  UInt8.ofNat (bs.foldr (fun b acc => b.toNat + 2 * acc) 0)

def packBits : Nat → List Bool → List UInt8
  | 0, _ => []
  | n + 1, bs => ofBits (bs.take 8) :: packBits n (bs.drop 8)

/-- Octets of the stream of `fill` zero bits and the septets. -/
def packAfter (fill : Nat) (septets : List UInt8) : List UInt8 :=
  packBits ((fill + 7 * septets.length + 7) / 8)
    (List.replicate fill false ++ septets.flatMap (bits 7))

def pack (septets : List UInt8) : List UInt8 :=
  packAfter 0 septets

end GsmTrunk.Septets
