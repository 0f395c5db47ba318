import DefectGraph.Number.Integer

/-!
# Binary floating-point numbers of 64 bits

Numbers of the form `m * 2 ^ e` with a mantissa below `2 ^ 53`, in exact integer arithmetic.

## Main Definitions

* `Binary64` - a number, an infinity, or no number.
* `Binary64.ofDecimal` - the number nearest to a decimal, ties to an even mantissa.
* `Binary64.text` - the fewest decimal digits that read back, without an exponent.
* `Binary64.toUnsigned` - the nearest natural number of 64 bits, ties away from zero.
-/

namespace DefectGraph.Number

/-- A binary floating-point number of 64 bits. -/
inductive Binary64 where
  | nan
  | infinite (negative : Bool)
  /-- The number `mantissa * 2 ^ exponent`, or its negative. -/
  | finite (negative : Bool) (mantissa : Nat) (exponent : Int)
  deriving DecidableEq, Repr

namespace Binary64

/-- The least exponent. -/
def leastExponent : Int := -1074

/-- The greatest exponent. -/
def greatestExponent : Int := 971

/-- The count of mantissas. -/
def mantissaLimit : Nat := 9007199254740992

/-- A power of two as numerator and denominator. -/
def powerOfTwo (e : Int) : Nat × Nat := (Nat.pow 2 e.toNat, Nat.pow 2 (-e).toNat)

/-- A power of ten as numerator and denominator. -/
def powerOfTen (e : Int) : Nat × Nat := (Nat.pow 10 e.toNat, Nat.pow 10 (-e).toNat)

/-! ### From decimals -/

/-- The quotient rounded to the nearest natural number, a tie to the even one. -/
def roundEven (numerator denominator : Nat) : Nat :=
  let quotient := numerator / denominator
  let twice := 2 * (numerator % denominator)
  if twice < denominator then quotient
  else if denominator < twice then quotient + 1
  else quotient + quotient % 2

/-- The quotient in units of a power of two, rounded. -/
def scaled (numerator denominator : Nat) (e : Int) : Nat :=
  let (up, down) := powerOfTwo e
  roundEven (numerator * down) (denominator * up)

/-- The quotient is below a power of two. -/
def isBelow (numerator denominator : Nat) (e : Int) : Bool :=
  let (up, down) := powerOfTwo e
  numerator * down < denominator * up

/-- The exponent at which a quotient has a mantissa of 53 bits, or the least exponent. -/
def exponentOf (numerator denominator : Nat) : Int :=
  let guess : Int := (numerator.log2 : Int) - denominator.log2 - 53
  let e := if isBelow numerator denominator (guess + 53) then guess else guess + 1
  max e leastExponent

/-- The number nearest to a positive quotient; beyond the greatest number it is infinite. -/
def ofQuotient (negative : Bool) (numerator denominator : Nat) : Binary64 :=
  let e := exponentOf numerator denominator
  let m := scaled numerator denominator e
  let (m, e) := if m = mantissaLimit then (m / 2, e + 1) else (m, e)
  if greatestExponent < e then .infinite negative else .finite negative m e

/-- A count of digits beyond which a decimal is too large or too small for a finite number. -/
def digitLimit : Int := 400

/-- The number nearest to `digits * 10 ^ exponent`, a tie to an even mantissa. -/
def ofDecimal (negative : Bool) (digits : Nat) (exponent : Int) : Binary64 :=
  if digits = 0 then .finite negative 0 leastExponent
  else
    let size : Int := (Nat.toDigits 10 digits).length + exponent
    if digitLimit < size then .infinite negative
    else if size < -digitLimit then .finite negative 0 leastExponent
    else
      let (up, down) := powerOfTen exponent
      ofQuotient negative (digits * up) down

/-! ### To text -/

/-- The numbers that round to a positive number, in units of a quarter of its last place: its lower
bound, itself, and its upper bound. -/
def neighbourhood (m : Nat) (e : Int) : Nat × Nat × Nat :=
  let low := if m = mantissaLimit / 2 ∧ leastExponent < e then 4 * m - 1 else 4 * m - 2
  (low, 4 * m, 4 * m + 2)

/-- Compares `a * 2 ^ e` with `b * 10 ^ p`. -/
def compareScaled (a : Nat) (e : Int) (b : Nat) (p : Int) : Ordering :=
  let (up2, down2) := powerOfTwo e
  let (up10, down10) := powerOfTen p
  compare (a * up2 * down10) (b * up10 * down2)

/-- `a * 2 ^ e` in units of `10 ^ p`, rounded down. -/
def floorScaled (a : Nat) (e : Int) (p : Int) : Nat :=
  let (up2, down2) := powerOfTwo e
  let (up10, down10) := powerOfTen p
  a * up2 * down10 / (up10 * down2)

/-- Decimals of this scale that read back as `m * 2 ^ e` are found; the nearest of them. -/
def decimalAt? (m : Nat) (e : Int) (p : Int) : Option Nat :=
  let (low, value, high) := neighbourhood m e
  let unit := e - 2
  let readsBack (d : Nat) : Bool :=
    match compareScaled low unit d p, compareScaled high unit d p with
    | .lt, .gt => true
    | .eq, _ | _, .eq => m % 2 = 0
    | _, _ => false
  let below := floorScaled value unit p
  let above := below + 1
  let aboveIsNearer : Bool := compareScaled (2 * value) unit (below + above) p == .gt
  match readsBack below, readsBack above with
  | true, true => some (if aboveIsNearer then above else below)
  | true, false => some below
  | false, true => some above
  | false, false => none

/-- The decimal size of a positive number: the least `k` for which it is below `10 ^ k`. -/
def decimalSize (m : Nat) (e : Int) : Int :=
  let sizes := (List.range 700).map fun (k : Nat) => (k : Int) - 340
  (sizes.find? fun k => compareScaled m e 1 k == .lt).getD 0

/-- The fewest digits that read back as a positive number, with the exponent of the last of them. -/
def shortest (m : Nat) (e : Int) : Nat × Int :=
  let size := decimalSize m e
  let scales := (List.range 18).map fun (n : Nat) => size - (n : Int)
  (scales.findSome? fun p => (decimalAt? m e p).map fun d => (d, p)).getD (0, 0)

/-- A decimal without an exponent. -/
def positional (digits : Nat) (exponent : Int) : String :=
  let text := toString digits
  if 0 ≤ exponent then text ++ String.ofList (List.replicate exponent.toNat '0')
  else
    let places := (-exponent).toNat
    let padded := List.replicate (places + 1 - text.length) '0' ++ text.toList
    let whole := padded.take (padded.length - places)
    String.ofList whole ++ "." ++ String.ofList (padded.drop (padded.length - places))

/-- The fewest digits that read back, without an exponent. -/
def text : Binary64 → String
  | .nan => "NaN"
  | .infinite negative => if negative then "-inf" else "inf"
  | .finite negative m e =>
    let sign := if negative then "-" else ""
    if m = 0 then sign ++ "0"
    else
      let (digits, exponent) := shortest m e
      sign ++ positional digits exponent

/-! ### Other readings -/

/-- The number is zero. -/
def isZero : Binary64 → Bool
  | .finite _ m _ => m == 0
  | _ => false

/-- The largest natural number of 64 bits. -/
def unsignedLimit : Nat := 18446744073709551615

/-- The nearest natural number of 64 bits, a tie away from zero; no number counts as zero. -/
def toUnsigned : Binary64 → Nat
  | .nan => 0
  | .infinite negative => if negative then 0 else unsignedLimit
  | .finite negative m e =>
    if negative then 0
    else
      let (up, down) := powerOfTwo e
      min ((2 * m * up + down) / (2 * down)) unsignedLimit

/-! ### Reading text -/

/-- A text in lower case, as far as the letters of plain words go. -/
def lower (text : List Char) : List Char := text.map Char.toLower

/-- Digits, a point among or around them, and an exponent; `none` when the text has another form. -/
def ofNumeral? (negative : Bool) (text : List Char) : Option Binary64 :=
  let (whole, rest) := text.span Char.isDigit
  let (fraction, rest) :=
    match rest with
    | '.' :: rest => rest.span Char.isDigit
    | _ => ([], rest)
  if whole.isEmpty && fraction.isEmpty then none
  else
    let exponent? : Option Int :=
      match rest with
      | [] => some 0
      | c :: tail =>
        if c == 'e' || c == 'E' then
          let (negativeExponent, digits) : Bool × List Char :=
            match tail with
            | '+' :: digits => (false, digits)
            | '-' :: digits => (true, digits)
            | digits => (false, digits)
          if digits.isEmpty || !digits.all Char.isDigit then none
          else
            let value : Int := digits.foldl (fun v d => 10 * v + (d.toNat - '0'.toNat)) 0
            some (if negativeExponent then -value else value)
        else none
    exponent?.map fun exponent =>
      let digits := (whole ++ fraction).foldl (fun v d => 10 * v + (d.toNat - '0'.toNat)) 0
      ofDecimal negative digits (exponent - fraction.length)

/-- Reads a number: a sign, then an infinity, `nan`, or a numeral. -/
def parse? (text : List Char) : Option Binary64 :=
  let (negative, rest) : Bool × List Char :=
    match text with
    | '+' :: rest => (false, rest)
    | '-' :: rest => (true, rest)
    | rest => (false, rest)
  let word := lower rest
  if word == "inf".toList || word == "infinity".toList then some (.infinite negative)
  else if word == "nan".toList then some .nan
  else ofNumeral? negative rest

end Binary64

end DefectGraph.Number
