import DefectGraph.Toml.Value

/-!
# Numbers, booleans and dates

A scalar without quotes is a run of letters, digits and a few signs; its form tells its kind.

## Main Definitions

* `integer?`, `float?` - numbers.
* `moment?` - dates and times, alone and together.
* `scalar?` - any scalar.

## Design Notes

A number is read into its value, and a date or time is checked and kept as text. Its text has one layout: a
capital `T` between date and time, a capital `Z`, and no trailing zeros in a fraction of a second.
-/

namespace DefectGraph.Toml

open DefectGraph.Number

/-! ### Numbers -/

/-- Digits of a base in which single underscores stand between digits; `none` for another form. The
underscores are dropped. -/
def plainDigits? (base : Nat) : List Char → Option (List Char)
  | [] => none
  | [c] => if (digit? base c).isSome then some [c] else none
  | c :: '_' :: rest =>
    if (digit? base c).isSome then (plainDigits? base rest).map (c :: ·) else none
  | c :: rest => if (digit? base c).isSome then (plainDigits? base rest).map (c :: ·) else none

/-- Digits without a leading zero, unless they are a single zero. -/
def wholeDigits? (text : List Char) : Option (List Char) :=
  match plainDigits? 10 text with
  | some ('0' :: _ :: _) => none
  | digits => digits

/-- Splits a sign off the front. -/
def splitSign : List Char → List Char × List Char
  | '+' :: rest => ([], rest)
  | '-' :: rest => (['-'], rest)
  | rest => ([], rest)

/-- An integer of 64 bits in a base. -/
def integerIn? (base : Nat) (text : List Char) : Option Value :=
  match Integer.parse base .signed64 text with
  | .ok value => some (.integer value)
  | .error _ => none

/-- An integer: decimal with a sign, or with the mark of another base. -/
def integer? (text : List Char) : Option Value :=
  match text with
  | '0' :: 'x' :: rest => (plainDigits? 16 rest).bind (integerIn? 16)
  | '0' :: 'o' :: rest => (plainDigits? 8 rest).bind (integerIn? 8)
  | '0' :: 'b' :: rest => (plainDigits? 2 rest).bind (integerIn? 2)
  | _ =>
    let (sign, rest) := splitSign text
    (wholeDigits? rest).bind fun digits => integerIn? 10 (sign ++ digits)

/-- The exponent of a float, with its mark. -/
def exponent? (text : List Char) : Option (List Char) :=
  match text with
  | [] => some []
  | c :: rest =>
    if c == 'e' || c == 'E' then
      let (sign, digits) := splitSign rest
      (plainDigits? 10 digits).map fun digits => 'e' :: sign ++ digits
    else none

/-- The fraction and the exponent of a float, at least one of them. -/
def fraction? (text : List Char) : Option (List Char) :=
  match text with
  | '.' :: rest =>
    let (digits, rest) := rest.span fun c => c.isDigit || c == '_'
    (plainDigits? 10 digits).bind fun digits =>
      (exponent? rest).map fun exponent => '.' :: digits ++ exponent
  | _ :: _ => exponent? text
  | [] => none

/-- A float: an infinity, `nan`, or a decimal with a fraction or an exponent. A decimal beyond the
greatest number is none. -/
def float? (text : List Char) : Option Value :=
  let (sign, rest) := splitSign text
  if rest == "inf".toList then some (.float (.infinite (sign == ['-'])))
  else if rest == "nan".toList then some (.float .nan)
  else
    let (whole, rest) := rest.span fun c => c.isDigit || c == '_'
    match wholeDigits? whole, fraction? rest with
    | some whole, some rest =>
      match Binary64.parse? (sign ++ whole ++ rest) with
      | some (.infinite _) | none => none
      | some number => some (.float number)
    | _, _ => none

/-! ### Dates and times -/

/-- The value of exactly `count` digits at the front, and the rest. -/
def fixedDigits? (count : Nat) (text : List Char) : Option (Nat × List Char) :=
  let digits := text.take count
  if digits.length == count && digits.all Char.isDigit then
    some (digits.foldl (fun v d => 10 * v + (d.toNat - '0'.toNat)) 0, text.drop count)
  else none

/-- Takes a character off the front. -/
def afterChar? (c : Char) : List Char → Option (List Char)
  | d :: rest => if c == d then some rest else none
  | [] => none

/-- The number of days of a month. -/
def daysOf (year month : Nat) : Nat :=
  let leap := year % 4 == 0 && (year % 100 != 0 || year % 400 == 0)
  if month == 2 then (if leap then 29 else 28)
  else if [4, 6, 9, 11].contains month then 30
  else 31

/-- A date at the front, and the rest. -/
def date? (text : List Char) : Option (List Char × List Char) := do
  let (year, rest) ← fixedDigits? 4 text
  let rest ← afterChar? '-' rest
  let (month, rest) ← fixedDigits? 2 rest
  let rest ← afterChar? '-' rest
  let (day, rest) ← fixedDigits? 2 rest
  if 1 ≤ month && month ≤ 12 && 1 ≤ day && day ≤ daysOf year month then
    return (text.take 10, rest)
  else none

/-- A text without the given character at its end. -/
def dropTrailing (c : Char) (text : List Char) : List Char :=
  (text.reverse.dropWhile fun d => d == c).reverse

/-- The fraction of a second at the front, at most nine digits without trailing zeros, and the rest. -/
def secondFraction? (text : List Char) : Option (List Char × List Char) :=
  match text with
  | '.' :: rest =>
    let (digits, rest) := rest.span Char.isDigit
    if digits.isEmpty then none
    else
      let kept := dropTrailing '0' (digits.take 9)
      some (if kept.isEmpty then [] else '.' :: kept, rest)
  | _ => some ([], text)

/-- The seconds of a time at the front, if they are given, and the rest. -/
def seconds? (text : List Char) : Option (List Char × List Char) :=
  match text with
  | ':' :: rest => do
    let (second, after) ← fixedDigits? 2 rest
    let (fraction, after) ← secondFraction? after
    if second ≤ 60 then return (':' :: rest.take 2 ++ fraction, after) else none
  | _ => some ([], text)

/-- A time at the front, and the rest. -/
def time? (text : List Char) : Option (List Char × List Char) := do
  let (hour, rest) ← fixedDigits? 2 text
  let rest ← afterChar? ':' rest
  let (minute, rest) ← fixedDigits? 2 rest
  let (seconds, rest) ← seconds? rest
  if hour ≤ 23 && minute ≤ 59 then return (text.take 5 ++ seconds, rest) else none

/-- A distance from universal time, which is all of the text. -/
def zone? (text : List Char) : Option (List Char) :=
  match text with
  | [] => some []
  | ['Z'] | ['z'] => some ['Z']
  | sign :: rest => do
    let (hour, after) ← fixedDigits? 2 rest
    let after ← afterChar? ':' after
    let (minute, after) ← fixedDigits? 2 after
    if (sign == '+' || sign == '-') && hour ≤ 23 && minute ≤ 59 && after.isEmpty then return text
    else none

/-- A date, a time, or both with a distance from universal time; a capital `T` stands between date and
time. -/
def moment? (text : List Char) : Option Value :=
  match date? text with
  | some (date, []) => some (.date (String.ofList date))
  | some (date, c :: rest) =>
    if c == 'T' || c == 't' || c == ' ' then do
      let (time, rest) ← time? rest
      let zone ← zone? rest
      return .date (String.ofList (date ++ 'T' :: time ++ zone))
    else none
  | none =>
    match time? text with
    | some (time, []) => some (.date (String.ofList time))
    | _ => none

/-! ### Scalars -/

/-- The character can stand in a scalar without quotes. -/
def isScalarChar (c : Char) : Bool :=
  c.isAlphanum || c == '_' || c == '+' || c == '-' || c == '.' || c == ':'

/-- The value that a scalar without quotes stands for. -/
def scalar? (text : List Char) : Option Value :=
  if text == "true".toList then some (.bool true)
  else if text == "false".toList then some (.bool false)
  else ((integer? text).or (float? text)).or (moment? text)

/-- Splits a scalar off the front. A date may go on after one blank with a time. -/
def splitScalar (text : List Char) : List Char × List Char :=
  let (run, rest) := text.span isScalarChar
  match date? run, rest with
  | some (_, []), ' ' :: c :: more =>
    if c.isDigit then
      let (time, after) := (c :: more).span isScalarChar
      (run ++ ' ' :: time, after)
    else (run, rest)
  | _, _ => (run, rest)

end DefectGraph.Toml
