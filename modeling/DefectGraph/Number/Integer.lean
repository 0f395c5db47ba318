/-!
# Reading integers of bounded size

`Integer.parse` reads digits after an optional sign. It goes from left to right and reports the first
fault: a character that is no digit, or a digit that takes the value out of bounds.

## Main Definitions

* `Bounds` - the least and the greatest value of a type of integers.
* `IntegerError` - why a text is no integer within bounds.
* `parse` - reads an integer.

## Design Notes

Values below zero are read downwards, by `shrink`, and others upwards, by `grow`: the least value of a signed
type has no opposite within the bounds, so reading first and negating afterwards would refuse it. Bounds are
checked at every digit, since the fault that is met first is the one that is reported.
-/

namespace DefectGraph.Number

/-- Why a text is not an integer within bounds. -/
inductive IntegerError where
  | empty
  | invalidDigit
  | tooLarge
  | tooSmall
  deriving DecidableEq, Repr

/-- The text that reports the error. -/
def IntegerError.message : IntegerError → String
  | .empty => "cannot parse integer from empty string"
  | .invalidDigit => "invalid digit found in string"
  | .tooLarge => "number too large to fit in target type"
  | .tooSmall => "number too small to fit in target type"

/-- The least and the greatest integer of a kind; only a kind with negative integers has a minus sign. -/
structure Bounds where
  least : Int
  greatest : Int

/-- Signed integers of 64 bits. -/
def Bounds.signed64 : Bounds := ⟨-9223372036854775808, 9223372036854775807⟩

/-- Unsigned integers of 64 bits. -/
def Bounds.unsigned64 : Bounds := ⟨0, 18446744073709551615⟩

/-- The value of a digit in a base of at most sixteen. -/
def digit? (base : Nat) (c : Char) : Option Nat :=
  let value? :=
    if c.isDigit then some (c.toNat - '0'.toNat)
    else if 'a' ≤ c ∧ c ≤ 'f' then some (c.toNat - 'a'.toNat + 10)
    else if 'A' ≤ c ∧ c ≤ 'F' then some (c.toNat - 'A'.toNat + 10)
    else none
  value?.filter fun v => v < base

namespace Integer

/-- Appends digits to a value that is not negative. -/
def grow (base : Nat) (greatest : Int) (value : Int) : List Char → Except IntegerError Int
  | [] => .ok value
  | c :: rest =>
    match digit? base c with
    | none => .error .invalidDigit
    | some d =>
      let next := value * base + d
      if next ≤ greatest then grow base greatest next rest else .error .tooLarge

/-- Appends digits to a value that is not positive. -/
def shrink (base : Nat) (least : Int) (value : Int) : List Char → Except IntegerError Int
  | [] => .ok value
  | c :: rest =>
    match digit? base c with
    | none => .error .invalidDigit
    | some d =>
      let next := value * base - d
      if least ≤ next then shrink base least next rest else .error .tooSmall

/-- Reads an integer in a base. A plus sign is always allowed, a minus sign only where integers can be
negative; a sign alone is no integer. -/
def parse (base : Nat) (bounds : Bounds) (text : List Char) : Except IntegerError Int :=
  match text with
  | [] => .error .empty
  | ['+'] | ['-'] => .error .invalidDigit
  | '+' :: digits => grow base bounds.greatest 0 digits
  | '-' :: digits =>
    if bounds.least < 0 then shrink base bounds.least 0 digits else .error .invalidDigit
  | digits => grow base bounds.greatest 0 digits

end Integer

end DefectGraph.Number
