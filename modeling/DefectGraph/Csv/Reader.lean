/-!
# Reading comma-separated records

`Csv.records` cuts bytes into records of fields.

## Design Notes

A field that starts with a quote runs to the next single quote; a doubled quote stands for one, and what
follows the closing quote belongs to the field as it is. A record ends at a line feed, at a carriage
return, or at both together; empty lines are passed over. The end of the bytes ends a record as well.
Where a record starts is where the record before it ends: after its line feed or its carriage return.
-/

namespace DefectGraph.Csv

/-- Where the reader stands: the number of records, lines and bytes read, lines counted from one. -/
structure Position where
  record : Nat
  line : Nat
  byte : Nat
  deriving DecidableEq, Repr

/-- A record as it is written, and where the reader stood before it. -/
structure RawRecord where
  fields : List (List UInt8)
  position : Position
  deriving DecidableEq, Repr

/-- What the reader is reading. -/
inductive State where
  /-- The start of a record or an empty line. -/
  | startRecord
  /-- What follows a carriage return that ended a record. -/
  | afterReturn
  | startField
  | inField
  | inQuotes
  /-- A quote inside a quoted field, which may be its end. -/
  | afterQuote
  deriving DecidableEq, Repr

/-- The byte of a comma. -/
def comma : UInt8 := 44

/-- The byte of a quote. -/
def quoteMark : UInt8 := 34

/-- The byte of a line feed. -/
def lineFeed : UInt8 := 10

/-- The byte of a carriage return. -/
def carriageReturn : UInt8 := 13

/-- The byte ends a record. -/
def endsRecord (b : UInt8) : Bool := b == lineFeed || b == carriageReturn

/-- Passes over a byte. -/
def Position.advance (p : Position) (b : UInt8) : Position :=
  { p with line := if b == lineFeed then p.line + 1 else p.line, byte := p.byte + 1 }

/-- A record under way: where it started, its fields so far, and the bytes of its current field, both
in reverse. -/
structure Draft where
  start : Position
  fields : List (List UInt8)
  field : List UInt8

/-- A record that starts at a place. -/
def Draft.startingAt (p : Position) : Draft := ⟨p, [], []⟩

/-- Adds a byte to the current field. -/
def Draft.push (d : Draft) (b : UInt8) : Draft := { d with field := b :: d.field }

/-- Ends the current field. -/
def Draft.endField (d : Draft) : Draft := { d with fields := d.field.reverse :: d.fields, field := [] }

/-- The record, after its last field has ended. -/
def Draft.finish (d : Draft) : RawRecord := ⟨d.endField.fields.reverse, d.start⟩

/-- What a byte outside quotes does to a record. -/
inductive Effect where
  /-- The record goes on in a state. -/
  | goOn (state : State) (draft : Draft)
  /-- The record ends. -/
  | ends (state : State)

/-- The effect of a byte in a state. At the start of a record a line end is passed over; otherwise the
byte starts a field. -/
def effect (state : State) (d : Draft) (b : UInt8) : Effect :=
  let plain : Effect :=
    if b == comma then .goOn .startField d.endField
    else if b == lineFeed then .ends .startRecord
    else if b == carriageReturn then .ends .afterReturn
    else .goOn .inField (d.push b)
  let fieldStart : Effect := if b == quoteMark then .goOn .inQuotes d else plain
  match state with
  | .startRecord | .afterReturn => if endsRecord b then .goOn .startRecord d else fieldStart
  | .startField => fieldStart
  | .inField => plain
  | .inQuotes => if b == quoteMark then .goOn .afterQuote d else .goOn .inQuotes (d.push b)
  | .afterQuote => if b == quoteMark then .goOn .inQuotes (d.push b) else plain

/-- The records in the rest of the bytes. -/
def recordsFrom (state : State) (p : Position) (d : Draft) : List UInt8 → List RawRecord
  | [] =>
    match state with
    | .startRecord | .afterReturn => []
    | .startField | .inField | .inQuotes | .afterQuote => [d.finish]
  | b :: rest =>
    match effect state d b with
    | .goOn state d => recordsFrom state (p.advance b) d rest
    | .ends state =>
      let next := { p.advance b with record := p.record + 1 }
      d.finish :: recordsFrom state next (.startingAt next) rest

/-- The records of a byte sequence; a byte order mark in front is passed over. -/
def records (bytes : List UInt8) : List RawRecord :=
  let start : Position := ⟨0, 1, 0⟩
  match bytes with
  | 0xEF :: 0xBB :: 0xBF :: rest =>
    recordsFrom .startRecord { start with byte := 3 } (.startingAt start) rest
  | bytes => recordsFrom .startRecord start (.startingAt start) bytes

end DefectGraph.Csv
