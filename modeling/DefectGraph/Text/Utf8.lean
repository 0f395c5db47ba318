/-!
# UTF-8

Reading bytes as characters. A byte sequence is cut into well-formed encodings of one scalar value
and into ill-formed pieces, each the longest start of an encoding that its next byte breaks; every
piece counts at least one byte.

## Main Definitions

* `Utf8.scalars` - the pieces of a byte sequence, `none` for an ill-formed one.
* `Utf8.decode?` - the text, when every piece is well formed.
* `Utf8.decodeLossy` - the text with U+FFFD in the place of each ill-formed piece.
* `Utf8.encode` - the bytes of a text.
* `Utf8.slice?` - the bytes of a part of a text, which has to start and stop between two characters.
-/

namespace DefectGraph.Text.Utf8

/-- A continuation byte between two bounds; the bounds of most positions are `0x80` and `0xBF`. -/
def continues (b lo hi : UInt8) : Bool :=
  lo ≤ b && b ≤ hi

/-- The value of `n` with the six payload bits of a continuation byte appended. -/
def extend (n : Nat) (b : UInt8) : Nat :=
  n * 64 + b.toNat % 64

/-- The rest of a two-byte encoding. -/
def pair (n : Nat) : List UInt8 → Option Char × Nat
  | b :: _ => if continues b 0x80 0xBF then (some (Char.ofNat (extend n b)), 1) else (none, 0)
  | [] => (none, 0)

/-- The rest of a three-byte encoding whose second byte lies between `lo` and `hi`. -/
def triple (n : Nat) (lo hi : UInt8) : List UInt8 → Option Char × Nat
  | b :: rest =>
    if continues b lo hi then
      match pair (extend n b) rest with
      | (some c, k) => (some c, k + 1)
      | (none, k) => (none, k + 1)
    else (none, 0)
  | [] => (none, 0)

/-- The rest of a four-byte encoding whose second byte lies between `lo` and `hi`. -/
def quadruple (n : Nat) (lo hi : UInt8) : List UInt8 → Option Char × Nat
  | b :: rest =>
    if continues b lo hi then
      match triple (extend n b) 0x80 0xBF rest with
      | (some c, k) => (some c, k + 1)
      | (none, k) => (none, k + 1)
    else (none, 0)
  | [] => (none, 0)

/-- The piece that starts with the byte `b`: its character, if it has one, and the number of bytes
of `rest` that belong to it. -/
def piece (b : UInt8) (rest : List UInt8) : Option Char × Nat :=
  if b < 0x80 then (some (Char.ofNat b.toNat), 0)
  else if b < 0xC2 then (none, 0)
  else if b < 0xE0 then pair (b.toNat % 32) rest
  else if b == 0xE0 then triple 0 0xA0 0xBF rest
  else if b == 0xED then triple 13 0x80 0x9F rest
  else if b < 0xF0 then triple (b.toNat % 16) 0x80 0xBF rest
  else if b == 0xF0 then quadruple 0 0x90 0xBF rest
  else if b < 0xF4 then quadruple (b.toNat % 8) 0x80 0xBF rest
  else if b == 0xF4 then quadruple 4 0x80 0x8F rest
  else (none, 0)

/-- The pieces of a byte sequence in order. -/
def scalars : List UInt8 → List (Option Char)
  | [] => []
  | b :: rest => (piece b rest).1 :: scalars (rest.drop (piece b rest).2)
termination_by bytes => bytes.length
decreasing_by
  rw [List.length_drop, List.length_cons]
  omega

/-- The text that the bytes encode, if they are well formed throughout. -/
def decode? (bytes : List UInt8) : Option String :=
  ((scalars bytes).mapM id).map String.ofList

/-- The text that the bytes encode, an ill-formed piece read as U+FFFD. -/
def decodeLossy (bytes : List UInt8) : String :=
  String.ofList ((scalars bytes).map fun c => c.getD (Char.ofNat 0xFFFD))

/-- The bytes of a text. -/
def encode (s : String) : List UInt8 :=
  s.toUTF8.toList

/-- A byte that can only follow others in the encoding of a character. -/
def isContinuation (b : UInt8) : Bool :=
  continues b 0x80 0xBF

/-- The offset lies in the encoded text, between two characters or at one of its ends. -/
def isBoundary (bytes : List UInt8) (offset : Nat) : Bool :=
  match bytes[offset]? with
  | some b => !isContinuation b
  | none => offset == bytes.length

/-- The bytes of an encoded text from one offset up to another, if no character is cut. -/
def slice? (bytes : List UInt8) (start stop : Nat) : Option (List UInt8) :=
  if start ≤ stop ∧ isBoundary bytes start ∧ isBoundary bytes stop then
    some ((bytes.drop start).take (stop - start))
  else none

end DefectGraph.Text.Utf8
