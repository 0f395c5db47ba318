import DefectGraph.Number.Integer

/-!
# Quoted text

The four styles of quoted text: with escapes or literal, on one line or on several.

## Main Definitions

* `basicLine?`, `literalLine?`, `basicBlock?`, `literalBlock?` - read the rest of a text after its opening
  quotes, and give what follows its closing quotes.
* `quoted?` - reads quoted text of any style.
* `quote` - writes text in the first style that fits it.

## Design Notes

A reader takes a second list that bounds its rounds, and every round takes a character of the text. The
writer goes through the styles, those of one line first, and takes the first one that needs no escapes; where
none is without, it escapes what it has to.
-/

namespace DefectGraph.Toml

open DefectGraph.Number (digit?)

/-- What a reader takes off the front of a text, and the rest. -/
abbrev Taken (α : Type) : Type := Option (α × List Char)

/-! ### Reading -/

/-- A control character, which quoted text cannot hold as it is; tabs and line breaks are none. -/
def isControl (c : Char) : Bool :=
  (c.toNat < 0x20 && c != '\t' && c != '\n') || c.toNat == 0x7f

/-- The character of a number in base sixteen; surrogates are no characters. -/
def scalarValue? (digits : List Char) : Option Char :=
  if digits.all fun c => (digit? 16 c).isSome then
    let value := digits.foldl (fun v c => 16 * v + (digit? 16 c).getD 0) 0
    if h : value.isValidChar then some (Char.ofNatAux value h) else none
  else none

/-- A character given by a number of digits in base sixteen. -/
def hexEscape? (count : Nat) (text : List Char) : Taken Char :=
  if (text.take count).length == count then
    (scalarValue? (text.take count)).map fun c => (c, text.drop count)
  else none

/-- The character that an escape after a backslash stands for. -/
def escape? (text : List Char) : Taken Char :=
  match text with
  | 'b' :: rest => some ('\x08', rest)
  | 't' :: rest => some ('\t', rest)
  | 'n' :: rest => some ('\n', rest)
  | 'f' :: rest => some ('\x0c', rest)
  | 'r' :: rest => some ('\r', rest)
  | 'e' :: rest => some ('\x1b', rest)
  | '"' :: rest => some ('"', rest)
  | '\\' :: rest => some ('\\', rest)
  | 'x' :: rest => hexEscape? 2 rest
  | 'u' :: rest => hexEscape? 4 rest
  | 'U' :: rest => hexEscape? 8 rest
  | _ => none

/-- Puts a character in front of what has been taken. -/
def Taken.cons (c : Char) : Taken (List Char) → Taken (List Char)
  | some (text, rest) => some (c :: text, rest)
  | none => none

/-- Text with escapes on one line. Every round takes a character, so the text bounds their number. -/
def basicLine? (rounds text : List Char) : Taken (List Char) :=
  match rounds with
  | [] => none
  | _ :: rounds =>
    match text with
    | '"' :: rest => some ([], rest)
    | '\\' :: rest =>
      match escape? rest with
      | some (c, rest) => Taken.cons c (basicLine? rounds rest)
      | none => none
    | c :: rest => if isControl c || c == '\n' then none else Taken.cons c (basicLine? rounds rest)
    | [] => none

/-- Literal text on one line. -/
def literalLine? : List Char → Taken (List Char)
  | '\'' :: rest => some ([], rest)
  | c :: rest => if isControl c || c == '\n' then none else Taken.cons c (literalLine? rest)
  | [] => none

/-- Passes over blanks and line breaks. -/
def dropGaps : List Char → List Char
  | '\r' :: '\n' :: rest => dropGaps rest
  | c :: rest => if c == ' ' || c == '\t' || c == '\n' then dropGaps rest else c :: rest
  | [] => []

/-- What follows a backslash at the end of a line: the next character that is no blank or line break. -/
def afterLineEnd? (text : List Char) : Option (List Char) :=
  match text.dropWhile fun c => c == ' ' || c == '\t' with
  | '\n' :: rest => some (dropGaps rest)
  | '\r' :: '\n' :: rest => some (dropGaps rest)
  | _ => none

/-- The closing quotes of a block of lines, with up to two quotes that belong to the text in front. -/
def closing? (mark : Char) (text : List Char) : Taken (List Char) :=
  let quotes := text.takeWhile fun c => c == mark
  let extra := quotes.length - 3
  if 3 ≤ quotes.length && extra ≤ 2 then some (List.replicate extra mark, text.drop quotes.length)
  else none

/-- Text with escapes on several lines. A backslash at the end of a line joins it to the next text. -/
def basicBlock? (rounds text : List Char) : Taken (List Char) :=
  match rounds with
  | [] => none
  | _ :: rounds =>
    match text with
    | '"' :: rest =>
      if rest.take 2 == ['"', '"'] then closing? '"' text
      else Taken.cons '"' (basicBlock? rounds rest)
    | '\\' :: rest =>
      match escape? rest with
      | some (c, rest) => Taken.cons c (basicBlock? rounds rest)
      | none =>
        match afterLineEnd? rest with
        | some rest => basicBlock? rounds rest
        | none => none
    | '\r' :: '\n' :: rest => Taken.cons '\r' (Taken.cons '\n' (basicBlock? rounds rest))
    | c :: rest => if isControl c then none else Taken.cons c (basicBlock? rounds rest)
    | [] => none

/-- Literal text on several lines. -/
def literalBlock? : List Char → Taken (List Char)
  | '\'' :: rest =>
    if rest.take 2 == ['\'', '\''] then closing? '\'' ('\'' :: rest)
    else Taken.cons '\'' (literalBlock? rest)
  | '\r' :: '\n' :: rest => Taken.cons '\r' (Taken.cons '\n' (literalBlock? rest))
  | c :: rest => if isControl c then none else Taken.cons c (literalBlock? rest)
  | [] => none

/-- Drops the line break right after the opening quotes of a block. -/
def dropFirstBreak : List Char → List Char
  | '\n' :: rest => rest
  | '\r' :: '\n' :: rest => rest
  | text => text

/-- Quoted text on one line. -/
def quotedLine? (text : List Char) : Taken (List Char) :=
  match text with
  | '"' :: rest => basicLine? text rest
  | '\'' :: rest => literalLine? rest
  | _ => none

/-- Quoted text of any style. -/
def quoted? (text : List Char) : Taken (List Char) :=
  match text with
  | '"' :: '"' :: '"' :: rest => basicBlock? text (dropFirstBreak rest)
  | '\'' :: '\'' :: '\'' :: rest => literalBlock? (dropFirstBreak rest)
  | _ => quotedLine? text

/-! ### Writing -/

/-- The styles of quoted text. -/
inductive QuoteStyle where
  | basicLine
  | literalLine
  | basicBlock
  | literalBlock
  deriving DecidableEq, Repr

/-- The longest run of a character. -/
def longestRun (mark : Char) (text : List Char) : Nat :=
  (text.foldl
    (fun (longest, current) c =>
      let current := if c == mark then current + 1 else 0
      (max longest current, current))
    (0, 0)).1

/-- The first style that fits the text. -/
def quoteStyle (text : List Char) : QuoteStyle :=
  let hasControl := text.any isControl
  let hasBreak := text.contains '\n'
  let hasBackslash := text.contains '\\'
  if !hasControl && !hasBackslash && !text.contains '"' && !hasBreak then .basicLine
  else if !hasControl && !text.contains '\'' && !hasBreak then .literalLine
  else if !hasControl && !hasBackslash && longestRun '"' text ≤ 2 then .basicBlock
  else if !hasControl && longestRun '\'' text ≤ 2 then .literalBlock
  else if hasBreak then .basicBlock
  else .basicLine

/-- A digit of base sixteen, in upper case. -/
def hexDigit (n : Nat) : Char :=
  if n < 10 then Char.ofNat ('0'.toNat + n) else Char.ofNat ('A'.toNat + n - 10)

/-- The escape of a character that is not written as it is; `none` for all others. -/
def escapeOf? (c : Char) : Option (List Char) :=
  if c == '\x08' then some ['\\', 'b']
  else if c == '\t' then some ['\\', 't']
  else if c == '\x0c' then some ['\\', 'f']
  else if c == '\r' then some ['\\', 'r']
  else if c == '\\' then some ['\\', '\\']
  else if isControl c then
    some ['\\', 'u', '0', '0', hexDigit (c.toNat / 16), hexDigit (c.toNat % 16)]
  else none

/-- Text with escapes on one line. -/
def escapeLine (text : List Char) : List Char :=
  text.flatMap fun c =>
    if c == '"' then ['\\', '"']
    else if c == '\n' then ['\\', 'n']
    else (escapeOf? c).getD [c]

/-- Text with escapes on several lines, after a number of quotes in a row; every third one is escaped. -/
def escapeBlock (quotes : Nat) : List Char → List Char
  | [] => []
  | c :: rest =>
    if c == '"' then
      if quotes == 2 then '\\' :: '"' :: escapeBlock 0 rest
      else '"' :: escapeBlock (quotes + 1) rest
    else
      match escapeOf? c with
      | some escape => escape ++ escapeBlock 0 rest
      | none => c :: escapeBlock 0 rest

/-- The line break that a block of lines starts with. -/
def firstBreak (text : List Char) : List Char :=
  if text.contains '\n' then ['\n'] else []

/-- The text in quotes, in the first style that fits. -/
def quote (text : List Char) : List Char :=
  match quoteStyle text with
  | .basicLine => '"' :: escapeLine text ++ ['"']
  | .literalLine => '\'' :: text ++ ['\'']
  | .basicBlock =>
    let marks := ['"', '"', '"']
    marks ++ firstBreak text ++ escapeBlock 0 text ++ marks
  | .literalBlock =>
    let marks := ['\'', '\'', '\'']
    marks ++ firstBreak text ++ text ++ marks

end DefectGraph.Toml
