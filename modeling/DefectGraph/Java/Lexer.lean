import DefectGraph.Java.Token

/-!
# Cutting source text into tokens

`tokens?` cuts a source text into tokens, or fails at the first place where no token starts. Closing
angle brackets always stand alone, since `>>` closes two lists of type arguments as often as it shifts.

A loop over the text takes a second list that only bounds the number of its rounds; every round
consumes a character, so the text itself is bound enough.

## Main Definitions

* `gap?` - the white space and comments in front of a token.
* `Scan`, `numberScans` - the forms of numbers, put together from scans of single characters.
* `next?` - the kind and the length of the token that a text starts with.
* `tokens?` - the tokens of a text.

## Design Notes

A string literal may hold expressions, and an expression may hold string literals again. The texts that are
open around a place are kept in a list of `Embedding`s, and a closing brace ends an expression only if no
brace is open inside it. A number is the longest text that one of the scans accepts.
-/

namespace DefectGraph.Java

/-! ### White space and comments -/

/-- White space between tokens. -/
def isBlank (c : Char) : Bool :=
  c == ' ' || (9 ≤ c.toNat && c.toNat ≤ 13)

/-- Splits after the end of a block comment, if there is one. -/
def blockComment? : List Char → Option (List Char × List Char)
  | '*' :: '/' :: rest => some (['*', '/'], rest)
  | c :: rest => (blockComment? rest).map fun (inside, after) => (c :: inside, after)
  | [] => none

/-- The white space and comments in front of the next token, and what follows; `none` for a comment
that does not end. -/
def gap? (rounds : List Char) (cs : List Char) : Option (List Char × List Char) :=
  match rounds with
  | [] => some ([], cs)
  | _ :: rounds =>
    match cs with
    | '/' :: '/' :: rest =>
      let (line, after) := rest.span fun c => c != '\n'
      (gap? rounds after).map fun (g, after) => ('/' :: '/' :: line ++ g, after)
    | '/' :: '*' :: rest => do
      let (inside, after) ← blockComment? rest
      let (g, after) ← gap? rounds after
      return ('/' :: '*' :: inside ++ g, after)
    | c :: rest =>
      if isBlank c then (gap? rounds rest).map fun (g, after) => (c :: g, after)
      else some ([], cs)
    | [] => some ([], [])

/-! ### Numbers -/

/-- A way to leave the start of a text, giving what follows. -/
abbrev Scan : Type := List Char → Option (List Char)

/-- One scan after the other. -/
def Scan.then (p q : Scan) : Scan := fun cs => (p cs).bind q

/-- A scan that may be left out. -/
def Scan.optional (p : Scan) : Scan := fun cs => some ((p cs).getD cs)

/-- The first of two scans that succeeds. -/
def Scan.or (p q : Scan) : Scan := fun cs => (p cs).or (q cs)

/-- One character with a property. -/
def scanChar (p : Char → Bool) : Scan
  | c :: rest => if p c then some rest else none
  | [] => none

/-- Digits with underscores between them, after a digit. -/
def digitsTail (p : Char → Bool) : List Char → List Char
  | [] => []
  | c :: rest =>
    if p c then digitsTail p rest
    else if c == '_' then
      match rest.dropWhile fun u => u == '_' with
      | d :: _ => if p d then digitsTail p rest else c :: rest
      | [] => c :: rest
    else c :: rest

/-- Digits with underscores between them. -/
def scanDigits (p : Char → Bool) : Scan := fun cs => (scanChar p cs).map (digitsTail p)

/-- A hexadecimal digit. -/
def isHexDigit (c : Char) : Bool :=
  c.isDigit || ('a' ≤ c && c ≤ 'f') || ('A' ≤ c && c ≤ 'F')

/-- One of two letters. -/
def scanEither (a b : Char) : Scan := scanChar fun c => c == a || c == b

/-- A sign that may be left out. -/
def scanSign : Scan := (scanEither '+' '-').optional

/-- The suffix of a floating-point literal. -/
def scanFloatSuffix : Scan := (scanEither 'f' 'F').or (scanEither 'd' 'D')

/-- A decimal exponent. -/
def scanExponent : Scan := ((scanEither 'e' 'E').then scanSign).then (scanDigits Char.isDigit)

/-- The digits of a decimal integer: zero, or digits that do not start with zero. -/
def scanInteger : Scan
  | '0' :: rest => some rest
  | cs => scanDigits Char.isDigit cs

/-- A prefix of two characters such as `0x`. -/
def scanRadix (a b : Char) : Scan := (scanChar fun c => c == '0').then (scanEither a b)

/-- The literals of each kind of number. -/
def numberScans : List Scan :=
  let decimal := scanDigits Char.isDigit
  let hex := scanDigits isHexDigit
  let octal := scanDigits fun c => '0' ≤ c && c ≤ '7'
  let dot := scanChar fun c => c == '.'
  let long := (scanEither 'l' 'L').optional
  let power := (((scanEither 'p' 'P').then scanSign).then scanInteger).then scanFloatSuffix.optional
  [ scanInteger.then long,
    ((scanRadix 'x' 'X').then hex).then long,
    ((scanRadix 'o' 'O').then octal).then long,
    ((scanChar fun c => c == '0').then octal).then long,
    ((scanRadix 'b' 'B').then (scanDigits fun c => c == '0' || c == '1')).then long,
    (((decimal.then dot).then decimal.optional).then scanExponent.optional).then
      scanFloatSuffix.optional,
    ((dot.then decimal).then scanExponent.optional).then scanFloatSuffix.optional,
    (scanInteger.then scanExponent).then scanFloatSuffix.optional,
    (scanInteger.then scanExponent.optional).then scanFloatSuffix,
    ((scanRadix 'x' 'X').then (hex.then dot.optional)).then power.optional,
    ((scanRadix 'x' 'X').then ((hex.optional.then dot).then hex)).then power.optional ]

/-- A character that occurs in numbers. -/
def isNumberPart (c : Char) : Bool :=
  c.isAlphanum || c == '_' || c == '.' || c == '+' || c == '-'

/-- The length of the longest number at the start of the text. -/
def numberLength? (cs : List Char) : Option Nat :=
  let candidate := cs.takeWhile isNumberPart
  ((numberScans.filterMap fun scan => scan candidate).map fun after =>
    candidate.length - after.length).max?

/-! ### Characters and texts -/

/-- The length of the rest of a character literal, to its closing quote. -/
def characterLength? : List Char → Option Nat
  | '\'' :: _ => some 1
  | '\\' :: _ :: rest => (characterLength? rest).map (· + 2)
  | c :: rest => if c == '\n' then none else (characterLength? rest).map (· + 1)
  | [] => none

/-- The character after a backslash, with what follows, starts an escape sequence. -/
def startsEscape (c : Char) (rest : List Char) : Bool :=
  if c == 'x' then
    match rest with
    | a :: b :: _ => isHexDigit a && isHexDigit b
    | _ => false
  else if c == 'u' then
    match rest with
    | '{' :: more =>
      match more.span isHexDigit with
      | (_ :: _, '}' :: _) => true
      | _ => false
    | a :: b :: c :: d :: _ => isHexDigit a && isHexDigit b && isHexDigit c && isHexDigit d
    | _ => false
  else true

/-- The length of a part of a string literal or text block, to its closing quotes or to an embedded
expression, and which of the two ends it; `passed` characters of it have been read. -/
def textLength? (block : Bool) (passed : Nat) : List Char → Option (Nat × Bool)
  | '\\' :: c :: rest =>
    if c == '{' then some (passed + 2, true)
    else if block || startsEscape c rest then textLength? block (passed + 2) rest
    else none
  | '"' :: rest =>
    if block then
      match rest with
      | '"' :: '"' :: _ => some (passed + 3, false)
      | _ => textLength? block (passed + 1) rest
    else some (passed + 1, false)
  | _ :: rest => textLength? block (passed + 1) rest
  | [] => none

/-! ### Symbols -/

/-- The symbols of more than one character, a longer one before its own start. -/
def longSymbols : List String :=
  ["<<=", "...", "->", "::", "++", "--", "&&", "||", "==", "!=", "<=", "<<", "+=", "-=", "*=", "/=",
   "&=", "|=", "^=", "%="]

/-- The symbols of one character. -/
def shortSymbols : List Char :=
  ['(', ')', '{', '}', '[', ']', ';', ',', '.', '@', '=', '<', '>', '+', '-', '*', '/', '&', '|', '^',
   '%', '!', '~', '?', ':']

/-- The length of the symbol at the start of the text. -/
def symbolLength? (cs : List Char) : Option Nat :=
  match longSymbols.find? fun s => s.toList.isPrefixOf cs with
  | some s => some s.length
  | none => if cs.head?.any shortSymbols.contains then some 1 else none

/-! ### The token stream -/

/-- An embedded expression that is open: whether it stands in a text block, and how many braces are
open inside it. -/
structure Embedding where
  block : Bool
  braces : Nat

/-- The token made of a part of a text: of the first kind when the text ends with it, of the second
when an expression follows. -/
def textToken (part : Nat × Bool) (whole embedded : TokenKind) (block : Bool)
    (embeddings : List Embedding) : TokenKind × Nat × List Embedding :=
  if part.2 then (embedded, part.1, ⟨block, 0⟩ :: embeddings) else (whole, part.1, embeddings)

/-- The kind of the next token, its length, and the embeddings open after it. -/
def next? (embeddings : List Embedding) (cs : List Char) :
    Option (TokenKind × Nat × List Embedding) :=
  match cs, embeddings with
  | '"' :: '"' :: '"' :: rest, _ =>
    (textLength? true 3 rest).map (textToken · .text .textOpen true embeddings)
  | '"' :: rest, _ =>
    (textLength? false 1 rest).map (textToken · .text .textOpen false embeddings)
  | '\'' :: c :: rest, _ =>
    if c == '\'' then none
    else (characterLength? (c :: rest)).map fun n => (.character, n + 1, embeddings)
  | '{' :: _, e :: outer => some (.symbol, 1, { e with braces := e.braces + 1 } :: outer)
  | '}' :: rest, e :: outer =>
    if e.braces == 0 then
      (textLength? e.block 1 rest).map (textToken · .textClose .textMiddle e.block outer)
    else some (.symbol, 1, { e with braces := e.braces - 1 } :: outer)
  | c :: rest, _ =>
    if isIdentifierStart c then some (.word, (rest.takeWhile isIdentifierPart).length + 1, embeddings)
    else
      match numberLength? cs with
      | some n => some (.number, n, embeddings)
      | none => (symbolLength? cs).map fun n => (.symbol, n, embeddings)
  | [], _ => none

/-- A piece of a string literal is a whole literal or stops at an embedded expression. -/
theorem textToken_kind (part : Nat × Bool) (whole embedded : TokenKind) (block : Bool)
    (embeddings : List Embedding) :
    (textToken part whole embedded block embeddings).1 = whole ∨
      (textToken part whole embedded block embeddings).1 = embedded := by
  unfold textToken
  split
  · exact Or.inr rfl
  · exact Or.inl rfl

/-- A part of a text is no word. -/
theorem textToken_ne_word {part : Option (Nat × Bool)} {whole embedded : TokenKind} {block : Bool}
    {embeddings : List Embedding} {found : TokenKind × Nat × List Embedding}
    (next : part.map (textToken · whole embedded block embeddings) = some found)
    (wholeText : whole ≠ .word) (embeddedText : embedded ≠ .word) : found.1 ≠ .word := by
  obtain ⟨p, _, rfl⟩ := Option.map_eq_some_iff.mp next
  rcases textToken_kind p whole embedded block embeddings with same | same
  · rw [same]
    exact wholeText
  · rw [same]
    exact embeddedText

/-- A token of the kind of words is spelled like one. -/
theorem next?_spelled (embeddings : List Embedding) (cs : List Char)
    (found : TokenKind × Nat × List Embedding) (next : next? embeddings cs = some found)
    (word : found.1 = .word) : spellsWord (cs.take found.2.1) = true := by
  unfold next? at next
  split at next
  · exact absurd word (textToken_ne_word next (by decide) (by decide))
  · exact absurd word (textToken_ne_word next (by decide) (by decide))
  · split at next
    · cases next
    · obtain ⟨length, _, rfl⟩ := Option.map_eq_some_iff.mp next
      cases word
  · cases next
    cases word
  · split at next
    · exact absurd word (textToken_ne_word next (by decide) (by decide))
    · cases next
      cases word
  · rename_i c rest _ _ _ _ _
    split at next
    · rename_i start
      cases next
      have whole : rest.take (rest.takeWhile isIdentifierPart).length
          = rest.takeWhile isIdentifierPart :=
        (List.prefix_iff_eq_take.mp (List.takeWhile_prefix isIdentifierPart)).symm
      rw [List.take_succ_cons, spellsWord, start, whole, List.all_takeWhile]
      rfl
    · split at next
      · cases next
        cases word
      · obtain ⟨length, _, rfl⟩ := Option.map_eq_some_iff.mp next
        cases word
  · cases next

/-- The number of bytes of a run of characters. -/
def byteLength (cs : List Char) : Nat :=
  cs.foldl (fun n c => n + c.utf8Size) 0

/-- The tokens of the text that starts at byte `offset`. -/
def tokensFrom? (rounds : List Char) (offset : Nat) (embeddings : List Embedding) (cs : List Char) :
    Option (List Token) :=
  match rounds with
  | [] => some []
  | _ :: rounds => do
    let (gap, cs) ← gap? cs cs
    if cs.isEmpty then return []
    match next : next? embeddings cs with
    | none => none
    | some found =>
      let text := cs.take found.2.1
      let start := offset + byteLength gap
      let stop := start + byteLength text
      let token : Token :=
        ⟨found.1, String.ofList text, String.ofList gap, start, stop, fun word => by
          rw [String.toList_ofList]
          exact next?_spelled embeddings cs found next word⟩
      let rest ← tokensFrom? rounds stop found.2.2 (cs.drop found.2.1)
      return token :: rest

/-- The tokens of a source text; a byte order mark in front of them is passed over. -/
def tokens? (source : String) : Option (List Token) :=
  match source.toList with
  | [] => some []
  | c :: cs =>
    if c.toNat == 0xFEFF then tokensFrom? ('.' :: cs) c.utf8Size [] cs
    else tokensFrom? ('.' :: c :: cs) 0 [] (c :: cs)

end DefectGraph.Java
