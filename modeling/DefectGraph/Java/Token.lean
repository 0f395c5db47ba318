import DefectGraph.Java.Word

/-!
# Tokens

The words, literals and symbols of a Java source text. A token keeps the white space and the comments
in front of it, so that the spelling of any run of tokens can be read off the tokens alone.

## Design Notes

`Token.spelled` makes the kind of a token a fact about its text: whoever takes a word from a token gets the
proof that it is spelled as one. Offsets count bytes, as the extents of declarations do.
-/

namespace DefectGraph.Java

/-- The kinds of tokens. A string literal with embedded expressions is cut at the expressions. -/
inductive TokenKind where
  /-- An identifier or a keyword. -/
  | word
  | number
  | character
  /-- A whole string literal or text block. -/
  | text
  /-- A string literal up to its first embedded expression. -/
  | textOpen
  /-- The part of a string literal between two embedded expressions. -/
  | textMiddle
  /-- A string literal after its last embedded expression. -/
  | textClose
  | symbol
  deriving DecidableEq, Repr

/-- One token with its place in the source text. -/
structure Token where
  kind : TokenKind
  /-- The token as written. -/
  text : String
  /-- The white space and comments between the token before and this one. -/
  gap : String
  /-- The byte offset of the first character. -/
  start : Nat
  /-- The byte offset after the last character. -/
  stop : Nat
  spelled : kind = .word → spellsWord text.toList = true
  deriving DecidableEq, Repr

/-- The token is the given symbol. -/
def Token.isSymbol (t : Token) (s : String) : Bool :=
  t.kind == .symbol && t.text == s

/-- The token is the given word. -/
def Token.isWord (t : Token) (w : String) : Bool :=
  t.kind == .word && t.text == w

/-- Nothing stands between the token and the one before it. -/
def Token.adjacent (t : Token) : Bool :=
  t.gap.isEmpty

/-- The source text from the first to the last of neighbouring tokens. -/
def spelling : List Token → String
  | [] => ""
  | t :: rest => rest.foldl (fun text u => text ++ u.gap ++ u.text) t.text

end DefectGraph.Java
