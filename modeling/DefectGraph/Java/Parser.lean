import DefectGraph.Java.Token

/-!
# Reading tokens

A parser takes tokens from the front of a stream, or fails and leaves the stream alone. Loops take the
tokens that are left as the bound of their rounds, because every round takes a token.

## Main Definitions

* `Cursor`, `Parser` - the place in the stream, and readers that move it.
* `satisfy`, `symbol`, `keyword`, `wordExcept` - readers of one token.
* `looking`, `require` - looks at the tokens ahead.
* `maybe`, `many`, `separated`, `extend` - repeated and optional parts.
* `spelled`, `offset` - the text and the place of what is read.

## Design Notes

A parser returns its first result only, and a choice is final once its first part succeeds. The cursor keeps
the offset behind the last token, since the extent of a declaration ends there and not where the next token
starts. Loops recurse on the list of rounds, so that all parsers are total functions and their results can
be computed by the kernel.
-/

namespace DefectGraph.Java

/-- A place in the token stream. -/
structure Cursor where
  /-- The tokens still to be read. -/
  rest : List Token
  /-- The byte offset after the last token read. -/
  stop : Nat

/-- A reader of tokens that may fail. -/
abbrev Parser : Type → Type := StateT Cursor Option

namespace Parser

/-- Reads one token with a property. -/
def satisfy (p : Token → Bool) : Parser Token := fun cursor =>
  match cursor.rest with
  | t :: rest => if p t then some (t, ⟨rest, t.stop⟩) else none
  | [] => none

/-- Reads a given symbol. -/
def symbol (s : String) : Parser Token := satisfy fun t => t.isSymbol s

/-- Reads a given word. -/
def keyword (w : String) : Parser Token := satisfy fun t => t.isWord w

/-- Reads one of some words. -/
def anyKeyword (ws : List String) : Parser Token :=
  satisfy fun t => t.kind == .word && ws.contains t.text

/-- Reads a word other than some. -/
def wordExcept (ws : List String) : Parser Word := fun cursor =>
  match cursor.rest with
  | t :: rest =>
    if h : t.kind = .word then
      if ws.contains t.text then none else some (⟨t.text, t.spelled h⟩, ⟨rest, t.stop⟩)
    else none
  | [] => none

/-- Looks at the tokens ahead. -/
def looking (p : List Token → Bool) : Parser Bool := fun cursor => some (p cursor.rest, cursor)

/-- Fails unless the tokens ahead have a property. -/
def require (p : List Token → Bool) : Parser Unit := fun cursor =>
  if p cursor.rest then some ((), cursor) else none

/-- The next token is a given symbol. -/
def atSymbol (s : String) : Parser Bool := looking fun ts => ts.head?.any (·.isSymbol s)

/-- The next token is a given word. -/
def atWord (w : String) : Parser Bool := looking fun ts => ts.head?.any (·.isWord w)

/-- Reads something if it is there. -/
def maybe {α : Type} (p : Parser α) : Parser (Option α) := (some <$> p) <|> pure none

/-- Reads a list of codes if it is there. -/
def optionalList {α : Type} (p : Parser (List α)) : Parser (List α) := p <|> pure []

/-- Reads something as often as it is there, for a number of rounds at most. -/
def manyFor {α : Type} (p : Parser α) : List Token → Parser (List α)
  | [] => pure []
  | _ :: rounds => do
    match ← maybe p with
    | some a => return a :: (← manyFor p rounds)
    | none => return []

/-- Reads something as often as it is there. -/
def many {α : Type} (p : Parser α) : Parser (List α) := do manyFor p (← get).rest

/-- Reads something at least once. -/
def many1 {α : Type} (p : Parser α) : Parser (List α) := do
  let first ← p
  let more ← many p
  return first :: more

/-- Reads a list whose members a symbol separates; it has a member. -/
def separated1 {α : Type} (s : String) (p : Parser α) : Parser (List α) := do
  let first ← p
  let more ← many do
    let _ ← symbol s
    p
  return first :: more

/-- Reads a list whose members a symbol separates; it may be empty. -/
def separated {α : Type} (s : String) (p : Parser α) : Parser (List α) :=
  optionalList (separated1 s p)

/-- Repeats a step that extends what has been read, for a number of rounds at most. -/
def extendFor {α : Type} (step : α → Parser α) : List Token → α → Parser α
  | [], a => pure a
  | _ :: rounds, a => do
    match ← maybe (step a) with
    | some b => extendFor step rounds b
    | none => return a

/-- Repeats a step that extends what has been read. -/
def extend {α : Type} (step : α → Parser α) (a : α) : Parser α := do
  extendFor step (← get).rest a

/-- The tokens between two places. -/
def tokensBetween (before after : Cursor) : List Token :=
  match after.rest with
  | [] => before.rest
  | t :: _ => before.rest.takeWhile fun u => u.start < t.start

/-- Reads something and gives the source text it was read from. -/
def spelled {α : Type} (p : Parser α) : Parser (α × String) := do
  let before ← get
  let a ← p
  let after ← get
  return (a, spelling (tokensBetween before after))

/-- The byte offset of the next token. -/
def offset : Parser Nat := fun cursor =>
  match cursor.rest with
  | t :: _ => some (t.start, cursor)
  | [] => none

end Parser

end DefectGraph.Java
