import DefectGraph.Proofs.Layout.Basic

/-!
# Parsers that agree on short inputs

The rules of the grammar are cut off at a depth. That two depths read the same is a matter of how many
tokens are left: a rule goes one level down only behind a token, or a bounded number of times at the same
place. So two parsers are compared on inputs of fewer than so many tokens, and the judgment keeps track of
whether a token has been taken.

## Main Definitions

* `Parser.Agree` - two parsers do the same as long as there are few tokens.
* `Parser.Advance` - and they take a token when they succeed.

## Main Statements

* `Agree.bind` - one parser after the other, on inputs of the same length.
* `Advance.bind` - behind a token, what follows is only compared on shorter inputs.
* `Agree.many`, `Agree.extend` - loops, by induction on their rounds.

## Design Notes

Both judgments say that parsers never put tokens back. This is not assumed of the rules: it is proved for
them along with the rest, since a rule for what is nested deeper is compared by the same judgment.
-/

namespace DefectGraph.Java.Parser

variable {α β : Type} {n m : Nat} {p q p' q' : Parser α} {f g : α → Parser β}

/-- With fewer than `n` tokens ahead, the parsers do the same and put no token back. -/
def Agree (n : Nat) (p q : Parser α) : Prop :=
  ∀ before : Cursor, before.rest.length < n → p before = q before ∧
    ∀ a after, p before = some (a, after) → after.rest.length ≤ before.rest.length

/-- With fewer than `n` tokens ahead, the parsers do the same and take a token. -/
def Advance (n : Nat) (p q : Parser α) : Prop :=
  ∀ before : Cursor, before.rest.length < n → p before = q before ∧
    ∀ a after, p before = some (a, after) → after.rest.length < before.rest.length

/-- Parsers that agree first and then agree from each result on do the same. -/
theorem bind_congr_at {before : Cursor} (first : p before = q before)
    (second : ∀ a between, p before = some (a, between) → f a between = g a between) :
    (p >>= f) before = (q >>= g) before := by
  show (p before).bind (fun found => f found.1 found.2) = (q before).bind fun found => g found.1 found.2
  rw [← first]
  exact Option.bind_congr fun found read => second found.1 found.2 read

/-- So do alternatives. -/
theorem orElse_congr_at {before : Cursor} (first : p before = q before)
    (second : p' before = q' before) : (p <|> p') before = (q <|> q') before := by
  show (p before <|> p' before) = (q before <|> q' before)
  rw [first, second]

/-- A parser that is tried and succeeds goes on where it has come to. -/
theorem maybe_bind_of_some {f : Option α → Parser β} {before after : Cursor} {a : α}
    (read : p before = some (a, after)) : (maybe p >>= f) before = f (some a) after := by
  show ((p before).bind (fun found => some (some found.1, found.2)) <|> some (none, before)).bind
    (fun found => f found.1 found.2) = _
  rw [read]
  rfl

/-- One that fails goes on from the same place. -/
theorem maybe_bind_of_none {f : Option α → Parser β} {before : Cursor} (read : p before = none) :
    (maybe p >>= f) before = f none before := by
  show ((p before).bind (fun found => some (some found.1, found.2)) <|> some (none, before)).bind
    (fun found => f found.1 found.2) = _
  rw [read]
  rfl

/-- Parsers that take a token put none back. -/
theorem Advance.agree (advance : Advance n p q) : Agree n p q := fun before few =>
  ⟨(advance before few).1, fun a after read => Nat.le_of_lt ((advance before few).2 a after read)⟩

namespace Agree

theorem mono (agree : Agree n p q) (le : m ≤ n) : Agree m p q := fun before few =>
  agree before (Nat.lt_of_lt_of_le few le)

/-- Fewer tokens are no harder. -/
theorem later (agree : Agree (n + 1) p q) : Agree n p q := agree.mono (Nat.le_succ n)

/-! ### One parser after the other -/

theorem pure (a : α) : Agree n (Pure.pure a) (Pure.pure a) := by
  intro before _
  refine ⟨rfl, fun b after read => ?_⟩
  cases read
  exact Nat.le_refl _

theorem failure : Agree n (Alternative.failure : Parser α) Alternative.failure := by
  intro before _
  exact ⟨rfl, fun b after read => by cases read⟩

theorem looking (test : List Token → Bool) : Agree n (looking test) (looking test) := by
  intro before _
  refine ⟨rfl, fun b after read => ?_⟩
  cases read
  exact Nat.le_refl _

theorem require (test : List Token → Bool) : Agree n (require test) (require test) := by
  intro before _
  refine ⟨rfl, fun b after read => ?_⟩
  unfold Parser.require at read
  split at read
  · cases read
    exact Nat.le_refl _
  · cases read

theorem offset : Agree n offset offset := by
  intro before _
  refine ⟨rfl, fun b after read => ?_⟩
  unfold Parser.offset at read
  split at read
  · cases read
    exact Nat.le_refl _
  · cases read

/-- What follows is compared on inputs of the same length at most. -/
theorem bind (first : Agree n p q) (second : ∀ a, Agree n (f a) (g a)) :
    Agree n (p >>= f) (q >>= g) := by
  intro before few
  obtain ⟨same, shorter⟩ := first before few
  constructor
  · refine bind_congr_at same fun a between read => ?_
    exact (second a between (Nat.lt_of_le_of_lt (shorter a between read) few)).1
  · intro b after read
    obtain ⟨a, between, readFirst, readSecond⟩ := bind_eq_some read
    have less := shorter a between readFirst
    exact Nat.le_trans ((second a between (Nat.lt_of_le_of_lt less few)).2 b after readSecond) less

theorem map {h : α → β} (agree : Agree n p q) : Agree n (h <$> p) (h <$> q) :=
  bind agree fun a => pure (h a)

/-- Alternatives have to agree on failing as well as on succeeding. -/
theorem orElse (first : Agree n p q) (second : Agree n p' q') : Agree n (p <|> p') (q <|> q') := by
  intro before few
  refine ⟨orElse_congr_at (first before few).1 (second before few).1, fun a after read => ?_⟩
  rcases orElse_eq_some read with here | there
  · exact (first before few).2 a after here
  · exact (second before few).2 a after there

/-- Parsers that look at the place agree if they do for every place. -/
theorem get {f g : Cursor → Parser β} (agree : ∀ c, Agree n (f c) (g c)) :
    Agree n (MonadState.get >>= f) (MonadState.get >>= g) := fun before few => agree before before few

/-! ### Loops -/

theorem maybe (agree : Agree n p q) : Agree n (maybe p) (maybe q) :=
  orElse (map agree) (pure none)

theorem optionalList {p q : Parser (List α)} (agree : Agree n p q) :
    Agree n (optionalList p) (optionalList q) :=
  orElse agree (pure [])

theorem manyFor (agree : Agree n p q) (rounds : List Token) :
    Agree n (manyFor p rounds) (manyFor q rounds) := by
  induction rounds with
  | nil => exact pure []
  | cons _ rounds ih =>
    refine bind (maybe agree) fun found => ?_
    cases found with
    | none => exact pure []
    | some a => exact bind ih fun more => pure (a :: more)

/-- A loop whose rounds agree is bounded by the tokens left, which are the same for both. -/
theorem many (agree : Agree n p q) : Agree n (many p) (many q) :=
  get fun c => manyFor agree c.rest

theorem extendFor {f g : α → Parser α} (agree : ∀ a, Agree n (f a) (g a)) (rounds : List Token) (a : α) :
    Agree n (extendFor f rounds a) (extendFor g rounds a) := by
  induction rounds generalizing a with
  | nil => exact pure a
  | cons _ rounds ih =>
    refine bind (maybe (agree a)) fun found => ?_
    cases found with
    | none => exact pure a
    | some b => exact ih b

theorem extend {f g : α → Parser α} (agree : ∀ a, Agree n (f a) (g a)) (a : α) :
    Agree n (extend f a) (extend g a) :=
  get fun c => extendFor agree c.rest a

theorem spelled (agree : Agree n p q) : Agree n (spelled p) (spelled q) :=
  get fun _ => bind agree fun _ => get fun _ => pure _

end Agree

namespace Advance

theorem mono (advance : Advance n p q) (le : m ≤ n) : Advance m p q := fun before few =>
  advance before (Nat.lt_of_lt_of_le few le)

/-- There is no input of fewer than no tokens. -/
theorem zero (p q : Parser α) : Advance 0 p q := fun _ few => absurd few (Nat.not_lt_zero _)

/-- A parser that takes a single token advances. -/
theorem of_takesToken (takes : TakesToken p) : Advance n p p := by
  intro before _
  refine ⟨rfl, fun a after read => ?_⟩
  obtain ⟨t, same, _⟩ := takes before after a read
  rw [same]
  exact Nat.lt_succ_self _

theorem satisfy (test : Token → Bool) : Advance n (satisfy test) (satisfy test) :=
  of_takesToken (takesToken_satisfy test)

theorem symbol (s : String) : Advance n (symbol s) (symbol s) := satisfy _

theorem keyword (w : String) : Advance n (keyword w) (keyword w) := satisfy _

theorem anyKeyword (ws : List String) : Advance n (anyKeyword ws) (anyKeyword ws) := satisfy _

theorem wordExcept (ws : List String) : Advance n (wordExcept ws) (wordExcept ws) :=
  of_takesToken (takesToken_wordExcept ws)

theorem failure : Advance n (Alternative.failure : Parser α) Alternative.failure := by
  intro before _
  exact ⟨rfl, fun b after read => by cases read⟩

/-- Behind a token there are fewer tokens. -/
theorem bind (first : Advance (n + 1) p q) (second : ∀ a, Agree n (f a) (g a)) :
    Advance (n + 1) (p >>= f) (q >>= g) := by
  intro before few
  obtain ⟨same, shorter⟩ := first before few
  have fewer : ∀ {a between}, p before = some (a, between) → between.rest.length < n := by
    intro a between read
    have := shorter a between read
    omega
  constructor
  · exact bind_congr_at same fun a between read => (second a between (fewer read)).1
  · intro b after read
    obtain ⟨a, between, readFirst, readSecond⟩ := bind_eq_some read
    have less := shorter a between readFirst
    exact Nat.lt_of_le_of_lt ((second a between (fewer readFirst)).2 b after readSecond) less

/-- The token may also be taken later. -/
theorem behind (first : Agree n p q) (second : ∀ a, Advance n (f a) (g a)) :
    Advance n (p >>= f) (q >>= g) := by
  intro before few
  obtain ⟨same, shorter⟩ := first before few
  have fewer : ∀ {a between}, p before = some (a, between) → between.rest.length < n :=
    fun read => Nat.lt_of_le_of_lt (shorter _ _ read) few
  constructor
  · exact bind_congr_at same fun a between read => (second a between (fewer read)).1
  · intro b after read
    obtain ⟨a, between, readFirst, readSecond⟩ := bind_eq_some read
    have less := shorter a between readFirst
    exact Nat.lt_of_lt_of_le ((second a between (fewer readFirst)).2 b after readSecond) less

/-- A parser that is tried takes the token if it is there, and what follows takes it otherwise. -/
theorem bindMaybe {f g : Option α → Parser β} (tried : Advance (n + 1) p q)
    (found : ∀ a, Agree n (f (some a)) (g (some a)))
    (missing : Advance (n + 1) (f none) (g none)) :
    Advance (n + 1) (Parser.maybe p >>= f) (Parser.maybe q >>= g) := by
  intro before few
  obtain ⟨same, shorter⟩ := tried before few
  cases read : p before with
  | none =>
    rw [maybe_bind_of_none read, maybe_bind_of_none (same.symm.trans read)]
    exact missing before few
  | some result =>
    obtain ⟨a, between⟩ := result
    have less := shorter a between read
    rw [maybe_bind_of_some read, maybe_bind_of_some (same.symm.trans read)]
    obtain ⟨agree, further⟩ := found a between (by omega)
    exact ⟨agree, fun b after readMore => Nat.lt_of_le_of_lt (further b after readMore) less⟩

theorem map {h : α → β} (advance : Advance n p q) : Advance n (h <$> p) (h <$> q) := by
  cases n with
  | zero => exact zero _ _
  | succ n => exact bind advance fun a => .pure (h a)

/-- An alternative takes a token if both its parts do. -/
theorem orElse (first : Advance n p q) (second : Advance n p' q') :
    Advance n (p <|> p') (q <|> q') := by
  intro before few
  refine ⟨orElse_congr_at (first before few).1 (second before few).1, fun a after read => ?_⟩
  rcases orElse_eq_some read with here | there
  · exact (first before few).2 a after here
  · exact (second before few).2 a after there

theorem get {f g : Cursor → Parser β} (advance : ∀ c, Advance n (f c) (g c)) :
    Advance n (MonadState.get >>= f) (MonadState.get >>= g) := fun before few => advance before before few

theorem spelled (advance : Advance (n + 1) p q) : Advance (n + 1) (spelled p) (spelled q) :=
  get fun _ => bind advance fun _ => .get fun _ => .pure _

/-- The first round takes a token, so the others are compared on fewer. -/
theorem many1 (advance : Advance (n + 1) p q) : Advance (n + 1) (many1 p) (many1 q) :=
  bind advance fun _ => .bind (.many advance.agree.later) fun _ => .pure _

/-- So it is when a symbol separates the rounds. -/
theorem separated1 (s : String) (advance : Advance (n + 1) p q) :
    Advance (n + 1) (separated1 s p) (separated1 s q) :=
  bind advance fun _ =>
    .bind (.many (.bind (symbol s).agree fun _ => advance.agree.later)) fun _ => .pure _

/-- Brackets are tokens: what is inside them is compared on fewer. -/
theorem between (opening closing : String) (agree : Agree n p q) :
    Advance (n + 1) (Grammar.between opening closing p) (Grammar.between opening closing q) :=
  bind (symbol opening) fun _ => .bind agree fun a => .bind (symbol closing).agree fun _ => .pure a

theorem parens (agree : Agree n p q) : Advance (n + 1) (Grammar.parens p) (Grammar.parens q) :=
  between _ _ agree

theorem braces (agree : Agree n p q) : Advance (n + 1) (Grammar.braces p) (Grammar.braces q) :=
  between _ _ agree

end Advance

namespace Agree

theorem separated1 (s : String) (agree : Agree n p q) : Agree n (separated1 s p) (separated1 s q) :=
  bind agree fun _ => bind (many (bind (Advance.symbol s).agree fun _ => agree)) fun _ => pure _

theorem separated (s : String) (agree : Agree n p q) : Agree n (separated s p) (separated s q) :=
  optionalList (separated1 s agree)

end Agree

theorem Advance.bracedList (agree : Agree n p q) :
    Advance (n + 1) (Grammar.bracedList p) (Grammar.bracedList q) :=
  braces (.bind (.separated _ agree) fun all =>
    .bind (.maybe (Advance.symbol _).agree) fun _ => .pure all)

end DefectGraph.Java.Parser
