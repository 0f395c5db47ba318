import DefectGraph.Proofs.Depth.Statements

/-!
# Empty statements

An empty statement is a semicolon and nothing else, and no other statement is read as one. So the code of a
constructor tells whether there is anything but semicolons in the text behind its `super(...)`.

## Main Definitions

* `Parser.Gives` - all results of a parser have a property.
* `Code.OpensWithSuper` - the code is a constructor that opens with `super(...)`.
* `Cursor.OnlySemicolons` - nothing but semicolons stands between two places of the text.

## Main Statements

* `Grammar.statement_eq_semicolon_iff` - a statement is empty exactly when it is a semicolon.
* `Grammar.constructorRest_opensWithSuper` - the code behind `super(...)` is made of empty statements exactly
  when the text behind it is made of semicolons.

## Design Notes

A constructor that goes on behind an explicit call and one that does not are told apart on the code, by
`Code.semicolon`. That is sound only if every empty statement becomes a `Code.semicolon` and nothing else
does, which is a fact about the rules of every depth and not about the code: `Parser.Gives` is the judgment
that it is proved with, statement by statement of a rule.
-/

namespace DefectGraph.Java

/-- The code is a constructor that opens with `super(...)`, with the given statements behind that call. -/
def Code.OpensWithSuper (behind : List Code) (code : Code) : Prop :=
  ∃ head header redirectParts, code = .ctor head header (some .toSuper) redirectParts behind

/-- Nothing but semicolons stands between two places. -/
def Cursor.OnlySemicolons (here there : Cursor) : Prop :=
  ∃ between, here.rest = between ++ there.rest ∧ ∀ t ∈ between, t.isSymbol ";" = true

namespace Parser

variable {α β : Type} {P : α → Prop} {p q : Parser α}

/-- All results of the parser have the property. -/
def Gives (P : α → Prop) (p : Parser α) : Prop :=
  ∀ before a after, p before = some (a, after) → P a

namespace Gives

theorem pure {a : α} (holds : P a) : Gives P (Pure.pure a) := by
  intro before b after read
  cases read
  exact holds

/-- What comes last gives the result. -/
theorem bind {p : Parser β} {f : β → Parser α} (gives : ∀ b, Gives P (f b)) : Gives P (p >>= f) := by
  intro before a after read
  obtain ⟨b, between, _, last⟩ := bind_eq_some read
  exact gives b between a after last

/-- Both parts of an alternative have to give it. -/
theorem orElse (first : Gives P p) (second : Gives P q) : Gives P (p <|> q) := by
  intro before a after read
  rcases orElse_eq_some read with here | there
  · exact first before a after here
  · exact second before a after there

/-- A result that is never given is not read anywhere. -/
theorem ne {a : α} {before after : Cursor} (gives : Gives (· ≠ a) p) : p before ≠ some (a, after) :=
  fun read => gives before a after read rfl

end Gives

end Parser

namespace Grammar

open DefectGraph.Java.Parser
open DefectGraph.Source (TypeParam RedirectKind)

/-! ### Statements that are not empty -/

variable (r : Rules)

theorem gives_expressionStatement : Gives (· ≠ .semicolon) (expressionStatement r) :=
  .bind fun _ => .bind fun _ => .pure nofun

theorem gives_switchExpression : Gives (· ≠ .semicolon) (switchExpression r) :=
  .bind fun _ => .bind fun _ => .bind fun _ => .pure nofun

theorem gives_importDirective : Gives (· ≠ .semicolon) importDirective :=
  .bind fun _ => .bind fun _ => .bind fun _ => .bind fun _ => .bind fun _ => .pure nofun

/-- A declaration among statements is not empty, whatever it declares. -/
theorem gives_localDeclaration (front : List Code) :
    Gives (· ≠ .semicolon) (localDeclaration r front) := by
  refine .bind fun isType => ?_
  split
  · exact .bind fun _ => .pure nofun
  refine .bind fun isPackage => ?_
  split
  · exact .bind fun _ => .pure nofun
  refine .bind fun isModule => ?_
  split
  · exact .bind fun _ => .pure nofun
  · exact .bind fun _ => .pure nofun

/-- A statement that starts without a keyword is not empty. -/
theorem gives_plainStatement : Gives (· ≠ .semicolon) (plainStatement r) := by
  refine .bind fun modified => ?_
  split
  · exact .bind fun front => .orElse (gives_localDeclaration r front) (gives_expressionStatement r)
  refine .bind fun named => ?_
  split
  · exact .bind fun _ => .bind fun _ => .bind fun _ => .pure nofun
  · exact .orElse (.bind fun _ => .bind fun _ => .pure nofun)
      (.orElse (gives_localDeclaration r []) (gives_expressionStatement r))

/-- Only a semicolon is read as an empty statement. -/
theorem statement_ne_semicolon {t : Token} (next : List Token) (stop : Nat)
    (other : ¬ t.isSymbol ";" = true) (after : Cursor) :
    statement r ⟨t :: next, stop⟩ ≠ some (.semicolon, after) := by
  intro read
  change (if t.isSymbol ";" then _ else _ : Parser Code) _ = _ at read
  rw [if_neg other] at read
  refine Gives.ne ?_ read
  split
  · exact .bind fun _ => .pure nofun
  split
  · exact gives_switchExpression r
  split
  · exact gives_importDirective
  split
  · exact .bind fun _ => .bind fun _ => .pure nofun
  split
  · split
    · exact .bind fun _ => .bind fun _ => .pure nofun
    · exact gives_plainStatement r
  · exact gives_plainStatement r

/-- A semicolon is an empty statement. -/
theorem statement_of_semicolon {t : Token} (next : List Token) (stop : Nat)
    (semicolon : t.isSymbol ";" = true) :
    statement r ⟨t :: next, stop⟩ = some (.semicolon, ⟨next, t.stop⟩) := by
  show (if t.isSymbol ";" then _ else _ : Parser Code) _ = _
  rw [if_pos semicolon]
  rfl

/-- A statement is empty exactly when it is a semicolon. -/
theorem statement_eq_semicolon_iff (before after : Cursor) :
    statement r before = some (.semicolon, after) ↔
      ∃ t, before.rest = t :: after.rest ∧ t.isSymbol ";" = true ∧ after.stop = t.stop := by
  obtain ⟨rest, stop⟩ := before
  cases rest with
  | nil =>
    constructor
    · intro read
      cases read
    · rintro ⟨t, split, _⟩
      cases split
  | cons t next =>
    by_cases semicolon : t.isSymbol ";" = true
    · rw [statement_of_semicolon r next stop semicolon]
      constructor
      · intro same
        cases same
        exact ⟨t, rfl, semicolon, rfl⟩
      · rintro ⟨u, split, _, last⟩
        obtain ⟨left, place⟩ := after
        cases split
        cases last
        rfl
    · refine iff_of_false (statement_ne_semicolon r next stop semicolon after) ?_
      rintro ⟨u, split, other, _⟩
      cases split
      exact semicolon other

/-! ### Statements one after the other -/

variable {r}

/-- A first statement that is read somewhere before a place leaves nothing but semicolons up to there exactly
when it is empty and leaves them behind it. -/
theorem onlySemicolons_iff_of_statement {before place after : Cursor} {code : Code}
    (read : statement r before = some (code, place)) (shorter : after.rest.length < before.rest.length) :
    before.OnlySemicolons after ↔ code = .semicolon ∧ place.OnlySemicolons after := by
  constructor
  · rintro ⟨between, split, semicolons⟩
    cases between with
    | nil =>
      rw [split] at shorter
      exact absurd shorter (Nat.lt_irrefl _)
    | cons t between =>
      obtain ⟨rest, stop⟩ := before
      cases split
      obtain ⟨first, others⟩ := List.forall_mem_cons.mp semicolons
      cases (statement_of_semicolon r _ stop first).symm.trans read
      exact ⟨rfl, between, rfl, others⟩
  · rintro ⟨rfl, between, split, semicolons⟩
    obtain ⟨t, first, semicolon, _⟩ := (statement_eq_semicolon_iff r before place).mp read
    refine ⟨t :: between, ?_, List.forall_mem_cons.mpr ⟨semicolon, semicolons⟩⟩
    rw [first, split]
    rfl

/-- Statements are all empty exactly when there is nothing but semicolons where they are read. -/
theorem manyFor_statement_semicolons (depth : Nat) {rounds : List Token} {before after : Cursor}
    {all : List Code}
    (read : manyFor (statement (.ofDepth depth)) rounds before = some (all, after)) :
    (∀ s ∈ all, s = .semicolon) ↔ before.OnlySemicolons after := by
  induction rounds generalizing before all with
  | nil =>
    cases read
    exact iff_of_true (by simp) ⟨[], rfl, by simp⟩
  | cons _ rounds ih =>
    cases first : statement (.ofDepth depth) before with
    | none =>
      rw [manyFor, maybe_bind_of_none first] at read
      cases read
      exact iff_of_true (by simp) ⟨[], rfl, by simp⟩
    | some result =>
      obtain ⟨code, place⟩ := result
      rw [manyFor, maybe_bind_of_some first] at read
      obtain ⟨more, last, others, done⟩ := bind_eq_some read
      cases done
      -- a statement takes a token, and those behind it put none back
      have advance := advance_statement ((Rules.Advance.self depth (before.rest.length + 1)).mono
        (Nat.le_refl _) (Nat.le_succ _))
      have taken := (advance before (Nat.lt_succ_self _)).2 code place first
      have kept := (Agree.manyFor advance.agree rounds place (Nat.lt_succ_of_lt taken)).2 more after others
      rw [onlySemicolons_iff_of_statement first (Nat.lt_of_le_of_lt kept taken), List.forall_mem_cons,
        ih others]

/-- The same for the rule one level up. -/
theorem many_statement_semicolons (depth : Nat) {before after : Cursor} {all : List Code}
    (read : many (Rules.ofDepth depth).statement before = some (all, after)) :
    (∀ s ∈ all, s = .semicolon) ↔ before.OnlySemicolons after := by
  cases depth with
  | zero =>
    have nothing : many Rules.none.statement before = some ([], before) := by
      show manyFor failure before.rest before = _
      cases before.rest with
      | nil => rfl
      | cons _ rounds => exact maybe_bind_of_none rfl
    cases nothing.symm.trans read
    exact iff_of_true (by simp) ⟨[], rfl, by simp⟩
  | succ depth => exact manyFor_statement_semicolons depth read

/-! ### Constructors -/

/-- A constructor from its name on, up to the explicit constructor call that its body opens with. -/
def constructorFront (r : Rules) : Parser (Option (RedirectKind × List Code)) := do
  let _ ← identifier
  let _ ← formalParameters r
  let _ ← throwsClause r
  let _ ← symbol openBrace
  maybe (explicitCall r)

/-- A constructor is its front, the statements behind that, and a brace. -/
theorem constructorRest_eq_some {start : Nat} {typeParams : List TypeParam} {front : List Code}
    {before after : Cursor} {code : Code}
    (read : constructorRest r start typeParams front before = some (code, after)) :
    ∃ redirect here there brace head header behind,
      constructorFront r before = some (redirect, here) ∧
      many r.statement here = some (behind, there) ∧ symbol closeBrace there = some (brace, after) ∧
      code = .ctor head header (redirect.map Prod.fst) ((redirect.map Prod.snd).getD []) behind := by
  obtain ⟨name, c₁, named, read⟩ := bind_eq_some read
  obtain ⟨params, c₂, listed, read⟩ := bind_eq_some read
  obtain ⟨thrown, c₃, throws, read⟩ := bind_eq_some read
  obtain ⟨⟨redirect, behind⟩, c₄, body, read⟩ := bind_eq_some read
  cases read
  obtain ⟨_, opened, opening, body⟩ := bind_eq_some body
  obtain ⟨inside, there, statements, body⟩ := bind_eq_some body
  obtain ⟨brace, _, closing, body⟩ := bind_eq_some body
  cases body
  obtain ⟨call, here, called, statements⟩ := bind_eq_some statements
  obtain ⟨all, _, listed', statements⟩ := bind_eq_some statements
  cases statements
  refine ⟨redirect, here, there, brace, _, _, behind, ?_, listed', closing, rfl⟩
  simp only [constructorFront, bind, StateT.bind, named, listed, throws, opening, called,
    Option.bind_some]

/-- Behind `super(...)` the code of a constructor is made of empty statements exactly when the text up to its
closing brace is made of semicolons. -/
theorem constructorRest_opensWithSuper (depth : Nat) {start : Nat} {typeParams : List TypeParam}
    {front : List Code} {before after : Cursor} {code : Code}
    (read : constructorRest (.ofDepth depth) start typeParams front before = some (code, after)) :
    ∃ redirect here there brace, constructorFront (.ofDepth depth) before = some (redirect, here) ∧
      symbol closeBrace there = some (brace, after) ∧
      ((∃ behind, code.OpensWithSuper behind ∧ ∀ s ∈ behind, s = .semicolon) ↔
        redirect.map Prod.fst = some .toSuper ∧ here.OnlySemicolons there) ∧
      ((∃ behind, code.OpensWithSuper behind ∧ ∃ s ∈ behind, s ≠ .semicolon) ↔
        redirect.map Prod.fst = some .toSuper ∧ ¬ here.OnlySemicolons there) := by
  obtain ⟨redirect, here, there, brace, head, header, behind, opened, statements, closing, rfl⟩ :=
    constructorRest_eq_some read
  have opens : ∀ {all : List Code}, Code.OpensWithSuper all (.ctor head header (redirect.map Prod.fst)
      ((redirect.map Prod.snd).getD []) behind) ↔ redirect.map Prod.fst = some .toSuper ∧ all = behind := by
    intro all
    simp only [Code.OpensWithSuper, Code.ctor.injEq]
    constructor
    · rintro ⟨_, _, _, _, _, super, _, same⟩
      exact ⟨super, same.symm⟩
    · rintro ⟨super, rfl⟩
      exact ⟨_, _, _, rfl, rfl, super, rfl, rfl⟩
  refine ⟨redirect, here, there, brace, opened, closing, ?_⟩
  simp only [opens, ← many_statement_semicolons depth statements]
  grind

end Grammar

end DefectGraph.Java
