import DefectGraph.Java.Grammar.Rules

/-!
# Parsers that keep the order of the source text

The offsets at which declarations start and stop are the marks of a piece of code. A parser keeps the
order of the text when the marks of what it reads stand in order, lie at the edges of tokens, and none of
them lies behind the place that it has come to. The judgment takes the marks of what was read before as an
argument, so that a parser can be judged one statement at a time.

## Main Definitions

* `Mark` - the offset at which a declaration starts or stops.
* `Code.marks` - the marks of the declarations inside a piece of code.
* `Between` - marks in order that lie in one part of the text.
* `Marked` - such marks, all at edges of tokens.
* `Parser.InOrder` - a parser that keeps marks in order.
* `Parser.InOrderFrom` - the same for a parser that is told where a declaration starts.

## Main Statements

* `InOrder.bind`, `InOrder.trans` - one parser after the other.
* `InOrder.many`, `InOrder.extend` - loops, by induction on their rounds.
* `InOrderFrom.first` - the first token of a declaration settles where it starts.

## Design Notes

What follows the start of a declaration lies behind it, what follows its stop may lie right there: a
declaration has a token of its own in front of whatever is inside it, and the next one may start where it
stops. So the order of two marks is strict or not depending on the first of them.

Which offsets count as edges is left open. Parsers only take offsets from tokens, so whatever holds of the
offsets of all tokens holds of all marks.
-/

namespace DefectGraph.Java

open DefectGraph.Source (Span)

/-! ### Marks -/

/-- Where a declaration starts or stops. -/
inductive Mark where
  | start (offset : Nat)
  | stop (offset : Nat)

/-- The offset of a mark. -/
def Mark.offset : Mark → Nat
  | .start offset | .stop offset => offset

/-- The first offset that can follow a mark. -/
def Mark.next : Mark → Nat
  | .start offset => offset + 1
  | .stop offset => offset

theorem Mark.offset_le_next (m : Mark) : m.offset ≤ m.next := by
  cases m with
  | start offset => exact Nat.le_succ offset
  | stop offset => exact Nat.le_refl offset

/-- The marks of a declaration with marks inside it. -/
def spanMarks (span : Span) (inside : List Mark) : List Mark :=
  .start span.start :: (inside ++ [.stop span.stop])

/-- The offsets of a declaration's marks are its start, its stop and those of the marks inside it. -/
theorem forall_mem_spanMarks {span : Span} {inside : List Mark} {edge : Nat → Prop} :
    (∀ m ∈ spanMarks span inside, edge m.offset) ↔
      edge span.start ∧ edge span.stop ∧ ∀ m ∈ inside, edge m.offset := by
  constructor
  · intro all
    refine ⟨all (.start span.start) List.mem_cons_self, all (.stop span.stop) (by simp [spanMarks]), ?_⟩
    exact fun m mem => all m (by simp [spanMarks, mem])
  · rintro ⟨start, stop, between⟩ m mem
    rcases List.mem_cons.mp mem with rfl | mem
    · exact start
    · rcases List.mem_append.mp mem with mem | mem
      · exact between m mem
      · cases List.mem_singleton.mp mem
        exact stop

mutual

/-- The marks of the declarations that are looked for in a piece of code. -/
def Code.marks : Code → List Mark
  | .name _ | .thisRef | .superRef | .semicolon => []
  | .text parts | .field parts | .call _ parts | .creation _ parts | .inlineBody parts | .group parts =>
    Code.marksAll parts
  | .callOn object _ between args => object.marks ++ (Code.marksAll between ++ Code.marksAll args)
  | .methodRef target _ parts => target.marks ++ Code.marksAll parts
  | .type _ _ _ members => Code.marksAll members
  | .method head _ body => spanMarks head.span (Code.marksAll body)
  | .ctor head _ _ redirectParts body =>
    spanMarks head.span (Code.marksAll redirectParts ++ Code.marksAll body)
  | .constant _ span _ parts => spanMarks span (Code.marksAll parts)

/-- The marks of pieces of code, one after the other. -/
def Code.marksAll : List Code → List Mark
  | [] => []
  | code :: rest => code.marks ++ Code.marksAll rest

end

/-- The marks of something at the top of a file. -/
def TopLevel.marks : TopLevel → List Mark
  | .package _ => []
  | .type _ _ _ members => Code.marksAll members

/-- The marks of a file. -/
def CompilationUnit.marks (unit : CompilationUnit) : List Mark :=
  unit.flatMap TopLevel.marks

/-- What is missing has no marks. -/
theorem flatMap_filterMap_id {α : Type} (f : α → List Mark) (found : List (Option α)) :
    (found.filterMap id).flatMap f = found.flatMap fun a => a.elim [] f := by
  induction found with
  | nil => rfl
  | cons first rest ih =>
    cases first with
    | none => exact ih
    | some a =>
      show f a ++ (rest.filterMap id).flatMap f = f a ++ rest.flatMap _
      rw [ih]

namespace Code

attribute [simp] marks marksAll

/-- The marks of pieces of code stand one after the other. -/
@[simp] theorem marksAll_append (a b : List Code) : marksAll (a ++ b) = marksAll a ++ marksAll b := by
  induction a with
  | nil => rfl
  | cons code rest ih => simp [ih]

@[simp] theorem marksAll_singleton (code : Code) : marksAll [code] = code.marks :=
  List.append_nil _

/-- So do those of a list. -/
theorem marksAll_eq_flatMap (codes : List Code) : marksAll codes = codes.flatMap marks := by
  induction codes with
  | nil => rfl
  | cons code rest ih => simp [ih]

@[simp] theorem marksAll_flatten (lists : List (List Code)) :
    marksAll lists.flatten = lists.flatMap marksAll := by
  induction lists with
  | nil => rfl
  | cons first rest ih => simp [ih]

@[simp] theorem marksAll_flatMap {α : Type} (f : α → List Code) (as : List α) :
    marksAll (as.flatMap f) = as.flatMap fun a => marksAll (f a) := by
  induction as with
  | nil => rfl
  | cons first rest ih => simp [ih]

/-- Names have no marks. -/
@[simp] theorem marksAll_names {α : Type} (f : α → String) (as : List α) :
    marksAll (as.map fun a => Code.name (f a)) = [] := by
  induction as with
  | nil => rfl
  | cons first rest ih => simpa using ih

/-- The marks of code that may be missing. -/
theorem marksAll_filterMap (codes : List (Option Code)) :
    marksAll (codes.filterMap id) = codes.flatMap fun code => code.elim [] marks := by
  rw [marksAll_eq_flatMap, flatMap_filterMap_id]

end Code

/-- A name that is left out has no marks. -/
@[simp] theorem Grammar.marksAll_withoutName (code : Code) :
    Code.marksAll (withoutName code) = code.marks := by
  cases code <;> simp [withoutName]

/-! ### Order -/

/-- The marks stand in order, between two offsets. -/
structure Between (lo hi : Nat) (ms : List Mark) : Prop where
  le : lo ≤ hi
  sorted : ms.Pairwise fun a b => a.next ≤ b.offset
  low : ∀ m ∈ ms, lo ≤ m.offset
  high : ∀ m ∈ ms, m.next ≤ hi

namespace Between

variable {lo mid hi : Nat} {a b : List Mark}

theorem nil (le : lo ≤ hi) : Between lo hi [] :=
  ⟨le, .nil, by simp, by simp⟩

/-- Marks can be left out. -/
theorem sublist (ordered : Between lo hi a) (fewer : b.Sublist a) : Between lo hi b where
  le := ordered.le
  sorted := ordered.sorted.sublist fewer
  low m mem := ordered.low m (fewer.subset mem)
  high m mem := ordered.high m (fewer.subset mem)

/-- Marks in two parts of the text, one behind the other, are in order together. -/
theorem append (first : Between lo mid a) (second : Between mid hi b) : Between lo hi (a ++ b) where
  le := Nat.le_trans first.le second.le
  sorted := by
    refine List.pairwise_append.mpr ⟨first.sorted, second.sorted, fun m mem n mem' => ?_⟩
    exact Nat.le_trans (first.high m mem) (second.low n mem')
  low := by
    intro m mem
    rcases List.mem_append.mp mem with mem | mem
    · exact first.low m mem
    · exact Nat.le_trans first.le (second.low m mem)
  high := by
    intro m mem
    rcases List.mem_append.mp mem with mem | mem
    · exact Nat.le_trans (first.high m mem) second.le
    · exact second.high m mem

/-- The part of the text may be larger. -/
theorem mono (ordered : Between lo mid a) (le : mid ≤ hi) : Between lo hi a := by
  simpa using ordered.append (nil le)

/-- The first of the later marks lies between the earlier ones and the later ones. -/
theorem split (ordered : Between lo hi (a ++ b)) :
    ∃ mid, Between lo mid a ∧ Between mid hi b := by
  have low : ∀ m ∈ a, lo ≤ m.offset := fun m mem => ordered.low m (List.mem_append_left b mem)
  obtain ⟨sorted, sorted', cross⟩ := List.pairwise_append.mp ordered.sorted
  cases b with
  | nil => exact ⟨hi, ordered.sublist (List.sublist_append_left a []), nil (Nat.le_refl hi)⟩
  | cons first rest =>
    have mem : first ∈ a ++ first :: rest := List.mem_append_right a List.mem_cons_self
    have high : first.offset ≤ hi := Nat.le_trans first.offset_le_next (ordered.high first mem)
    refine ⟨first.offset, ⟨ordered.low first mem, sorted, low, fun m mem' => ?_⟩,
      ⟨high, sorted', fun m mem' => ?_, fun m mem' => ordered.high m (List.mem_append_right a mem')⟩⟩
    · exact cross m mem' first List.mem_cons_self
    · rcases List.mem_cons.mp mem' with rfl | later
      · exact Nat.le_refl _
      · exact Nat.le_trans first.offset_le_next ((List.pairwise_cons.mp sorted').1 m later)

/-- The marks of a declaration hold its start and stop apart, with what is inside it between them. -/
theorem of_spanMarks {span : Span} (ordered : Between lo hi (spanMarks span a)) :
    lo ≤ span.start ∧ Between (span.start + 1) span.stop a ∧ span.stop ≤ hi := by
  have first := List.pairwise_cons.mp ordered.sorted
  obtain ⟨sorted, _, before⟩ := List.pairwise_append.mp first.2
  refine ⟨ordered.low _ List.mem_cons_self, ⟨?_, sorted, fun m mem => ?_, fun m mem => ?_⟩, ?_⟩
  · exact first.1 _ (List.mem_append_right a List.mem_cons_self)
  · exact first.1 m (List.mem_append_left _ mem)
  · exact before m mem _ List.mem_cons_self
  · exact ordered.high (.stop span.stop) (by simp [spanMarks])

end Between

/-- The marks stand in order between two offsets, at edges. -/
structure Marked (edge : Nat → Prop) (lo hi : Nat) (ms : List Mark) : Prop where
  between : Between lo hi ms
  edges : ∀ m ∈ ms, edge m.offset

namespace Marked

variable {edge : Nat → Prop} {lo mid hi : Nat} {a b : List Mark}

theorem nil (le : lo ≤ hi) : Marked edge lo hi [] :=
  ⟨.nil le, by simp⟩

theorem sublist (marked : Marked edge lo hi a) (fewer : b.Sublist a) : Marked edge lo hi b :=
  ⟨marked.between.sublist fewer, fun m mem => marked.edges m (fewer.subset mem)⟩

/-- Marks at edges in two parts of the text are marks at edges together. -/
theorem append (first : Marked edge lo mid a) (second : Marked edge mid hi b) :
    Marked edge lo hi (a ++ b) :=
  ⟨first.between.append second.between,
    fun m mem => (List.mem_append.mp mem).elim (first.edges m) (second.edges m)⟩

theorem mono (marked : Marked edge lo mid a) (le : mid ≤ hi) : Marked edge lo hi a :=
  ⟨marked.between.mono le, marked.edges⟩

end Marked

/-- The tokens stand in order from an offset on, each takes some text, and all offsets are edges. -/
def OrderedFrom (edge : Nat → Prop) : Nat → List Token → Prop
  | stop, [] => edge stop
  | stop, t :: rest =>
    edge stop ∧ stop ≤ t.start ∧ edge t.start ∧ t.start < t.stop ∧ OrderedFrom edge t.stop rest

/-- Ordered tokens start from an edge. -/
theorem OrderedFrom.edge {edge : Nat → Prop} {stop : Nat} {ts : List Token}
    (ordered : OrderedFrom edge stop ts) : edge stop := by
  cases ts with
  | nil => exact ordered
  | cons t rest => exact ordered.1

namespace Parser

variable {α β : Type} {u : List Mark} {p q : Parser α} {f : α → Parser β} {v : β → List Mark}
  {w : α → List Mark}

/-- From a place with the marks `u` before it, the parser comes to a place with the marks `w` of its
result before it. -/
def InOrder (u : List Mark) (p : Parser α) (w : α → List Mark) : Prop :=
  ∀ (edge : Nat → Prop) (lo : Nat) (before after : Cursor) (a : α),
    OrderedFrom edge before.stop before.rest → Marked edge lo before.stop u →
    p before = some (a, after) →
    OrderedFrom edge after.stop after.rest ∧ after.rest <:+ before.rest ∧
      Marked edge lo after.stop (w a)

/-- The parser keeps the order of the text, and its result has no marks. -/
abbrev Passes (p : Parser α) : Prop := InOrder [] p fun _ => []

/-- What two parsers read one after the other, the second one reads from where the first has come to. -/
theorem bind_eq_some {before after : Cursor} {b : β} (read : (p >>= f) before = some (b, after)) :
    ∃ a between, p before = some (a, between) ∧ f a between = some (b, after) := by
  obtain ⟨⟨a, between⟩, first, second⟩ := Option.bind_eq_some_iff.mp read
  exact ⟨a, between, first, second⟩

/-- What an alternative reads, one of its parts reads from the same place. -/
theorem orElse_eq_some {before after : Cursor} {a : α} (read : (p <|> q) before = some (a, after)) :
    p before = some (a, after) ∨ q before = some (a, after) := by
  have either : (p before <|> q before) = some (a, after) := read
  cases readFirst : p before with
  | none =>
    rw [readFirst] at either
    exact Or.inr either
  | some found =>
    rw [readFirst] at either
    exact Or.inl either

/-! ### Tokens -/

/-- The parser takes one token. -/
def TakesToken (p : Parser α) : Prop :=
  ∀ (before after : Cursor) (a : α), p before = some (a, after) →
    ∃ t, before.rest = t :: after.rest ∧ after.stop = t.stop

/-- A token with a property is a token. -/
theorem takesToken_satisfy (test : Token → Bool) : TakesToken (satisfy test) := by
  intro before after t read
  unfold satisfy at read
  split at read
  · rename_i first rest same
    split at read
    · cases read
      exact ⟨t, same, rfl⟩
    · cases read
  · cases read

/-- So is a word. -/
theorem takesToken_wordExcept (ws : List String) : TakesToken (wordExcept ws) := by
  intro before after word read
  unfold wordExcept at read
  split at read
  · rename_i first rest same
    split at read
    · split at read
      · cases read
      · cases read
        exact ⟨first, same, rfl⟩
    · cases read
  · cases read

/-- A token moves the place forward and has no marks. -/
theorem TakesToken.passes (takes : TakesToken p) : Passes p := by
  intro edge lo before after a ordered marked read
  obtain ⟨t, same, stop⟩ := takes before after a read
  rw [same] at ordered ⊢
  obtain ⟨_, apart, _, long, later⟩ := ordered
  rw [stop]
  exact ⟨later, List.suffix_cons _ _, marked.mono (by omega)⟩

theorem passes_symbol (s : String) : Passes (symbol s) := (takesToken_satisfy _).passes

theorem passes_keyword (w : String) : Passes (keyword w) := (takesToken_satisfy _).passes

theorem passes_anyKeyword (ws : List String) : Passes (anyKeyword ws) := (takesToken_satisfy _).passes

theorem passes_looking (test : List Token → Bool) : Passes (looking test) := by
  intro edge lo before after b ordered marked read
  cases read
  exact ⟨ordered, List.suffix_refl _, marked⟩

theorem passes_require (test : List Token → Bool) : Passes (require test) := by
  intro edge lo before after _ ordered marked read
  unfold require at read
  split at read
  · cases read
    exact ⟨ordered, List.suffix_refl _, marked⟩
  · cases read

namespace InOrder

/-! ### One parser after the other -/

theorem pure {a : α} (same : w a = u) : InOrder u (Pure.pure a) w := by
  intro edge lo before after a ordered marked read
  cases read
  exact ⟨ordered, List.suffix_refl _, same ▸ marked⟩

/-- The marks of the first result are those before the second parser. -/
theorem trans (first : InOrder u p w) (second : ∀ a, InOrder (w a) (f a) v) :
    InOrder u (p >>= f) v := by
  intro edge lo before after b ordered marked read
  obtain ⟨a, between, readFirst, readSecond⟩ := bind_eq_some read
  obtain ⟨ordered', suffix, marked'⟩ := first edge lo before between a ordered marked readFirst
  obtain ⟨ordered'', suffix', marked''⟩ := second a edge lo between after b ordered' marked' readSecond
  exact ⟨ordered'', suffix'.trans suffix, marked''⟩

/-- What was read before stays before. -/
theorem frame (inOrder : InOrder [] p w) (u : List Mark) : InOrder u p fun a => u ++ w a := by
  intro edge lo before after a ordered marked read
  -- from the place it starts at, the parser has no marks in front of it
  obtain ⟨ordered', suffix, marked'⟩ :=
    inOrder edge before.stop before after a ordered (.nil (Nat.le_refl _)) read
  exact ⟨ordered', suffix, marked.append marked'⟩

/-- The second parser starts behind the marks of the first result as well as those before it. -/
theorem bind (first : InOrder [] p w) (second : ∀ a, InOrder (u ++ w a) (f a) v) :
    InOrder u (p >>= f) v :=
  (first.frame u).trans second

/-- Marks can be left out. -/
theorem weaken {w' : α → List Mark} (inOrder : InOrder u p w) (fewer : ∀ a, (w' a).Sublist (w a)) :
    InOrder u p w' := by
  intro edge lo before after a ordered marked read
  obtain ⟨ordered', suffix, marked'⟩ := inOrder edge lo before after a ordered marked read
  exact ⟨ordered', suffix, marked'.sublist (fewer a)⟩

/-- What was read before need not count. -/
theorem drop (inOrder : InOrder [] p w) (u : List Mark) : InOrder u p w :=
  (inOrder.frame u).weaken fun _ => List.sublist_append_right _ _

theorem passes (inOrder : InOrder [] p w) : Passes p :=
  inOrder.weaken fun _ => List.nil_sublist _

/-- A parser the marks of whose result do not matter. -/
theorem step (first : InOrder [] p w) (second : ∀ a, InOrder u (f a) v) : InOrder u (p >>= f) v :=
  first.passes.bind fun a => by simpa using second a

/-- The marks of a list of codes are those of its members. -/
theorem codes {p : Parser (List Code)} (inOrder : InOrder u p fun all => all.flatMap Code.marks) :
    InOrder u p Code.marksAll := by
  have same : Code.marksAll = fun all => all.flatMap Code.marks := by
    funext all
    exact Code.marksAll_eq_flatMap all
  rw [same]
  exact inOrder

theorem map {g : α → β} (inOrder : InOrder u p fun a => v (g a)) : InOrder u (g <$> p) v :=
  inOrder.trans fun _ => pure rfl

theorem failure : InOrder u (Alternative.failure : Parser α) w := by
  intro edge lo before after a ordered marked read
  cases read

/-- Both parts of an alternative have to keep the order. -/
theorem orElse (first : InOrder u p w) (second : InOrder u q w) : InOrder u (p <|> q) w := by
  intro edge lo before after a ordered marked read
  -- a parser that fails leaves the place alone, so the second one starts where the first did
  rcases orElse_eq_some read with here | there
  · exact first edge lo before after a ordered marked here
  · exact second edge lo before after a ordered marked there

/-- The offset of the place is a mark behind all others. -/
theorem getStop {g : Cursor → Parser β} (inOrder : ∀ c, InOrder (u ++ [.stop c.stop]) (g c) v) :
    InOrder u (get >>= g) v := by
  intro edge lo before after b ordered marked read
  have here : Marked edge before.stop before.stop [.stop before.stop] :=
    ⟨⟨Nat.le_refl _, List.pairwise_singleton _ _, by simp [Mark.offset], by simp [Mark.next]⟩,
      by simpa [Mark.offset] using ordered.edge⟩
  exact inOrder before edge lo before after b ordered (marked.append here) read

theorem get {g : Cursor → Parser β} (inOrder : ∀ c, InOrder u (g c) v) :
    InOrder u (MonadState.get >>= g) v := by
  intro edge lo before after b ordered marked read
  exact inOrder before edge lo before after b ordered marked read

/-! ### Loops -/

theorem maybe (inOrder : InOrder [] p w) : InOrder [] (maybe p) fun found => found.elim [] w :=
  orElse (map inOrder) (pure rfl)

/-- What is not there has no marks. -/
theorem optionalList {p : Parser (List α)} {w : List α → List Mark} (inOrder : InOrder [] p w)
    (none : w [] = []) : InOrder [] (optionalList p) w :=
  orElse inOrder (pure none)

/-- A round starts behind the marks of the earlier ones. -/
theorem manyFor (inOrder : InOrder [] p w) (rounds : List Token) :
    InOrder [] (manyFor p rounds) fun all => all.flatMap w := by
  induction rounds with
  | nil => exact pure rfl
  | cons _ rounds ih =>
    refine bind (maybe inOrder) fun found => ?_
    cases found with
    | none => exact pure rfl
    | some a => exact bind ih fun more => pure (by simp)

theorem many (inOrder : InOrder [] p w) : InOrder [] (many p) fun all => all.flatMap w :=
  get fun _ => manyFor inOrder _

theorem many1 (inOrder : InOrder [] p w) : InOrder [] (many1 p) fun all => all.flatMap w :=
  bind inOrder fun _ => bind (many inOrder) fun _ => pure (by simp)

theorem separated1 (s : String) (inOrder : InOrder [] p w) :
    InOrder [] (separated1 s p) fun all => all.flatMap w := by
  have further : InOrder [] (do let _ ← symbol s; p) w := step (passes_symbol s) fun _ => inOrder
  exact bind inOrder fun _ => bind (many further) fun _ => pure (by simp)

theorem separated (s : String) (inOrder : InOrder [] p w) :
    InOrder [] (separated s p) fun all => all.flatMap w :=
  optionalList (separated1 s inOrder) rfl

/-- A round that extends what has been read starts behind its marks. -/
theorem extendFor {grow : α → Parser α} (inOrder : ∀ a, InOrder (w a) (grow a) w)
    (rounds : List Token) (a : α) : InOrder (w a) (extendFor grow rounds a) w := by
  induction rounds generalizing a with
  | nil => exact pure rfl
  | cons _ rounds ih =>
    -- a round that fails gives back what was there before it
    have round : InOrder (w a) (Parser.maybe (grow a)) fun found => found.elim (w a) w :=
      orElse (map (inOrder a)) (pure rfl)
    refine trans round fun found => ?_
    cases found with
    | none => exact pure rfl
    | some b => exact ih b

theorem extend {grow : α → Parser α} (inOrder : ∀ a, InOrder (w a) (grow a) w) (a : α) :
    InOrder (w a) (extend grow a) w :=
  get fun _ => extendFor inOrder _ a

theorem spelled (inOrder : InOrder [] p w) : InOrder [] (spelled p) fun read => w read.1 :=
  get fun _ => bind inOrder fun _ => get fun _ => pure (by simp)

theorem between (opening closing : String) (inOrder : InOrder [] p w) :
    InOrder [] (Grammar.between opening closing p) w :=
  step (passes_symbol opening) fun _ => trans inOrder fun _ => step (passes_symbol closing) fun _ =>
    pure rfl

theorem parens (inOrder : InOrder [] p w) : InOrder [] (Grammar.parens p) w := between _ _ inOrder

theorem braces (inOrder : InOrder [] p w) : InOrder [] (Grammar.braces p) w := between _ _ inOrder

theorem bracedList (inOrder : InOrder [] p w) :
    InOrder [] (Grammar.bracedList p) fun all => all.flatMap w :=
  braces (trans (separated "," inOrder) fun _ => step (maybe (passes_symbol ",")) fun _ => pure rfl)

end InOrder

/-! ### The start of a declaration -/

/-- No token starts before the place that it is ahead of. -/
theorem le_start_of_ordered {edge : Nat → Prop} {stop : Nat} {ts : List Token}
    (ordered : OrderedFrom edge stop ts) : ∀ t ∈ ts, stop ≤ t.start := by
  induction ts generalizing stop with
  | nil => simp
  | cons first rest ih =>
    obtain ⟨_, apart, _, long, later⟩ := ordered
    intro t mem
    rcases List.mem_cons.mp mem with rfl | mem
    · exact apart
    · have := ih later t mem
      omega

/-- The parser keeps the order of the text when a declaration starts at `start`, an edge which no token that
is left lies in front of. -/
def InOrderFrom (start : Nat) (u : List Mark) (p : Parser α) (w : α → List Mark) : Prop :=
  ∀ (edge : Nat → Prop) (lo : Nat) (before after : Cursor) (a : α),
    OrderedFrom edge before.stop before.rest → Marked edge lo before.stop u → edge start → lo ≤ start →
    (∀ t ∈ before.rest, start ≤ t.start) → p before = some (a, after) →
    OrderedFrom edge after.stop after.rest ∧ after.rest <:+ before.rest ∧
      Marked edge lo after.stop (w a)

/-- A parser that does not use the start of a declaration need not be told. -/
theorem InOrder.withStart (inOrder : InOrder u p w) (start : Nat) : InOrderFrom start u p w := by
  intro edge lo before after a ordered marked _ _ _ read
  exact inOrder edge lo before after a ordered marked read

/-- The offset of the next token is where a declaration starts. -/
theorem InOrder.offset {g : Nat → Parser β} (inOrder : ∀ start, InOrderFrom start u (g start) v) :
    InOrder u (offset >>= g) v := by
  intro edge lo before after b ordered marked read
  obtain ⟨start, between, readFirst, readSecond⟩ := bind_eq_some read
  unfold Parser.offset at readFirst
  split at readFirst
  · rename_i first rest same
    cases readFirst
    have tokens := ordered
    rw [same] at tokens
    obtain ⟨_, apart, edge', long, later⟩ := tokens
    refine inOrder first.start edge lo before after b ordered marked edge' ?_ ?_ readSecond
    · exact Nat.le_trans marked.between.le apart
    · rw [same]
      intro t mem
      rcases List.mem_cons.mp mem with rfl | mem
      · exact Nat.le_refl _
      · exact Nat.le_trans (Nat.le_of_lt long) (le_start_of_ordered later t mem)
  · cases readFirst

namespace InOrderFrom

variable {start : Nat}

theorem bind (first : InOrder [] p w) (second : ∀ a, InOrderFrom start (u ++ w a) (f a) v) :
    InOrderFrom start u (p >>= f) v := by
  intro edge lo before after b ordered marked isEdge le ahead read
  obtain ⟨a, between, readFirst, readSecond⟩ := bind_eq_some read
  obtain ⟨ordered', suffix, marked'⟩ := first.frame u edge lo before between a ordered marked readFirst
  obtain ⟨ordered'', suffix', marked''⟩ := second a edge lo between after b ordered' marked' isEdge le
    (fun t mem => ahead t (suffix.subset mem)) readSecond
  exact ⟨ordered'', suffix'.trans suffix, marked''⟩

theorem step (first : InOrder [] p w) (second : ∀ a, InOrderFrom start u (f a) v) :
    InOrderFrom start u (p >>= f) v :=
  bind first.passes fun a => by simpa using second a

theorem trans (first : InOrderFrom start u p w) (second : ∀ a, InOrder (w a) (f a) v) :
    InOrderFrom start u (p >>= f) v := by
  intro edge lo before after b ordered marked isEdge le ahead read
  obtain ⟨a, between, readFirst, readSecond⟩ := bind_eq_some read
  obtain ⟨ordered', suffix, marked'⟩ := first edge lo before between a ordered marked isEdge le ahead readFirst
  obtain ⟨ordered'', suffix', marked''⟩ := second a edge lo between after b ordered' marked' readSecond
  exact ⟨ordered'', suffix'.trans suffix, marked''⟩

theorem orElse (first : InOrderFrom start u p w) (second : InOrderFrom start u q w) :
    InOrderFrom start u (p <|> q) w := by
  intro edge lo before after a ordered marked isEdge le ahead read
  rcases orElse_eq_some read with here | there
  · exact first edge lo before after a ordered marked isEdge le ahead here
  · exact second edge lo before after a ordered marked isEdge le ahead there

/-- Behind its first token, a declaration has its start for a mark, and what was read in front of it no
longer counts. -/
theorem first (takes : TakesToken p) (second : ∀ a, InOrder [.start start] (f a) v) :
    InOrderFrom start u (p >>= f) v := by
  intro edge lo before after b ordered marked isEdge le ahead read
  obtain ⟨a, between, readFirst, readSecond⟩ := bind_eq_some read
  obtain ⟨t, same, stop⟩ := takes before between a readFirst
  rw [same] at ordered ahead
  obtain ⟨_, apart, _, long, later⟩ := ordered
  have ahead' : start ≤ t.start := ahead t List.mem_cons_self
  -- the token takes some text, so it stops behind the start
  have behind : start + 1 ≤ between.stop := by omega
  have marked' : Marked edge lo between.stop [.start start] :=
    ⟨⟨by omega, List.pairwise_singleton _ _, by simpa [Mark.offset] using le,
      by simpa [Mark.next] using behind⟩, by simpa [Mark.offset] using isEdge⟩
  rw [← stop] at later
  obtain ⟨ordered'', suffix', marked''⟩ := second a edge lo between after b later marked' readSecond
  rw [same]
  exact ⟨ordered'', suffix'.trans (List.suffix_cons _ _), marked''⟩

end InOrderFrom

end Parser

end DefectGraph.Java
