import DefectGraph.Source.Reader
import DefectGraph.Proofs.Layout.Statements

/-!
# Declarations are nested as the source text is

The walk over the code of a file passes the nearest method or constructor down to the declarations
inside it. Where the marks of the code stand in order, this is the innermost method or constructor whose
part of the text holds the declaration.

## Main Definitions

* `Declaration.Surrounds` - a method or constructor takes more of the text than a declaration inside it.
* `Innermost` - the nearest of the methods and constructors around a declaration.
* `Nested` - what the walk finds between two offsets.

## Main Statements

* `nested_invariant` - code whose marks stand in order is outlined as it is nested.
* `Tree.nested_ofUnit` - so are whole files.

## Design Notes

`Nested` is stated between two offsets and with the declaration around, so that the outline of a list of
pieces of code is nested when each piece is, in its own stretch of the text. It is proved as a
`WalkInvariant`: there is one obligation for each step of the walk, and none of them is an induction.
-/

namespace DefectGraph.Source

open DefectGraph.Java (Code CompilationUnit Between spanMarks)

/-! ### One part of the text inside another -/

/-- The span lies in another one and is not all of it. -/
def Span.StrictlyIn (inner outer : Span) : Prop :=
  outer.start ≤ inner.start ∧ inner.stop ≤ outer.stop ∧ inner ≠ outer

/-- The declaration is a method or constructor, and the other one stands inside it. -/
def Declaration.Surrounds (e d : Declaration) : Prop :=
  e.isCallable = true ∧ d.span.StrictlyIn e.span

/-- What is strictly inside something inside is strictly inside. -/
theorem Span.StrictlyIn.trans {a b c : Span} (first : a.StrictlyIn b) (second : b.StrictlyIn c) :
    a.StrictlyIn c := by
  refine ⟨Nat.le_trans second.1 first.1, Nat.le_trans first.2.1 second.2.1, ?_⟩
  rintro rfl
  -- each of the two would lie in the other
  have start : a.start = b.start := Nat.le_antisymm second.1 first.1
  have stop : a.stop = b.stop := Nat.le_antisymm first.2.1 second.2.1
  exact first.2.2 (by cases a; cases b; simp_all)

namespace Declaration.Surrounds

variable {a b c : Declaration}

@[simp]
theorem irrefl : ¬ a.Surrounds a := fun itself => itself.2.2.2 rfl

theorem trans (first : a.Surrounds b) (second : b.Surrounds c) : a.Surrounds c :=
  ⟨first.1, second.2.trans first.2⟩

/-- No two declarations surround each other. -/
theorem asymm (first : a.Surrounds b) : ¬ b.Surrounds a := fun second => irrefl (first.trans second)

theorem start_le (around : a.Surrounds b) : a.span.start ≤ b.span.start := around.2.1

theorem stop_le (around : a.Surrounds b) : b.span.stop ≤ a.span.stop := around.2.2.1

end Declaration.Surrounds

/-- Of the declarations, `e` is the nearest method or constructor around `d`. -/
structure Innermost (ds : List Declaration) (e d : Declaration) : Prop where
  mem : e ∈ ds
  surrounds : e.Surrounds d
  nearest : ∀ other ∈ ds, other.Surrounds d → other = e ∨ other.Surrounds e

/-- There is one innermost declaration around another one. -/
theorem Innermost.unique {ds : List Declaration} {d e e' : Declaration} (first : Innermost ds e d)
    (second : Innermost ds e' d) : e = e' := by
  rcases first.nearest e' second.mem second.surrounds with same | outside
  · exact same.symm
  · rcases second.nearest e first.mem first.surrounds with same | outside'
    · exact same
    · exact absurd outside' outside.asymm

/-- The enclosing declaration of `d` is the nearest one around it, or `outer` when none is. -/
def EnclosedIn (outer : Option DeclId) (ds : List Declaration) (d : Declaration) : Prop :=
  (d.enclosing = outer ∧ ∀ e ∈ ds, ¬ e.Surrounds d) ∨
    ∃ e, Innermost ds e d ∧ d.enclosing = some e.id

/-- Declarations that do not surround it make no difference. -/
theorem EnclosedIn.extend {outer : Option DeclId} {ds more : List Declaration} {d : Declaration}
    (enclosed : EnclosedIn outer ds d) (kept : ∀ e ∈ ds, e ∈ more)
    (new : ∀ e ∈ more, e.Surrounds d → e ∈ ds) : EnclosedIn outer more d := by
  rcases enclosed with ⟨same, outside⟩ | ⟨e, innermost, same⟩
  · exact Or.inl ⟨same, fun e mem around => outside e (new e mem around) around⟩
  · refine Or.inr ⟨e, ⟨kept e innermost.mem, innermost.surrounds, ?_⟩, same⟩
    intro other mem around
    exact innermost.nearest other (new other mem around) around

/-! ### What the walk finds between two offsets -/

/-- The declarations stand in order between two offsets, each with the nearest one around it. -/
structure Nested (outer : Option DeclId) (lo hi : Nat) (ds : List Declaration) : Prop where
  within : ∀ d ∈ ds, lo ≤ d.span.start ∧ d.span.start < d.span.stop ∧ d.span.stop ≤ hi
  starts : ds.Pairwise fun a b => a.span.start < b.span.start
  enclosed : ∀ d ∈ ds, EnclosedIn outer ds d

namespace Nested

variable {outer : Option DeclId} {lo mid hi : Nat} {a b inside : List Declaration}

theorem empty : Nested outer lo hi [] :=
  ⟨by simp, .nil, by simp⟩

/-- Declarations in two parts of the text, one behind the other, are nested together. -/
theorem append (first : Nested outer lo mid a) (second : Nested outer mid hi b) (low : lo ≤ mid)
    (high : mid ≤ hi) : Nested outer lo hi (a ++ b) where
  within := by
    intro d mem
    rcases List.mem_append.mp mem with mem | mem
    · have := first.within d mem
      omega
    · have := second.within d mem
      omega
  starts := by
    refine List.pairwise_append.mpr ⟨first.starts, second.starts, fun d mem e mem' => ?_⟩
    have := first.within d mem
    have := second.within e mem'
    omega
  enclosed := by
    -- the two parts are apart, so nothing in one surrounds anything in the other
    intro d mem
    rcases List.mem_append.mp mem with mem | mem
    · refine (first.enclosed d mem).extend (fun e => List.mem_append_left b) fun e mem' around => ?_
      refine (List.mem_append.mp mem').resolve_right fun later => ?_
      have := first.within d mem
      have := second.within e later
      have := around.start_le
      omega
    · refine (second.enclosed d mem).extend (fun e => List.mem_append_right a) fun e mem' around => ?_
      refine (List.mem_append.mp mem').resolve_left fun earlier => ?_
      have := second.within d mem
      have := first.within e earlier
      have := around.stop_le
      omega

variable {d : Declaration}

/-- What is inside a declaration starts after it. -/
theorem starts_cons {inner : Option DeclId}
    (nested : Nested inner (d.span.start + 1) d.span.stop inside) :
    (d :: inside).Pairwise fun a b => a.span.start < b.span.start :=
  List.pairwise_cons.mpr ⟨fun e mem => (nested.within e mem).1, nested.starts⟩

/-- What is inside a declaration lies where the declaration lies. -/
theorem within_cons {inner : Option DeclId}
    (nested : Nested inner (d.span.start + 1) d.span.stop inside) (low : lo ≤ d.span.start)
    (long : d.span.start < d.span.stop) (high : d.span.stop ≤ hi) :
    ∀ e ∈ d :: inside, lo ≤ e.span.start ∧ e.span.start < e.span.stop ∧ e.span.stop ≤ hi := by
  intro e mem
  rcases List.mem_cons.mp mem with rfl | mem
  · exact ⟨low, long, high⟩
  · have := nested.within e mem
    omega

/-- Nothing inside a declaration surrounds it. -/
theorem outside_cons {inner : Option DeclId}
    (nested : Nested inner (d.span.start + 1) d.span.stop inside) :
    ∀ e ∈ d :: inside, ¬ e.Surrounds d := by
  intro e mem around
  rcases List.mem_cons.mp mem with rfl | mem
  · exact Declaration.Surrounds.irrefl around
  · have := nested.within e mem
    have := around.start_le
    omega

/-- A method or constructor is the enclosing declaration of what stands directly inside it. -/
theorem callable (isCallable : d.isCallable = true) (enclosing : d.enclosing = outer)
    (nested : Nested (some d.id) (d.span.start + 1) d.span.stop inside) (low : lo ≤ d.span.start)
    (long : d.span.start < d.span.stop) (high : d.span.stop ≤ hi) :
    Nested outer lo hi (d :: inside) where
  within := nested.within_cons low long high
  starts := nested.starts_cons
  enclosed := by
    have around : ∀ e ∈ inside, d.Surrounds e := by
      intro e mem
      have place := nested.within e mem
      refine ⟨isCallable, by omega, place.2.2, fun same => ?_⟩
      rw [same] at place
      omega
    intro e mem
    rcases List.mem_cons.mp mem with rfl | mem
    · exact Or.inl ⟨enclosing, nested.outside_cons⟩
    · right
      rcases nested.enclosed e mem with ⟨same, outside⟩ | ⟨nearest, innermost, same⟩
      · refine ⟨d, ⟨List.mem_cons_self, around e mem, fun other mem' around' => ?_⟩, same⟩
        rcases List.mem_cons.mp mem' with rfl | mem'
        · exact Or.inl rfl
        · exact absurd around' (outside other mem')
      · refine ⟨nearest, ⟨List.mem_cons_of_mem _ innermost.mem, innermost.surrounds, ?_⟩, same⟩
        intro other mem' around'
        rcases List.mem_cons.mp mem' with rfl | mem'
        · exact Or.inr (around nearest innermost.mem)
        · exact innermost.nearest other mem' around'

/-- An enum constant is not the enclosing declaration of anything. -/
theorem constant (isConstant : d.isCallable = false) (enclosing : d.enclosing = outer)
    (nested : Nested outer (d.span.start + 1) d.span.stop inside) (low : lo ≤ d.span.start)
    (long : d.span.start < d.span.stop) (high : d.span.stop ≤ hi) :
    Nested outer lo hi (d :: inside) where
  within := nested.within_cons low long high
  starts := nested.starts_cons
  enclosed := by
    intro e mem
    rcases List.mem_cons.mp mem with rfl | mem
    · exact Or.inl ⟨enclosing, nested.outside_cons⟩
    · refine (nested.enclosed e mem).extend (fun x => List.mem_cons_of_mem d) fun x mem' around => ?_
      refine (List.mem_cons.mp mem').resolve_left ?_
      rintro rfl
      exact absurd around.1 (by simp [isConstant])

end Nested

/-! ### The walk -/

/-- The marks of plain code are those of its parts. -/
theorem marks_of_isPlain {code : Code} (plain : code.isPlain = true) :
    code.marks = Code.marksAll code.parts := by
  cases code with
  | inlineBody | type | method | ctor | constant => cases plain
  | _ => simp [Code.parts]

/-- The marks of a method or constructor are those of its extent, with those of its body between them. -/
theorem marks_of_callable {code : Code} {kind : DeclKind} {head : Java.Head}
    (callable : code.callable? = some (kind, head)) :
    code.marks = spanMarks head.span (Code.marksAll code.body) := by
  cases code with
  | method | ctor =>
    cases callable
    simp [Code.body]
  | _ => cases callable

/-- Code whose marks stand in order is outlined as it is nested. -/
theorem nested_invariant : WalkInvariant fun p _ codes o _ =>
    ∀ lo hi, Between lo hi (Code.marksAll codes) → Nested p.enclosing lo hi o.decls where
  nil _ _ _ _ _ := .empty
  append := by
    intro p n m k _ _ a b first second lo hi ordered
    rw [Code.marksAll_append] at ordered
    obtain ⟨mid, before, behind⟩ := ordered.split
    exact (first lo mid before).append (second mid hi behind) before.le behind.le
  plain := by
    intro p n m code o plain parts lo hi ordered
    rw [Code.marksAll_singleton, marks_of_isPlain plain] at ordered
    exact parts lo hi ordered
  inlineBody := by
    intro p n m _ inside members lo hi ordered
    rw [Code.marksAll_singleton] at ordered
    exact members lo hi ordered
  namedType := by
    intro p n m _ inside name typeParams header members lo hi ordered
    rw [Code.marksAll_singleton] at ordered
    exact members lo hi ordered
  callable := by
    intro p n m code inside kind head callable inner lo hi ordered
    rw [Code.marksAll_singleton, marks_of_callable callable] at ordered
    obtain ⟨low, between, high⟩ := Between.of_spanMarks ordered
    have isCallable : (callableAt p n.decls kind head (p.referencesOf n m code)).isCallable = true := by
      cases code <;> first | cases callable; rfl | cases callable
    exact .callable isCallable rfl (inner _ _ between) low between.le high
  constant := by
    intro p n m _ inside name span header inner lo hi ordered
    rw [Code.marksAll_singleton] at ordered
    obtain ⟨low, between, high⟩ := Between.of_spanMarks ordered
    exact .constant rfl rfl (inner _ _ between) low between.le high

/-- A file whose marks stand in order is outlined as it is nested. -/
theorem nested_unitInvariant : UnitInvariant fun _ unit o _ =>
    ∀ lo hi, Between lo hi unit.marks → Nested none lo hi o.decls where
  nil _ _ _ _ := .empty
  package _ rest := rest
  type := by
    intro n m k members rest inside others package name typeParams header found later lo hi ordered
    obtain ⟨mid, before, behind⟩ := Between.split ordered
    have walked := nested_invariant.outlineAll (.top package n.scopes name typeParams)
      (n.enter header) members
    rw [found] at walked
    exact (walked lo mid before).append (later mid hi behind) before.le behind.le

/-- The declarations of a file are nested as its marks are ordered. -/
theorem Tree.nested_ofUnit (source : String) {unit : CompilationUnit} {stop : Nat}
    (ordered : Between 0 stop unit.marks) : Nested none 0 stop (Tree.ofUnit source unit).decls :=
  (nested_unitInvariant.outlineUnit "" .start unit).choose_spec 0 stop ordered

end DefectGraph.Source
