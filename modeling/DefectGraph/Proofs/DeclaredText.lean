import DefectGraph.Proofs.Nesting
import DefectGraph.Proofs.Utf8

/-!
# The text of a declaration

A declaration takes the part of the source text between the offsets at which it starts and stops. The
offsets count bytes, and a part of a text can only be taken between characters: a declaration whose extent
cuts a character, or lies outside the text, has no text at all. The grammar never gives such an extent,
since its declarations start and stop where tokens do.

## Main Definitions

* `Span.IsIn` - the extent is a part of a text.
* `Reader.KeepsRanges` - the declarations of all trees that a reader makes are parts of their texts.

## Main Statements

* `Utf8.isBoundary_of_isEdge` - an offset between characters is one between their bytes.
* `edges_invariant` - declarations start and stop where the marks of the code are.
* `Reader.grammar_keepsRanges` - the grammar gives declarations extents that are parts of the text.

## Design Notes

`Reader.KeepsRanges` is the one fact about extents that a run depends on. It says nothing about how
declarations are nested, so it is to be had from any reader that reports where it is in the text, also one
that recovers from syntax errors.
-/

namespace DefectGraph.Text.Utf8

/-! ### Boundaries of characters -/

/-- The first byte of a character cannot follow another one. -/
theorem isContinuation_encodeChar (c : Char) :
    ∃ b tail, String.utf8EncodeChar c = b :: tail ∧ isContinuation b = false := by
  obtain ⟨b, tail, bytes, read⟩ := piece_encodeChar c []
  refine ⟨b, tail, bytes, ?_⟩
  -- a piece that starts with a continuation byte is ill formed
  by_contra continuation
  rw [Bool.not_eq_false, isContinuation, continues, Bool.and_eq_true, decide_eq_true_iff,
    decide_eq_true_iff] at continuation
  have large : ¬ b < 0x80 := by
    rw [UInt8.not_lt]
    exact continuation.1
  have small : b < 0xC2 := UInt8.lt_of_le_of_lt continuation.2 (by decide)
  rw [piece, if_neg large, if_pos small] at read
  cases read

/-- The bytes of characters are as many as their lengths say. -/
theorem length_flatMap_encodeChar (cs : List Char) :
    (cs.flatMap String.utf8EncodeChar).length = Java.byteLength cs := by
  induction cs with
  | nil => rfl
  | cons c rest ih =>
    rw [List.flatMap_cons, List.length_append, ih, Java.byteLength_cons, String.length_utf8EncodeChar]

/-- An offset between two characters of a text is one between their bytes. -/
theorem isBoundary_of_isEdge {text : String} {offset : Nat} (edge : Java.IsEdge text.toList offset) :
    isBoundary (encode text) offset = true := by
  obtain ⟨before, after, whole, rfl⟩ := edge
  rw [encode_eq_flatMap, ← whole, List.flatMap_append, isBoundary, ← length_flatMap_encodeChar,
    List.getElem?_append_right (Nat.le_refl _), Nat.sub_self]
  cases after with
  | nil => simp
  | cons c rest =>
    obtain ⟨b, tail, bytes, first⟩ := isContinuation_encodeChar c
    rw [List.flatMap_cons, bytes]
    simp [first]

end DefectGraph.Text.Utf8

namespace DefectGraph.Source

open DefectGraph.Java (Code CompilationUnit IsEdge)
open DefectGraph.Text

/-! ### Extents -/

/-- The extent is a part of the text: it starts and stops between characters. -/
def Span.IsIn (span : Span) (text : String) : Prop :=
  span.start ≤ span.stop ∧ Utf8.isBoundary (Utf8.encode text) span.start = true ∧
    Utf8.isBoundary (Utf8.encode text) span.stop = true

/-- The declarations of all trees that the reader makes are parts of their texts. -/
def Reader.KeepsRanges (reader : Reader) : Prop :=
  ∀ text tree, reader.read text = some tree → ∀ d ∈ tree.decls, d.span.IsIn text

/-- The bytes of a declaration that is a part of the text are those of its extent. -/
theorem Tree.bytesOf_of_isIn {t : Tree} {id : DeclId} {d : Declaration} (found : t.decl? id = some d)
    (isIn : d.span.IsIn t.source) :
    t.bytesOf id =
      ((Utf8.encode t.source).drop d.span.start).take (d.span.stop - d.span.start) := by
  obtain ⟨ordered, start, stop⟩ := isIn
  simp only [bytesOf, found]
  rw [Utf8.slice?, if_pos ⟨ordered, start, stop⟩, Option.getD_some]

/-! ### Extents that the grammar gives -/

/-- Declarations start and stop where the marks of the code are. -/
theorem edges_invariant (edge : Nat → Prop) : WalkInvariant fun _ _ codes o _ =>
    (∀ m ∈ Code.marksAll codes, edge m.offset) →
      ∀ d ∈ o.decls, edge d.span.start ∧ edge d.span.stop where
  nil _ _ _ _ present := by cases present
  append := by
    intro p n m k _ _ a b first second marks d declared
    rw [Code.marksAll_append] at marks
    rcases List.mem_append.mp declared with here | later
    · exact first (fun m mem => marks m (List.mem_append_left _ mem)) d here
    · exact second (fun m mem => marks m (List.mem_append_right _ mem)) d later
  plain := by
    intro p n m code o plain parts marks
    rw [Code.marksAll_singleton, marks_of_isPlain plain] at marks
    exact parts marks
  inlineBody := by
    intro p n m _ inside members marks
    rw [Code.marksAll_singleton] at marks
    exact members marks
  namedType := by
    intro p n m _ inside name typeParams header members marks
    rw [Code.marksAll_singleton] at marks
    exact members marks
  callable := by
    intro p n m code inside kind head callable inner marks d declared
    rw [Code.marksAll_singleton, marks_of_callable callable, Java.forall_mem_spanMarks] at marks
    rcases List.mem_cons.mp declared with rfl | later
    · exact ⟨marks.1, marks.2.1⟩
    · exact inner marks.2.2 d later
  constant := by
    intro p n m _ inside name span header inner marks d declared
    rw [Code.marksAll_singleton, Code.marks, Java.forall_mem_spanMarks] at marks
    rcases List.mem_cons.mp declared with rfl | later
    · exact ⟨marks.1, marks.2.1⟩
    · exact inner marks.2.2 d later

/-- So they do in a whole file. -/
theorem edges_unitInvariant (edge : Nat → Prop) : UnitInvariant fun _ unit o _ =>
    (∀ m ∈ unit.marks, edge m.offset) → ∀ d ∈ o.decls, edge d.span.start ∧ edge d.span.stop where
  nil _ _ _ present := by cases present
  package _ rest := rest
  type := by
    intro n m k members rest inside others package name typeParams header found later marks d declared
    rcases List.mem_append.mp declared with here | behind
    · have walked := (edges_invariant edge).outlineAll (.top package n.scopes name typeParams)
        (n.enter header) members
      rw [found] at walked
      exact walked (fun m mem => marks m (List.mem_append_left _ mem)) d here
    · exact later (fun m mem => marks m (List.mem_append_right _ mem)) d behind

/-- The grammar gives declarations extents that are parts of the text. -/
theorem Reader.grammar_keepsRanges : Reader.grammar.KeepsRanges := by
  intro text tree isTree d declared
  obtain ⟨unit, parsed, rfl⟩ := Option.map_eq_some_iff.mp isTree
  obtain ⟨stop, marked⟩ := CompilationUnit.marked_marks parsed
  have edges := ((edges_unitInvariant (IsEdge text.toList)).outlineUnit "" .start unit).choose_spec
    marked.edges d declared
  have within := (Tree.nested_ofUnit text marked.between).within d declared
  exact ⟨Nat.le_of_lt within.2.1, Utf8.isBoundary_of_isEdge edges.1, Utf8.isBoundary_of_isEdge edges.2⟩

end DefectGraph.Source
