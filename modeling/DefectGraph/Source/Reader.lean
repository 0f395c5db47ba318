import DefectGraph.Java.CompilationUnit
import DefectGraph.Source.Links

/-!
# Reading source texts

## Main Definitions

* `Tree.ofOutline` - the tree of what a walk over a file has found.
* `Tree.ofUnit` - the tree of a file's package and type declarations.
* `Tree.ofSource?` - the tree of a source text that follows the grammar.
* `Reader` - a way to make trees of source texts.

## Design Notes

The grammar describes texts without syntax errors. What a parser recovers from other texts is not
determined by the language, so runs take the reader as a parameter: what is proved of them holds whatever
tree a reader makes of a broken text, as long as it is a tree of that text.
-/

namespace DefectGraph.Source

open DefectGraph.Java (CompilationUnit)

/-- The tree of what the walk over a file has found. -/
def Tree.ofOutline (source package : String) (o : Outline) (linked : ∃ m, Linked none .start o m) :
    Tree where
  source := source
  package := package
  hasErrors := false
  decls := o.decls
  scopes := o.scopes
  items := o.items
  declsNumbered := linked.choose_spec.numbered.decls.trans List.range_eq_range'.symm
  scopesNumbered := linked.choose_spec.numbered.scopes.trans List.range_eq_range'.symm
  enclosingBefore := linked.choose_spec.enclosing
  parentBefore := linked.choose_spec.parent
  owned d declared := (linked.choose_spec.owner d declared).resolve_left (by rintro ⟨⟩)
  topNamed := linked.choose_spec.named
  members := linked.choose_spec.callables

/-- The tree of the declarations at the top of a file. -/
def Tree.ofUnit (source : String) (unit : CompilationUnit) : Tree :=
  let found := outlineUnit "" .start unit
  .ofOutline source found.2 found.1 (Linked.exists_outlineUnit "" unit)

/-- The tree of a source text, when it is Java. -/
def Tree.ofSource? (source : String) : Option Tree :=
  (CompilationUnit.ofSource? source).map (Tree.ofUnit source)

/-- A way to read source texts. It makes a tree of a text, marked when the text has syntax errors, or gives
up. -/
structure Reader where
  read : String → Option Tree
  /-- A tree keeps the text that it was made of. -/
  source : ∀ {text : String} {tree : Tree}, read text = some tree → tree.source = text

/-- The reader that takes texts that follow the grammar, and gives up on all others. -/
def Reader.grammar : Reader where
  read := Tree.ofSource?
  source := by
    intro text tree isTree
    obtain ⟨unit, _, rfl⟩ := Option.map_eq_some_iff.mp isTree
    rfl

end DefectGraph.Source
