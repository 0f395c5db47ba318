import DefectGraph.Java.CompilationUnit
import DefectGraph.Proofs.Layout.Declarations
import DefectGraph.Proofs.Layout.Tokens

/-!
# Statements and files are read in order

## Main Statements

* `Rules.InOrder.ofDepth` - the rules of every depth keep the order of the text.
* `inOrder_compilationUnit` - so does the rule for whole files.
* `CompilationUnit.between_marks` - the marks of a file that can be read stand in order.

## Design Notes

The rules of one depth call those of the depth before, so `Rules.InOrder.ofDepth` is an induction on the
depth whose step puts together one lemma for each rule. At depth zero every rule fails, and a rule that
fails keeps any order.
-/

namespace DefectGraph.Java.Grammar

open DefectGraph.Java DefectGraph.Java.Parser

variable {r : Rules}

/-! ### Directives of files and modules -/

theorem inOrder_nameCode : InOrder [] nameCode Code.marksAll :=
  .step passes_dottedName fun _ => .pure (by simp)

/-- An import has no marks. -/
theorem inOrder_importDirective : InOrder [] importDirective Code.marks := by
  have star : Passes (maybe do let _ ← symbol "."; symbol "*") :=
    (InOrder.maybe (.step (passes_symbol _) fun _ => passes_symbol _)).passes
  exact .step (passes_keyword _) fun _ =>
    .step (.maybe (passes_keyword _)) fun _ =>
    .bind inOrder_nameCode fun _ =>
    .step star fun _ =>
    .step (passes_symbol _) fun _ =>
    .pure (by simp)

theorem inOrder_packageDirective :
    InOrder [] packageDirective fun read => Code.marksAll read.1 :=
  .step (passes_keyword _) fun _ =>
  .bind (.spelled inOrder_nameCode) fun _ =>
  .step (passes_symbol _) fun _ =>
  .pure (by simp)

theorem inOrder_namesAfter (word : String) : InOrder [] (namesAfter word) Code.marksAll :=
  .step (passes_keyword _) fun _ =>
  .bind (.separated1 _ inOrder_nameCode) fun _ =>
  .pure (by simp)

theorem inOrder_moduleDirective : InOrder [] moduleDirective Code.marksAll := by
  have others : InOrder [] (optionalList (namesAfter "to" <|> namesAfter "with")) Code.marksAll :=
    .optionalList (.orElse (inOrder_namesAfter _) (inOrder_namesAfter _)) rfl
  have rest : InOrder [] (do
      let name ← nameCode
      let others ← optionalList (namesAfter "to" <|> namesAfter "with")
      let _ ← symbol ";"
      return name ++ others) Code.marksAll :=
    .bind inOrder_nameCode fun _ =>
    .bind others fun _ =>
    .step (passes_symbol _) fun _ =>
    .pure (by simp)
  refine .step (passes_anyKeyword _) fun word => ?_
  dsimp only
  split
  · have word : Passes (do
        require fun ts => (ts.drop 1).head?.any fun t => t.kind == .word
        anyKeyword ["transitive", "static"]) :=
      .step (passes_require _) fun _ => passes_anyKeyword _
    exact .step (.many word) fun _ => rest
  · exact rest

theorem inOrder_moduleRest : InOrder [] moduleRest Code.marksAll :=
  .step (passes_require _) fun _ =>
  .step (.maybe (passes_keyword _)) fun _ =>
  .step (passes_keyword _) fun _ =>
  .bind inOrder_nameCode fun _ =>
  .bind (.braces (.many inOrder_moduleDirective)) fun _ =>
  .pure (by simp)

/-! ### Statements by their first word -/

theorem inOrder_optionalExpression (rules : r.InOrder) :
    InOrder [] (optionalExpression r) Code.marksAll := by
  have value : InOrder [] (optionalList do return [← r.expression 0 true]) Code.marksAll :=
    .optionalList (.bind (rules.expression 0 true) fun _ => .pure (by simp)) rfl
  exact .trans value fun _ =>
    .step (passes_symbol _) fun _ =>
    .pure rfl

theorem inOrder_optionalLabel : InOrder [] optionalLabel Code.marksAll := by
  have label : InOrder [] (optionalList do return [Code.name (← identifier)]) Code.marksAll :=
    .optionalList (.step passes_identifier fun _ => .pure rfl) rfl
  exact .trans label fun _ =>
    .step (passes_symbol _) fun _ =>
    .pure rfl

/-- A nested statement keeps its own marks. -/
theorem inOrder_nested (rules : r.InOrder) : InOrder [] (nested r) Code.marksAll :=
  .trans rules.statement fun _ => .pure (by simp)

theorem inOrder_ifRest (rules : r.InOrder) : InOrder [] (ifRest r) Code.marksAll := by
  refine .bind (inOrder_parenthesized rules) fun _ =>
    .bind (inOrder_nested rules) fun _ =>
    .step (passes_looking _) fun _ => ?_
  split
  · exact .step (passes_skip 1) fun _ =>
      .bind (inOrder_nested rules) fun _ =>
      .pure (by simp)
  · exact .pure (by simp)

theorem inOrder_whileRest (rules : r.InOrder) : InOrder [] (whileRest r) Code.marksAll :=
  .bind (inOrder_parenthesized rules) fun _ =>
  .bind (inOrder_nested rules) fun _ =>
  .pure (by simp)

theorem inOrder_doRest (rules : r.InOrder) : InOrder [] (doRest r) Code.marksAll :=
  .bind (inOrder_nested rules) fun _ =>
  .step (passes_keyword _) fun _ =>
  .bind (inOrder_parenthesized rules) fun _ =>
  .step (passes_symbol _) fun _ =>
  .pure (by simp)

/-- The code in front of local variables comes before their own. -/
theorem inOrder_localVariables (rules : r.InOrder) (front : List Code) :
    InOrder (Code.marksAll front) (localVariables r front) Code.marksAll :=
  .bind (inOrder_type rules) fun _ =>
  .step (passes_require _) fun _ =>
  .bind (inOrder_declarators rules) fun _ =>
  .pure (by simp)

/-- A name that is bound has no marks. -/
@[simp] theorem marksAll_boundName (name : String) : Code.marksAll (boundName name) = [] := by
  unfold boundName
  split <;> simp

theorem inOrder_eachHead (rules : r.InOrder) : InOrder [] (eachHead r) Code.marksAll :=
  .bind (inOrder_modifiers rules) fun _ =>
  .bind (inOrder_type rules) fun _ =>
  .bind (inOrder_variableName rules) fun _ =>
  .step (passes_symbol _) fun _ =>
  .pure (by simp)

theorem inOrder_forStart (rules : r.InOrder) : InOrder [] (forStart r) Code.marksAll := by
  refine .orElse ?_ ?_
  · exact .trans (inOrder_modifiers rules) fun front => inOrder_localVariables rules front
  · exact .trans (.codes (.separated _ (rules.expression 0 true))) fun _ =>
      .step (passes_symbol _) fun _ =>
      .pure rfl

/-- The parts of a loop stand in the order of the text, whichever kind of loop it is. -/
theorem inOrder_forRest (rules : r.InOrder) : InOrder [] (forRest r) Code.marksAll := by
  refine .step (passes_symbol _) fun _ => .bind (.maybe (inOrder_eachHead rules)) fun found => ?_
  cases found with
  | some front =>
    exact .bind (rules.expression 0 true) fun _ =>
      .step (passes_symbol _) fun _ =>
      .bind (inOrder_nested rules) fun _ =>
      .pure (by simp)
  | none =>
    exact .bind (inOrder_forStart rules) fun _ =>
      .bind (inOrder_optionalExpression rules) fun _ =>
      .bind (.codes (.separated _ (rules.expression 0 true))) fun _ =>
      .step (passes_symbol _) fun _ =>
      .bind (inOrder_nested rules) fun _ =>
      .pure (by simp)

theorem inOrder_assertRest (rules : r.InOrder) : InOrder [] (assertRest r) Code.marksAll := by
  have message : InOrder [] (optionalList do
      let _ ← symbol ":"
      return [← r.expression 0 true]) Code.marksAll :=
    .optionalList (.step (passes_symbol _) fun _ => .bind (rules.expression 0 true) fun _ =>
      .pure (by simp)) rfl
  exact .bind (rules.expression 0 true) fun _ =>
    .bind message fun _ =>
    .step (passes_symbol _) fun _ =>
    .pure (by simp)

theorem inOrder_synchronizedRest (rules : r.InOrder) :
    InOrder [] (synchronizedRest r) Code.marksAll :=
  .bind (inOrder_parenthesized rules) fun _ =>
  .bind rules.block fun _ =>
  .pure (by simp)

/-! ### Exceptions -/

theorem inOrder_catchClause (rules : r.InOrder) : InOrder [] (catchClause r) Code.marksAll := by
  refine .step (passes_keyword _) fun _ =>
    .bind (w := Code.marksAll) (.parens ?_) fun _ =>
    .bind rules.block fun _ =>
    .pure (by simp)
  exact .bind (inOrder_modifiers rules) fun _ =>
    .bind (.separated1 _ (inOrder_type rules)) fun _ =>
    .bind (inOrder_variableName rules) fun _ =>
    .pure (by simp)

theorem inOrder_finallyClause (rules : r.InOrder) : InOrder [] (finallyClause r) Code.marksAll :=
  .step (passes_keyword _) fun _ => rules.block

theorem inOrder_resource (rules : r.InOrder) : InOrder [] (resource r) Code.marksAll := by
  refine .orElse ?_ ?_
  · exact .bind (inOrder_modifiers rules) fun _ =>
      .bind (inOrder_type rules) fun _ =>
      .bind (inOrder_variableName rules) fun _ =>
      .step (passes_symbol _) fun _ =>
      .bind (rules.expression 0 true) fun _ =>
      .pure (by simp)
  · exact .bind (inOrder_primary rules) fun _ => .pure (by simp)

theorem inOrder_resources (rules : r.InOrder) : InOrder [] (resources r) Code.marksAll :=
  .parens (.bind (.separated1 _ (inOrder_resource rules)) fun _ =>
    .step (.maybe (passes_symbol _)) fun _ => .pure (by simp))

/-- The marks of code that may be missing as a whole. -/
theorem elim_marksAll (codes : Option (List Code)) :
    codes.elim [] Code.marksAll = Code.marksAll (codes.getD []) := by
  cases codes <;> rfl

/-- Resources, the block and its clauses stand in the order of the text. -/
theorem inOrder_tryRest (rules : r.InOrder) : InOrder [] (tryRest r) Code.marksAll := by
  refine .bind (.maybe (inOrder_resources rules)) fun held =>
    .bind rules.block fun inside =>
    .bind (.many (inOrder_catchClause rules)) fun caught =>
    .bind (.maybe (inOrder_finallyClause rules)) fun last => ?_
  split
  · exact .failure
  · exact .pure (by simp [elim_marksAll])

/-! ### Statements -/

/-- Every statement with a keyword of its own keeps the order. -/
theorem inOrder_keywordRest? (rules : r.InOrder) (word : String) {rest : Parser (List Code)}
    (known : keywordRest? r word = some rest) : InOrder [] rest Code.marksAll := by
  unfold keywordRest? at known
  split at known
  · cases known
    exact inOrder_ifRest rules
  · cases known
    exact inOrder_whileRest rules
  · cases known
    exact inOrder_doRest rules
  · cases known
    exact inOrder_forRest rules
  · cases known
    exact inOrder_tryRest rules
  · cases known
    exact inOrder_optionalExpression rules
  · cases known
    exact .bind (inOrder_expressionStatement rules) fun _ => .pure (by simp)
  · cases known
    exact inOrder_optionalLabel
  · cases known
    exact inOrder_optionalLabel
  · cases known
    exact inOrder_assertRest rules
  · cases known

/-- A declaration behind modifiers keeps the order; the modifiers of a type belong to its header. -/
theorem inOrder_localDeclaration (rules : r.InOrder) (front : List Code) :
    InOrder (Code.marksAll front) (localDeclaration r front) Code.marks := by
  refine .step (passes_looking _) fun type => ?_
  split
  · exact .trans ((inOrder_typeDeclaration rules front).drop _) fun _ => .pure (by simp)
  refine .step (passes_looking _) fun package => ?_
  split
  · exact .bind inOrder_packageDirective fun _ => .pure (by simp)
  refine .step (passes_looking _) fun module => ?_
  split
  · exact .bind inOrder_moduleRest fun _ => .pure (by simp)
  · exact .trans (inOrder_localVariables rules front) fun _ => .pure (by simp)

theorem inOrder_labelled (rules : r.InOrder) : InOrder [] (labelled r) Code.marks :=
  .step passes_identifier fun _ =>
  .step (passes_symbol _) fun _ =>
  .bind (inOrder_nested rules) fun _ =>
  .pure (by simp)

theorem inOrder_yieldStatement (rules : r.InOrder) : InOrder [] (yieldStatement r) Code.marks :=
  .step (passes_keyword _) fun _ =>
  .bind (inOrder_expressionStatement rules) fun _ =>
  .pure (by simp)

/-- A statement without a keyword keeps the order, whichever way it is read. -/
theorem inOrder_plainStatement (rules : r.InOrder) :
    InOrder [] (plainStatement r) Code.marks := by
  refine .step (passes_looking _) fun modified => ?_
  split
  · -- an expression may follow the modifiers too, and these do not count then
    exact .trans (inOrder_modifiers rules) fun front =>
      .orElse (inOrder_localDeclaration rules front) ((inOrder_expressionStatement rules).drop _)
  refine .step (passes_looking _) fun label => ?_
  split
  · exact inOrder_labelled rules
  · exact .orElse (inOrder_yieldStatement rules)
      (.orElse (inOrder_localDeclaration rules []) (inOrder_expressionStatement rules))

theorem inOrder_statement (rules : r.InOrder) : InOrder [] (statement r) Code.marks := by
  refine .get fun c => ?_
  split
  · exact .failure
  · rename_i t next same
    split
    · exact .step (passes_skip 1) fun _ => .pure rfl
    split
    · exact .bind rules.block fun _ => .pure (by simp)
    split
    · exact inOrder_switchExpression rules
    split
    · exact inOrder_importDirective
    split
    · exact .step (passes_skip 1) fun _ =>
        .bind (inOrder_synchronizedRest rules) fun _ =>
        .pure (by simp)
    split
    · split
      · rename_i rest known
        exact .step (passes_skip 1) fun _ =>
          .bind (inOrder_keywordRest? rules _ known) fun _ =>
          .pure (by simp)
      · exact inOrder_plainStatement rules
    · exact inOrder_plainStatement rules

theorem inOrder_block (rules : r.InOrder) : InOrder [] (block r) Code.marksAll :=
  .braces (.codes (.many rules.statement))

/-! ### Files -/

/-- Rules over rules that keep the order keep it. -/
theorem Rules.InOrder.step (rules : r.InOrder) : r.step.InOrder where
  type := inOrder_type rules
  annotationMark := inOrder_annotationMark rules
  elementValue := inOrder_elementValue rules
  expression := inOrder_expression rules
  initializer := inOrder_initializer rules
  recordPattern := inOrder_recordPattern rules
  block := inOrder_block rules
  statement := inOrder_statement rules
  body := inOrder_body rules

/-- So the rules keep it at every depth. -/
theorem Rules.InOrder.ofDepth (depth : Nat) : (Rules.ofDepth depth).InOrder := by
  induction depth with
  | zero => exact .none
  | succ depth ih => exact ih.step

/-- A method at the top of a file is read over. -/
theorem inOrder_topMethod (rules : r.InOrder) (start : Nat) (front : List Code) (u : List Mark) :
    InOrderFrom start u (topMethod r start front) fun _ => [] :=
  .step (inOrder_optionalTypeParameters rules) fun _ =>
  .step (inOrder_annotations rules) fun _ =>
  .step (inOrder_type rules) fun _ =>
  .step (passes_require _) fun _ =>
  .trans (inOrder_methodRest rules start _ front u) fun _ =>
  .drop (.pure rfl) _

/-- A type at the top of a file has the marks of its members. -/
theorem inOrder_topDeclaration (rules : r.InOrder) (start : Nat) (front : List Code) :
    InOrderFrom start (Code.marksAll front) (topDeclaration r start front)
      fun top => top.elim [] TopLevel.marks := by
  refine .step (passes_looking _) fun type => ?_
  split
  · refine InOrder.withStart ?_ start
    exact .trans ((inOrder_typeDeclaration rules front).drop _) fun _ => .pure rfl
  refine .step (passes_looking _) fun package => ?_
  split
  · refine InOrder.withStart ?_ start
    exact .step inOrder_packageDirective fun _ => .drop (.pure rfl) _
  · refine .orElse ?_ (InOrder.withStart ?_ start)
    · exact .trans (inOrder_topMethod rules start front _) fun _ => .pure rfl
    · exact .trans (inOrder_localDeclaration rules front) fun _ => .drop (.pure rfl) _

theorem inOrder_topLevel (rules : r.InOrder) :
    InOrder [] (topLevel r) fun top => top.elim [] TopLevel.marks := by
  refine .offset fun start => .orElse ?_ (InOrder.withStart ?_ start)
  · exact .bind (inOrder_modifiers rules) fun front => inOrder_topDeclaration rules start front
  · exact .step (inOrder_statement rules) fun _ => .pure rfl

/-- A whole file is read in order. -/
theorem inOrder_compilationUnit (rules : r.InOrder) :
    InOrder [] (compilationUnit r) CompilationUnit.marks :=
  .trans (.many (inOrder_topLevel rules)) fun _ =>
  .step (passes_require _) fun _ =>
  .pure (flatMap_filterMap_id _ _)

end DefectGraph.Java.Grammar

namespace DefectGraph.Java

/-- The declarations of a source text that can be read start and stop in the order of the text, between
characters of it. -/
theorem CompilationUnit.marked_marks {source : String} {unit : CompilationUnit}
    (read : CompilationUnit.ofSource? source = some unit) :
    ∃ stop, Marked (IsEdge source.toList) 0 stop unit.marks := by
  obtain ⟨ts, cut, read⟩ := Option.bind_eq_some_iff.mp read
  obtain ⟨⟨_, after⟩, parsed, done⟩ := Option.bind_eq_some_iff.mp read
  cases done
  have rules := Grammar.Rules.InOrder.ofDepth (2 * ts.length + 1)
  obtain ⟨_, _, marked⟩ := Grammar.inOrder_compilationUnit rules _ 0 ⟨ts, 0⟩ after unit
    (ordered_tokens? cut) (.nil (Nat.le_refl 0)) parsed
  exact ⟨after.stop, marked⟩

/-- The marks of a file stand in order from its start. -/
theorem CompilationUnit.between_marks {source : String} {unit : CompilationUnit}
    (read : CompilationUnit.ofSource? source = some unit) : ∃ stop, Between 0 stop unit.marks := by
  obtain ⟨stop, marked⟩ := CompilationUnit.marked_marks read
  exact ⟨stop, marked.between⟩

end DefectGraph.Java
