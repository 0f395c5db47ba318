import DefectGraph.Java.Grammar.Expressions
import DefectGraph.Proofs.Layout.Types

/-!
# Expressions are read in order

A rule that extends what has been read takes the marks of it as those in front.

Those rules are the ones for operations, for accesses and calls after a primary expression, and for creations
inside an object: each puts the code that it was given first into the code that it returns. All others start
from no marks at all.

## Main Statements

* `inOrder_primary`, `inOrder_operand` - what operators stand between is read in order.
* `inOrder_expression` - and so are expressions of any precedence.
-/

namespace DefectGraph.Java.Grammar

open DefectGraph.Java DefectGraph.Java.Parser

variable {r : Rules}

theorem passes_skip (n : Nat) : Passes (skip n) := by
  induction n with
  | zero => exact .pure rfl
  | succ n ih => exact .step (takesToken_satisfy _).passes fun _ => ih

theorem inOrder_arguments (rules : r.InOrder) : InOrder [] (arguments r) Code.marksAll :=
  .codes (.parens (.separated _ (rules.expression 0 true)))

theorem inOrder_parenthesized (rules : r.InOrder) : InOrder [] (parenthesized r) Code.marks :=
  .bind (.parens (rules.expression 0 true)) fun _ => .pure (by simp)

/-! ### Patterns -/

theorem inOrder_recordComponent (rules : r.InOrder) :
    InOrder [] (recordComponent r) Code.marks := by
  refine .orElse rules.recordPattern (.orElse ?_ ?_)
  · exact .bind (inOrder_type rules) fun _ =>
      .step passes_identifier fun _ =>
      .pure (by simp)
  · exact .step (passes_keyword _) fun _ => .pure (by simp)

theorem inOrder_recordPattern (rules : r.InOrder) : InOrder [] (recordPattern r) Code.marks := by
  have components : InOrder [] (parens (separated "," (recordComponent r))) Code.marksAll :=
    .codes (.parens (.separated _ (inOrder_recordComponent rules)))
  refine .bind (w := Code.marksAll) (.orElse ?_ ?_) fun _ =>
    .bind components fun _ =>
    .pure (by simp)
  · exact .step passes_identifier fun _ =>
      .step (passes_require _) fun _ =>
      .pure rfl
  · refine .bind (inOrder_simpleType rules) fun use => ?_
    split
    · exact .failure
    · exact .pure (by simp)

theorem inOrder_testedType (rules : r.InOrder) : InOrder [] (testedType r) Code.marksAll := by
  refine .step (.maybe (passes_keyword _)) fun _ => .orElse ?_ ?_
  · exact .bind (inOrder_recordPattern rules) fun _ => .pure (by simp)
  · refine .bind (inOrder_annotatedType rules (inOrder_type rules)) fun use =>
      .step (.maybe passes_identifier) fun name => ?_
    cases name with
    | none => exact .pure (by simp)
    | some name => exact .pure (by simp)

/-! ### Literals, creations and primary expressions -/

theorem inOrder_textLiteral (rules : r.InOrder) : InOrder [] (textLiteral r) Code.marks := by
  refine .step (takesToken_satisfy _).passes fun t => ?_
  split
  · exact .pure rfl
  · have more : InOrder [] (many do
        let _ ← satisfy fun t => t.kind == .textMiddle
        r.expression 0 true) Code.marksAll :=
      .codes (.many (.step (takesToken_satisfy _).passes fun _ => rules.expression 0 true))
    exact .bind (rules.expression 0 true) fun _ =>
      .bind more fun _ =>
      .step (takesToken_satisfy _).passes fun _ =>
      .pure (by simp)

theorem inOrder_initializer (rules : r.InOrder) : InOrder [] (initializer r) Code.marks :=
  .orElse (.map (.codes (.bracedList rules.initializer))) (rules.expression 0 true)

theorem inOrder_lengthDimension (rules : r.InOrder) :
    InOrder [] (lengthDimension r) Code.marksAll :=
  .bind (inOrder_annotations rules) fun _ =>
  .bind (.between _ _ (rules.expression 0 true)) fun _ =>
  .pure (by simp)

theorem inOrder_arrayCreation (rules : r.InOrder) : InOrder [] (arrayCreation r) Code.marksAll := by
  refine .orElse ?_ ?_
  · exact .bind (.many1 (inOrder_lengthDimension rules)) fun _ =>
      .bind (inOrder_optionalDimensions rules) fun _ =>
      .pure (by simp)
  · exact .bind (inOrder_dimensions rules) fun _ =>
      .bind (.codes (.bracedList rules.initializer)) fun _ =>
      .pure (by simp)

theorem inOrder_optionalInlineBody (rules : r.InOrder) :
    InOrder [] (optionalInlineBody r) Code.marksAll := by
  refine .step (passes_looking _) fun _ => ?_
  split
  · exact .bind (rules.body .classBody) fun _ => .pure (by simp)
  · exact .pure rfl

theorem inOrder_creation (rules : r.InOrder) (outer : List Code) :
    InOrder (Code.marksAll outer) (creation r outer) Code.marks := by
  refine .step (passes_keyword _) fun _ =>
    .bind (inOrder_annotations rules) fun before =>
    .bind (.optionalList (inOrder_typeArguments rules) rfl) fun args =>
    .bind (inOrder_annotations rules) fun after =>
    .bind (inOrder_simpleType rules) fun use =>
    .step (passes_looking _) fun object => ?_
  split
  · exact .bind (inOrder_arguments rules) fun _ =>
      .bind (inOrder_optionalInlineBody rules) fun _ =>
      .pure (by simp)
  · exact .bind (inOrder_arrayCreation rules) fun _ => .pure (by simp)

theorem inOrder_methodReference (rules : r.InOrder) (target : Code) :
    InOrder target.marks (methodReference r target) Code.marks :=
  .step (passes_symbol _) fun _ =>
  .bind (.optionalList (inOrder_typeArguments rules) rfl) fun _ =>
  .step passes_anyWord fun _ =>
  .pure (by simp)

theorem inOrder_typeExpression (rules : r.InOrder) : InOrder [] (typeExpression r) Code.marks := by
  refine .bind (inOrder_type rules) fun use => .orElse ?_ ?_
  · exact .step (passes_symbol _) fun _ =>
      .step (passes_keyword _) fun _ =>
      .pure (by simp)
  · split
    · exact .failure
    · simpa using inOrder_methodReference rules (.group use.parts)

theorem inOrder_access (rules : r.InOrder) (object : Code) (between : List Code) :
    InOrder (object.marks ++ Code.marksAll between) (access r object between)
      fun primary => primary.1.marks := by
  refine .step passes_memberName fun _ => .step (passes_looking _) fun _ => ?_
  split
  · exact .bind (inOrder_arguments rules) fun _ => .pure (by simp)
  · exact .pure (by simp)

theorem inOrder_genericCall (rules : r.InOrder) (object : Code) (between : List Code) :
    InOrder (object.marks ++ Code.marksAll between) (genericCall r object between)
      fun primary => primary.1.marks :=
  .bind (inOrder_typeArguments rules) fun _ =>
  .step passes_memberName fun _ =>
  .bind (inOrder_arguments rules) fun _ =>
  .pure (by simp)

theorem inOrder_superAccess (rules : r.InOrder) (object : Code) :
    InOrder object.marks (superAccess r object) fun primary => primary.1.marks := by
  refine .orElse ?_ ?_
  · -- the object is no part of the reference
    exact .trans ((inOrder_methodReference rules (.group [])).drop _) fun _ => .pure rfl
  · refine .step (passes_symbol _) fun _ => .orElse ?_ ?_
    · simpa using inOrder_genericCall rules object [.superRef]
    · simpa using inOrder_access rules object [.superRef]

theorem inOrder_postfixStep (rules : r.InOrder) (primary : Primary) :
    InOrder primary.1.marks (postfixStep r primary) fun primary => primary.1.marks := by
  obtain ⟨object, assignable⟩ := primary
  refine .get fun c => ?_
  split
  · rename_i t next same
    split
    · refine .step (passes_skip 1) fun _ => ?_
      split
      · rename_i u rest
        split
        · exact .trans (by simpa using inOrder_creation rules [object]) fun _ => .pure rfl
        split
        · exact .step (passes_skip 1) fun _ => inOrder_superAccess rules object
        split
        · exact .step (passes_skip 1) fun _ => .pure (by simp)
        split
        · simpa using inOrder_genericCall rules object []
        split
        · exact .bind (inOrder_textLiteral rules) fun _ => .pure (by simp)
        · simpa using inOrder_access rules object []
      · exact .failure
    split
    · exact .bind (.between _ _ (rules.expression 0 true)) fun _ => .pure (by simp)
    split
    · exact .trans (inOrder_methodReference rules object) fun _ => .pure rfl
    · exact .failure
  · exact .failure

theorem inOrder_primaryWord (rules : r.InOrder) (word : String) :
    InOrder [] (primaryWord r word) fun primary => primary.1.marks := by
  unfold primaryWord
  split
  · exact .step (passes_skip 1) fun _ => .pure rfl
  split
  · exact .step (passes_skip 1) fun _ =>
      .step (passes_require _) fun _ =>
      .pure rfl
  split
  · exact .trans (inOrder_creation rules []) fun _ => .pure rfl
  split
  · exact .step (passes_skip 1) fun _ => .pure rfl
  · refine .bind (.maybe (inOrder_typeExpression rules)) fun found => ?_
    cases found with
    | some code => exact .pure (by simp)
    | none =>
      refine .step passes_identifier fun _ => .step (passes_looking _) fun _ => ?_
      split
      · exact .bind (inOrder_arguments rules) fun _ => .pure (by simp)
      · exact .pure rfl

theorem inOrder_primaryStart (rules : r.InOrder) :
    InOrder [] (primaryStart r) fun primary => primary.1.marks := by
  refine .get fun c => ?_
  split
  · rename_i t rest same
    split
    · exact .step (passes_skip 1) fun _ => .pure rfl
    · exact .step (passes_skip 1) fun _ => .pure rfl
    · exact .trans (inOrder_textLiteral rules) fun _ => .pure rfl
    · exact .trans (inOrder_textLiteral rules) fun _ => .pure rfl
    · exact inOrder_primaryWord rules t.text
    · exact .trans (inOrder_parenthesized rules) fun _ => .pure rfl
  · exact .failure

theorem inOrder_primary (rules : r.InOrder) :
    InOrder [] (primary r) fun primary => primary.1.marks :=
  .trans (inOrder_primaryStart rules) fun start =>
  .extend (w := fun primary => primary.1.marks) (inOrder_postfixStep rules) start

theorem inOrder_primaryExpression (rules : r.InOrder) (lambda : Bool) :
    InOrder [] (primaryExpression r lambda) Code.marks := by
  refine .trans (inOrder_primary rules) fun ⟨code, assignable⟩ => .get fun c => ?_
  split
  · split
    · exact .step (passes_skip _) fun _ =>
        .bind (rules.expression 0 lambda) fun _ =>
        .pure (by simp)
    · exact .pure rfl
  · refine .step (.maybe (.orElse (passes_symbol _) (passes_symbol _))) fun found => ?_
    cases found with
    | none => exact .pure rfl
    | some _ => exact .pure (by simp)

/-! ### Lambdas and casts -/

theorem inOrder_lambdaParameters (rules : r.InOrder) :
    InOrder [] (lambdaParameters r) Code.marksAll := by
  refine .step (passes_looking _) fun _ => ?_
  split
  · refine .orElse ?_ ?_
    · exact .step (.parens (.separated1 _ passes_identifier)) fun _ => .pure rfl
    · exact .trans (inOrder_formalParameters rules) fun _ => .pure rfl
  · exact .step (passes_skip 1) fun _ => .pure rfl

theorem inOrder_lambdaExpression (rules : r.InOrder) :
    InOrder [] (lambdaExpression r) Code.marks := by
  refine .bind (inOrder_lambdaParameters rules) fun params =>
    .step (passes_symbol _) fun _ =>
    .step (passes_looking _) fun _ => ?_
  split
  · exact .bind rules.block fun _ => .pure (by simp)
  · exact .bind (rules.expression 0 true) fun _ => .pure (by simp)

theorem inOrder_castExpression (rules : r.InOrder) (lambda : Bool) :
    InOrder [] (castExpression r lambda) Code.marks :=
  .bind (.parens (.separated1 _ (inOrder_annotatedType rules (inOrder_type rules)))) fun _ =>
  .step (passes_require _) fun _ =>
  .bind (rules.expression _ lambda) fun _ =>
  .pure (by simp)

/-! ### Switches -/

theorem inOrder_switchLabel (rules : r.InOrder) : InOrder [] (switchLabel r) Code.marksAll := by
  refine .orElse (.step (passes_keyword _) fun _ => .pure rfl) ?_
  refine .step (passes_keyword _) fun _ =>
    .bind (w := Code.marksAll) (.orElse ?_ (.orElse ?_ ?_)) fun values =>
    .step (passes_looking _) fun _ => ?_
  · exact .trans (.codes (.separated1 _ (rules.expression 0 false))) fun _ =>
      .step (passes_require _) fun _ =>
      .pure rfl
  · exact .bind (inOrder_recordPattern rules) fun _ => .pure (by simp)
  · exact .bind (inOrder_type rules) fun _ =>
      .step passes_identifier fun _ =>
      .pure (by simp)
  · split
    · exact .step (passes_skip 1) fun _ =>
        .bind (rules.expression 0 false) fun _ =>
        .pure (by simp)
    · exact .pure (by simp)

theorem inOrder_expressionStatement (rules : r.InOrder) :
    InOrder [] (expressionStatement r) Code.marks :=
  .bind (rules.expression 0 true) fun _ =>
  .step (passes_symbol _) fun _ =>
  .pure (by simp)

theorem inOrder_throwStatement (rules : r.InOrder) : InOrder [] (throwStatement r) Code.marks :=
  .step (passes_keyword _) fun _ =>
  .bind (inOrder_expressionStatement rules) fun _ =>
  .pure (by simp)

theorem inOrder_switchEntry (rules : r.InOrder) : InOrder [] (switchEntry r) Code.marksAll := by
  refine .bind (inOrder_switchLabel rules) fun label => .step (passes_looking _) fun _ => ?_
  split
  · exact .step (passes_skip 1) fun _ =>
      .bind (.codes (.many rules.statement)) fun _ =>
      .pure (by simp)
  · refine .step (passes_symbol _) fun _ => .step (passes_looking _) fun _ => ?_
    split
    · exact .bind rules.block fun _ => .pure (by simp)
    refine .step (passes_looking _) fun _ => ?_
    split
    · exact .bind (inOrder_throwStatement rules) fun _ => .pure (by simp)
    · exact .bind (inOrder_expressionStatement rules) fun _ => .pure (by simp)

theorem inOrder_switchExpression (rules : r.InOrder) :
    InOrder [] (switchExpression r) Code.marks :=
  .step (passes_keyword _) fun _ =>
  .bind (inOrder_parenthesized rules) fun _ =>
  .bind (.braces (.many (inOrder_switchEntry rules))) fun _ =>
  .pure (by simp)

/-! ### Expressions -/

theorem inOrder_annotatedReference (rules : r.InOrder) :
    InOrder [] (annotatedReference r) Code.marks :=
  .bind (inOrder_annotatedType rules (inOrder_type rules)) fun use => by
    simpa using inOrder_methodReference rules (.group use.parts)

theorem inOrder_operand (rules : r.InOrder) (lambda : Bool) :
    InOrder [] (operand r lambda) Code.marks := by
  refine .get fun c => ?_
  split
  · exact .failure
  · rename_i t rest same
    split
    · exact .step (passes_skip 1) fun _ =>
        .bind (rules.expression _ lambda) fun _ =>
        .pure (by simp)
    split
    · exact inOrder_lambdaExpression rules
    split
    · exact inOrder_switchExpression rules
    split
    · exact inOrder_annotatedReference rules
    split
    · exact .orElse (inOrder_castExpression rules lambda) (inOrder_primaryExpression rules lambda)
    · exact inOrder_primaryExpression rules lambda

theorem inOrder_operation (rules : r.InOrder) (least : Nat) (lambda : Bool) (left : Code) :
    InOrder left.marks (operation r least lambda left) Code.marks := by
  refine .get fun c => ?_
  dsimp only
  split
  · split
    · exact .failure
    · exact .step (passes_skip _) fun _ =>
        .bind (rules.expression _ lambda) fun _ =>
        .pure (by simp)
  · split
    · exact .step (passes_skip 1) fun _ =>
        .bind (inOrder_testedType rules) fun _ =>
        .pure (by simp)
    split
    · exact .step (passes_skip 1) fun _ =>
        .bind (rules.expression 0 true) fun _ =>
        .step (passes_symbol _) fun _ =>
        .bind (rules.expression _ lambda) fun _ =>
        .pure (by simp)
    · exact .failure

theorem inOrder_expression (rules : r.InOrder) (least : Nat) (lambda : Bool) :
    InOrder [] (expression r least lambda) Code.marks :=
  .trans (inOrder_operand rules lambda) fun start =>
  .extend (inOrder_operation rules least lambda) start

end DefectGraph.Java.Grammar
