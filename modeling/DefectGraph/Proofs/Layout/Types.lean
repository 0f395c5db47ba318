import DefectGraph.Java.Grammar.Types
import DefectGraph.Proofs.Layout.Basic

/-!
# Types and annotations are read in order

The marks of a type are those of the code inside it, which annotations bring along.

A proof follows the rule that it is about one statement at a time: `InOrder.step` passes a statement over
whose result holds no code, `InOrder.bind` adds the marks of one that does, `InOrder.trans` hands what has
been read to a statement that extends it, and `InOrder.pure` compares the marks of the result with those
collected on the way.

## Main Definitions

* `Rules.InOrder` - the rules for what is nested deeper keep the order of the text.
-/

namespace DefectGraph.Java.Grammar

open DefectGraph.Java DefectGraph.Java.Parser

/-- The rules for what is nested deeper keep the order of the text. -/
structure Rules.InOrder (r : Rules) : Prop where
  type : Parser.InOrder [] r.type fun use => Code.marksAll use.parts
  annotationMark : Parser.InOrder [] r.annotationMark Code.marks
  elementValue : Parser.InOrder [] r.elementValue Code.marks
  expression : ∀ least lambda, Parser.InOrder [] (r.expression least lambda) Code.marks
  initializer : Parser.InOrder [] r.initializer Code.marks
  recordPattern : Parser.InOrder [] r.recordPattern Code.marks
  block : Parser.InOrder [] r.block Code.marksAll
  statement : Parser.InOrder [] r.statement Code.marks
  body : ∀ kind, Parser.InOrder [] (r.body kind) Code.marksAll

theorem Rules.InOrder.none : Rules.none.InOrder where
  type := .failure
  annotationMark := .failure
  elementValue := .failure
  expression _ _ := .failure
  initializer := .failure
  recordPattern := .failure
  block := .failure
  statement := .failure
  body _ := .failure

theorem passes_anyWord : Passes anyWord := (takesToken_wordExcept _).passes

theorem passes_identifier : Passes identifier := (takesToken_wordExcept _).passes

theorem passes_memberName : Passes memberName := (takesToken_wordExcept _).passes

variable {r : Rules}

/-! ### Annotations -/

theorem passes_dottedName : Passes dottedName := by
  have part : Passes (do let _ ← symbol "."; anyWord) :=
    .step (passes_symbol _) fun _ => passes_anyWord
  exact .step passes_anyWord fun _ =>
    .step (.many part) fun _ =>
    .pure rfl

theorem inOrder_annotationArgument (rules : r.InOrder) :
    InOrder [] (annotationArgument r) Code.marksAll := by
  refine .step (passes_looking _) fun named => ?_
  split
  · exact .step passes_anyWord fun _ =>
      .step (passes_symbol _) fun _ =>
      .bind rules.elementValue fun _ =>
      .pure (by simp)
  · exact .bind rules.elementValue fun _ => .pure (by simp)

theorem inOrder_annotationMark (rules : r.InOrder) :
    InOrder [] (annotationMark r) Code.marks := by
  have args : InOrder [] (optionalList (parens (separated "," (annotationArgument r))))
      fun args => args.flatMap Code.marksAll :=
    .optionalList (.parens (.separated _ (inOrder_annotationArgument rules))) rfl
  exact .step (passes_symbol _) fun _ =>
    .step (passes_require _) fun _ =>
    .step passes_dottedName fun _ =>
    .bind args fun _ =>
    .pure (by simp)

theorem inOrder_elementValue (rules : r.InOrder) : InOrder [] (elementValue r) Code.marks := by
  have list : InOrder [] (Code.group <$> bracedList r.elementValue) Code.marks :=
    .map (.codes (.bracedList rules.elementValue))
  exact .orElse (inOrder_annotationMark rules) (.orElse list (rules.expression 0 true))

theorem inOrder_annotations (rules : r.InOrder) : InOrder [] (annotations r) Code.marksAll :=
  .codes (.many (inOrder_annotationMark rules))

/-! ### Types -/

theorem inOrder_annotatedType (rules : r.InOrder) {type : Parser TypeUse}
    (inOrder : InOrder [] type fun use => Code.marksAll use.parts) :
    InOrder [] (annotatedType r type) fun use => Code.marksAll use.parts := by
  refine .bind (inOrder_annotations rules) fun marks => ?_
  split
  · rename_i bare
    rw [List.isEmpty_iff] at bare
    subst bare
    exact inOrder
  · exact .bind inOrder fun use => .pure (by simp)

theorem inOrder_typeArgument (rules : r.InOrder) :
    InOrder [] (typeArgument r) Code.marksAll := by
  refine .bind (inOrder_annotations rules) fun marks => .step (passes_looking _) fun wildcard => ?_
  split
  · refine .step (passes_symbol _) fun _ => .step (passes_looking _) fun upper => ?_
    split
    · exact .step (passes_keyword _) fun _ =>
        .bind (inOrder_annotatedType rules rules.type) fun _ =>
        .pure (by simp)
    · refine .step (passes_looking _) fun lower => ?_
      split
      · exact .step (passes_keyword _) fun _ =>
          .bind (inOrder_annotatedType rules rules.type) fun _ =>
          .pure (by simp)
      · exact .pure (by simp)
  · exact .bind rules.type fun _ => .pure (by simp)

theorem inOrder_typeArguments (rules : r.InOrder) :
    InOrder [] (typeArguments r) Code.marksAll :=
  .bind (.between _ _ (.separated _ (inOrder_typeArgument rules))) fun _ => .pure (by simp)

theorem inOrder_typeNameArguments (rules : r.InOrder) (soFar : TypeName) :
    InOrder (Code.marksAll soFar.parts) (typeNameArguments r soFar)
      fun name => Code.marksAll name.parts := by
  refine .get fun _ => .bind (.maybe (inOrder_typeArguments rules)) fun found => ?_
  cases found with
  | none => exact .pure (by simp)
  | some args => exact .pure (by simp)

theorem inOrder_simpleType (rules : r.InOrder) :
    InOrder [] (simpleType r) fun use => Code.marksAll use.parts := by
  refine .step (.maybe (passes_anyKeyword _)) fun primitive => ?_
  cases primitive with
  | some t => exact .pure rfl
  | none =>
    refine .get fun start => .step passes_identifier fun _ =>
      .trans (inOrder_typeNameArguments rules ⟨[], false, start⟩) fun first =>
      .trans (.extend (w := fun name => Code.marksAll name.parts) (fun soFar => ?_) first) fun name =>
      .get fun _ => .pure rfl
    refine .step (passes_require _) fun _ =>
      .step (passes_symbol _) fun _ =>
      .bind (inOrder_annotations rules) fun marks =>
      .step passes_anyWord fun _ => ?_
    simpa using inOrder_typeNameArguments rules ⟨soFar.parts ++ marks, soFar.generic, soFar.base⟩

theorem inOrder_dimension (rules : r.InOrder) : InOrder [] (dimension r) Code.marksAll :=
  .bind (inOrder_annotations rules) fun _ =>
  .step (passes_symbol _) fun _ =>
  .step (passes_symbol _) fun _ =>
  .pure (by simp)

theorem inOrder_dimensions (rules : r.InOrder) :
    InOrder [] (dimensions r) fun read => Code.marksAll read.1 :=
  .bind (.spelled (.many1 (inOrder_dimension rules))) fun _ => .pure (by simp)

theorem inOrder_optionalDimensions (rules : r.InOrder) :
    InOrder [] (optionalDimensions r) fun read => Code.marksAll read.1 :=
  .orElse (inOrder_dimensions rules) (.pure rfl)

theorem inOrder_type (rules : r.InOrder) :
    InOrder [] (type r) fun use => Code.marksAll use.parts :=
  .bind
    (.spelled (w := fun read => Code.marksAll read.1.parts ++ Code.marksAll read.2.1)
      (.bind (inOrder_simpleType rules) fun _ => .bind (inOrder_optionalDimensions rules) fun _ =>
        .pure (by simp)))
    fun _ => .pure (by simp)

theorem inOrder_typeList (rules : r.InOrder) (separator : String) :
    InOrder [] (typeList r separator) Code.marksAll :=
  .bind (.separated1 _ (inOrder_annotatedType rules (inOrder_type rules))) fun _ => .pure (by simp)

theorem inOrder_typeParameter (rules : r.InOrder) :
    InOrder [] (typeParameter r) fun read => Code.marksAll read.2 := by
  refine .bind (inOrder_annotations rules) fun marks =>
    .step passes_anyWord fun name =>
    .step (passes_looking _) fun bounded => ?_
  split
  · exact .step (passes_keyword _) fun _ =>
      .bind (.separated1 _ (inOrder_annotatedType rules (inOrder_type rules))) fun _ =>
      .pure (by simp)
  · exact .pure (by simp)

theorem inOrder_typeParameters (rules : r.InOrder) :
    InOrder [] (typeParameters r) fun read => Code.marksAll read.2 :=
  .bind (.between _ _ (.separated1 _ (inOrder_typeParameter rules))) fun _ => .pure (by simp)

theorem inOrder_optionalTypeParameters (rules : r.InOrder) :
    InOrder [] (optionalTypeParameters r) fun read => Code.marksAll read.2 :=
  .orElse (inOrder_typeParameters rules) (.pure rfl)

/-! ### Modifiers -/

theorem inOrder_modifier (rules : r.InOrder) : InOrder [] (modifier r) Code.marksAll := by
  refine .orElse ?_ (.orElse ?_ (.orElse ?_ ?_))
  · exact .bind (inOrder_annotationMark rules) fun _ => .pure (by simp)
  · exact .step (passes_anyKeyword _) fun _ => .pure rfl
  · exact .step (passes_keyword _) fun _ =>
      .step (takesToken_satisfy _).passes fun _ =>
      .step (takesToken_satisfy _).passes fun _ =>
      .pure rfl
  · exact .step (passes_keyword _) fun _ =>
      .step (passes_require _) fun _ =>
      .pure rfl

theorem inOrder_modifiers (rules : r.InOrder) : InOrder [] (modifiers r) Code.marksAll :=
  .bind (.many (inOrder_modifier rules)) fun _ => .pure (by simp)

/-! ### Formal parameters -/

theorem inOrder_variableName (rules : r.InOrder) :
    InOrder [] (variableName r) fun read => Code.marksAll read.2.1 :=
  .step passes_anyWord fun _ =>
  .bind (inOrder_optionalDimensions rules) fun _ =>
  .pure (by simp)

theorem inOrder_formalParameter (rules : r.InOrder) :
    InOrder [] (formalParameter r) fun read => Code.marksAll read.2 := by
  have value : InOrder [] (optionalList do let _ ← symbol "="; return withoutName (← r.initializer))
      Code.marksAll :=
    .optionalList (.step (passes_symbol _) fun _ => .bind rules.initializer fun _ =>
      .pure (by simp)) rfl
  refine .bind (inOrder_modifiers rules) fun marks =>
    .bind (inOrder_type rules) fun use =>
    .step (passes_looking _) fun varargs => ?_
  split
  · exact .step (passes_symbol _) fun _ =>
      .bind (inOrder_annotations rules) fun more =>
      .bind (inOrder_variableName rules) fun _ =>
      .bind value fun _ =>
      .pure (by simp)
  · exact .bind (inOrder_variableName rules) fun _ => .pure (by simp)

theorem inOrder_receiverParameter (rules : r.InOrder) :
    InOrder [] (receiverParameter r) Code.marksAll := by
  have outer : InOrder [] (many do
      let name ← wordExcept ["this"]
      let _ ← symbol "."
      return Code.name name) Code.marksAll :=
    .codes (.many (.step (takesToken_wordExcept _).passes fun _ => .step (passes_symbol _) fun _ =>
      .pure rfl))
  refine .bind (inOrder_annotations rules) fun marks =>
    .bind (inOrder_type rules) fun use =>
    .bind outer fun names =>
    .step (passes_keyword _) fun _ => ?_
  split
  · exact .step (w := fun _ => []) .failure fun _ => .pure (by simp)
  · exact .pure (by simp)

theorem inOrder_formalParameters (rules : r.InOrder) :
    InOrder [] (formalParameters r) fun read => Code.marksAll read.2 := by
  refine .parens (.bind (.maybe (inOrder_receiverParameter rules)) fun found => ?_)
  cases found with
  | none => exact .bind (.separated _ (inOrder_formalParameter rules)) fun _ => .pure (by simp)
  | some receiver =>
    have more : InOrder [] (optionalList do let _ ← symbol ","; separated1 "," (formalParameter r))
        fun read => read.flatMap fun param => Code.marksAll param.2 :=
      .optionalList (.step (passes_symbol _) fun _ =>
        .separated1 _ (inOrder_formalParameter rules)) rfl
    exact .bind more fun _ => .pure (by simp)

end DefectGraph.Java.Grammar
