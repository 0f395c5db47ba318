import DefectGraph.Java.Grammar.Declarations
import DefectGraph.Proofs.Layout.Expressions

/-!
# Declarations are read in order

The marks of a declaration are its own start and stop around those of its body. What stands in front of
its name, and what its header holds, has no marks of its own then, and counts only for what turns out to
be a field.

## Main Statements

* `inOrder_explicitCall`, `inOrder_constructorBody` - an explicit constructor call stands in front of the
  other code of its constructor.
* `inOrder_member`, `inOrder_body` - the members of a type body are read in order.

## Design Notes

A rule for the rest of a declaration is told where the declaration starts, a place that was passed before
the rule began. `InOrderFrom` is the judgment for such rules: the place is an edge of the text, and no token
that is left lies in front of it. What has been read since, modifiers and types, stands behind the start of
the declaration and would be out of order in front of it, so its marks are given up when the declaration
turns out to be a method or a constructor.
-/

namespace DefectGraph.Java.Grammar

open DefectGraph.Java DefectGraph.Java.Parser
open DefectGraph.Source (TypeParam RedirectKind)

variable {r : Rules}

/-! ### Variables -/

theorem inOrder_declarator (rules : r.InOrder) : InOrder [] (declarator r) Code.marksAll := by
  have value : InOrder [] (optionalList do let _ ← symbol "="; return withoutName (← initializer r))
      Code.marksAll :=
    .optionalList (.step (passes_symbol _) fun _ => .bind (inOrder_initializer rules) fun _ =>
      .pure (by simp)) rfl
  exact .bind (inOrder_variableName rules) fun _ =>
    .bind value fun _ =>
    .pure (by simp)

theorem inOrder_declarators (rules : r.InOrder) : InOrder [] (declarators r) Code.marksAll :=
  .bind (.separated1 _ (inOrder_declarator rules)) fun _ =>
  .step (passes_symbol _) fun _ =>
  .pure (by simp)

/-! ### Methods and constructors -/

theorem inOrder_throwsClause (rules : r.InOrder) : InOrder [] (throwsClause r) Code.marksAll :=
  .optionalList (.step (passes_keyword _) fun _ => inOrder_typeList rules ",") rfl

theorem inOrder_methodRest (rules : r.InOrder) (start : Nat) (typeParams : List TypeParam)
    (front : List Code) (u : List Mark) :
    InOrderFrom start u (methodRest r start typeParams front) Code.marks := by
  have body : InOrder [] (r.block <|> (do let _ ← symbol ";"; return [])) Code.marksAll :=
    .orElse rules.block (.step (passes_symbol _) fun _ => .pure rfl)
  -- only the body counts: the code of the header has no declarations of interest
  exact .first (takesToken_wordExcept _) fun _ =>
    .step (inOrder_formalParameters rules) fun _ =>
    .step (inOrder_optionalDimensions rules) fun _ =>
    .step (inOrder_throwsClause rules) fun _ =>
    .bind body fun _ =>
    .getStop fun _ =>
    .pure (by simp [spanMarks])

theorem inOrder_explicitCall (rules : r.InOrder) :
    InOrder [] (explicitCall r) fun read => Code.marksAll read.2 := by
  refine .orElse ?_ ?_
  · refine .bind (.optionalList (inOrder_typeArguments rules) rfl) fun args =>
      .step (passes_anyKeyword _) fun target =>
      .bind (inOrder_arguments rules) fun values =>
      .step (passes_symbol _) fun _ => ?_
    split
    · exact .pure (by simp)
    · exact .pure (by simp)
  · exact .bind (inOrder_primary rules) fun _ =>
      .step (passes_symbol _) fun _ =>
      .bind (.optionalList (inOrder_typeArguments rules) rfl) fun _ =>
      .step (passes_keyword _) fun _ =>
      .bind (inOrder_arguments rules) fun _ =>
      .step (passes_symbol _) fun _ =>
      .pure (by simp)

/-- The marks of the code of an explicit constructor call, if there is one. -/
def redirectMarks (redirect : Option (RedirectKind × List Code)) : List Mark :=
  Code.marksAll ((redirect.map Prod.snd).getD [])

theorem inOrder_constructorBody (rules : r.InOrder) :
    InOrder [] (constructorBody r) fun read => redirectMarks read.1 ++ Code.marksAll read.2 := by
  refine .braces (.bind (.maybe (inOrder_explicitCall rules)) fun redirect =>
    .bind (.codes (.many rules.statement)) fun _ => .pure ?_)
  cases redirect <;> rfl

theorem inOrder_constructorRest (rules : r.InOrder) (start : Nat) (typeParams : List TypeParam)
    (front : List Code) (u : List Mark) :
    InOrderFrom start u (constructorRest r start typeParams front) Code.marks :=
  .first (takesToken_wordExcept _) fun _ =>
  .step (inOrder_formalParameters rules) fun _ =>
  .step (inOrder_throwsClause rules) fun _ =>
  .bind (inOrder_constructorBody rules) fun _ =>
  .getStop fun _ =>
  .pure (by simp [spanMarks, redirectMarks])

theorem inOrder_compactConstructorRest (rules : r.InOrder) (start : Nat) (front : List Code)
    (u : List Mark) : InOrderFrom start u (compactConstructorRest r start front) Code.marks :=
  .first (takesToken_wordExcept _) fun _ =>
  .bind rules.block fun _ =>
  .getStop fun _ =>
  .pure (by simp [spanMarks])

/-! ### Types -/

theorem inOrder_typesAfter (rules : r.InOrder) (word : String) :
    InOrder [] (typesAfter r word) Code.marksAll :=
  .optionalList (.step (passes_keyword _) fun _ => inOrder_typeList rules ",") rfl

@[simp] theorem TypeDeclaration.marks_toCode (d : TypeDeclaration) :
    d.toCode.marks = Code.marksAll d.members := by
  simp [toCode]

theorem inOrder_classRest (rules : r.InOrder) (front : List Code) :
    InOrder [] (classRest r front) fun d => Code.marksAll d.members := by
  have super : InOrder [] (optionalList do
      let _ ← keyword "extends"
      return (← annotatedType r (type r)).parts) Code.marksAll :=
    .optionalList (.step (passes_keyword _) fun _ =>
      .trans (inOrder_annotatedType rules (inOrder_type rules)) fun _ => .pure rfl) rfl
  exact .step (passes_keyword _) fun _ =>
    .step passes_anyWord fun _ =>
    .step (inOrder_optionalTypeParameters rules) fun _ =>
    .step super fun _ =>
    .step (inOrder_typesAfter rules _) fun _ =>
    .step (inOrder_typesAfter rules _) fun _ =>
    .trans (rules.body _) fun _ =>
    .pure rfl

theorem inOrder_interfaceRest (rules : r.InOrder) (front : List Code) :
    InOrder [] (interfaceRest r front) fun d => Code.marksAll d.members :=
  .step (passes_keyword _) fun _ =>
  .step passes_anyWord fun _ =>
  .step (inOrder_optionalTypeParameters rules) fun _ =>
  .step (inOrder_typesAfter rules _) fun _ =>
  .step (inOrder_typesAfter rules _) fun _ =>
  .trans (rules.body _) fun _ =>
  .pure rfl

theorem inOrder_recordRest (rules : r.InOrder) (front : List Code) :
    InOrder [] (recordRest r front) fun d => Code.marksAll d.members :=
  .step (passes_keyword _) fun _ =>
  .step passes_anyWord fun _ =>
  .step (inOrder_optionalTypeParameters rules) fun _ =>
  .step (inOrder_formalParameters rules) fun _ =>
  .step (inOrder_typesAfter rules _) fun _ =>
  .trans (rules.body _) fun _ =>
  .pure rfl

theorem inOrder_annotationTypeRest (rules : r.InOrder) (front : List Code) :
    InOrder [] (annotationTypeRest r front) fun d => Code.marksAll d.members :=
  .step (passes_symbol _) fun _ =>
  .step (passes_keyword _) fun _ =>
  .step passes_anyWord fun _ =>
  .trans (rules.body _) fun _ =>
  .pure rfl

theorem inOrder_enumConstant (rules : r.InOrder) : InOrder [] (enumConstant r) Code.marks :=
  .offset fun _ =>
  .step (inOrder_modifiers rules) fun _ =>
  .first (takesToken_wordExcept _) fun _ =>
  .bind (.optionalList (inOrder_arguments rules) rfl) fun _ =>
  .bind (inOrder_optionalInlineBody rules) fun _ =>
  .getStop fun _ =>
  .pure (by simp [spanMarks])

theorem inOrder_enumRest (rules : r.InOrder) (front : List Code) :
    InOrder [] (enumRest r front) fun d => Code.marksAll d.members :=
  .step (passes_keyword _) fun _ =>
  .step passes_anyWord fun _ =>
  .step (inOrder_typesAfter rules _) fun _ =>
  .trans (rules.body _) fun _ =>
  .pure rfl

theorem inOrder_typeDeclaration (rules : r.InOrder) (front : List Code) :
    InOrder [] (typeDeclaration r front) fun d => Code.marksAll d.members := by
  refine .step (passes_require _) fun _ => .get fun c => ?_
  split
  · split
    · exact inOrder_classRest rules front
    split
    · exact inOrder_interfaceRest rules front
    split
    · exact inOrder_enumRest rules front
    split
    · exact inOrder_recordRest rules front
    · exact inOrder_annotationTypeRest rules front
  · exact .failure

/-! ### Members -/

theorem inOrder_annotationMember (rules : r.InOrder) (front : List Code) :
    InOrder (Code.marksAll front) (annotationMember r front) Code.marks := by
  have value : InOrder [] (optionalList do
      let _ ← keyword "default"
      return [← r.elementValue]) Code.marksAll :=
    .optionalList (.step (passes_keyword _) fun _ => .bind rules.elementValue fun _ =>
      .pure (by simp)) rfl
  refine .bind (inOrder_type rules) fun use => .step (passes_looking _) fun element => ?_
  split
  · exact .step passes_anyWord fun _ =>
      .step (passes_symbol _) fun _ =>
      .step (passes_symbol _) fun _ =>
      .bind (inOrder_optionalDimensions rules) fun _ =>
      .bind value fun _ =>
      .step (passes_symbol _) fun _ =>
      .pure (by simp)
  · exact .bind (inOrder_declarators rules) fun _ => .pure (by simp)

theorem inOrder_methodOrField (rules : r.InOrder) (start : Nat) (typeParams : List TypeParam)
    (front : List Code) :
    InOrderFrom start (Code.marksAll front) (methodOrField r start typeParams front) Code.marks := by
  refine .bind (inOrder_type rules) fun use => .step (passes_looking _) fun method => ?_
  split
  · exact inOrder_methodRest rules start typeParams _ _
  split
  · exact InOrder.withStart (.bind (inOrder_declarators rules) fun _ => .pure (by simp)) start
  · exact InOrder.failure.withStart start

theorem inOrder_classMember (rules : r.InOrder) (start : Nat) (front : List Code) :
    InOrderFrom start (Code.marksAll front) (classMember r start front) Code.marks := by
  refine .bind (inOrder_optionalTypeParameters rules) fun read =>
    .step (passes_looking _) fun ctor => ?_
  split
  · exact inOrder_constructorRest rules start _ _ _
  refine .step (passes_looking _) fun compact => ?_
  split
  · exact inOrder_compactConstructorRest rules start _ _
  · refine .bind (inOrder_annotations rules) fun marks => ?_
    simpa using inOrder_methodOrField rules start read.1 (front ++ read.2 ++ marks)

theorem inOrder_interfaceMember (rules : r.InOrder) (start : Nat) (front : List Code) :
    InOrderFrom start (Code.marksAll front) (interfaceMember r start front) Code.marks := by
  refine .bind (inOrder_optionalTypeParameters rules) fun read =>
    .bind (inOrder_annotations rules) fun marks => ?_
  simpa using inOrder_methodOrField rules start read.1 (front ++ read.2 ++ marks)

theorem inOrder_initializerBlock (rules : r.InOrder) :
    InOrder [] (initializerBlock r) Code.marks :=
  .step (.maybe (passes_keyword _)) fun _ =>
  .bind rules.block fun _ =>
  .pure (by simp)

theorem inOrder_plainMember (rules : r.InOrder) (kind : BodyKind) (start : Nat)
    (front : List Code) :
    InOrderFrom start (Code.marksAll front) (plainMember r kind start front) Code.marks := by
  cases kind with
  | classBody => exact inOrder_classMember rules start front
  | enumBody => exact inOrder_classMember rules start front
  | interfaceBody => exact inOrder_interfaceMember rules start front
  | annotationBody => exact (inOrder_annotationMember rules front).withStart start

theorem inOrder_member (rules : r.InOrder) (kind : BodyKind) :
    InOrder [] (member r kind) fun code => code.elim [] Code.marks := by
  refine .step (passes_looking _) fun empty => ?_
  split
  · exact .step (passes_skip 1) fun _ => .pure rfl
  refine .step (passes_looking _) fun block => ?_
  split
  · exact .bind (inOrder_initializerBlock rules) fun _ => .pure (by simp)
  refine .offset fun start =>
    .bind (inOrder_modifiers rules) fun front =>
    .step (passes_looking _) fun type => ?_
  split
  · -- the code in front of a type belongs to its header
    exact InOrder.withStart
      (.trans ((inOrder_typeDeclaration rules front).drop _) fun _ => .pure (by simp)) start
  · exact .trans (inOrder_plainMember rules kind start front) fun _ => .pure rfl

theorem inOrder_members (rules : r.InOrder) (kind : BodyKind) :
    InOrder [] (members r kind) Code.marksAll :=
  .trans (.many (inOrder_member rules kind)) fun _ => .pure (Code.marksAll_filterMap _)

theorem inOrder_enumMembers (rules : r.InOrder) : InOrder [] (enumMembers r) Code.marksAll := by
  have more : InOrder [] (optionalList do let _ ← symbol ";"; members r .enumBody) Code.marksAll :=
    .optionalList (.step (passes_symbol _) fun _ => inOrder_members rules .enumBody) rfl
  exact .bind (.codes (.separated _ (inOrder_enumConstant rules))) fun _ =>
    .step (.maybe (passes_symbol _)) fun _ =>
    .bind more fun _ =>
    .pure (by simp)

theorem inOrder_body (rules : r.InOrder) (kind : BodyKind) :
    InOrder [] (body r kind) Code.marksAll := by
  refine .braces ?_
  split
  · exact inOrder_enumMembers rules
  · exact inOrder_members rules _

end DefectGraph.Java.Grammar
