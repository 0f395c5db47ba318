import DefectGraph.Java.Grammar.Expressions
import DefectGraph.Proofs.Depth.Basic

/-!
# Types and expressions at different depths

Each rule is compared for two sets of deeper rules. Where these agree on fewer than `n` tokens, a rule that
takes a token before it goes deeper agrees on one token more.

## Main Definitions

* `Rules.Advance` - two sets of rules agree on short inputs.

## Main Statements

* `advance_expression`, `advance_type`, `advance_recordPattern`, `advance_annotationMark` - rules that take a
  token first.
* `advance_initializer`, `advance_elementValue` - rules that may go one level down where they are.

## Design Notes

The lemmas have the shape of those in `Proofs.Layout`: a proof follows its rule one statement at a time. What
is new is where a rule stands in the order of calls. A rule that takes a token before it calls a deeper one
needs that one on fewer tokens, and a rule that hands its tokens on needs it on as many.
-/

namespace DefectGraph.Java.Grammar

open DefectGraph.Java DefectGraph.Java.Parser

/-- Two sets of rules agree on fewer than `n` tokens, and take a token. Those that can be an expression or a
block without any token in front of it lag behind, and agree on fewer than `m` tokens. -/
structure Rules.Advance (n m : Nat) (r s : Rules) : Prop where
  type : Parser.Advance n r.type s.type
  annotationMark : Parser.Advance n r.annotationMark s.annotationMark
  expression : ∀ least lambda, Parser.Advance n (r.expression least lambda) (s.expression least lambda)
  recordPattern : Parser.Advance n r.recordPattern s.recordPattern
  block : Parser.Advance n r.block s.block
  body : ∀ kind, Parser.Advance n (r.body kind) (s.body kind)
  elementValue : Parser.Advance m r.elementValue s.elementValue
  initializer : Parser.Advance m r.initializer s.initializer
  statement : Parser.Advance m r.statement s.statement

namespace Rules.Advance

variable {n m : Nat} {r s : Rules}

theorem zero (r s : Rules) : Rules.Advance 0 0 r s := by
  constructor <;> intros <;> exact .zero _ _

theorem mono (rules : Rules.Advance n m r s) {k l : Nat} (le : k ≤ n) (le' : l ≤ m) :
    Rules.Advance k l r s where
  type := rules.type.mono le
  annotationMark := rules.annotationMark.mono le
  expression least lambda := (rules.expression least lambda).mono le
  recordPattern := rules.recordPattern.mono le
  block := rules.block.mono le
  body kind := (rules.body kind).mono le
  elementValue := rules.elementValue.mono le'
  initializer := rules.initializer.mono le'
  statement := rules.statement.mono le'

/-- The rules that do not lag behind can be compared on as few tokens as the others. -/
theorem level (rules : Rules.Advance (n + 1) n r s) : Rules.Advance n n r s :=
  rules.mono (Nat.le_succ n) (Nat.le_refl n)

end Rules.Advance

variable {n : Nat} {r s : Rules}

theorem advance_anyWord : Advance n anyWord anyWord := .wordExcept _

theorem advance_identifier : Advance n identifier identifier := .wordExcept _

theorem advance_memberName : Advance n memberName memberName := .wordExcept _

/-! ### Annotations -/

theorem advance_dottedName : Advance (n + 1) dottedName dottedName :=
  .bind advance_anyWord fun _ =>
  .bind (.many (.bind (Advance.symbol _).agree fun _ => advance_anyWord.agree)) fun _ =>
  .pure _

theorem agree_annotationArgument (rules : Rules.Advance n n r s) :
    Agree n (annotationArgument r) (annotationArgument s) := by
  refine .bind (.looking _) fun named => ?_
  split
  · exact .bind advance_anyWord.agree fun _ =>
      .bind (Advance.symbol _).agree fun _ =>
      .bind rules.elementValue.agree fun _ =>
      .pure _
  · exact .bind rules.elementValue.agree fun _ => .pure _

theorem advance_annotationMark (rules : Rules.Advance n n r s) :
    Advance (n + 1) (annotationMark r) (annotationMark s) :=
  .bind (.symbol _) fun _ =>
  .bind (.require _) fun _ =>
  .bind advance_dottedName.agree.later fun _ =>
  .bind (.optionalList (Advance.parens (.separated _ (agree_annotationArgument rules))).agree.later)
    fun _ => .pure _

theorem advance_elementValue (rules : Rules.Advance (n + 1) n r s) :
    Advance (n + 1) (elementValue r) (elementValue s) :=
  .orElse (advance_annotationMark rules.level) <|
  .orElse (.map (.bracedList rules.elementValue.agree)) (rules.expression 0 true)

theorem agree_annotations (rules : Rules.Advance n n r s) :
    Agree (n + 1) (annotations r) (annotations s) :=
  .many (advance_annotationMark rules).agree

/-! ### Types -/

theorem agree_annotatedType (rules : Rules.Advance n n r s) {t u : Parser TypeUse} (agree : Agree n t u) :
    Agree n (annotatedType r t) (annotatedType s u) := by
  refine .bind (agree_annotations rules).later fun marks => ?_
  split
  · exact agree
  · exact .bind agree fun _ => .pure _

theorem advance_annotatedType (rules : Rules.Advance n n r s) {t u : Parser TypeUse}
    (advance : Advance (n + 1) t u) : Advance (n + 1) (annotatedType r t) (annotatedType s u) := by
  refine .behind (agree_annotations rules) fun marks => ?_
  split
  · exact advance
  · exact .bind advance fun _ => .pure _

theorem agree_typeArgument (rules : Rules.Advance n n r s) :
    Agree n (typeArgument r) (typeArgument s) := by
  have bound := agree_annotatedType rules rules.type.agree
  refine .bind (agree_annotations rules).later fun marks => .bind (.looking _) fun wildcard => ?_
  split
  · refine .bind (Advance.symbol _).agree fun _ => .bind (.looking _) fun upper => ?_
    split
    · exact .bind (Advance.keyword _).agree fun _ => .bind bound fun _ => .pure _
    · refine .bind (.looking _) fun lower => ?_
      split
      · exact .bind (Advance.keyword _).agree fun _ => .bind bound fun _ => .pure _
      · exact .pure _
  · exact .bind rules.type.agree fun _ => .pure _

theorem advance_typeArguments (rules : Rules.Advance n n r s) :
    Advance (n + 1) (typeArguments r) (typeArguments s) :=
  .bind (.between _ _ (.separated _ (agree_typeArgument rules))) fun _ => .pure _

theorem agree_typeNameArguments (rules : Rules.Advance n n r s) (soFar : TypeName) :
    Agree (n + 1) (typeNameArguments r soFar) (typeNameArguments s soFar) := by
  refine .get fun _ => .bind (.maybe (advance_typeArguments rules).agree) fun found => ?_
  cases found with
  | none => exact .pure _
  | some args => exact .pure _

theorem advance_simpleType (rules : Rules.Advance n n r s) :
    Advance (n + 1) (simpleType r) (simpleType s) := by
  have part : ∀ soFar : TypeName, Agree n
      (do require continuesType; let _ ← symbol "."; let marks ← annotations r; let _ ← anyWord
          typeNameArguments r ⟨soFar.parts ++ marks, soFar.generic, soFar.base⟩)
      (do require continuesType; let _ ← symbol "."; let marks ← annotations s; let _ ← anyWord
          typeNameArguments s ⟨soFar.parts ++ marks, soFar.generic, soFar.base⟩) := fun _ =>
    .bind (.require _) fun _ =>
    .bind (Advance.symbol _).agree fun _ =>
    .bind (agree_annotations rules).later fun _ =>
    .bind advance_anyWord.agree fun _ =>
    (agree_typeNameArguments rules _).later
  -- a primitive type is a token, and any other type starts with one
  exact .bindMaybe (.anyKeyword _) (fun _ => .pure _) <|
    .get fun _ =>
    .bind advance_identifier fun _ =>
    .bind (agree_typeNameArguments rules _).later fun _ =>
    .bind (.extend part _) fun _ =>
    .get fun _ =>
    .pure _

theorem agree_dimension (rules : Rules.Advance n n r s) :
    Advance (n + 1) (dimension r) (dimension s) :=
  .behind (agree_annotations rules) fun _ =>
  .bind (.symbol _) fun _ =>
  .bind (Advance.symbol _).agree fun _ =>
  .pure _

theorem advance_dimensions (rules : Rules.Advance n n r s) :
    Advance (n + 1) (dimensions r) (dimensions s) :=
  .bind (.spelled (.many1 (agree_dimension rules))) fun _ => .pure _

theorem agree_optionalDimensions (rules : Rules.Advance n n r s) :
    Agree (n + 1) (optionalDimensions r) (optionalDimensions s) :=
  .orElse (advance_dimensions rules).agree (.pure _)

theorem advance_type (rules : Rules.Advance n n r s) : Advance (n + 1) (type r) (type s) :=
  .bind (.spelled (.bind (advance_simpleType rules) fun _ =>
    .bind (agree_optionalDimensions rules).later fun _ => .pure _)) fun _ => .pure _

theorem advance_typeList (rules : Rules.Advance n n r s) (separator : String) :
    Advance (n + 1) (typeList r separator) (typeList s separator) :=
  .bind (.separated1 _ (advance_annotatedType rules (advance_type rules))) fun _ => .pure _

theorem advance_typeParameter (rules : Rules.Advance n n r s) :
    Advance (n + 1) (typeParameter r) (typeParameter s) := by
  have bound := advance_annotatedType rules (advance_type rules)
  refine .behind (agree_annotations rules) fun marks =>
    .bind advance_anyWord fun name =>
    .bind (.looking _) fun bounded => ?_
  split
  · exact .bind (Advance.keyword _).agree fun _ =>
      .bind (Advance.separated1 _ bound).agree.later fun _ =>
      .pure _
  · exact .pure _

theorem advance_typeParameters (rules : Rules.Advance n n r s) :
    Advance (n + 1) (typeParameters r) (typeParameters s) :=
  .bind (.between _ _ (.separated1 _ (advance_typeParameter rules).agree.later)) fun _ => .pure _

theorem agree_optionalTypeParameters (rules : Rules.Advance n n r s) :
    Agree (n + 1) (optionalTypeParameters r) (optionalTypeParameters s) :=
  .orElse (advance_typeParameters rules).agree (.pure _)

/-! ### Modifiers -/

theorem advance_modifier (rules : Rules.Advance n n r s) :
    Advance (n + 1) (modifier r) (modifier s) := by
  refine .orElse ?_ (.orElse ?_ (.orElse ?_ ?_))
  · exact .bind (advance_annotationMark rules) fun _ => .pure _
  · exact .bind (.anyKeyword _) fun _ => .pure _
  · exact .bind (.keyword _) fun _ =>
      .bind (Advance.satisfy _).agree fun _ =>
      .bind (Advance.satisfy _).agree fun _ =>
      .pure _
  · exact .bind (.keyword _) fun _ => .bind (.require _) fun _ => .pure _

theorem agree_modifiers (rules : Rules.Advance n n r s) : Agree (n + 1) (modifiers r) (modifiers s) :=
  .bind (.many (advance_modifier rules).agree) fun _ => .pure _

/-! ### Formal parameters -/

theorem advance_variableName (rules : Rules.Advance n n r s) :
    Advance (n + 1) (variableName r) (variableName s) :=
  .bind advance_anyWord fun _ => .bind (agree_optionalDimensions rules).later fun _ => .pure _

theorem agree_formalParameter (rules : Rules.Advance n n r s) :
    Agree n (formalParameter r) (formalParameter s) := by
  have name := (advance_variableName rules).agree.later
  refine .bind (agree_modifiers rules).later fun marks =>
    .bind (advance_type rules).agree.later fun use =>
    .bind (.looking _) fun varargs => ?_
  split
  · exact .bind (Advance.symbol _).agree fun _ =>
      .bind (agree_annotations rules).later fun _ =>
      .bind name fun _ =>
      .bind (.optionalList (.bind (Advance.symbol _).agree fun _ =>
        .bind rules.initializer.agree fun _ => .pure _)) fun _ =>
      .pure _
  · exact .bind name fun _ => .pure _

theorem agree_receiverParameter (rules : Rules.Advance n n r s) :
    Agree n (receiverParameter r) (receiverParameter s) := by
  refine .bind (agree_annotations rules).later fun marks =>
    .bind (advance_type rules).agree.later fun use =>
    .bind (.many (.bind (Advance.wordExcept _).agree fun _ =>
      .bind (Advance.symbol _).agree fun _ => .pure _)) fun names =>
    .bind (Advance.keyword _).agree fun _ => ?_
  split
  · exact .bind .failure fun _ => .pure _
  · exact .pure _

theorem advance_formalParameters (rules : Rules.Advance n n r s) :
    Advance (n + 1) (formalParameters r) (formalParameters s) := by
  have param := agree_formalParameter rules
  refine .parens (.bind (.maybe (agree_receiverParameter rules)) fun found => ?_)
  cases found with
  | none => exact .bind (.separated _ param) fun _ => .pure _
  | some receiver =>
    exact .bind (.optionalList (.bind (Advance.symbol _).agree fun _ => .separated1 _ param)) fun _ =>
      .pure _

/-! ### Patterns and literals -/

theorem agree_skip (k : Nat) : Agree n (skip k) (skip k) := by
  induction k with
  | zero => exact .pure _
  | succ k ih => exact .bind (Advance.satisfy _).agree fun _ => ih

theorem advance_skip (k : Nat) : Advance (n + 1) (skip (k + 1)) (skip (k + 1)) :=
  .bind (.satisfy _) fun _ => agree_skip k

theorem advance_arguments (rules : Rules.Advance n n r s) :
    Advance (n + 1) (arguments r) (arguments s) :=
  .parens (.separated _ (rules.expression 0 true).agree)

theorem advance_parenthesized (rules : Rules.Advance n n r s) :
    Advance (n + 1) (parenthesized r) (parenthesized s) :=
  .bind (.parens (rules.expression 0 true).agree) fun _ => .pure _

theorem agree_recordComponent (rules : Rules.Advance n n r s) :
    Agree n (recordComponent r) (recordComponent s) := by
  refine .orElse rules.recordPattern.agree (.orElse ?_ ?_)
  · exact .bind (advance_type rules).agree.later fun _ =>
      .bind advance_identifier.agree fun _ =>
      .pure _
  · exact .bind (Advance.keyword _).agree fun _ => .pure _

theorem advance_recordPattern (rules : Rules.Advance n n r s) :
    Advance (n + 1) (recordPattern r) (recordPattern s) := by
  refine .bind (.orElse ?_ ?_) fun _ =>
    .bind (Advance.parens (.separated _ (agree_recordComponent rules))).agree.later fun _ => .pure _
  · exact .bind advance_identifier fun _ => .bind (.require _) fun _ => .pure _
  · refine .bind (advance_simpleType rules) fun use => ?_
    split
    · exact .failure
    · exact .pure _

theorem agree_testedType (rules : Rules.Advance n n r s) :
    Agree n (testedType r) (testedType s) := by
  have tested := (advance_annotatedType rules (advance_type rules)).agree.later
  refine .bind (.maybe (Advance.keyword _).agree) fun _ => .orElse ?_ ?_
  · exact .bind (advance_recordPattern rules).agree.later fun _ => .pure _
  · refine .bind tested fun use => .bind (.maybe advance_identifier.agree) fun found => ?_
    cases found with
    | none => exact .pure _
    | some name => exact .pure _

theorem advance_textLiteral (rules : Rules.Advance n n r s) :
    Advance (n + 1) (textLiteral r) (textLiteral s) := by
  refine .bind (.satisfy _) fun t => ?_
  split
  · exact .pure _
  · exact .bind (rules.expression 0 true).agree fun _ =>
      .bind (.many (.bind (Advance.satisfy _).agree fun _ => (rules.expression 0 true).agree)) fun _ =>
      .bind (Advance.satisfy _).agree fun _ =>
      .pure _

theorem advance_initializer {k : Nat} (le : k ≤ n + 1) (rules : Rules.Advance k n r s) :
    Advance k (initializer r) (initializer s) :=
  .orElse (.map ((Advance.bracedList rules.initializer.agree).mono le)) (rules.expression 0 true)

/-! ### Creations -/

theorem agree_lengthDimension (rules : Rules.Advance n n r s) :
    Advance (n + 1) (lengthDimension r) (lengthDimension s) :=
  .behind (agree_annotations rules) fun _ =>
  .bind (.between _ _ (rules.expression 0 true).agree) fun _ =>
  .pure _

theorem advance_arrayCreation (rules : Rules.Advance n n r s) :
    Advance (n + 1) (arrayCreation r) (arrayCreation s) :=
  .orElse
    (.bind (.many1 (agree_lengthDimension rules)) fun _ =>
      .bind (agree_optionalDimensions rules).later fun _ => .pure _)
    (.bind (advance_dimensions rules) fun _ =>
      .bind (Advance.bracedList rules.initializer.agree).agree.later fun _ => .pure _)

theorem agree_optionalInlineBody (rules : Rules.Advance n n r s) :
    Agree n (optionalInlineBody r) (optionalInlineBody s) := by
  refine .bind (.looking _) fun opened => ?_
  split
  · exact .bind (rules.body _).agree fun _ => .pure _
  · exact .pure _

theorem advance_creation (rules : Rules.Advance n n r s) (outer : List Code) :
    Advance (n + 1) (creation r outer) (creation s outer) := by
  refine .bind (.keyword _) fun _ =>
    .bind (agree_annotations rules).later fun _ =>
    .bind (.optionalList (advance_typeArguments rules).agree.later) fun _ =>
    .bind (agree_annotations rules).later fun _ =>
    .bind (advance_simpleType rules).agree.later fun _ =>
    .bind (.looking _) fun called => ?_
  split
  · exact .bind (advance_arguments rules).agree.later fun _ =>
      .bind (agree_optionalInlineBody rules) fun _ =>
      .pure _
  · exact .bind (advance_arrayCreation rules).agree.later fun _ => .pure _

/-! ### Primary expressions -/

theorem advance_methodReference (rules : Rules.Advance n n r s) (target : Code) :
    Advance (n + 1) (methodReference r target) (methodReference s target) :=
  .bind (.symbol _) fun _ =>
  .bind (.optionalList (advance_typeArguments rules).agree.later) fun _ =>
  .bind advance_anyWord.agree fun _ =>
  .pure _

theorem advance_typeExpression (rules : Rules.Advance n n r s) :
    Advance (n + 1) (typeExpression r) (typeExpression s) := by
  refine .bind (advance_type rules) fun use => .orElse ?_ ?_
  · exact .bind (Advance.symbol _).agree fun _ => .bind (Advance.keyword _).agree fun _ => .pure _
  · split
    · exact .failure
    · exact (advance_methodReference rules _).agree.later

theorem agree_access (rules : Rules.Advance n n r s) (object : Code) (between : List Code) :
    Agree n (access r object between) (access s object between) := by
  refine .bind advance_memberName.agree fun name => .bind (.looking _) fun called => ?_
  split
  · exact .bind (advance_arguments rules).agree.later fun _ => .pure _
  · exact .pure _

theorem agree_genericCall (rules : Rules.Advance n n r s) (object : Code) (between : List Code) :
    Agree n (genericCall r object between) (genericCall s object between) :=
  .bind (advance_typeArguments rules).agree.later fun _ =>
  .bind advance_memberName.agree fun _ =>
  .bind (advance_arguments rules).agree.later fun _ =>
  .pure _

theorem agree_superAccess (rules : Rules.Advance n n r s) (object : Code) :
    Agree n (superAccess r object) (superAccess s object) :=
  .orElse
    (.bind (advance_methodReference rules _).agree.later fun _ => .pure _)
    (.bind (Advance.symbol _).agree fun _ =>
      .orElse (agree_genericCall rules _ _) (agree_access rules _ _))

theorem agree_postfixStep (rules : Rules.Advance n n r s) (primary : Primary) :
    Agree n (postfixStep r primary) (postfixStep s primary) := by
  obtain ⟨object, assignable⟩ := primary
  refine .get fun c => ?_
  cases c.rest with
  | nil => exact .failure
  | cons t next =>
    dsimp only
    split
    · refine .bind (agree_skip 1) fun _ => ?_
      cases next with
      | nil => exact .failure
      | cons u later =>
        dsimp only
        split
        · exact .bind (advance_creation rules _).agree.later fun _ => .pure _
        · split
          · exact .bind (agree_skip 1) fun _ => agree_superAccess rules _
          · split
            · exact .bind (agree_skip 1) fun _ => .pure _
            · split
              · exact agree_genericCall rules _ _
              · split
                · exact .bind (advance_textLiteral rules).agree.later fun _ => .pure _
                · exact agree_access rules _ _
    · split
      · exact .bind (Advance.between _ _ (rules.expression 0 true).agree).agree.later fun _ => .pure _
      · split
        · exact .bind (advance_methodReference rules _).agree.later fun _ => .pure _
        · exact .failure

theorem advance_primaryWord (rules : Rules.Advance n n r s) (word : String) :
    Advance (n + 1) (primaryWord r word) (primaryWord s word) := by
  unfold primaryWord
  split
  · exact .bind (advance_skip 0) fun _ => .pure _
  · split
    · exact .bind (advance_skip 0) fun _ => .bind (.require _) fun _ => .pure _
    · split
      · exact .bind (advance_creation rules _) fun _ => .pure _
      · split
        · exact .bind (advance_skip 0) fun _ => .pure _
        · refine .bindMaybe (advance_typeExpression rules) (fun _ => .pure _) <|
            .bind advance_identifier fun name => .bind (.looking _) fun called => ?_
          split
          · exact .bind (advance_arguments rules).agree.later fun _ => .pure _
          · exact .pure _

theorem advance_primaryStart (rules : Rules.Advance n n r s) :
    Advance (n + 1) (primaryStart r) (primaryStart s) := by
  refine .get fun c => ?_
  cases c.rest with
  | nil => exact .failure
  | cons t next =>
    dsimp only
    split
    · exact .bind (advance_skip 0) fun _ => .pure _
    · exact .bind (advance_skip 0) fun _ => .pure _
    · exact .bind (advance_textLiteral rules) fun _ => .pure _
    · exact .bind (advance_textLiteral rules) fun _ => .pure _
    · exact advance_primaryWord rules t.text
    · exact .bind (advance_parenthesized rules) fun _ => .pure _

theorem advance_primary (rules : Rules.Advance n n r s) : Advance (n + 1) (primary r) (primary s) :=
  .bind (advance_primaryStart rules) fun _ => .extend (agree_postfixStep rules) _

theorem advance_primaryExpression (rules : Rules.Advance n n r s) (lambda : Bool) :
    Advance (n + 1) (primaryExpression r lambda) (primaryExpression s lambda) := by
  refine .bind (advance_primary rules) fun found => .get fun c => ?_
  split
  · split
    · exact .bind (agree_skip _) fun _ => .bind (rules.expression 0 lambda).agree fun _ => .pure _
    · exact .pure _
  · refine .bind (.maybe (.orElse (Advance.symbol _).agree (Advance.symbol _).agree)) fun found => ?_
    cases found with
    | none => exact .pure _
    | some sign => exact .pure _

/-! ### Lambdas, casts and switches -/

theorem advance_lambdaParameters (rules : Rules.Advance n n r s) :
    Advance (n + 1) (lambdaParameters r) (lambdaParameters s) := by
  refine .behind (.looking _) fun several => ?_
  split
  · exact .orElse
      (.bind (.parens (.separated1 _ advance_identifier.agree)) fun _ => .pure _)
      (.bind (advance_formalParameters rules) fun _ => .pure _)
  · exact .bind (advance_skip 0) fun _ => .pure _

theorem advance_lambdaExpression (rules : Rules.Advance n n r s) :
    Advance (n + 1) (lambdaExpression r) (lambdaExpression s) := by
  refine .bind (advance_lambdaParameters rules) fun params =>
    .bind (Advance.symbol _).agree fun _ =>
    .bind (.looking _) fun braced => ?_
  split
  · exact .bind rules.block.agree fun _ => .pure _
  · exact .bind (rules.expression 0 true).agree fun _ => .pure _

theorem advance_castExpression (rules : Rules.Advance n n r s) (lambda : Bool) :
    Advance (n + 1) (castExpression r lambda) (castExpression s lambda) :=
  .bind (.parens (.separated1 _ (advance_annotatedType rules (advance_type rules)).agree.later)) fun _ =>
  .bind (.require _) fun _ =>
  .bind (rules.expression castPrecedence lambda).agree fun _ =>
  .pure _

theorem advance_switchLabel (rules : Rules.Advance n n r s) :
    Advance (n + 1) (switchLabel r) (switchLabel s) := by
  refine .orElse (.bind (.keyword _) fun _ => .pure _) (.bind (.keyword _) fun _ =>
    .bind (.orElse ?_ (.orElse ?_ ?_)) fun values => .bind (.looking _) fun guarded => ?_)
  · exact .bind (.separated1 _ (rules.expression 0 false).agree) fun _ =>
      .bind (.require _) fun _ =>
      .pure _
  · exact .bind (advance_recordPattern rules).agree.later fun _ => .pure _
  · exact .bind (advance_type rules).agree.later fun _ =>
      .bind advance_identifier.agree fun _ =>
      .pure _
  · split
    · exact .bind (agree_skip 1) fun _ => .bind (rules.expression 0 false).agree fun _ => .pure _
    · exact .pure _

/-- Statements that are expressions agree as far as expressions do. -/
theorem agree_expressionStatement
    (expression : ∀ least lambda, Advance n (r.expression least lambda) (s.expression least lambda)) :
    Agree n (expressionStatement r) (expressionStatement s) :=
  .bind (expression 0 true).agree fun _ => .bind (Advance.symbol _).agree fun _ => .pure _

theorem agree_throwStatement (rules : Rules.Advance n n r s) :
    Agree n (throwStatement r) (throwStatement s) :=
  .bind (Advance.keyword _).agree fun _ =>
  .bind (agree_expressionStatement rules.expression) fun _ =>
  .pure _

theorem agree_switchEntry (rules : Rules.Advance n n r s) :
    Agree n (switchEntry r) (switchEntry s) := by
  refine .bind (advance_switchLabel rules).agree.later fun label => .bind (.looking _) fun listed => ?_
  split
  · exact .bind (agree_skip 1) fun _ => .bind (.many rules.statement.agree) fun _ => .pure _
  · refine .bind (Advance.symbol _).agree fun _ => .bind (.looking _) fun braced => ?_
    split
    · exact .bind rules.block.agree fun _ => .pure _
    · refine .bind (.looking _) fun thrown => ?_
      split
      · exact .bind (agree_throwStatement rules) fun _ => .pure _
      · exact .bind (agree_expressionStatement rules.expression) fun _ => .pure _

theorem advance_switchExpression (rules : Rules.Advance n n r s) :
    Advance (n + 1) (switchExpression r) (switchExpression s) :=
  .bind (.keyword _) fun _ =>
  .bind (advance_parenthesized rules).agree.later fun _ =>
  .bind (Advance.braces (.many (agree_switchEntry rules))).agree.later fun _ =>
  .pure _

/-! ### Expressions -/

theorem advance_annotatedReference (rules : Rules.Advance n n r s) :
    Advance (n + 1) (annotatedReference r) (annotatedReference s) :=
  .bind (advance_annotatedType rules (advance_type rules)) fun _ =>
  (advance_methodReference rules _).agree.later

theorem advance_operand (rules : Rules.Advance n n r s) (lambda : Bool) :
    Advance (n + 1) (operand r lambda) (operand s lambda) := by
  refine .get fun c => ?_
  cases c.rest with
  | nil => exact .failure
  | cons t rest =>
    dsimp only
    split
    · exact .bind (advance_skip 0) fun _ =>
        .bind (rules.expression unaryPrecedence lambda).agree fun _ =>
        .pure _
    · split
      · exact advance_lambdaExpression rules
      · split
        · exact advance_switchExpression rules
        · split
          · exact advance_annotatedReference rules
          · split
            · exact .orElse (advance_castExpression rules lambda) (advance_primaryExpression rules lambda)
            · exact advance_primaryExpression rules lambda

theorem agree_operation (rules : Rules.Advance n n r s) (least : Nat) (lambda : Bool) (left : Code) :
    Agree n (operation r least lambda left) (operation s least lambda left) := by
  refine .get fun c => ?_
  dsimp only
  split
  · split
    · exact .failure
    · exact .bind (agree_skip _) fun _ => .bind (rules.expression _ lambda).agree fun _ => .pure _
  · split
    · exact .bind (agree_skip 1) fun _ => .bind (agree_testedType rules) fun _ => .pure _
    · split
      · exact .bind (agree_skip 1) fun _ =>
          .bind (rules.expression 0 true).agree fun _ =>
          .bind (Advance.symbol _).agree fun _ =>
          .bind (rules.expression conditionalPrecedence lambda).agree fun _ =>
          .pure _
      · exact .failure

/-- An operand takes a token, so the operations behind it go deeper on fewer tokens. -/
theorem advance_expression (rules : Rules.Advance n n r s) (least : Nat) (lambda : Bool) :
    Advance (n + 1) (expression r least lambda) (expression s least lambda) :=
  .bind (advance_operand rules lambda) fun _ => .extend (agree_operation rules least lambda) _

end DefectGraph.Java.Grammar
