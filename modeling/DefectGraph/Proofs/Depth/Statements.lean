import DefectGraph.Java.CompilationUnit
import DefectGraph.Proofs.Depth.Expressions

/-!
# Files at different depths

The rules for declarations and statements are compared like those for expressions. Two levels then settle
one more token: the first one settles the rules that take a token before they go deeper, the second one the
rules that are an expression or a block without a token in front of it. So two levels for each token are
enough to read a file, and more levels read nothing else.

## Main Statements

* `Rules.Advance.step` - what one more level settles.
* `Rules.Advance.ofDepth` - two levels for each token.
* `CompilationUnit.ofSource?_of_depth` - no file needs more levels than it is read with.
-/

namespace DefectGraph.Java

namespace Grammar

open DefectGraph.Java DefectGraph.Java.Parser
open DefectGraph.Source (TypeParam)

variable {n : Nat} {r s : Rules}

/-! ### Methods and constructors -/

theorem agree_declarator (rules : Rules.Advance n n r s) : Agree n (declarator r) (declarator s) :=
  .bind (advance_variableName rules).agree.later fun _ =>
  .bind (.optionalList (.bind (Advance.symbol _).agree fun _ =>
    .bind (advance_initializer (Nat.le_succ n) rules).agree fun _ => .pure _)) fun _ =>
  .pure _

theorem agree_declarators (rules : Rules.Advance n n r s) : Agree n (declarators r) (declarators s) :=
  .bind (.separated1 _ (agree_declarator rules)) fun _ =>
  .bind (Advance.symbol _).agree fun _ =>
  .pure _

theorem agree_typesAfter (rules : Rules.Advance n n r s) (word : String) :
    Agree n (typesAfter r word) (typesAfter s word) :=
  .optionalList (.bind (Advance.keyword _).agree fun _ => (advance_typeList rules _).agree.later)

theorem agree_methodRest (rules : Rules.Advance n n r s) (start : Nat) (typeParams : List TypeParam)
    (front : List Code) :
    Agree n (methodRest r start typeParams front) (methodRest s start typeParams front) :=
  .bind advance_anyWord.agree fun _ =>
  .bind (advance_formalParameters rules).agree.later fun _ =>
  .bind (agree_optionalDimensions rules).later fun _ =>
  .bind (agree_typesAfter rules "throws") fun _ =>
  .bind (.orElse rules.block.agree (.bind (Advance.symbol _).agree fun _ => .pure _)) fun _ =>
  .get fun _ =>
  .pure _

theorem agree_explicitCall (rules : Rules.Advance n n r s) :
    Agree n (explicitCall r) (explicitCall s) := by
  have typeArgs := Agree.optionalList (advance_typeArguments rules).agree.later
  have args := (advance_arguments rules).agree.later
  refine .orElse ?_ ?_
  · refine .bind typeArgs fun _ =>
      .bind (Advance.anyKeyword _).agree fun target =>
      .bind args fun _ =>
      .bind (Advance.symbol _).agree fun _ => ?_
    split
    · exact .pure _
    · exact .pure _
  · exact .bind (advance_primary rules).agree.later fun _ =>
      .bind (Advance.symbol _).agree fun _ =>
      .bind typeArgs fun _ =>
      .bind (Advance.keyword _).agree fun _ =>
      .bind args fun _ =>
      .bind (Advance.symbol _).agree fun _ =>
      .pure _

theorem agree_constructorBody (rules : Rules.Advance n n r s) :
    Agree n (constructorBody r) (constructorBody s) :=
  (Advance.braces (.bind (.maybe (agree_explicitCall rules)) fun _ =>
    .bind (.many rules.statement.agree) fun _ => .pure _)).agree.later

theorem agree_constructorRest (rules : Rules.Advance n n r s) (start : Nat) (typeParams : List TypeParam)
    (front : List Code) :
    Agree n (constructorRest r start typeParams front) (constructorRest s start typeParams front) :=
  .bind advance_identifier.agree fun _ =>
  .bind (advance_formalParameters rules).agree.later fun _ =>
  .bind (agree_typesAfter rules "throws") fun _ =>
  .bind (agree_constructorBody rules) fun _ =>
  .get fun _ =>
  .pure _

theorem agree_compactConstructorRest (rules : Rules.Advance n n r s) (start : Nat) (front : List Code) :
    Agree n (compactConstructorRest r start front) (compactConstructorRest s start front) :=
  .bind advance_identifier.agree fun _ => .bind rules.block.agree fun _ => .get fun _ => .pure _

/-! ### Types -/

theorem advance_classRest (rules : Rules.Advance n n r s) (front : List Code) :
    Advance (n + 1) (classRest r front) (classRest s front) :=
  .bind (.keyword _) fun _ =>
  .bind advance_anyWord.agree fun _ =>
  .bind (agree_optionalTypeParameters rules).later fun _ =>
  .bind (.optionalList (.bind (Advance.keyword _).agree fun _ =>
    .bind (advance_annotatedType rules (advance_type rules)).agree.later fun _ => .pure _)) fun _ =>
  .bind (agree_typesAfter rules _) fun _ =>
  .bind (agree_typesAfter rules _) fun _ =>
  .bind (rules.body _).agree fun _ =>
  .pure _

theorem advance_interfaceRest (rules : Rules.Advance n n r s) (front : List Code) :
    Advance (n + 1) (interfaceRest r front) (interfaceRest s front) :=
  .bind (.keyword _) fun _ =>
  .bind advance_anyWord.agree fun _ =>
  .bind (agree_optionalTypeParameters rules).later fun _ =>
  .bind (agree_typesAfter rules _) fun _ =>
  .bind (agree_typesAfter rules _) fun _ =>
  .bind (rules.body _).agree fun _ =>
  .pure _

theorem advance_recordRest (rules : Rules.Advance n n r s) (front : List Code) :
    Advance (n + 1) (recordRest r front) (recordRest s front) :=
  .bind (.keyword _) fun _ =>
  .bind advance_anyWord.agree fun _ =>
  .bind (agree_optionalTypeParameters rules).later fun _ =>
  .bind (advance_formalParameters rules).agree.later fun _ =>
  .bind (agree_typesAfter rules _) fun _ =>
  .bind (rules.body _).agree fun _ =>
  .pure _

theorem advance_annotationTypeRest (rules : Rules.Advance n n r s) (front : List Code) :
    Advance (n + 1) (annotationTypeRest r front) (annotationTypeRest s front) :=
  .bind (.symbol _) fun _ =>
  .bind (Advance.keyword _).agree fun _ =>
  .bind advance_anyWord.agree fun _ =>
  .bind (rules.body _).agree fun _ =>
  .pure _

theorem advance_enumRest (rules : Rules.Advance n n r s) (front : List Code) :
    Advance (n + 1) (enumRest r front) (enumRest s front) :=
  .bind (.keyword _) fun _ =>
  .bind advance_anyWord.agree fun _ =>
  .bind (agree_typesAfter rules _) fun _ =>
  .bind (rules.body _).agree fun _ =>
  .pure _

theorem advance_typeDeclaration (rules : Rules.Advance n n r s) (front : List Code) :
    Advance (n + 1) (typeDeclaration r front) (typeDeclaration s front) := by
  refine .behind (.require _) fun _ => .get fun c => ?_
  cases c.rest with
  | nil => exact .failure
  | cons t next =>
    dsimp only
    split
    · exact advance_classRest rules front
    · split
      · exact advance_interfaceRest rules front
      · split
        · exact advance_enumRest rules front
        · split
          · exact advance_recordRest rules front
          · exact advance_annotationTypeRest rules front

/-! ### Members -/

theorem agree_enumConstant (rules : Rules.Advance n n r s) :
    Agree n (enumConstant r) (enumConstant s) :=
  .bind .offset fun _ =>
  .bind (agree_modifiers rules).later fun _ =>
  .bind advance_identifier.agree fun _ =>
  .bind (.optionalList (advance_arguments rules).agree.later) fun _ =>
  .bind (agree_optionalInlineBody rules) fun _ =>
  .get fun _ =>
  .pure _

theorem agree_annotationMember (rules : Rules.Advance n n r s) (front : List Code) :
    Agree n (annotationMember r front) (annotationMember s front) := by
  refine .bind (advance_type rules).agree.later fun use => .bind (.looking _) fun element => ?_
  split
  · exact .bind advance_anyWord.agree fun _ =>
      .bind (Advance.symbol _).agree fun _ =>
      .bind (Advance.symbol _).agree fun _ =>
      .bind (agree_optionalDimensions rules).later fun _ =>
      .bind (.optionalList (.bind (Advance.keyword _).agree fun _ =>
        .bind rules.elementValue.agree fun _ => .pure _)) fun _ =>
      .bind (Advance.symbol _).agree fun _ =>
      .pure _
  · exact .bind (agree_declarators rules) fun _ => .pure _

theorem agree_methodOrField (rules : Rules.Advance n n r s) (start : Nat) (typeParams : List TypeParam)
    (front : List Code) :
    Agree n (methodOrField r start typeParams front) (methodOrField s start typeParams front) := by
  refine .bind (advance_type rules).agree.later fun use => .bind (.looking _) fun called => ?_
  split
  · exact agree_methodRest rules start typeParams _
  · split
    · exact .bind (agree_declarators rules) fun _ => .pure _
    · exact .failure

theorem agree_classMember (rules : Rules.Advance n n r s) (start : Nat) (front : List Code) :
    Agree n (classMember r start front) (classMember s start front) := by
  refine .bind (agree_optionalTypeParameters rules).later fun params =>
    .bind (.looking _) fun constructed => ?_
  split
  · exact agree_constructorRest rules start _ _
  · refine .bind (.looking _) fun compact => ?_
    split
    · exact agree_compactConstructorRest rules start _
    · exact .bind (agree_annotations rules).later fun _ => agree_methodOrField rules start _ _

theorem agree_interfaceMember (rules : Rules.Advance n n r s) (start : Nat) (front : List Code) :
    Agree n (interfaceMember r start front) (interfaceMember s start front) :=
  .bind (agree_optionalTypeParameters rules).later fun _ =>
  .bind (agree_annotations rules).later fun _ =>
  agree_methodOrField rules start _ _

theorem agree_plainMember (rules : Rules.Advance n n r s) (kind : BodyKind) (start : Nat)
    (front : List Code) : Agree n (plainMember r kind start front) (plainMember s kind start front) := by
  cases kind with
  | classBody => exact agree_classMember rules start front
  | enumBody => exact agree_classMember rules start front
  | interfaceBody => exact agree_interfaceMember rules start front
  | annotationBody => exact agree_annotationMember rules front

theorem agree_initializerBlock (rules : Rules.Advance n n r s) :
    Agree n (initializerBlock r) (initializerBlock s) :=
  .bind (.maybe (Advance.keyword _).agree) fun _ => .bind rules.block.agree fun _ => .pure _

theorem agree_member (rules : Rules.Advance n n r s) (kind : BodyKind) :
    Agree n (member r kind) (member s kind) := by
  refine .bind (.looking _) fun empty => ?_
  split
  · exact .bind (agree_skip 1) fun _ => .pure _
  refine .bind (.looking _) fun block => ?_
  split
  · exact .bind (agree_initializerBlock rules) fun _ => .pure _
  refine .bind .offset fun start =>
    .bind (agree_modifiers rules).later fun front =>
    .bind (.looking _) fun type => ?_
  split
  · exact .bind (advance_typeDeclaration rules front).agree.later fun _ => .pure _
  · exact .bind (agree_plainMember rules kind start front) fun _ => .pure _

theorem agree_members (rules : Rules.Advance n n r s) (kind : BodyKind) :
    Agree n (members r kind) (members s kind) :=
  .bind (.many (agree_member rules kind)) fun _ => .pure _

theorem agree_enumMembers (rules : Rules.Advance n n r s) : Agree n (enumMembers r) (enumMembers s) :=
  .bind (.separated _ (agree_enumConstant rules)) fun _ =>
  .bind (.maybe (Advance.symbol _).agree) fun _ =>
  .bind (.optionalList (.bind (Advance.symbol _).agree fun _ => agree_members rules _)) fun _ =>
  .pure _

theorem advance_body (rules : Rules.Advance n n r s) (kind : BodyKind) :
    Advance (n + 1) (body r kind) (body s kind) := by
  refine .braces ?_
  cases kind with
  | enumBody => exact agree_enumMembers rules
  | classBody => exact agree_members rules _
  | interfaceBody => exact agree_members rules _
  | annotationBody => exact agree_members rules _

/-! ### Directives of files and modules -/

theorem agree_nameCode : Agree n nameCode nameCode :=
  .bind advance_dottedName.agree.later fun _ => .pure _

theorem advance_importDirective : Advance (n + 1) importDirective importDirective :=
  .bind (.keyword _) fun _ =>
  .bind (.maybe (Advance.keyword _).agree) fun _ =>
  .bind agree_nameCode fun _ =>
  .bind (.maybe (.bind (Advance.symbol _).agree fun _ => (Advance.symbol _).agree)) fun _ =>
  .bind (Advance.symbol _).agree fun _ =>
  .pure _

theorem advance_packageDirective : Advance (n + 1) packageDirective packageDirective :=
  .bind (.keyword _) fun _ =>
  .bind (.spelled agree_nameCode) fun _ =>
  .bind (Advance.symbol _).agree fun _ =>
  .pure _

theorem agree_namesAfter (word : String) : Agree n (namesAfter word) (namesAfter word) :=
  .bind (Advance.keyword _).agree fun _ => .bind (.separated1 _ agree_nameCode) fun _ => .pure _

theorem agree_moduleDirective : Agree n moduleDirective moduleDirective := by
  have names : Agree n
      (do
        let name ← nameCode
        let others ← optionalList (namesAfter "to" <|> namesAfter "with")
        let _ ← symbol ";"
        return name ++ others)
      (do
        let name ← nameCode
        let others ← optionalList (namesAfter "to" <|> namesAfter "with")
        let _ ← symbol ";"
        return name ++ others) :=
    .bind agree_nameCode fun _ =>
    .bind (.optionalList (.orElse (agree_namesAfter _) (agree_namesAfter _))) fun _ =>
    .bind (Advance.symbol _).agree fun _ =>
    .pure _
  refine .bind (Advance.anyKeyword _).agree fun word => ?_
  split
  · exact .bind (.many (.bind (.require _) fun _ => (Advance.anyKeyword _).agree)) fun _ => names
  · exact names

theorem advance_moduleRest : Advance (n + 1) moduleRest moduleRest :=
  .behind (.require _) fun _ =>
  .behind (.maybe (Advance.keyword _).agree) fun _ =>
  .bind (.keyword _) fun _ =>
  .bind agree_nameCode fun _ =>
  .bind (Advance.braces (.many agree_moduleDirective)).agree.later fun _ =>
  .pure _

/-! ### Statements by their first word -/

theorem agree_optionalExpression (rules : Rules.Advance n n r s) :
    Agree n (optionalExpression r) (optionalExpression s) :=
  .bind (.optionalList (.bind (rules.expression 0 true).agree fun _ => .pure _)) fun _ =>
  .bind (Advance.symbol _).agree fun _ =>
  .pure _

theorem agree_optionalLabel : Agree n optionalLabel optionalLabel :=
  .bind (.optionalList (.bind advance_identifier.agree fun _ => .pure _)) fun _ =>
  .bind (Advance.symbol _).agree fun _ =>
  .pure _

theorem agree_nested (rules : Rules.Advance n n r s) : Agree n (nested r) (nested s) :=
  .bind rules.statement.agree fun _ => .pure _

theorem agree_ifRest (rules : Rules.Advance n n r s) : Agree n (ifRest r) (ifRest s) := by
  refine .bind (advance_parenthesized rules).agree.later fun _ =>
    .bind (agree_nested rules) fun _ =>
    .bind (.looking _) fun otherwise => ?_
  split
  · exact .bind (agree_skip 1) fun _ => .bind (agree_nested rules) fun _ => .pure _
  · exact .pure _

theorem agree_whileRest (rules : Rules.Advance n n r s) : Agree n (whileRest r) (whileRest s) :=
  .bind (advance_parenthesized rules).agree.later fun _ =>
  .bind (agree_nested rules) fun _ =>
  .pure _

theorem agree_doRest (rules : Rules.Advance n n r s) : Agree n (doRest r) (doRest s) :=
  .bind (agree_nested rules) fun _ =>
  .bind (Advance.keyword _).agree fun _ =>
  .bind (advance_parenthesized rules).agree.later fun _ =>
  .bind (Advance.symbol _).agree fun _ =>
  .pure _

theorem advance_localVariables (rules : Rules.Advance n n r s) (front : List Code) :
    Advance (n + 1) (localVariables r front) (localVariables s front) :=
  .bind (advance_type rules) fun _ =>
  .bind (.require _) fun _ =>
  .bind (agree_declarators rules) fun _ =>
  .pure _

theorem agree_eachHead (rules : Rules.Advance n n r s) : Agree n (eachHead r) (eachHead s) :=
  .bind (agree_modifiers rules).later fun _ =>
  .bind (advance_type rules).agree.later fun _ =>
  .bind (advance_variableName rules).agree.later fun _ =>
  .bind (Advance.symbol _).agree fun _ =>
  .pure _

theorem agree_forStart (rules : Rules.Advance n n r s) : Agree n (forStart r) (forStart s) :=
  .orElse
    (.bind (agree_modifiers rules).later fun _ => (advance_localVariables rules _).agree.later)
    (.bind (.separated _ (rules.expression 0 true).agree) fun _ =>
      .bind (Advance.symbol _).agree fun _ => .pure _)

theorem agree_forRest (rules : Rules.Advance n n r s) : Agree n (forRest r) (forRest s) := by
  refine .bind (Advance.symbol _).agree fun _ => .bind (.maybe (agree_eachHead rules)) fun found => ?_
  cases found with
  | some front =>
    exact .bind (rules.expression 0 true).agree fun _ =>
      .bind (Advance.symbol _).agree fun _ =>
      .bind (agree_nested rules) fun _ =>
      .pure _
  | none =>
    exact .bind (agree_forStart rules) fun _ =>
      .bind (agree_optionalExpression rules) fun _ =>
      .bind (.separated _ (rules.expression 0 true).agree) fun _ =>
      .bind (Advance.symbol _).agree fun _ =>
      .bind (agree_nested rules) fun _ =>
      .pure _

theorem agree_assertRest (rules : Rules.Advance n n r s) : Agree n (assertRest r) (assertRest s) :=
  .bind (rules.expression 0 true).agree fun _ =>
  .bind (.optionalList (.bind (Advance.symbol _).agree fun _ =>
    .bind (rules.expression 0 true).agree fun _ => .pure _)) fun _ =>
  .bind (Advance.symbol _).agree fun _ =>
  .pure _

theorem agree_synchronizedRest (rules : Rules.Advance n n r s) :
    Agree n (synchronizedRest r) (synchronizedRest s) :=
  .bind (advance_parenthesized rules).agree.later fun _ => .bind rules.block.agree fun _ => .pure _

/-! ### Exceptions -/

theorem agree_catchClause (rules : Rules.Advance n n r s) :
    Agree n (catchClause r) (catchClause s) := by
  refine .bind (Advance.keyword _).agree fun _ =>
    .bind (Advance.parens ?_).agree.later fun _ =>
    .bind rules.block.agree fun _ =>
    .pure _
  exact .bind (agree_modifiers rules).later fun _ =>
    .bind (.separated1 _ (advance_type rules).agree.later) fun _ =>
    .bind (advance_variableName rules).agree.later fun _ =>
    .pure _

theorem agree_finallyClause (rules : Rules.Advance n n r s) :
    Agree n (finallyClause r) (finallyClause s) :=
  .bind (Advance.keyword _).agree fun _ => rules.block.agree

theorem agree_resource (rules : Rules.Advance n n r s) : Agree n (resource r) (resource s) := by
  refine .orElse ?_ ?_
  · exact .bind (agree_modifiers rules).later fun _ =>
      .bind (advance_type rules).agree.later fun _ =>
      .bind (advance_variableName rules).agree.later fun _ =>
      .bind (Advance.symbol _).agree fun _ =>
      .bind (rules.expression 0 true).agree fun _ =>
      .pure _
  · exact .bind (advance_primary rules).agree.later fun _ => .pure _

theorem agree_resources (rules : Rules.Advance n n r s) : Agree n (resources r) (resources s) :=
  (Advance.parens (.bind (.separated1 _ (agree_resource rules)) fun _ =>
    .bind (.maybe (Advance.symbol _).agree) fun _ => .pure _)).agree.later

theorem agree_tryRest (rules : Rules.Advance n n r s) : Agree n (tryRest r) (tryRest s) := by
  refine .bind (.maybe (agree_resources rules)) fun held =>
    .bind rules.block.agree fun inside =>
    .bind (.many (agree_catchClause rules)) fun caught =>
    .bind (.maybe (agree_finallyClause rules)) fun last => ?_
  split
  · exact .failure
  · exact .pure _

/-! ### Statements -/

/-- Each keyword starts the same statement at both depths. -/
theorem agree_keywordRest? (rules : Rules.Advance n n r s) (word : String) :
    (keywordRest? r word = none ∧ keywordRest? s word = none) ∨
      ∃ p q, keywordRest? r word = some p ∧ keywordRest? s word = some q ∧ Agree n p q := by
  unfold keywordRest?
  split
  · exact Or.inr ⟨_, _, rfl, rfl, agree_ifRest rules⟩
  · exact Or.inr ⟨_, _, rfl, rfl, agree_whileRest rules⟩
  · exact Or.inr ⟨_, _, rfl, rfl, agree_doRest rules⟩
  · exact Or.inr ⟨_, _, rfl, rfl, agree_forRest rules⟩
  · exact Or.inr ⟨_, _, rfl, rfl, agree_tryRest rules⟩
  · exact Or.inr ⟨_, _, rfl, rfl, agree_optionalExpression rules⟩
  · exact Or.inr ⟨_, _, rfl, rfl, .bind (agree_expressionStatement rules.expression) fun _ => .pure _⟩
  · exact Or.inr ⟨_, _, rfl, rfl, agree_optionalLabel⟩
  · exact Or.inr ⟨_, _, rfl, rfl, agree_optionalLabel⟩
  · exact Or.inr ⟨_, _, rfl, rfl, agree_assertRest rules⟩
  · exact Or.inl ⟨rfl, rfl⟩

theorem advance_localDeclaration (rules : Rules.Advance n n r s) (front : List Code) :
    Advance (n + 1) (localDeclaration r front) (localDeclaration s front) := by
  refine .behind (.looking _) fun isType => ?_
  split
  · exact .bind (advance_typeDeclaration rules front) fun _ => .pure _
  refine .behind (.looking _) fun isPackage => ?_
  split
  · exact .bind advance_packageDirective fun _ => .pure _
  refine .behind (.looking _) fun isModule => ?_
  split
  · exact .bind advance_moduleRest fun _ => .pure _
  · exact .bind (advance_localVariables rules front) fun _ => .pure _

theorem advance_labelled (rules : Rules.Advance n n r s) : Advance (n + 1) (labelled r) (labelled s) :=
  .bind advance_identifier fun _ =>
  .bind (Advance.symbol _).agree fun _ =>
  .bind (agree_nested rules) fun _ =>
  .pure _

theorem advance_yieldStatement (rules : Rules.Advance n n r s) :
    Advance (n + 1) (yieldStatement r) (yieldStatement s) :=
  .bind (.keyword _) fun _ =>
  .bind (agree_expressionStatement rules.expression) fun _ =>
  .pure _

theorem advance_plainStatement (rules : Rules.Advance (n + 1) n r s) :
    Advance (n + 1) (plainStatement r) (plainStatement s) := by
  have expression : Advance (n + 1) (expressionStatement r) (expressionStatement s) :=
    .bind (rules.expression 0 true) fun _ => .bind (Advance.symbol _).agree fun _ => .pure _
  refine .behind (.looking _) fun modified => ?_
  split
  · exact .behind (agree_modifiers rules.level) fun front =>
      .orElse (advance_localDeclaration rules.level front) expression
  refine .behind (.looking _) fun named => ?_
  split
  · exact advance_labelled rules.level
  · exact .orElse (advance_yieldStatement rules.level)
      (.orElse (advance_localDeclaration rules.level []) expression)

theorem advance_statement (rules : Rules.Advance (n + 1) n r s) :
    Advance (n + 1) (statement r) (statement s) := by
  refine .get fun c => ?_
  cases c.rest with
  | nil => exact .failure
  | cons t next =>
    dsimp only
    split
    · exact .bind (advance_skip 0) fun _ => .pure _
    split
    · exact .bind rules.block fun _ => .pure _
    split
    · exact advance_switchExpression rules.level
    split
    · exact advance_importDirective
    split
    · exact .bind (advance_skip 0) fun _ =>
        .bind (agree_synchronizedRest rules.level) fun _ =>
        .pure _
    split
    · rcases agree_keywordRest? rules.level t.text with ⟨same, same'⟩ | ⟨p, q, same, same', agree⟩
      · rw [same, same']
        exact advance_plainStatement rules
      · rw [same, same']
        exact .bind (advance_skip 0) fun _ => .bind agree fun _ => .pure _
    · exact advance_plainStatement rules

theorem advance_block (rules : Rules.Advance n n r s) : Advance (n + 1) (block r) (block s) :=
  .braces (.many rules.statement.agree)

/-! ### Files -/

theorem agree_topMethod (rules : Rules.Advance n n r s) (start : Nat) (front : List Code) :
    Agree (n + 1) (topMethod r start front) (topMethod s start front) := by
  refine .bind (agree_optionalTypeParameters rules) fun _ =>
    .bind (agree_annotations rules) fun _ =>
    (Advance.bind (advance_type rules) fun _ => ?_).agree
  exact .bind (.require _) fun _ => .bind (agree_methodRest rules start _ front) fun _ => .pure _

theorem agree_topDeclaration (rules : Rules.Advance n n r s) (start : Nat) (front : List Code) :
    Agree (n + 1) (topDeclaration r start front) (topDeclaration s start front) := by
  refine .bind (.looking _) fun isType => ?_
  split
  · exact .bind (advance_typeDeclaration rules front).agree fun _ => .pure _
  refine .bind (.looking _) fun isPackage => ?_
  split
  · exact .bind advance_packageDirective.agree fun _ => .pure _
  · exact .orElse (.bind (agree_topMethod rules start front) fun _ => .pure _)
      (.bind (advance_localDeclaration rules front).agree fun _ => .pure _)

theorem agree_topLevel (rules : Rules.Advance (n + 1) n r s) :
    Agree (n + 1) (topLevel r) (topLevel s) :=
  .bind .offset fun start =>
  .orElse
    (.bind (agree_modifiers rules.level) fun front => agree_topDeclaration rules.level start front)
    (.bind (advance_statement rules).agree fun _ => .pure _)

theorem agree_compilationUnit (rules : Rules.Advance (n + 1) n r s) :
    Agree (n + 1) (compilationUnit r) (compilationUnit s) :=
  .bind (.many (agree_topLevel rules)) fun _ => .bind (.require _) fun _ => .pure _

/-! ### Levels -/

namespace Rules.Advance

/-- One level settles one more token for the rules that take one before they go deeper, and lets the others
catch up with what is settled one level down. -/
theorem step {m : Nat} (rules : Rules.Advance n n r s)
    (lagging : ∀ k, m = k + 1 → Rules.Advance (k + 1) k r s) : Rules.Advance (n + 1) m r.step s.step where
  type := advance_type rules
  annotationMark := advance_annotationMark rules
  expression := advance_expression rules
  recordPattern := advance_recordPattern rules
  block := advance_block rules
  body := advance_body rules
  elementValue := by
    cases m with
    | zero => exact .zero _ _
    | succ k => exact advance_elementValue (lagging k rfl)
  initializer := by
    cases m with
    | zero => exact .zero _ _
    | succ k => exact advance_initializer (Nat.le_refl _) (lagging k rfl)
  statement := by
    cases m with
    | zero => exact .zero _ _
    | succ k => exact advance_statement (lagging k rfl)

/-- The first of two levels settles the rules that take a token. -/
theorem settle (rules : Rules.Advance n n r s) : Rules.Advance (n + 1) n r.step s.step := by
  refine rules.step fun k same => ?_
  subst same
  exact rules.mono (Nat.le_refl _) (Nat.le_succ k)

/-- The second one settles the others. -/
theorem catchUp (rules : Rules.Advance (n + 1) n r s) : Rules.Advance (n + 1) (n + 1) r.step s.step := by
  refine rules.level.step fun k same => ?_
  cases same
  exact rules

/-- At every depth a rule takes a token. -/
theorem self (depth n : Nat) : Rules.Advance n n (.ofDepth depth) (.ofDepth depth) := by
  induction depth generalizing n with
  | zero => constructor <;> intros <;> exact .failure
  | succ depth ih =>
    cases n with
    | zero => exact zero _ _
    | succ n =>
      refine (ih n).step fun k same => ?_
      cases same
      exact (ih (n + 1)).mono (Nat.le_refl _) (Nat.le_succ n)

/-- Two levels for each token are enough. -/
theorem ofDepth (a b : Nat) : Rules.Advance n n (.ofDepth (2 * n + a)) (.ofDepth (2 * n + b)) := by
  induction n generalizing a b with
  | zero => exact zero _ _
  | succ n ih =>
    have next : ∀ c, Rules.ofDepth (2 * (n + 1) + c) = (Rules.ofDepth (2 * n + c)).step.step := by
      intro c
      rw [show 2 * (n + 1) + c = 2 * n + c + 2 by omega]
      rfl
    rw [next a, next b]
    exact (ih a b).settle.catchUp

end Rules.Advance

/-- A file is read in the same way at every depth with two levels for each token and one for itself. -/
theorem compilationUnit_of_depth {ts : List Token} {a b : Nat} (enough : 2 * ts.length + 1 ≤ a)
    (enough' : 2 * ts.length + 1 ≤ b) (stop : Nat) :
    compilationUnit (.ofDepth a) ⟨ts, stop⟩ = compilationUnit (.ofDepth b) ⟨ts, stop⟩ := by
  obtain ⟨a, rfl⟩ := Nat.exists_eq_add_of_le enough
  obtain ⟨b, rfl⟩ := Nat.exists_eq_add_of_le enough'
  have rules : Rules.Advance (ts.length + 1) ts.length (.ofDepth (2 * ts.length + 1 + a))
      (.ofDepth (2 * ts.length + 1 + b)) := by
    rw [Nat.add_right_comm _ 1 a, Nat.add_right_comm _ 1 b]
    exact (Rules.Advance.ofDepth a b).settle
  exact (agree_compilationUnit rules ⟨ts, stop⟩ (Nat.lt_succ_self _)).1

end Grammar

/-- No file needs more levels than it is read with. -/
theorem CompilationUnit.ofSource?_of_depth {source : String} {ts : List Token}
    (lexed : tokens? source = some ts) {depth : Nat} (enough : 2 * ts.length + 1 ≤ depth) :
    ofSource? source = (Grammar.compilationUnit (.ofDepth depth) ⟨ts, 0⟩).map Prod.fst := by
  have same := Grammar.compilationUnit_of_depth (a := 2 * ts.length + 1) (Nat.le_refl _) enough 0
  rw [ofSource?, lexed, Option.bind_eq_bind, Option.bind_some, same]
  exact Option.map_eq_bind.symm

end DefectGraph.Java
