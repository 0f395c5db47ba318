import DefectGraph.Proofs.Ranking

/-!
# Declarations are found under their binary names

The binary name of a type body is put together while a file is outlined, and taken apart again while a
long name is looked up. Both count the inline class bodies of a type body, so they agree on the numbers.

## Main Definitions

* `Traced` - what an outline gives a walk that follows the binary name of one of its declarations.
* `PackagesFirst` - no package is declared after a type.
* `Found` - a long name means a declaration, or a declaration is reported as fitting as well.
* `AllFound` - the declarations of a tree are all found under their binary names.

## Main Statements

* `Traced.invariant` - outlining keeps the numbers that the walk counts.
* `declarations_found` - every declaration is found under its own binary name.

## Design Notes

The walk and the outline number inline class bodies in one sequence for each type body, but the walk takes a
name apart while it counts. `Traced` therefore speaks about every query and every rest of a name: its first
field says where the count stands behind an outline, and `Traced.append` joins two outlines at that count.
What is looked up may also fit an earlier declaration, so `Found` leaves room for a declaration that is only
reported; the reports are part of what `find` gives.
-/

namespace DefectGraph

open DefectGraph.Source DefectGraph.Text

/-! ### Text -/

namespace Text

/-- A text goes on behind its start. -/
theorem afterStart?_append (start rest : List Char) :
    afterStart? start (start ++ rest) = some rest := by
  induction start with
  | nil => rfl
  | cons c start ih => simpa [afterStart?] using ih

/-- What is left behind the start makes up the text with it. -/
theorem afterStart?_eq_some {start text rest : List Char}
    (found : afterStart? start text = some rest) : text = start ++ rest := by
  induction start generalizing text with
  | nil => exact Option.some.inj found
  | cons c start ih =>
    cases text with
    | nil => cases found
    | cons d text =>
      unfold afterStart? at found
      split at found
      · rename_i same
        rw [ih found, same, List.cons_append]
      · cases found

/-- The first occurrence of a character is the first one after text that does not hold it. -/
theorem splitAt?_append {separator : Char} {before : List Char} (after : List Char)
    (absent : separator ∉ before) :
    splitAt? separator (before ++ separator :: after) = some (before, after) := by
  induction before with
  | nil => simp [splitAt?]
  | cons c before ih =>
    have different : c ≠ separator := fun same => absent (by simp [same])
    have later : separator ∉ before := fun present => absent (List.mem_cons_of_mem _ present)
    simp [splitAt?, different, ih later]

/-- A text is not split at a character that is not there. -/
theorem splitAt?_eq_none {separator : Char} {text : List Char} (absent : separator ∉ text) :
    splitAt? separator text = none := by
  induction text with
  | nil => rfl
  | cons c text ih =>
    have different : c ≠ separator := fun same => absent (by simp [same])
    have later : separator ∉ text := fun present => absent (List.mem_cons_of_mem _ present)
    simp [splitAt?, different, ih later]

end Text

/-- A word holds no opening parenthesis. -/
theorem Java.Word.no_parenthesis (word : Java.Word) : '(' ∉ word.text.toList := by
  have spelled := word.spelled
  cases text : word.text.toList with
  | nil => simp
  | cons c rest =>
    rw [text, Java.spellsWord, Bool.and_eq_true, List.all_eq_true] at spelled
    rw [List.mem_cons]
    rintro (rfl | later)
    · exact absurd spelled.1 (by decide +kernel)
    · exact absurd (spelled.2 _ later) (by decide +kernel)

/-- Numbers are spelled without parentheses. -/
theorem no_parenthesis_toString (n : Nat) : '(' ∉ (toString n).toList := by
  intro present
  have digit : '('.isDigit = true := Nat.isDigit_of_mem_toDigits (by decide) (by decide)
    (show '(' ∈ Nat.toDigits 10 n by simpa using present)
  exact absurd digit (by decide)

namespace LongName

/-! ### Taking parts off a name -/

/-- What leads from a type body to one inside it: nothing, or from a dollar sign on. -/
structure IsPath (path : List Char) : Prop where
  nested : path = [] ∨ path.head? = some '$'
  plain : '(' ∉ path

theorem IsPath.nil : IsPath [] := ⟨Or.inl rfl, List.not_mem_nil⟩

/-- A dollar sign and the name or the number of a type body in front of a path. -/
theorem IsPath.segment {path segment : List Char} (inner : IsPath path) (plain : '(' ∉ segment) :
    IsPath ('$' :: segment ++ path) where
  nested := Or.inr rfl
  plain := by simp [plain, inner.plain]

/-- What follows a path up to a member starts with a separator. -/
theorem IsPath.head?_append {path tail : List Char} (isPath : IsPath path)
    (member : tail.head? = some '.') :
    (path ++ tail).head? = some '$' ∨ (path ++ tail).head? = some '.' := by
  rcases isPath.nested with rfl | dollar
  · exact Or.inr member
  · rw [List.head?_append, dollar]
    exact Or.inl rfl

/-- A separator ends a segment. -/
theorem atBoundary_of_head? {rest : List Char}
    (separated : rest.head? = some '$' ∨ rest.head? = some '.') : atBoundary rest = true := by
  cases rest with
  | nil => rfl
  | cons c rest =>
    rcases separated with here | here
    · cases here
      rfl
    · cases here
      rfl

/-- A segment is passed over when a separator follows it. -/
theorem afterSegment?_append (separator : Char) (name : String) {rest : List Char}
    (separated : rest.head? = some '$' ∨ rest.head? = some '.') :
    afterSegment? separator name (separator :: name.toList ++ rest) = some rest := by
  rw [afterSegment?, afterStart?_append, Option.filter_some, atBoundary_of_head? separated]
  rfl

/-- The name of a type at the top of a file is taken off after its dot. -/
theorem afterType?_dot (name : String) (nested : Bool) {rest : List Char}
    (separated : rest.head? = some '$' ∨ rest.head? = some '.') :
    afterType? name nested ('.' :: name.toList ++ rest) = some rest := by
  rw [afterType?, afterSegment?_append '.' name separated]
  rfl

/-- The name of a nested type is taken off after its dollar sign. -/
theorem afterType?_dollar (name : String) {rest : List Char}
    (separated : rest.head? = some '$' ∨ rest.head? = some '.') :
    afterType? name true ('$' :: name.toList ++ rest) = some rest := by
  have noDot : afterSegment? '.' name ('$' :: name.toList ++ rest) = none := rfl
  rw [afterType?, noDot, if_pos rfl, afterSegment?_append '$' name separated]
  rfl

/-- The number of an inline class body is taken off, because no digit follows it. -/
theorem afterOrdinal?_append (ordinal : Nat) {rest : List Char}
    (separated : rest.head? = some '$' ∨ rest.head? = some '.') :
    afterOrdinal? ordinal ('$' :: (toString ordinal).toList ++ rest) = some rest := by
  have noDigit : rest.head?.any Char.isDigit = false := by
    rcases separated with here | here
    · rw [here]
      rfl
    · rw [here]
      rfl
  rw [afterOrdinal?, afterStart?_append, Option.filter_some, noDigit]
  rfl

/-- What means a declaration starts with a dot. -/
theorem head?_of_accepts {params : Option (List ParamType)} {tail : List Char} {d : Declaration}
    (means : accepts params tail d = true) : tail.head? = some '.' := by
  have ofCallable : isCallableTail (binaryMember d) tail = true → tail.head? = some '.' := by
    intro callable
    unfold isCallableTail at callable
    split at callable
    · rename_i opened found
      rw [afterStart?_eq_some found]
      rfl
    · cases callable
  unfold accepts at means
  split at means
  · rw [beq_iff_eq.mp means]
    rfl
  · exact ofCallable (Bool.and_eq_true_iff.mp means).1
  · exact ofCallable (Bool.and_eq_true_iff.mp means).1

/-! ### Walking along an outline -/

/-- The search goes through items in turn, and the ordinals of inline bodies go on. -/
theorem acceptedAll_append (q : Query) (rest : List Char) (weak : Bool) (ordinal : Nat)
    (first second : List Item) :
    acceptedAll q rest weak ordinal (first ++ second) =
      ((acceptedAll q rest weak ordinal first).1 ++
          (acceptedAll q rest weak (acceptedAll q rest weak ordinal first).2 second).1,
        (acceptedAll q rest weak (acceptedAll q rest weak ordinal first).2 second).2) := by
  induction first generalizing ordinal with
  | nil => simp [acceptedAll]
  | cons item items ih => simp [acceptedAll, ih]

@[simp]
theorem acceptedAll_singleton (q : Query) (rest : List Char) (weak : Bool) (ordinal : Nat)
    (item : Item) :
    acceptedAll q rest weak ordinal [item] = accepted q rest weak ordinal item := by
  simp [acceptedAll]

/-- A walk from a type body counts the inline class bodies like the outline, and comes by every
declaration when it follows the path from the body to the one that the declaration is a member of. -/
structure Traced (p : Place) (n : Count) (o : Outline) (m : Count) : Prop where
  ordinal : ∀ (q : Query) (rest : List Char) (weak : Bool),
    (acceptedAll q rest weak (n.inlineBodies + 1) o.items).2 = m.inlineBodies + 1
  named : ∀ d ∈ o.decls, '(' ∉ d.name.toList
  found : ∀ d ∈ o.decls, ∃ path, d.owner.toList = p.binaryName.toList ++ path ∧ IsPath path ∧
    ∀ (q : Query) (tail : List Char) (weak : Bool), q.tree.decl? d.id = some d →
      accepts q.params tail d = true →
      ⟨d.id, weak⟩ ∈ (acceptedAll q (path ++ tail) weak (n.inlineBodies + 1) o.items).1

namespace Traced

theorem empty (p : Place) (n : Count) : Traced p n .empty n :=
  ⟨fun _ _ _ => rfl, by simp [Outline.empty], by simp [Outline.empty]⟩

/-- Outlines that are traced one after the other are traced together. -/
theorem append {p : Place} {n m k : Count} {a b : Outline} (first : Traced p n a m)
    (second : Traced p m b k) : Traced p n (a ++ b) k where
  ordinal := by
    intro q rest weak
    show (acceptedAll q rest weak (n.inlineBodies + 1) (a.items ++ b.items)).2 = _
    rw [acceptedAll_append, first.ordinal]
    exact second.ordinal q rest weak
  named := by
    intro d present
    rcases List.mem_append.mp present with before | later
    · exact first.named d before
    · exact second.named d later
  found := by
    intro d present
    rcases List.mem_append.mp present with before | later
    · obtain ⟨path, owner, isPath, walk⟩ := first.found d before
      refine ⟨path, owner, isPath, fun q tail weak there means => ?_⟩
      show _ ∈ (acceptedAll q (path ++ tail) weak (n.inlineBodies + 1) (a.items ++ b.items)).1
      rw [acceptedAll_append]
      exact List.mem_append_left _ (walk q tail weak there means)
    · obtain ⟨path, owner, isPath, walk⟩ := second.found d later
      refine ⟨path, owner, isPath, fun q tail weak there means => ?_⟩
      show _ ∈ (acceptedAll q (path ++ tail) weak (n.inlineBodies + 1) (a.items ++ b.items)).1
      -- The walk enters the second part with the count that the outline had there.
      rw [acceptedAll_append, first.ordinal]
      exact List.mem_append_right _ (walk q tail weak there means)

/-- A type body inside another one: the walk takes its segment off and goes on with its members, which
count their own inline class bodies. -/
theorem body {p place : Place} {n m : Count} {inside : Outline} {scope : Scope}
    {item : List Item → Item} {segment : List Char} {header : List Java.Code} {inlineBodies : Nat}
    (plain : '(' ∉ segment)
    (binaryName : place.binaryName.toList = p.binaryName.toList ++ '$' :: segment)
    (counts : ∀ (q : Query) (rest : List Char) (weak : Bool),
      (accepted q rest weak (n.inlineBodies + 1) (item inside.items)).2 = inlineBodies + 1)
    (enters : ∀ (q : Query) (rest : List Char) (weak : Bool),
      rest.head? = some '$' ∨ rest.head? = some '.' →
      (accepted q ('$' :: segment ++ rest) weak (n.inlineBodies + 1) (item inside.items)).1 =
        (acceptedAll q rest weak 1 inside.items).1)
    (members : Traced place (n.enter header) inside m) :
    Traced p n (.body scope item inside) { m with inlineBodies } where
  ordinal := by
    intro q rest weak
    show (acceptedAll q rest weak (n.inlineBodies + 1) [item inside.items]).2 = _
    rw [acceptedAll_singleton, counts]
  named := members.named
  found := by
    intro d present
    obtain ⟨path, owner, isPath, walk⟩ := members.found d present
    refine ⟨'$' :: segment ++ path, ?_, isPath.segment plain, fun q tail weak there means => ?_⟩
    · rw [owner, binaryName, List.append_assoc, List.cons_append]
    · show _ ∈ (acceptedAll q _ weak (n.inlineBodies + 1) [item inside.items]).1
      rw [acceptedAll_singleton, List.append_assoc,
        enters q _ weak (isPath.head?_append (head?_of_accepts means))]
      exact walk q tail weak there means

/-- A declaration is a candidate itself, and the walk goes on inside it with the same name and count. -/
theorem declaration {p place : Place} {n before m : Count} {inside : Outline} {d : Declaration}
    {item : List Item → Item} (inner : Traced place before inside m) (owner : d.owner = p.binaryName)
    (same : place.binaryName = p.binaryName) (name : '(' ∉ d.name.toList)
    (sameCount : before.inlineBodies = n.inlineBodies)
    (walks : ∀ (q : Query) (rest : List Char) (weak : Bool) (ordinal : Nat),
      accepted q rest weak ordinal (item inside.items) =
        (q.candidate rest weak d.id ++ (acceptedAll q rest weak ordinal inside.items).1,
          (acceptedAll q rest weak ordinal inside.items).2)) :
    Traced p n (.declaration d item inside) m where
  ordinal := by
    intro q rest weak
    show (acceptedAll q rest weak (n.inlineBodies + 1) [item inside.items]).2 = _
    rw [acceptedAll_singleton, walks, ← sameCount]
    exact inner.ordinal q rest weak
  named := by
    intro other present
    rcases List.mem_cons.mp present with rfl | inside
    · exact name
    · exact inner.named other inside
  found := by
    intro other present
    rcases List.mem_cons.mp present with rfl | among
    · refine ⟨[], ?_, .nil, fun q tail weak there means => ?_⟩
      · rw [owner, List.append_nil]
      · show _ ∈ (acceptedAll q tail weak (n.inlineBodies + 1) [item inside.items]).1
        rw [acceptedAll_singleton, walks, Query.candidate, there]
        simp [means]
    · obtain ⟨path, otherOwner, isPath, walk⟩ := inner.found other among
      refine ⟨path, same ▸ otherOwner, isPath, fun q tail weak there means => ?_⟩
      show _ ∈ (acceptedAll q (path ++ tail) weak (n.inlineBodies + 1) [item inside.items]).1
      rw [acceptedAll_singleton, walks, ← sameCount]
      exact List.mem_append_right _ (walk q tail weak there means)

/-- Outlining keeps the numbers that the walk counts. -/
theorem invariant : WalkInvariant fun p n _ o m => Traced p n o m where
  nil := empty
  append := append
  plain _ parts := ⟨parts.ordinal, parts.named, parts.found⟩
  inlineBody {p n m _ inside} members := by
    refine body (no_parenthesis_toString (n.inlineBodies + 1)) ?_ ?_ ?_ members
    · simp [Place.enterInline, Place.enter]
    · intro q rest weak
      unfold accepted
      split
      · rfl
      · rfl
    · intro q rest weak separated
      unfold accepted
      rw [afterOrdinal?_append _ separated]
  namedType {p n m _ inside} name typeParams _ members := by
    refine body name.no_parenthesis ?_ ?_ ?_ members
    · simp [Place.enterNamed, Place.enter]
    · intro q rest weak
      unfold accepted
      split
      · rfl
      · rfl
    · intro q rest weak separated
      unfold accepted
      rw [afterType?_dollar name separated]
  callable {_ _ _ _ _ _ head} _ inner :=
    inner.declaration rfl rfl head.name.no_parenthesis rfl fun _ _ _ _ => by unfold accepted; rfl
  constant name _ _ inner :=
    inner.declaration rfl rfl name.no_parenthesis rfl fun _ _ _ _ => by unfold accepted; rfl

end Traced

/-! ### Whole files -/

/-- The declaration at the top of a file is that of a package. -/
def isPackage : Java.TopLevel → Bool
  | .package _ => true
  | .type .. => false

/-- No package is declared after a type. -/
def PackagesFirst (unit : Java.CompilationUnit) : Prop :=
  unit.Pairwise fun earlier later => isPackage later = true → isPackage earlier = true

instance (unit : Java.CompilationUnit) : Decidable (PackagesFirst unit) :=
  inferInstanceAs (Decidable (List.Pairwise _ unit))

theorem outlineUnit_type (package : String) (n : Count) (name : Java.Word)
    (typeParams : List TypeParam) (header members : List Java.Code) (rest : Java.CompilationUnit) :
    outlineUnit package n (.type name typeParams header members :: rest) =
      let top := outlineTop package n name typeParams header members
      let others := outlineUnit package top.2 rest
      (top.1 ++ others.1, others.2) :=
  rfl

/-- Types alone do not change the package. -/
theorem outlineUnit_package (package : String) (n : Count) {unit : Java.CompilationUnit}
    (types : ∀ top ∈ unit, isPackage top = false) : (outlineUnit package n unit).2 = package := by
  induction unit generalizing n with
  | nil => rfl
  | cons top rest ih =>
    cases top with
    | package name => cases types _ List.mem_cons_self
    | type name typeParams header members =>
      exact ih _ fun other among => types other (List.mem_cons_of_mem _ among)

/-- Types at the top of a file belong to the package, and a walk that follows the name of a type and the
path from there comes by every declaration. -/
structure TracedTop (package : String) (o : Outline) : Prop where
  named : ∀ d ∈ o.decls, '(' ∉ d.name.toList
  found : ∀ d ∈ o.decls, ∃ (name : Java.Word) (path : List Char),
    d.owner.toList = (Name.join [package, name] '.').toList ++ path ∧ IsPath path ∧
    ∀ (q : Query) (tail : List Char) (weak : Bool) (ordinal : Nat), q.tree.decl? d.id = some d →
      accepts q.params tail d = true →
      ⟨d.id, weak⟩ ∈ (acceptedAll q ('.' :: name.text.toList ++ (path ++ tail)) weak ordinal o.items).1

namespace TracedTop

variable {package : String}

theorem empty (package : String) : TracedTop package .empty :=
  ⟨by simp [Outline.empty], by simp [Outline.empty]⟩

/-- Types at the top of a file are traced one by one. -/
theorem append {a b : Outline} (first : TracedTop package a) (second : TracedTop package b) :
    TracedTop package (a ++ b) where
  named := by
    intro d present
    rcases List.mem_append.mp present with before | later
    · exact first.named d before
    · exact second.named d later
  found := by
    intro d present
    rcases List.mem_append.mp present with before | later
    · obtain ⟨name, path, owner, isPath, walk⟩ := first.found d before
      refine ⟨name, path, owner, isPath, fun q tail weak ordinal there means => ?_⟩
      show _ ∈ (acceptedAll q _ weak ordinal (a.items ++ b.items)).1
      rw [acceptedAll_append]
      exact List.mem_append_left _ (walk q tail weak ordinal there means)
    · obtain ⟨name, path, owner, isPath, walk⟩ := second.found d later
      refine ⟨name, path, owner, isPath, fun q tail weak ordinal there means => ?_⟩
      show _ ∈ (acceptedAll q _ weak ordinal (a.items ++ b.items)).1
      rw [acceptedAll_append]
      exact List.mem_append_right _ (walk q tail weak _ there means)

/-- A type at the top of a file is traced by its full name. -/
theorem outlineTop (package : String) (n : Count) (name : Java.Word) (typeParams : List TypeParam)
    (header members : List Java.Code) :
    TracedTop package (Source.outlineTop package n name typeParams header members).1 := by
  have traced := Traced.invariant.outlineAll (.top package n.scopes name typeParams) (n.enter header)
    members
  refine ⟨traced.named, fun d present => ?_⟩
  obtain ⟨path, owner, isPath, walk⟩ := traced.found d present
  refine ⟨name, path, owner, isPath, fun q tail weak ordinal there means => ?_⟩
  show _ ∈ (acceptedAll q _ weak ordinal [_]).1
  rw [acceptedAll_singleton, accepted,
    afterType?_dot name false (isPath.head?_append (head?_of_accepts means))]
  exact walk q tail weak there means

/-- Where no package is declared after a type, all types belong to the last package. -/
theorem outlineUnit (package : String) (n : Count) (unit : Java.CompilationUnit)
    (first : PackagesFirst unit) :
    TracedTop (Source.outlineUnit package n unit).2 (Source.outlineUnit package n unit).1 := by
  induction unit generalizing package n with
  | nil => exact empty package
  | cons top rest ih =>
    obtain ⟨after, others⟩ := List.pairwise_cons.mp first
    cases top with
    | package name => exact ih name n others
    | type name typeParams header members =>
      have types : ∀ other ∈ rest, isPackage other = false := by
        intro other among
        by_contra isPackage
        cases after other among (by simpa using isPackage)
      rw [outlineUnit_type]
      -- Only types follow, so the package of this type is the one that the whole file ends with.
      have tracedRest := ih package (Source.outlineTop package n name typeParams header members).2 others
      simp only [outlineUnit_package package _ types] at tracedRest ⊢
      exact (outlineTop package n name typeParams header members).append tracedRest

end TracedTop

/-! ### Long names -/

/-- A name in the unnamed package has no dot in front of it. -/
theorem toList_join (package : String) (name : Java.Word) :
    (Name.join [package, name] '.').toList =
      if package.isEmpty then name.text.toList else package.toList ++ '.' :: name.text.toList := by
  have nonempty : name.text.isEmpty = false := by
    cases empty : name.text.isEmpty with
    | false => rfl
    | true =>
      have spelled := name.spelled
      rw [String.isEmpty_iff.mp empty] at spelled
      cases spelled
  unfold Name.join
  cases empty : package.isEmpty with
  | true => simp [empty, nonempty]
  | false => simp [empty, nonempty]

/-- What follows the package of a long name starts with the dot before the type. -/
theorem afterPackage_join {package longName : String} {name : Java.Word} {rest : List Char}
    (starts : longName.toList = (Name.join [package, name] '.').toList ++ rest) :
    afterPackage package longName = .ok ('.' :: name.text.toList ++ rest) := by
  rw [toList_join] at starts
  unfold afterPackage
  cases empty : package.isEmpty with
  | true => simp [starts, empty]
  | false =>
    have whole : longName.toList = package.toList ++ ('.' :: name.text.toList ++ rest) := by
      simpa [empty] using starts
    rw [whole, afterStart?_append]
    rfl

/-- A long name means a declaration's outermost member, or that member is reported as fitting as well. -/
def Found (t : Tree) (decl : DeclId) (longName : String) : Prop :=
  ∃ m, find t longName = .ok m ∧ (m.decl = t.outermost decl ∨ t.outermost decl ∈ m.ignored)

/-- Every candidate is found or reported. -/
theorem found_of_mem {t : Tree} {longName : String} {rest : List Char}
    {params : Option (List ParamType)} (inPackage : afterPackage t.package longName = .ok rest)
    (decoded : LongName.params longName = .ok params) {c : Candidate}
    (present : c ∈ (acceptedAll ⟨t, params⟩ rest false 1 t.items).1) : Found t c.decl longName := by
  unfold Found
  rw [find_eq inPackage decoded]
  generalize (acceptedAll ⟨t, params⟩ rest false 1 t.items).1 = candidates at present
  have member := (any_members_iff t candidates (t.outermost c.decl)).mpr ⟨c, present, rfl⟩
  obtain ⟨m, among, same⟩ := List.any_eq_true.mp member
  rw [beq_iff_eq] at same
  have listed : t.outermost c.decl ∈ (members t candidates).map Candidate.decl :=
    List.mem_map.mpr ⟨m, among, same⟩
  cases chosen : choose (members t candidates) with
  | none =>
    unfold choose at chosen
    cases found : members t candidates with
    | nil => simp [found] at among
    | cons first others => simp [found] at chosen
  | some decl =>
    simp only [chosen]
    refine ⟨_, rfl, ?_⟩
    by_cases here : decl = t.outermost c.decl
    · exact Or.inl here
    · refine Or.inr (List.mem_filter.mpr ⟨listed, ?_⟩)
      simpa using Ne.symm here

/-- A declaration of a traced file is found under the name of its owner and whatever means it after
that. -/
theorem TracedTop.found_of_accepts {t : Tree} {o : Outline} (traced : TracedTop t.package o)
    (items : t.items = o.items) {d : Declaration} (present : d ∈ o.decls)
    (there : t.decl? d.id = some d) {longName : String} {tail : List Char}
    {params : Option (List ParamType)} (named : longName.toList = d.owner.toList ++ tail)
    (decoded : LongName.params longName = .ok params) (means : accepts params tail d = true) :
    Found t d.id longName := by
  obtain ⟨name, path, owner, _, walk⟩ := traced.found d present
  rw [owner, List.append_assoc] at named
  have candidate : ⟨d.id, false⟩ ∈ (acceptedAll ⟨t, params⟩
      ('.' :: name.text.toList ++ (path ++ tail)) false 1 t.items).1 := by
    rw [items]
    exact walk ⟨t, params⟩ tail false 1 there means
  exact found_of_mem (afterPackage_join named) decoded candidate

/-- The owner of a declaration holds an opening parenthesis only if the package does. -/
theorem TracedTop.no_parenthesis {package : String} {o : Outline} (traced : TracedTop package o)
    (plain : '(' ∉ package.toList) {d : Declaration} (present : d ∈ o.decls) :
    '(' ∉ d.owner.toList := by
  obtain ⟨name, path, owner, isPath, _⟩ := traced.found d present
  rw [owner, toList_join, List.mem_append, not_or]
  refine ⟨?_, isPath.plain⟩
  split
  · exact name.no_parenthesis
  · simp [plain, name.no_parenthesis]

/-- The descriptor of a long name is what stands between its first parentheses. -/
theorem descriptor?_of_parentheses {longName : String} {before descriptor result : List Char}
    (named : longName.toList = before ++ '(' :: (descriptor ++ ')' :: result))
    (opening : '(' ∉ before) (closing : ')' ∉ descriptor) :
    descriptor? longName = some (String.ofList descriptor) := by
  unfold descriptor?
  rw [named, splitAt?_append _ opening]
  simp [splitAt?_append _ closing]

/-- The descriptor of a long name is what stands between its parentheses. -/
theorem params_of_parentheses {longName : String} {before descriptor result : List Char}
    {params : List ParamType}
    (named : longName.toList = before ++ '(' :: (descriptor ++ ')' :: result))
    (opening : '(' ∉ before) (closing : ')' ∉ descriptor)
    (decoded : Descriptor.decode (String.ofList descriptor) = .ok params) :
    LongName.params longName = .ok (some params) := by
  rw [LongName.params, descriptor?_of_parentheses named opening closing]
  simp only [decoded]

/-- A long name without parentheses asks for no parameters. -/
theorem params_of_no_parenthesis {longName : String} (opening : '(' ∉ longName.toList) :
    LongName.params longName = .ok none := by
  have found : descriptor? longName = none := by
    unfold descriptor?
    rw [splitAt?_eq_none opening]
    rfl
  rw [LongName.params, found]

/-- A dot, the member, a descriptor that fits and a result mean a method or constructor. -/
theorem accepts_callable {d : Declaration} (callable : d.kind ≠ .enumConstant)
    {descriptor result : List Char} {params : List ParamType} (closing : ')' ∉ descriptor)
    (fits : paramsAgree d.params params = true) (isResult : isResult result = true) :
    accepts (some params)
      ('.' :: ((binaryMember d).toList ++ '(' :: (descriptor ++ ')' :: result))) d = true := by
  have tail : isCallableTail (binaryMember d)
      ('.' :: ((binaryMember d).toList ++ '(' :: (descriptor ++ ')' :: result))) = true := by
    have opened : '.' :: ((binaryMember d).toList ++ '(' :: (descriptor ++ ')' :: result)) =
        ('.' :: (binaryMember d).toList ++ ['(']) ++ (descriptor ++ ')' :: result) := by simp
    rw [isCallableTail, opened, afterStart?_append]
    simp only [splitAt?_append _ closing, isResult]
  cases kind : d.kind with
  | enumConstant => exact absurd kind callable
  | method => simp [accepts, kind, tail, fits]
  | constructor => simp [accepts, kind, tail, fits]

/-- A method or constructor is found under the name of its owner with its member name, a descriptor that fits
it and a result. -/
theorem TracedTop.found_callable {t : Tree} {o : Outline} (traced : TracedTop t.package o)
    (items : t.items = o.items) (plain : '(' ∉ t.package.toList) {d : Declaration} (present : d ∈ o.decls)
    (there : t.decl? d.id = some d) (callable : d.kind ≠ .enumConstant) {descriptor result : String}
    {params : List ParamType} (closing : ')' ∉ descriptor.toList)
    (decoded : Descriptor.decode descriptor = .ok params) (fits : paramsAgree d.params params = true)
    (isResult : isResult result.toList = true) :
    Found t d.id (d.owner ++ "." ++ binaryMember d ++ "(" ++ descriptor ++ ")" ++ result) := by
  generalize named : d.owner ++ "." ++ binaryMember d ++ "(" ++ descriptor ++ ")" ++ result = longName
  have spelled : longName.toList = d.owner.toList ++ '.' ::
      ((binaryMember d).toList ++ '(' :: (descriptor.toList ++ ')' :: result.toList)) := by
    simp [← named]
  have memberPlain : '(' ∉ (binaryMember d).toList := by
    unfold binaryMember
    split
    · decide
    · exact traced.named d present
  have opening : '(' ∉ d.owner.toList ++ '.' :: (binaryMember d).toList := by
    simp [traced.no_parenthesis plain present, memberPlain]
  have split : longName.toList = (d.owner.toList ++ '.' :: (binaryMember d).toList) ++
      '(' :: (descriptor.toList ++ ')' :: result.toList) := by
    simp [spelled]
  have decodes : LongName.params longName = .ok (some params) :=
    params_of_parentheses split opening closing (by simpa using decoded)
  exact traced.found_of_accepts items present there spelled decodes
    (accepts_callable callable closing fits isResult)

/-- An enum constant is found under the name of its owner with its own name. -/
theorem TracedTop.found_constant {t : Tree} {o : Outline} (traced : TracedTop t.package o)
    (items : t.items = o.items) (plain : '(' ∉ t.package.toList) {c : Declaration} (present : c ∈ o.decls)
    (there : t.decl? c.id = some c) (kind : c.kind = .enumConstant) :
    Found t c.id (c.owner ++ "." ++ c.name) := by
  generalize named : c.owner ++ "." ++ c.name = longName
  have spelled : longName.toList = c.owner.toList ++ '.' :: c.name.toList := by simp [← named]
  have decodes : LongName.params longName = .ok none := by
    apply params_of_no_parenthesis
    simp [spelled, traced.no_parenthesis plain present, traced.named c present]
  exact traced.found_of_accepts items present there spelled decodes (by simp [accepts, kind])

/-- Every method and constructor is found under the binary name of its owner with its member name and a
descriptor that fits it, and every enum constant under the binary name of its owner with its own name. -/
structure AllFound (t : Tree) : Prop where
  callables : ∀ d ∈ t.decls, d.kind ≠ .enumConstant →
    ∀ (descriptor result : String) (params : List ParamType), ')' ∉ descriptor.toList →
    Descriptor.decode descriptor = .ok params → paramsAgree d.params params = true →
    (result = "" ∨ ∃ type, Descriptor.decode result = .ok [type]) →
    Found t d.id (d.owner ++ "." ++ (if d.kind = .constructor then "<init>" else d.name) ++ "(" ++
      descriptor ++ ")" ++ result)
  constants : ∀ c ∈ t.decls, c.kind = .enumConstant → Found t c.id (c.owner ++ "." ++ c.name)

/-- Where no package is declared after a type and the package holds no parenthesis, every declaration of a
file is found under its binary name. A source text that can be read has the tree of its declarations. -/
theorem declarations_found (source : String) (unit : Java.CompilationUnit) (first : PackagesFirst unit)
    (plain : '(' ∉ (Tree.ofUnit source unit).package.toList) :
    AllFound (Tree.ofUnit source unit) ∧ (Java.CompilationUnit.ofSource? source = some unit →
      Tree.ofSource? source = some (Tree.ofUnit source unit)) := by
  refine ⟨?_, fun parsed => by simp [Tree.ofSource?, parsed]⟩
  have traced := TracedTop.outlineUnit "" .start unit first
  refine ⟨?_, fun c declared kind => traced.found_constant rfl plain declared (Tree.decl?_id declared) kind⟩
  intro d declared callable descriptor result params closing decoded fits isType
  have isResult : isResult result.toList = true := by
    rcases isType with rfl | ⟨type, decodes⟩
    · rfl
    · simp [LongName.isResult, decodes]
  have member : (if d.kind = .constructor then "<init>" else d.name) = binaryMember d := by
    unfold binaryMember
    cases d.kind <;> rfl
  rw [member]
  exact traced.found_callable rfl plain declared (Tree.decl?_id declared) callable closing decoded fits
    isResult

/-- A method two inline class bodies deep in an enum constant, the constructor of a member class, and the
constant itself. -/
theorem declarations_found_of_nested_bodies :
    ∃ unit, Java.CompilationUnit.ofSource?
        "package p; enum E { X { void f() { new Object() { void g() {} }; } }; class L { L() {} } }" =
          some unit ∧ PackagesFirst unit ∧
      ∃ t, Tree.ofSource?
        "package p; enum E { X { void f() { new Object() { void g() {} }; } }; class L { L() {} } }" =
          some t ∧ '(' ∉ t.package.toList ∧
        Found t 2 "p.E$1$1.g()V" ∧ Found t 3 "p.E$L.<init>()V" ∧ Found t 0 "p.E.X" := by
  generalize written :
    "package p; enum E { X { void f() { new Object() { void g() {} }; } }; class L { L() {} } }" = source
  have evaluated : (Java.CompilationUnit.ofSource? source).any (fun unit =>
      PackagesFirst unit ∧ (Tree.ofUnit source unit).package = "p" ∧
      (Tree.ofUnit source unit).decls.map (fun d => (d.id, d.kind, d.owner, d.name, d.params)) =
        [(0, .enumConstant, "p.E", "X", []), (1, .method, "p.E$1", "f", []),
          (2, .method, "p.E$1$1", "g", []), (3, .constructor, "p.E$L", "L", [])]) = true := by
    rw [← written]
    decide +kernel
  obtain ⟨unit, parsed, facts⟩ := (Option.any_eq_true _ _).mp evaluated
  obtain ⟨first, package, decls⟩ := of_decide_eq_true facts
  have plain : '(' ∉ (Tree.ofUnit source unit).package.toList := by
    rw [package]
    decide
  obtain ⟨⟨callables, constants⟩, isTree⟩ := declarations_found source unit first plain
  generalize Tree.ofUnit source unit = t at *
  have callable : ∀ id kind owner name,
      (id, kind, owner, name, []) ∈ t.decls.map (fun d => (d.id, d.kind, d.owner, d.name, d.params)) →
      kind ≠ .enumConstant →
      Found t id (owner ++ "." ++ (if kind = .constructor then "<init>" else name) ++ "(" ++ "" ++
        ")" ++ "V") := by
    intro id kind owner name listed callable
    obtain ⟨d, declared, is⟩ := List.mem_map.mp listed
    simp only [Prod.mk.injEq] at is
    obtain ⟨rfl, rfl, rfl, rfl, params⟩ := is
    exact callables d declared callable "" "V" [] (by decide) rfl (by rw [params]; rfl)
      (Or.inr ⟨⟨.primitive, "void", 0⟩, rfl⟩)
  refine ⟨unit, parsed, first, t, isTree parsed, plain, ?_, ?_, ?_⟩
  · exact callable 2 .method "p.E$1$1" "g" (by simp [decls]) (by decide)
  · exact callable 3 .constructor "p.E$L" "L" (by simp [decls]) (by decide)
  · have listed : (0, DeclKind.enumConstant, "p.E", "X", []) ∈
        t.decls.map (fun d => (d.id, d.kind, d.owner, d.name, d.params)) := by simp [decls]
    obtain ⟨c, declared, is⟩ := List.mem_map.mp listed
    simp only [Prod.mk.injEq] at is
    have found := constants c declared is.2.1
    rw [is.1, is.2.2.1, is.2.2.2.1] at found
    exact found

end LongName

end DefectGraph
