import DefectGraph.Proofs.BinaryNames

/-!
# The language of named paths

A walk takes the name of every type that it enters off the front of a long name. On the named path it
takes off all of them, so what it accepts there is a language: the ways to spell the types around a
declaration from the outside in, followed by the declaration itself.

## Main Definitions

* `Part`, `Item.partsAll` - what stands directly in a type body, with declarations passed through.
* `Visits` - the type bodies that a walk comes by, with what is left of the name there.
* `LeadsTo` - the ways to spell the types on the way to a type body.
* `PlainNames` - no name holds an opening parenthesis.

## Main Statements

* `mem_acceptedAll_iff` - what a walk collects in one type body, part by part.
* `mem_acceptedAll_iff_visits` - the candidates are the declarations in the bodies that the walk visits.
* `exists_path`, `visits_of_path` - a walk on the named path has taken off a way to spell the path.
* `accepted_iff_named_path` - the language of the named path.

## Design Notes

The walk goes through declarations and inline bodies in one recursion, with a flag for having left the named
path. Here it is taken apart in two steps: `Part` is a type body with declarations passed through, which
makes one type body a plain list; and `Visits` is an inductive relation for the moves between bodies, on
which the flag is an index. `LeadsTo` has the moves of the named path only, and spells them out in characters.
-/

namespace DefectGraph

open DefectGraph.Source DefectGraph.Text

/-! ### Text -/

namespace Text

/-- A text is split at the first separator. -/
theorem splitAt?_eq_some {separator : Char} {text before after : List Char}
    (split : splitAt? separator text = some (before, after)) :
    text = before ++ separator :: after ∧ separator ∉ before := by
  by_cases present : separator ∈ text
  · obtain ⟨first, last, rfl, absent⟩ := List.eq_append_cons_of_mem present
    rw [splitAt?_append last absent] at split
    cases split
    exact ⟨rfl, absent⟩
  · rw [splitAt?_eq_none present] at split
    cases split

/-- Text without the separator in front does not change what follows the separator. -/
theorem splitAt?_append_left {separator : Char} {start : List Char} (text : List Char)
    (absent : separator ∉ start) :
    splitAt? separator (start ++ text) =
      (splitAt? separator text).map fun (before, after) => (start ++ before, after) := by
  by_cases present : separator ∈ text
  · obtain ⟨before, after, rfl, first⟩ := List.eq_append_cons_of_mem present
    have neither : separator ∉ start ++ before := by simp [absent, first]
    rw [splitAt?_append after first, ← List.append_assoc, splitAt?_append after neither]
    rfl
  · have neither : separator ∉ start ++ text := by simp [absent, present]
    rw [splitAt?_eq_none present, splitAt?_eq_none neither]
    rfl

end Text

/-! ### What stands directly in a type body -/

namespace Source

/-- Something that stands directly in a type body. What stands inside a declaration counts as well, up to
the next type body. -/
inductive Part where
  | decl (id : DeclId)
  | type (name : String) (nested : Bool) (members : List Item)
  | inlineBody (members : List Item)

/-- The part is an inline class body. -/
def Part.isInline : Part → Bool
  | .inlineBody _ => true
  | _ => false

mutual

/-- What an item adds to the type body around it. -/
def Item.parts : Item → List Part
  | .type _ name nested members => [.type name nested members]
  | .anonymous _ members => [.inlineBody members]
  | .callable decl inner | .enumConstant decl inner => .decl decl :: Item.partsAll inner

/-- What items add to the type body around them, in order. -/
def Item.partsAll : List Item → List Part
  | [] => []
  | item :: rest => item.parts ++ Item.partsAll rest

end

/-- The number of inline class bodies among parts. -/
def inlineCount (parts : List Part) : Nat := parts.countP Part.isInline

@[simp]
theorem inlineCount_append (a b : List Part) : inlineCount (a ++ b) = inlineCount a + inlineCount b :=
  List.countP_append

mutual

/-- The names of the types in an item. -/
def Item.typeNames : Item → List String
  | .type _ name _ members => name :: Item.typeNamesAll members
  | .anonymous _ members => Item.typeNamesAll members
  | .callable _ inner | .enumConstant _ inner => Item.typeNamesAll inner

/-- The names of the types in items. -/
def Item.typeNamesAll : List Item → List String
  | [] => []
  | item :: rest => item.typeNames ++ Item.typeNamesAll rest

end

/-- The type body in a part. -/
def Part.body? : Part → Option (List Item)
  | .decl _ => none
  | .type _ _ members | .inlineBody members => some members

mutual

/-- The body of a part is smaller than the item. -/
theorem sizeOf_body_of_mem_parts {part : Part} {body : List Item} (here : part.body? = some body) :
    ∀ {item : Item}, part ∈ item.parts → sizeOf body < sizeOf item
  | .type _ _ _ members, present => by
    rw [Item.parts, List.mem_singleton] at present
    subst present
    cases here
    simp only [Item.type.sizeOf_spec]
    omega
  | .anonymous _ members, present => by
    rw [Item.parts, List.mem_singleton] at present
    subst present
    cases here
    simp only [Item.anonymous.sizeOf_spec]
    omega
  | .callable _ inner, present => by
    rw [Item.parts, List.mem_cons] at present
    rcases present with rfl | deeper
    · cases here
    · have := sizeOf_body_of_mem_partsAll here deeper
      simp only [Item.callable.sizeOf_spec]
      omega
  | .enumConstant _ inner, present => by
    rw [Item.parts, List.mem_cons] at present
    rcases present with rfl | deeper
    · cases here
    · have := sizeOf_body_of_mem_partsAll here deeper
      simp only [Item.enumConstant.sizeOf_spec]
      omega

/-- A type body is smaller than the items that it stands in. -/
theorem sizeOf_body_of_mem_partsAll {part : Part} {body : List Item}
    (here : part.body? = some body) :
    ∀ {items : List Item}, part ∈ Item.partsAll items → sizeOf body < sizeOf items
  | [], present => by cases present
  | item :: items, present => by
    rw [Item.partsAll, List.mem_append] at present
    simp only [List.cons.sizeOf_spec]
    rcases present with first | later
    · have := sizeOf_body_of_mem_parts here first
      omega
    · have := sizeOf_body_of_mem_partsAll here later
      omega

end

/-- The names of the types in a part. -/
def Part.typeNames : Part → List String
  | .decl _ => []
  | .type name _ members => name :: Item.typeNamesAll members
  | .inlineBody members => Item.typeNamesAll members

mutual

/-- The type names of an item are those of its parts. -/
theorem Item.typeNames_eq_parts : ∀ item : Item, item.typeNames = item.parts.flatMap Part.typeNames
  | .type _ name nested members => by simp [Item.typeNames, Item.parts, Part.typeNames]
  | .anonymous _ members => by simp [Item.typeNames, Item.parts, Part.typeNames]
  | .callable _ inner => by
    simp [Item.typeNames, Item.parts, Part.typeNames, Item.typeNamesAll_eq_parts inner]
  | .enumConstant _ inner => by
    simp [Item.typeNames, Item.parts, Part.typeNames, Item.typeNamesAll_eq_parts inner]

/-- The types in items are those in their parts. -/
theorem Item.typeNamesAll_eq_parts : ∀ items : List Item,
    Item.typeNamesAll items = (Item.partsAll items).flatMap Part.typeNames
  | [] => rfl
  | item :: items => by
    rw [Item.typeNamesAll, Item.partsAll, List.flatMap_append, Item.typeNames_eq_parts item,
      Item.typeNamesAll_eq_parts items]

end

/-- The type names of a part are among those of the items. -/
theorem Item.typeNames_subset_of_mem {part : Part} {items : List Item}
    (present : part ∈ Item.partsAll items) : part.typeNames ⊆ Item.typeNamesAll items := by
  intro name named
  rw [Item.typeNamesAll_eq_parts]
  exact List.mem_flatMap.mpr ⟨part, present, named⟩

end Source

namespace LongName

/-! ### Walking through one type body -/

/-- The candidates in a part, where `ordinal` is the number of the next inline class body. -/
def Query.inPart (q : Query) (rest : List Char) (weak : Bool) (ordinal : Nat) : Part → List Candidate
  | .decl id => q.candidate rest weak id
  | .type name nested members =>
    match afterType? name nested rest with
    | some tail => (acceptedAll q tail weak 1 members).1
    | none => (acceptedAll q rest true 1 members).1
  | .inlineBody members =>
    match afterOrdinal? ordinal rest with
    | some tail => (acceptedAll q tail weak 1 members).1
    | none => []

/-- The candidates in parts, one after the other. -/
def Query.inParts (q : Query) (rest : List Char) (weak : Bool) : Nat → List Part → List Candidate
  | _, [] => []
  | ordinal, part :: parts =>
    q.inPart rest weak ordinal part ++ q.inParts rest weak (ordinal + inlineCount [part]) parts

/-- The search goes through parts in turn, and ordinals count the inline bodies before a part. -/
theorem inParts_append (q : Query) (rest : List Char) (weak : Bool) (ordinal : Nat)
    (first second : List Part) :
    q.inParts rest weak ordinal (first ++ second) =
      q.inParts rest weak ordinal first ++
        q.inParts rest weak (ordinal + inlineCount first) second := by
  induction first generalizing ordinal with
  | nil => rfl
  | cons part parts ih =>
    have count : inlineCount (part :: parts) = inlineCount [part] + inlineCount parts :=
      inlineCount_append [part] parts
    rw [List.cons_append, Query.inParts, Query.inParts, ih, List.append_assoc, count, Nat.add_assoc]

mutual

/-- The walk through an item goes through its parts. -/
theorem accepted_eq_inParts (q : Query) (rest : List Char) (weak : Bool) (ordinal : Nat) :
    ∀ item : Item, accepted q rest weak ordinal item =
      (q.inParts rest weak ordinal item.parts, ordinal + inlineCount item.parts)
  | .type scope name nested members => by
    rw [accepted, Item.parts, Query.inParts, Query.inParts, Query.inPart, List.append_nil]
    cases afterType? name nested rest with
    | none => rfl
    | some tail => rfl
  | .anonymous scope members => by
    rw [accepted, Item.parts, Query.inParts, Query.inParts, Query.inPart, List.append_nil]
    cases afterOrdinal? ordinal rest with
    | none => rfl
    | some tail => rfl
  | .callable decl inner => by
    rw [accepted, acceptedAll_eq_inParts q rest weak ordinal inner, Item.parts, Query.inParts]
    rfl
  | .enumConstant decl inner => by
    rw [accepted, acceptedAll_eq_inParts q rest weak ordinal inner, Item.parts, Query.inParts]
    rfl

/-- The walk through items goes through their parts. -/
theorem acceptedAll_eq_inParts (q : Query) (rest : List Char) (weak : Bool) (ordinal : Nat) :
    ∀ items : List Item, acceptedAll q rest weak ordinal items =
      (q.inParts rest weak ordinal (Item.partsAll items), ordinal + inlineCount (Item.partsAll items))
  | [] => rfl
  | item :: items => by
    rw [acceptedAll, accepted_eq_inParts q rest weak ordinal item]
    dsimp only
    rw [acceptedAll_eq_inParts q rest weak _ items, Item.partsAll, inParts_append, inlineCount_append,
      Nat.add_assoc]

end

/-- A candidate is found in one of the parts, with the inline bodies before it counted. -/
theorem mem_inParts_iff (q : Query) (rest : List Char) (weak : Bool) (ordinal : Nat)
    (parts : List Part) (c : Candidate) :
    c ∈ q.inParts rest weak ordinal parts ↔
      ∃ before part after, parts = before ++ part :: after ∧
        c ∈ q.inPart rest weak (ordinal + inlineCount before) part := by
  constructor
  · intro present
    induction parts generalizing ordinal with
    | nil => cases present
    | cons part parts ih =>
      rw [Query.inParts, List.mem_append] at present
      rcases present with here | later
      · exact ⟨[], part, parts, rfl, here⟩
      · obtain ⟨before, other, after, rfl, found⟩ := ih _ later
        refine ⟨part :: before, other, after, rfl, ?_⟩
        have count : inlineCount (part :: before) = inlineCount [part] + inlineCount before :=
          inlineCount_append [part] before
        rw [count, ← Nat.add_assoc]
        exact found
  · rintro ⟨before, part, after, rfl, found⟩
    rw [inParts_append, Query.inParts]
    exact List.mem_append_right _ (List.mem_append_left _ found)

/-- What a walk collects in a type body, part by part: an inline class body has the number that it is
met at. -/
theorem mem_acceptedAll_iff (q : Query) (rest : List Char) (weak : Bool) (items : List Item)
    (c : Candidate) :
    c ∈ (acceptedAll q rest weak 1 items).1 ↔
      ∃ before part after, Item.partsAll items = before ++ part :: after ∧
        c ∈ q.inPart rest weak (inlineCount before + 1) part := by
  rw [acceptedAll_eq_inParts, mem_inParts_iff]
  simp only [Nat.add_comm 1]

/-! ### The type bodies that a walk comes by -/

/-- A walk over items, with a name and a flag to start with, comes by a type body with this left of the
name and this flag. -/
inductive Visits (top : List Item) (name : List Char) (flag : Bool) :
    List Item → List Char → Bool → Prop
  | top : Visits top name flag top name flag
  | type {body members : List Item} {rest tail : List Char} {weak nested : Bool} {typeName : String} :
      Visits top name flag body rest weak → .type typeName nested members ∈ Item.partsAll body →
      afterType? typeName nested rest = some tail → Visits top name flag members tail weak
  | otherType {body members : List Item} {rest : List Char} {weak nested : Bool} {typeName : String} :
      Visits top name flag body rest weak → .type typeName nested members ∈ Item.partsAll body →
      afterType? typeName nested rest = none → Visits top name flag members rest true
  | inlineBody {body members : List Item} {rest tail : List Char} {weak : Bool}
      {before after : List Part} :
      Visits top name flag body rest weak →
      Item.partsAll body = before ++ .inlineBody members :: after →
      afterOrdinal? (inlineCount before + 1) rest = some tail → Visits top name flag members tail weak

/-- A visit of a visited body is a visit. -/
theorem Visits.trans {top middle body : List Item} {name between rest : List Char}
    {flag passed weak : Bool} (first : Visits top name flag middle between passed)
    (second : Visits middle between passed body rest weak) : Visits top name flag body rest weak := by
  induction second with
  | top => exact first
  | type _ present taken ih => exact .type ih present taken
  | otherType _ present missing ih => exact .otherType ih present missing
  | inlineBody _ split taken ih => exact .inlineBody ih split taken

/-- The walk collects what it collects in the type bodies that it comes by. -/
theorem Visits.subset (q : Query) {top body : List Item} {name rest : List Char} {flag weak : Bool}
    (visits : Visits top name flag body rest weak) :
    (acceptedAll q rest weak 1 body).1 ⊆ (acceptedAll q name flag 1 top).1 := by
  induction visits with
  | top => exact List.Subset.refl _
  | type _ present taken ih =>
    intro c found
    obtain ⟨before, after, split⟩ := List.append_of_mem present
    refine ih ((mem_acceptedAll_iff ..).mpr ⟨before, _, after, split, ?_⟩)
    rw [Query.inPart, taken]
    exact found
  | otherType _ present missing ih =>
    intro c found
    obtain ⟨before, after, split⟩ := List.append_of_mem present
    refine ih ((mem_acceptedAll_iff ..).mpr ⟨before, _, after, split, ?_⟩)
    rw [Query.inPart, missing]
    exact found
  | inlineBody _ split taken ih =>
    intro c found
    refine ih ((mem_acceptedAll_iff ..).mpr ⟨_, _, _, split, ?_⟩)
    rw [Query.inPart, taken]
    exact found

/-- What the walk collects stands in a type body that it comes by. -/
theorem exists_visits (q : Query) (c : Candidate) (top : List Item) (name : List Char) (flag : Bool)
    (found : c ∈ (acceptedAll q name flag 1 top).1) :
    ∃ body rest, Visits top name flag body rest c.weak ∧ .decl c.decl ∈ Item.partsAll body ∧
      (q.tree.decl? c.decl).any (accepts q.params rest) = true := by
  obtain ⟨before, part, after, split, inPart⟩ := (mem_acceptedAll_iff ..).mp found
  have present : part ∈ Item.partsAll top := split ▸ List.mem_append_right _ List.mem_cons_self
  have smaller := @sizeOf_body_of_mem_partsAll part
  cases part with
  | decl id =>
    rw [Query.inPart, Query.candidate] at inPart
    split at inPart
    · rename_i means
      rw [List.mem_singleton] at inPart
      subst inPart
      exact ⟨top, name, .top, present, means⟩
    · cases inPart
  | type typeName nested members =>
    rw [Query.inPart] at inPart
    split at inPart
    · rename_i tail taken
      obtain ⟨body, rest, visits, decl⟩ := exists_visits q c members tail flag inPart
      exact ⟨body, rest, (Visits.type .top present taken).trans visits, decl⟩
    · rename_i missing
      obtain ⟨body, rest, visits, decl⟩ := exists_visits q c members name true inPart
      exact ⟨body, rest, (Visits.otherType .top present missing).trans visits, decl⟩
  | inlineBody members =>
    rw [Query.inPart] at inPart
    split at inPart
    · rename_i tail taken
      obtain ⟨body, rest, visits, decl⟩ := exists_visits q c members tail flag inPart
      exact ⟨body, rest, (Visits.inlineBody .top split taken).trans visits, decl⟩
    · cases inPart
termination_by sizeOf top
decreasing_by all_goals exact smaller rfl present

/-- The candidates are the declarations in the type bodies that the walk comes by, where what is left of
the name means them. -/
theorem mem_acceptedAll_iff_visits (q : Query) (c : Candidate) (top : List Item) (name : List Char)
    (flag : Bool) :
    c ∈ (acceptedAll q name flag 1 top).1 ↔
      ∃ body rest, Visits top name flag body rest c.weak ∧ .decl c.decl ∈ Item.partsAll body ∧
        (q.tree.decl? c.decl).any (accepts q.params rest) = true := by
  refine ⟨exists_visits q c top name flag, ?_⟩
  rintro ⟨body, rest, visits, present, means⟩
  obtain ⟨before, after, split⟩ := List.append_of_mem present
  refine visits.subset q ((mem_acceptedAll_iff ..).mpr ⟨before, _, after, split, ?_⟩)
  rw [Query.inPart, Query.candidate, if_pos means]
  exact List.mem_singleton_self _

/-! ### Ways to spell a path -/

/-- What stands between the name of a type and what is around it: a dot, or a dollar sign if the type is
nested. -/
def Separates (separator : Char) (nested : Bool) : Prop :=
  separator = '.' ∨ separator = '$' ∧ nested = true

/-- A way to spell the types on the way from items to a type body, from the outside in. -/
inductive LeadsTo (top : List Item) : List Char → List Item → Prop
  | top : LeadsTo top [] top
  | type {path : List Char} {body members : List Item} {name : String} {nested : Bool}
      {separator : Char} :
      LeadsTo top path body → .type name nested members ∈ Item.partsAll body →
      Separates separator nested → LeadsTo top (path ++ separator :: name.toList) members
  | inlineBody {path : List Char} {body members : List Item} {before after : List Part} :
      LeadsTo top path body → Item.partsAll body = before ++ .inlineBody members :: after →
      LeadsTo top (path ++ '$' :: (toString (inlineCount before + 1)).toList) members

/-- A way to spell the types around a declaration. -/
def PathTo (top : List Item) (decl : DeclId) (path : List Char) : Prop :=
  ∃ body, LeadsTo top path body ∧ .decl decl ∈ Item.partsAll body

theorem afterSegment?_eq_some {separator : Char} {name : String} {rest tail : List Char}
    (taken : afterSegment? separator name rest = some tail) :
    rest = separator :: name.toList ++ tail :=
  afterStart?_eq_some (Option.filter_eq_some_iff.mp taken).1

/-- A type is passed over with the separator in front of its name. -/
theorem afterType?_eq_some {name : String} {nested : Bool} {rest tail : List Char}
    (taken : afterType? name nested rest = some tail) :
    ∃ separator, Separates separator nested ∧ rest = separator :: name.toList ++ tail := by
  rcases Option.or_eq_some_iff.mp taken with dotted | ⟨_, dollar⟩
  · exact ⟨'.', Or.inl rfl, afterSegment?_eq_some dotted⟩
  · cases nested with
    | false => cases dollar
    | true => exact ⟨'$', Or.inr ⟨rfl, rfl⟩, afterSegment?_eq_some dollar⟩

/-- An inline body is passed over by its ordinal, which no further digit may follow. -/
theorem afterOrdinal?_eq_some {ordinal : Nat} {rest tail : List Char}
    (taken : afterOrdinal? ordinal rest = some tail) :
    rest = '$' :: (toString ordinal).toList ++ tail ∧ tail.head?.any Char.isDigit = false := by
  obtain ⟨start, noDigit⟩ := Option.filter_eq_some_iff.mp taken
  exact ⟨afterStart?_eq_some start, by simpa using noDigit⟩

/-- On the named path, what has been taken off is a way to spell the path. -/
theorem exists_path {top body : List Item} {name rest : List Char}
    {weak : Bool} (visits : Visits top name false body rest weak) (named : weak = false) :
    ∃ path, LeadsTo top path body ∧ name = path ++ rest := by
  -- The flag never goes back to `false`, so every type body on the way was reached with it as well.
  induction visits with
  | top => exact ⟨[], .top, rfl⟩
  | type _ present taken ih =>
    obtain ⟨path, leads, rfl⟩ := ih named
    obtain ⟨separator, separates, rfl⟩ := afterType?_eq_some taken
    exact ⟨_, .type leads present separates, by simp⟩
  | otherType => cases named
  | inlineBody _ split taken ih =>
    obtain ⟨path, leads, rfl⟩ := ih named
    obtain ⟨rfl, _⟩ := afterOrdinal?_eq_some taken
    exact ⟨_, .inlineBody leads split, by simp⟩

/-- A walk follows every way to spell a path that a separator ends. -/
theorem visits_of_path {top body : List Item} {path rest : List Char} (leads : LeadsTo top path body)
    (separated : rest.head? = some '$' ∨ rest.head? = some '.') :
    Visits top (path ++ rest) false body rest false := by
  induction leads generalizing rest with
  | top => exact .top
  | @type path body members name nested separator _ present separates ih =>
    rcases separates with rfl | ⟨rfl, rfl⟩
    · have outer : Visits top (path ++ ('.' :: name.toList ++ rest)) false body _ false :=
        ih (Or.inr rfl)
      rw [List.append_assoc]
      exact .type outer present (afterType?_dot name nested separated)
    · have outer : Visits top (path ++ ('$' :: name.toList ++ rest)) false body _ false :=
        ih (Or.inl rfl)
      rw [List.append_assoc]
      exact .type outer present (afterType?_dollar name separated)
  | @inlineBody path body members before after _ split ih =>
    have outer : Visits top (path ++ ('$' :: (toString (inlineCount before + 1)).toList ++ rest)) false
        body _ false := ih (Or.inl rfl)
    rw [List.append_assoc]
    exact .inlineBody outer split (afterOrdinal?_append _ separated)

/-! ### At most one inline class body is entered -/

/-- The digits in front are those of the ordinal. -/
theorem takeWhile_isDigit_toString_append (ordinal : Nat) {tail : List Char}
    (noDigit : tail.head?.any Char.isDigit = false) :
    ((toString ordinal).toList ++ tail).takeWhile Char.isDigit = (toString ordinal).toList := by
  have digits : ∀ c ∈ (toString ordinal).toList, c.isDigit = true := by
    intro c present
    exact Nat.isDigit_of_mem_toDigits (by decide) (by decide)
      (show c ∈ Nat.toDigits 10 ordinal by simpa using present)
  rw [List.takeWhile_append_of_pos digits]
  cases tail with
  | nil => simp
  | cons c tail =>
    have other : c.isDigit = false := by simpa using noDigit
    simp [other]

/-- One name goes on with the number of one inline class body at most. -/
theorem ordinal_unique {a b : Nat} {rest tail other : List Char}
    (first : afterOrdinal? a rest = some tail) (second : afterOrdinal? b rest = some other) :
    a = b := by
  obtain ⟨spelled, noDigit⟩ := afterOrdinal?_eq_some first
  obtain ⟨spelledToo, noDigitToo⟩ := afterOrdinal?_eq_some second
  have rests : (toString a).toList ++ tail = (toString b).toList ++ other :=
    List.tail_eq_of_cons_eq (spelled.symm.trans spelledToo)
  have digits : (toString a).toList = (toString b).toList := by
    rw [← takeWhile_isDigit_toString_append a noDigit, rests,
      takeWhile_isDigit_toString_append b noDigitToo]
  have numbers := congrArg (fun digits => Nat.ofDigitChars 10 digits 0) digits
  simpa [Nat.toString_eq_ofList_toDigits] using numbers

/-- Inline class bodies that as many others come before are the same. -/
theorem eq_of_inlineCount_eq {before others after rest : List Part} {members inner : List Item}
    (same : before ++ .inlineBody members :: after = others ++ .inlineBody inner :: rest)
    (count : inlineCount before = inlineCount others) :
    before = others ∧ members = inner ∧ after = rest := by
  have longer : ∀ (a b : List Part) (body : List Item) (between : List Part),
      b = a ++ .inlineBody body :: between → inlineCount a < inlineCount b := by
    rintro a b body between rfl
    have one : inlineCount (.inlineBody body :: between) = inlineCount between + 1 :=
      List.countP_cons_of_pos rfl
    rw [inlineCount_append, one]
    omega
  rcases List.append_eq_append_iff.mp same with ⟨between, split, tail⟩ | ⟨between, split, tail⟩
  · cases between with
    | nil => simp_all
    | cons part between =>
      rw [List.cons_append, List.cons.injEq] at tail
      have := longer before others members between (by rw [split, tail.1])
      omega
  · cases between with
    | nil => simp_all
    | cons part between =>
      rw [List.cons_append, List.cons.injEq] at tail
      have := longer others before inner between (by rw [split, tail.1])
      omega

/-! ### What means a declaration -/

/-- A result type is one type, or left out. -/
theorem isResult_iff (text : List Char) :
    isResult text = true ↔ text = [] ∨ ∃ type, Descriptor.decode (String.ofList text) = .ok [type] := by
  rw [isResult, Bool.or_eq_true, List.isEmpty_iff]
  refine or_congr_right ⟨?_, ?_⟩
  · intro single
    split at single
    · rename_i type decodes
      exact ⟨type, decodes⟩
    · cases single
  · rintro ⟨type, decodes⟩
    rw [decodes]

/-- A member with a parenthesised descriptor and a result. -/
structure Call where
  descriptor : List Char
  result : List Char
  closing : ')' ∉ descriptor
  isResult : result = [] ∨ ∃ type, Descriptor.decode (String.ofList result) = .ok [type]

/-- How a call of a member is written after the types around it. -/
def Call.spelling (call : Call) (member : String) : List Char :=
  '.' :: (member.toList ++ '(' :: (call.descriptor ++ ')' :: call.result))

/-- What can follow a method in a long name is spelled by a call. -/
theorem exists_call {member : String} {rest : List Char} (isTail : isCallableTail member rest = true) :
    ∃ call : Call, rest = call.spelling member := by
  unfold isCallableTail at isTail
  split at isTail
  · rename_i opened start
    split at isTail
    · rename_i descriptor result closed
      obtain ⟨rfl, closing⟩ := splitAt?_eq_some closed
      refine ⟨⟨descriptor, result, closing, (isResult_iff result).mp isTail⟩, ?_⟩
      rw [afterStart?_eq_some start]
      simp [Call.spelling]
    · cases isTail
  · cases isTail

/-- The parameters of a long name are found in what follows a package without parentheses. -/
theorem params_afterPackage {package longName : String} {rest : List Char}
    (inPackage : afterPackage package longName = .ok rest) (plain : '(' ∉ package.toList) :
    LongName.params longName = LongName.params (String.ofList rest) := by
  -- One of the two texts is the other one with a start that holds no parenthesis.
  have unchanged : ∀ (start text : List Char), '(' ∉ start →
      descriptor? (String.ofList (start ++ text)) = descriptor? (String.ofList text) := by
    intro start text absent
    unfold descriptor?
    rw [String.toList_ofList, String.toList_ofList, splitAt?_append_left text absent]
    cases splitAt? '(' text with
    | none => rfl
    | some halves => rfl
  have same : descriptor? longName = descriptor? (String.ofList rest) := by
    unfold afterPackage at inPackage
    split at inPackage
    · cases inPackage
      have := unchanged ['.'] longName.toList (by decide)
      simpa using this.symm
    · split at inPackage
      · rename_i after start
        cases inPackage
        have := unchanged package.toList ('.' :: after) plain
        rw [← afterStart?_eq_some start, String.ofList_toList] at this
        exact this
      · cases inPackage
  rw [LongName.params, LongName.params, same]

/-! ### The language of the named path -/

/-- The package, the types and the methods and constructors of a file have names without an opening
parenthesis. -/
structure PlainNames (t : Tree) : Prop where
  package : '(' ∉ t.package.toList
  types : ∀ name ∈ Item.typeNamesAll t.items, '(' ∉ name.toList
  decls : ∀ d ∈ t.decls, d.kind ≠ .enumConstant → '(' ∉ d.name.toList

instance (t : Tree) : Decidable (PlainNames t) :=
  decidable_of_iff
    ('(' ∉ t.package.toList ∧ (∀ name ∈ Item.typeNamesAll t.items, '(' ∉ name.toList) ∧
      ∀ d ∈ t.decls, d.kind ≠ .enumConstant → '(' ∉ d.name.toList)
    ⟨fun ⟨package, types, decls⟩ => ⟨package, types, decls⟩,
      fun plain => ⟨plain.package, plain.types, plain.decls⟩⟩

/-- With plain names, so is every way to spell a path. -/
theorem LeadsTo.no_parenthesis {top body : List Item} {path : List Char}
    (plain : ∀ name ∈ Item.typeNamesAll top, '(' ∉ name.toList) (leads : LeadsTo top path body) :
    '(' ∉ path ∧ Item.typeNamesAll body ⊆ Item.typeNamesAll top := by
  induction leads with
  | top => exact ⟨List.not_mem_nil, List.Subset.refl _⟩
  | @type path body members name nested separator _ present separates ih =>
    obtain ⟨outer, among⟩ := ih
    have names := List.Subset.trans (Item.typeNames_subset_of_mem present) among
    have named : '(' ∉ name.toList := plain name (names List.mem_cons_self)
    have separator : '(' ≠ separator := by
      rcases separates with rfl | ⟨rfl, _⟩
      · decide
      · decide
    refine ⟨by simp [outer, separator, named], ?_⟩
    exact List.Subset.trans (List.subset_cons_self _ _) names
  | inlineBody _ split ih =>
    obtain ⟨outer, among⟩ := ih
    have present := split ▸ List.mem_append_right _ List.mem_cons_self
    refine ⟨?_, List.Subset.trans (Item.typeNames_subset_of_mem present) among⟩
    have number := no_parenthesis_toString
    simp only [List.mem_append, List.mem_cons, not_or]
    exact ⟨outer, by decide, number _⟩

/-- The candidates of the named path, path by path. -/
theorem mem_acceptedAll_iff_path (q : Query) (id : DeclId) (d : Declaration)
    (declared : q.tree.decl? id = some d) (top : List Item) (name : List Char) :
    ⟨id, false⟩ ∈ (acceptedAll q name false 1 top).1 ↔
      ∃ path rest, PathTo top id path ∧ name = path ++ rest ∧ accepts q.params rest d = true := by
  rw [mem_acceptedAll_iff_visits]
  simp only [declared, Option.any_some]
  constructor
  · rintro ⟨body, rest, visits, present, means⟩
    obtain ⟨path, leads, spelled⟩ := exists_path visits rfl
    exact ⟨path, rest, ⟨body, leads, present⟩, spelled, means⟩
  · rintro ⟨path, rest, ⟨body, leads, present⟩, rfl, means⟩
    exact ⟨body, rest, visits_of_path leads (Or.inr (head?_of_accepts means)), present, means⟩

/-- A method or constructor is accepted by its name and its parameters. -/
theorem accepts_callable_iff {d : Declaration} (callable : d.kind ≠ .enumConstant)
    (params : Option (List ParamType)) (rest : List Char) :
    accepts params rest d = true ↔
      isCallableTail (binaryMember d) rest = true ∧ params.any (paramsAgree d.params) = true := by
  unfold accepts
  split
  · rename_i constant
    exact absurd constant callable
  · exact Bool.and_eq_true_iff
  · exact Bool.and_eq_true_iff

/-- An enum constant is accepted by its name alone. -/
theorem accepts_constant_iff {c : Declaration} (constant : c.kind = .enumConstant)
    (params : Option (List ParamType)) (rest : List Char) :
    accepts params rest c = true ↔ rest = '.' :: c.name.toList := by
  rw [accepts, constant]
  exact beq_iff_eq

theorem binaryMember_eq (d : Declaration) :
    (if d.kind = .constructor then "<init>" else d.name) = binaryMember d := by
  unfold binaryMember
  cases d.kind <;> rfl

/-- The descriptor of a call behind plain names is the one that the parameters are decoded from. -/
theorem descriptor?_of_call {t : Tree} (plain : PlainNames t) {id : DeclId} {d : Declaration}
    (declared : t.decl? id = some d) (callable : d.kind ≠ .enumConstant) {path : List Char}
    (pathTo : PathTo t.items id path) (call : Call) :
    descriptor? (String.ofList (path ++ call.spelling (binaryMember d))) =
      some (String.ofList call.descriptor) := by
  obtain ⟨body, leads, _⟩ := pathTo
  have outer := (leads.no_parenthesis plain.types).1
  have member : '(' ∉ (binaryMember d).toList := by
    rw [← binaryMember_eq]
    split
    · decide
    · exact plain.decls d (List.mem_of_getElem? declared) callable
  have opening : '(' ∉ path ++ '.' :: (binaryMember d).toList := by simp [outer, member]
  have spelled : (String.ofList (path ++ call.spelling (binaryMember d))).toList =
      (path ++ '.' :: (binaryMember d).toList) ++ '(' :: (call.descriptor ++ ')' :: call.result) := by
    simp [Call.spelling]
  exact descriptor?_of_parentheses spelled opening call.closing

/-- On the named path, a method or constructor is accepted exactly behind a way to spell the types around
it, as a call of its member with a descriptor that fits it, and an enum constant exactly behind such a
path by its name. No name goes on into two inline class bodies of one type body. -/
theorem accepted_iff_named_path (t : Tree) (plain : PlainNames t) (longName : String)
    (rest : List Char) (inPackage : afterPackage t.package longName = .ok rest) :
    (∀ id d, t.decl? id = some d → d.kind ≠ .enumConstant →
      ((∃ params, LongName.params longName = .ok params ∧
          ⟨id, false⟩ ∈ (acceptedAll ⟨t, params⟩ rest false 1 t.items).1) ↔
        ∃ (path : List Char) (call : Call) (types : List ParamType), PathTo t.items id path ∧
          rest = path ++ call.spelling (if d.kind = .constructor then "<init>" else d.name) ∧
          Descriptor.decode (String.ofList call.descriptor) = .ok types ∧
          paramsAgree d.params types = true)) ∧
    (∀ id c, t.decl? id = some c → c.kind = .enumConstant →
      ∀ params, LongName.params longName = .ok params →
        (⟨id, false⟩ ∈ (acceptedAll ⟨t, params⟩ rest false 1 t.items).1 ↔
          ∃ path, PathTo t.items id path ∧ rest = path ++ '.' :: c.name.toList)) ∧
    ∀ (body : List Item) (left : List Char) (before after others later : List Part)
      (members inner : List Item),
      Item.partsAll body = before ++ .inlineBody members :: after →
      Item.partsAll body = others ++ .inlineBody inner :: later →
      (afterOrdinal? (inlineCount before + 1) left).isSome = true →
      (afterOrdinal? (inlineCount others + 1) left).isSome = true →
      before = others ∧ members = inner ∧ after = later := by
  refine ⟨?_, ?_, ?_⟩
  · intro id d declared callable
    rw [binaryMember_eq, params_afterPackage inPackage plain.package]
    constructor
    · rintro ⟨params, decoded, found⟩
      obtain ⟨path, left, pathTo, rfl, means⟩ :=
        (mem_acceptedAll_iff_path ⟨t, params⟩ id d declared t.items rest).mp found
      obtain ⟨isTail, fits⟩ := (accepts_callable_iff callable params left).mp means
      obtain ⟨call, rfl⟩ := exists_call isTail
      obtain ⟨types, rfl, agree⟩ := (Option.any_eq_true _ _).mp fits
      refine ⟨path, call, types, pathTo, rfl, ?_, agree⟩
      rw [LongName.params, descriptor?_of_call plain declared callable pathTo call] at decoded
      cases decodes : Descriptor.decode (String.ofList call.descriptor) with
      | error e => simp [decodes] at decoded
      | ok others => simpa [decodes] using decoded
    · rintro ⟨path, call, types, pathTo, rfl, decodes, agree⟩
      refine ⟨some types, ?_, ?_⟩
      · rw [LongName.params, descriptor?_of_call plain declared callable pathTo call]
        simp only [decodes]
      · refine (mem_acceptedAll_iff_path ⟨t, some types⟩ id d declared t.items _).mpr
          ⟨path, _, pathTo, rfl, ?_⟩
        exact accepts_callable callable call.closing agree ((isResult_iff _).mpr call.isResult)
  · intro id c declared constant params _
    rw [mem_acceptedAll_iff_path ⟨t, params⟩ id c declared]
    simp only [accepts_constant_iff constant]
    constructor
    · rintro ⟨path, _, pathTo, spelled, rfl⟩
      exact ⟨path, pathTo, spelled⟩
    · rintro ⟨path, pathTo, spelled⟩
      exact ⟨path, _, pathTo, spelled, rfl⟩
  · intro body left before after others later members inner split splitToo first second
    obtain ⟨tail, taken⟩ := Option.isSome_iff_exists.mp first
    obtain ⟨other, takenToo⟩ := Option.isSome_iff_exists.mp second
    have count : inlineCount before = inlineCount others :=
      Nat.succ.inj (ordinal_unique taken takenToo)
    exact eq_of_inlineCount_eq (split.symm.trans splitToo) count

/-- A method of the second inline class body of a class, whose first one is in a field, and a constant of
an enum in a local class. -/
theorem accepted_iff_named_path_of_siblings :
    ∃ t, Tree.ofSource?
        "package p; class A { B f = new B() {}; void h() { class L { enum E { X } } new B() { B a() {} }; } }" =
          some t ∧ PlainNames t ∧
      afterPackage t.package "p.A$2.a()Lp/B;" = .ok ".A$2.a()Lp/B;".toList ∧
      afterPackage t.package "p.A$L.E.X" = .ok ".A$L.E.X".toList ∧
      (∃ d, t.decl? 2 = some d ∧ d.kind = .method ∧
        ∃ (path : List Char) (call : Call) (types : List ParamType), PathTo t.items 2 path ∧
          ".A$2.a()Lp/B;".toList = path ++ call.spelling d.name ∧
          Descriptor.decode (String.ofList call.descriptor) = .ok types ∧
          paramsAgree d.params types = true) ∧
      ∃ c, t.decl? 1 = some c ∧ c.kind = .enumConstant ∧
        ∃ path, PathTo t.items 1 path ∧ ".A$L.E.X".toList = path ++ '.' :: c.name.toList := by
  generalize written :
    "package p; class A { B f = new B() {}; void h() { class L { enum E { X } } new B() { B a() {} }; } }" = source
  have evaluated : (Tree.ofSource? source).any (fun t => PlainNames t ∧ t.package = "p" ∧
      (t.decl? 2).any (fun d => d.kind == .method) = true ∧
      (t.decl? 1).any (fun c => c.kind == .enumConstant) = true ∧
      ⟨2, false⟩ ∈ (acceptedAll ⟨t, some []⟩ ".A$2.a()Lp/B;".toList false 1 t.items).1 ∧
      ⟨1, false⟩ ∈ (acceptedAll ⟨t, none⟩ ".A$L.E.X".toList false 1 t.items).1) = true := by
    rw [← written]
    decide +kernel
  obtain ⟨t, isTree, facts⟩ := (Option.any_eq_true _ _).mp evaluated
  obtain ⟨plain, package, method, constant, walked, walkedToo⟩ := of_decide_eq_true facts
  obtain ⟨d, declared, isMethod⟩ := (Option.any_eq_true _ _).mp method
  obtain ⟨c, declaredToo, isConstant⟩ := (Option.any_eq_true _ _).mp constant
  rw [beq_iff_eq] at isMethod isConstant
  have inPackage : afterPackage t.package "p.A$2.a()Lp/B;" = .ok ".A$2.a()Lp/B;".toList := by
    rw [package]
    rfl
  have inPackageToo : afterPackage t.package "p.A$L.E.X" = .ok ".A$L.E.X".toList := by
    rw [package]
    rfl
  have ofMethod := (accepted_iff_named_path t plain _ _ inPackage).1 2 d declared
    (by rw [isMethod]; decide)
  have ofConstant := (accepted_iff_named_path t plain _ _ inPackageToo).2.1 1 c declaredToo isConstant
  rw [if_neg (by rw [isMethod]; decide)] at ofMethod
  exact ⟨t, isTree, plain, inPackage, inPackageToo,
    ⟨d, declared, isMethod, ofMethod.mp ⟨_, rfl, walked⟩⟩,
    ⟨c, declaredToo, isConstant, (ofConstant none rfl).mp walkedToo⟩⟩

end LongName

end DefectGraph
