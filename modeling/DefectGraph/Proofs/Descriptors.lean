import DefectGraph.Descriptor
import Mathlib.Data.List.Forall2
import Mathlib.Data.List.TakeWhile

/-!
# The language of descriptors

A descriptor is a sequence of units, one for each type: brackets, then a letter or a class name. No unit
starts another one, so a text is such a sequence in at most one way.

## Main Definitions

* `Primitive`, `Element`, `TypeUnit` - the units, with how they are spelled.
* `TypeUnit.Denotes` - the type that a unit stands for.
* `Stuck` - a text that no unit starts, and why.

## Main Statements

* `decodeFrom_units` - units are decoded one after the other, whatever follows them.
* `exists_units` - a text is a sequence of units up to where it ends or gets stuck.
* `TypeUnit.spelling_append_inj` - no unit starts another one.
* `decode_iff_units` - what is decoded are the sequences of units, each in one way.

## Design Notes

`TypeUnit` is the abstract syntax of what the decoder accepts, with a spelling for each unit. Decoding is
shown to undo spelling in whatever context, which gives uniqueness; and `exists_units` shows that every text
is a spelling up to a place where it ends or where a `Stuck` fault is the one that the decoder reports. So
failures are described as completely as successes are.
-/

namespace DefectGraph.Descriptor

/-! ### Units -/

/-- The primitive types. -/
inductive Primitive where
  | int
  | boolean
  | byte
  | char
  | double
  | float
  | long
  | short
  | void
  deriving DecidableEq, Repr

/-- The letter of a primitive type. -/
def Primitive.letter : Primitive → Char
  | int => 'I'
  | boolean => 'Z'
  | byte => 'B'
  | char => 'C'
  | double => 'D'
  | float => 'F'
  | long => 'J'
  | short => 'S'
  | void => 'V'

/-- The keyword of a primitive type. -/
def Primitive.keyword : Primitive → String
  | int => "int"
  | boolean => "boolean"
  | byte => "byte"
  | char => "char"
  | double => "double"
  | float => "float"
  | long => "long"
  | short => "short"
  | void => "void"

/-- What brackets can stand in front of: a primitive type, or a class by its whole name. -/
inductive Element where
  | primitive (type : Primitive)
  | object (internal : List Char) (closed : ';' ∉ internal)
  deriving DecidableEq, Repr

/-- How an element is spelled. -/
def Element.spelling : Element → List Char
  | .primitive type => [type.letter]
  | .object internal _ => 'L' :: (internal ++ [';'])

/-- The kind of an element that no bracket stands in front of. -/
def Element.kind : Element → TypeKind
  | .primitive _ => .primitive
  | .object .. => .object

/-- A single type of a descriptor. -/
structure TypeUnit where
  /-- The number of brackets. -/
  depth : Nat
  element : Element
  deriving DecidableEq, Repr

/-- How a unit is spelled. -/
def TypeUnit.spelling (u : TypeUnit) : List Char :=
  List.replicate u.depth '[' ++ u.element.spelling

/-- How a sequence of units is spelled. -/
def spelling (units : List TypeUnit) : List Char := units.flatMap TypeUnit.spelling

@[simp]
theorem spelling_cons (u : TypeUnit) (units : List TypeUnit) :
    spelling (u :: units) = u.spelling ++ spelling units :=
  List.flatMap_cons

/-- The name is what follows the last slash of a class name, with dots for dollar signs. -/
def IsSimpleName (internal : List Char) (name : String) : Prop :=
  ∃ last, (internal = last ∨ ∃ path, internal = path ++ '/' :: last) ∧ '/' ∉ last ∧
    name.toList = last.map fun c => if c = '$' then '.' else c

/-- The name by which source code calls an element. -/
def Element.IsCalled : Element → String → Prop
  | .primitive type, name => name = type.keyword
  | .object internal _, name => IsSimpleName internal name

/-- The type that a unit stands for. -/
structure TypeUnit.Denotes (u : TypeUnit) (type : ParamType) : Prop where
  baseName : u.element.IsCalled type.baseName
  depth : type.depth = u.depth
  kind : type.kind = if 0 < u.depth then .array else u.element.kind

/-! ### Names -/

@[simp]
theorem primitiveKeyword?_letter (type : Primitive) :
    primitiveKeyword? type.letter = some type.keyword := by
  cases type <;> rfl

/-- A letter with a keyword is that of a primitive type. -/
theorem exists_primitive {c : Char} {keyword : String} (found : primitiveKeyword? c = some keyword) :
    ∃ type : Primitive, type.letter = c := by
  unfold primitiveKeyword? at found
  split at found
  · exact ⟨.int, rfl⟩
  · exact ⟨.boolean, rfl⟩
  · exact ⟨.byte, rfl⟩
  · exact ⟨.char, rfl⟩
  · exact ⟨.double, rfl⟩
  · exact ⟨.float, rfl⟩
  · exact ⟨.long, rfl⟩
  · exact ⟨.short, rfl⟩
  · exact ⟨.void, rfl⟩
  · cases found

/-- No bracket and no class name starts with the letter of a primitive type. -/
theorem Primitive.letter_ne (type : Primitive) : type.letter ≠ '[' ∧ type.letter ≠ 'L' := by
  cases type <;> decide

/-- Different primitive types have different letters. -/
theorem Primitive.letter_inj {type other : Primitive} (same : type.letter = other.letter) :
    type = other := by
  revert same
  cases type <;> cases other <;> decide

/-- What follows the last slash, once it is known. -/
theorem simpleName_eq {internal last : List Char}
    (ends : internal = last ∨ ∃ path, internal = path ++ '/' :: last) (plain : '/' ∉ last) :
    simpleName internal = String.ofList (last.map fun c => if c == '$' then '.' else c) := by
  have reversed : last.reverse.takeWhile (fun c => c != '/') = last.reverse := by
    rw [List.takeWhile_eq_self_iff]
    intro c present
    simpa using fun same : c = '/' => plain (same ▸ List.mem_reverse.mp present)
  unfold simpleName
  rcases ends with rfl | ⟨path, rfl⟩
  · rw [reversed, List.reverse_reverse]
  · rw [List.reverse_append, List.reverse_cons, List.append_assoc,
      List.takeWhile_append_of_pos (List.takeWhile_eq_self_iff.mp reversed)]
    simp

/-- The simple name of a class is determined by its internal name. -/
theorem isSimpleName_iff {internal : List Char} {name : String} :
    IsSimpleName internal name ↔ name = simpleName internal := by
  constructor
  · rintro ⟨last, ends, plain, spelled⟩
    rw [simpleName_eq ends plain, ← String.toList_inj, spelled]
    simp
  · rintro rfl
    have split : ∃ last, (internal = last ∨ ∃ path, internal = path ++ '/' :: last) ∧ '/' ∉ last := by
      by_cases slash : '/' ∈ internal
      · -- The first slash from behind is the last one.
        obtain ⟨after, before, parts, plain⟩ :=
          List.eq_append_cons_of_mem (List.mem_reverse.mpr slash)
        refine ⟨after.reverse, Or.inr ⟨before.reverse, ?_⟩, by simpa using plain⟩
        rw [← List.reverse_reverse internal, parts]
        simp
      · exact ⟨internal, Or.inl rfl, slash⟩
    obtain ⟨last, ends, plain⟩ := split
    exact ⟨last, ends, plain, by simp [simpleName_eq ends plain]⟩

/-- The name of an element. -/
def Element.baseName : Element → String
  | .primitive type => type.keyword
  | .object internal _ => simpleName internal

/-- The type of a unit. -/
def TypeUnit.type (u : TypeUnit) : ParamType := ofElement u.depth u.element.kind u.element.baseName

/-- A unit denotes one type. -/
@[simp]
theorem TypeUnit.denotes_iff {u : TypeUnit} {type : ParamType} : u.Denotes type ↔ u.type = type := by
  have called : u.element.IsCalled type.baseName ↔ type.baseName = u.element.baseName := by
    cases u.element with
    | primitive type => exact Iff.rfl
    | object internal closed => exact isSimpleName_iff
  obtain ⟨kind, baseName, depth⟩ := type
  constructor
  · rintro ⟨name, rfl, rfl⟩
    rw [called] at name
    subst name
    unfold TypeUnit.type ofElement
    by_cases flat : u.depth = 0
    · simp [flat]
    · simp [flat, Nat.pos_of_ne_zero flat]
  · intro same
    cases same
    refine ⟨called.mpr rfl, rfl, ?_⟩
    by_cases flat : u.depth = 0
    · simp [flat]
    · simp [flat, Nat.pos_of_ne_zero flat]

/-- Units denote one list of types. -/
@[simp]
theorem forall₂_denotes_iff {units : List TypeUnit} {types : List ParamType} :
    List.Forall₂ TypeUnit.Denotes units types ↔ units.map TypeUnit.type = types := by
  have same : TypeUnit.Denotes = fun u type => u.type = type := by
    funext u type
    exact propext TypeUnit.denotes_iff
  rw [same, ← List.forall₂_map_left_iff, List.forall₂_eq_eq_eq]

/-! ### Decoding units -/

/-- Brackets count dimensions. -/
theorem decodeFrom_brackets (start depth count : Nat) (rest : List Char) :
    decodeFrom (.element start depth) (List.replicate count '[' ++ rest) =
      decodeFrom (.element start (depth + count)) rest := by
  induction count generalizing depth with
  | zero => rfl
  | succ count ih =>
    rw [List.replicate_succ, List.cons_append, decodeFrom, if_pos rfl, ih]
    congr 2
    omega

/-- A class name ends at the first semicolon. -/
theorem decodeFrom_className (start depth : Nat) (reversed : List Char) {internal : List Char}
    (rest : List Char) (closed : ';' ∉ internal) :
    decodeFrom (.className start depth reversed) (internal ++ ';' :: rest) =
      (decodeFrom (.element (start + depth + (reversed.length + internal.length) + 2) 0) rest).map
        (ofElement depth .object (simpleName (reversed.reverse ++ internal)) :: ·) := by
  induction internal generalizing reversed with
  | nil =>
    rw [List.nil_append, decodeFrom, if_pos rfl]
    simp
  | cons c internal ih =>
    have different : c ≠ ';' := fun same => closed (by simp [same])
    rw [List.cons_append, decodeFrom, if_neg different,
      ih (c :: reversed) fun later => closed (List.mem_cons_of_mem _ later)]
    simp [Nat.add_comm, Nat.add_left_comm]

/-- A unit gives its type, and decoding goes on behind it. -/
theorem decodeFrom_unit (start : Nat) (u : TypeUnit) (rest : List Char) :
    decodeFrom (.element start 0) (u.spelling ++ rest) =
      (decodeFrom (.element (start + u.spelling.length) 0) rest).map (u.type :: ·) := by
  obtain ⟨depth, element⟩ := u
  rw [TypeUnit.spelling, List.append_assoc, decodeFrom_brackets, Nat.zero_add]
  cases element with
  | primitive type =>
    obtain ⟨noBracket, noClass⟩ := type.letter_ne
    rw [Element.spelling, List.singleton_append, decodeFrom, if_neg noBracket, if_neg noClass,
      primitiveKeyword?_letter]
    simp [TypeUnit.type, Element.kind, Element.baseName, Nat.add_assoc]
  | object internal closed =>
    have spelled : (Element.object internal closed).spelling ++ rest =
        'L' :: (internal ++ ';' :: rest) := by simp [Element.spelling]
    rw [spelled, decodeFrom, if_neg (by decide), if_pos rfl, decodeFrom_className _ _ _ _ closed]
    simp [TypeUnit.type, Element.kind, Element.baseName, Element.spelling, Nat.add_assoc]

/-- Units are decoded one after the other, whatever follows them. -/
theorem decodeFrom_units (start : Nat) (units : List TypeUnit) (rest : List Char) :
    decodeFrom (.element start 0) (spelling units ++ rest) =
      (decodeFrom (.element (start + (spelling units).length) 0) rest).map
        (units.map TypeUnit.type ++ ·) := by
  induction units generalizing start with
  | nil =>
    show decodeFrom (.element start 0) rest = (decodeFrom (.element start 0) rest).map ([] ++ ·)
    cases decodeFrom (.element start 0) rest with
    | ok types => rfl
    | error fault => rfl
  | cons u units ih =>
    rw [spelling_cons, List.append_assoc, decodeFrom_unit, ih, List.length_append, Nat.add_assoc]
    cases decodeFrom (.element (start + (u.spelling.length + (spelling units).length)) 0) rest with
    | ok types => rfl
    | error fault => rfl

/-! ### Where decoding gets stuck -/

/-- No unit starts the text, because of a fault at the given offset. -/
inductive Stuck : List Char → Nat → DescriptorFault → Prop
  /-- There are brackets, and nothing follows them. -/
  | brackets (count : Nat) : Stuck (List.replicate (count + 1) '[') 0 .missingArrayElement
  /-- A class name has no end. -/
  | className (count : Nat) {rest : List Char} : ';' ∉ rest →
      Stuck (List.replicate count '[' ++ 'L' :: rest) count .unterminatedObject
  /-- A character starts no element. -/
  | code (count : Nat) {c : Char} (rest : List Char) : c ≠ '[' → c ≠ 'L' →
      (∀ type : Primitive, type.letter ≠ c) →
      Stuck (List.replicate count '[' ++ c :: rest) count (.unknownCode c)

/-- Without a semicolon a class name is a fault, reported where the name starts. -/
theorem decodeFrom_unclosed (start depth : Nat) (reversed : List Char) {rest : List Char}
    (unclosed : ';' ∉ rest) :
    decodeFrom (.className start depth reversed) rest =
      .error (start + depth, .unterminatedObject) := by
  induction rest generalizing reversed with
  | nil => rfl
  | cons c rest ih =>
    have different : c ≠ ';' := fun same => unclosed (by simp [same])
    rw [decodeFrom, if_neg different]
    exact ih (c :: reversed) fun later => unclosed (List.mem_cons_of_mem _ later)

/-- Decoding reports where and why it gets stuck. -/
theorem decodeFrom_stuck (start : Nat) {text : List Char} {offset : Nat} {fault : DescriptorFault}
    (stuck : Stuck text offset fault) :
    decodeFrom (.element start 0) text = .error (start + offset, fault) := by
  cases stuck with
  | brackets count =>
    have read := decodeFrom_brackets start 0 (count + 1) []
    rw [List.append_nil] at read
    rw [read, decodeFrom, if_neg (by omega)]
    rfl
  | className count unclosed =>
    rw [decodeFrom_brackets, decodeFrom, if_neg (by decide), if_pos rfl,
      decodeFrom_unclosed _ _ _ unclosed, Nat.zero_add]
  | code count rest noBracket noClass noLetter =>
    have unknown : primitiveKeyword? _ = none :=
      Option.eq_none_iff_forall_ne_some.mpr fun keyword found =>
        (exists_primitive found).elim fun type letter => noLetter type letter
    rw [decodeFrom_brackets, decodeFrom, if_neg noBracket, if_neg noClass, unknown, Nat.zero_add]

/-- A text is empty, starts with a unit, or is stuck. -/
theorem first_unit (text : List Char) :
    text = [] ∨ (∃ (u : TypeUnit) (rest : List Char), text = u.spelling ++ rest) ∨
      ∃ offset fault, Stuck text offset fault := by
  -- The text after all brackets decides; the brackets themselves are counted by the induction.
  have behind : ∀ (count : Nat) (text : List Char),
      List.replicate count '[' ++ text = [] ∨
      (∃ (u : TypeUnit) (rest : List Char), List.replicate count '[' ++ text = u.spelling ++ rest) ∨
      ∃ offset fault, Stuck (List.replicate count '[' ++ text) offset fault := by
    intro count text
    induction text generalizing count with
    | nil =>
      cases count with
      | zero => exact Or.inl rfl
      | succ count =>
        rw [List.append_nil]
        exact Or.inr (Or.inr ⟨_, _, .brackets count⟩)
    | cons c text ih =>
      by_cases bracket : c = '['
      · have moved : List.replicate count '[' ++ c :: text =
            List.replicate (count + 1) '[' ++ text := by
          rw [bracket, List.replicate_succ', List.append_assoc, List.singleton_append]
        rw [moved]
        exact ih (count + 1)
      · right
        by_cases isClass : c = 'L'
        · subst isClass
          by_cases closed : ';' ∈ text
          · obtain ⟨internal, rest, rfl, plain⟩ := List.eq_append_cons_of_mem closed
            exact Or.inl ⟨⟨count, .object internal plain⟩, rest, by
              simp [TypeUnit.spelling, Element.spelling]⟩
          · exact Or.inr ⟨_, _, .className count closed⟩
        · by_cases letter : ∃ type : Primitive, type.letter = c
          · obtain ⟨type, rfl⟩ := letter
            exact Or.inl ⟨⟨count, .primitive type⟩, text, by
              simp [TypeUnit.spelling, Element.spelling]⟩
          · exact Or.inr ⟨_, _, .code count text bracket isClass fun type same =>
              letter ⟨type, same⟩⟩
  exact behind 0 text

theorem TypeUnit.spelling_ne_nil (u : TypeUnit) : u.spelling ≠ [] := by
  cases element : u.element <;> simp [TypeUnit.spelling, Element.spelling, element]

/-- A text is a sequence of units up to where it ends or gets stuck. -/
theorem exists_units (text : List Char) :
    ∃ (units : List TypeUnit) (rest : List Char), text = spelling units ++ rest ∧
      (rest = [] ∨ ∃ offset fault, Stuck rest offset fault) := by
  induction length : text.length using Nat.strongRecOn generalizing text with
  | ind n ih =>
    rcases first_unit text with rfl | ⟨u, rest, rfl⟩ | stuck
    · exact ⟨[], [], rfl, Or.inl rfl⟩
    · have shorter : rest.length < n := by
        have positive := List.length_pos_iff.mpr u.spelling_ne_nil
        rw [List.length_append] at length
        omega
      obtain ⟨units, last, rfl, ends⟩ := ih rest.length shorter rest rfl
      exact ⟨u :: units, last, by rw [spelling_cons, List.append_assoc], ends⟩
    · exact ⟨[], text, rfl, Or.inr stuck⟩

/-! ### One way to read a text -/

/-- Where two sequences leave a set for the first time, their parts are equal. -/
theorem append_cons_inj {α : Type} {p : α → Bool} {first second rest last : List α} {c d : α}
    (inFirst : ∀ x ∈ first, p x = true) (inSecond : ∀ x ∈ second, p x = true) (leaves : p c = false)
    (alsoLeaves : p d = false) (same : first ++ c :: rest = second ++ d :: last) :
    first = second ∧ c :: rest = d :: last := by
  have starts := congrArg (List.takeWhile p) same
  rw [List.takeWhile_append_of_pos inFirst, List.takeWhile_append_of_pos inSecond,
    List.takeWhile_cons_of_neg (by simp [leaves]), List.takeWhile_cons_of_neg (by simp [alsoLeaves]),
    List.append_nil, List.append_nil] at starts
  subst starts
  exact ⟨rfl, List.append_cancel_left same⟩

/-- Brackets end where a text goes on with something else. -/
theorem brackets_append_inj {count other : Nat} {rest last : List Char} (opens : rest.head? ≠ some '[')
    (opensToo : last.head? ≠ some '[')
    (same : List.replicate count '[' ++ rest = List.replicate other '[' ++ last) :
    count = other ∧ rest = last := by
  have behind : ∀ (count : Nat) {rest : List Char}, rest.head? ≠ some '[' →
      (List.replicate count '[' ++ rest).dropWhile (· == '[') = rest := by
    intro count rest opens
    rw [List.dropWhile_append_of_pos (by simp)]
    cases rest with
    | nil => rfl
    | cons c rest => exact List.dropWhile_cons_of_neg (by simpa using opens)
  have rests : rest = last := by rw [← behind count opens, same, behind other opensToo]
  subst rests
  exact ⟨by simpa using congrArg List.length same, rfl⟩

/-- An element starts with no bracket. -/
theorem Element.head?_spelling_append (e : Element) (rest : List Char) :
    (e.spelling ++ rest).head? ≠ some '[' := by
  cases e with
  | primitive type => simpa [Element.spelling] using type.letter_ne.1
  | object internal closed => simp [Element.spelling]

/-- No spelling of an element is the start of another one. -/
theorem Element.spelling_append_inj {e other : Element} {rest last : List Char}
    (same : e.spelling ++ rest = other.spelling ++ last) : e = other ∧ rest = last := by
  cases e with
  | primitive type =>
    cases other with
    | primitive otherType =>
      obtain ⟨letters, rests⟩ := List.cons.inj same
      exact ⟨congrArg _ (Primitive.letter_inj letters), rests⟩
    | object internal closed => exact absurd (List.cons.inj same).1 type.letter_ne.2
  | object internal closed =>
    cases other with
    | primitive otherType => exact absurd (List.cons.inj same).1.symm otherType.letter_ne.2
    | object otherInternal otherClosed =>
      have names : internal ++ ';' :: rest = otherInternal ++ ';' :: last := by
        simpa [Element.spelling] using same
      have inside : ∀ {name : List Char}, ';' ∉ name → ∀ c ∈ name, (c != ';') = true := by
        intro name plain c present
        simpa using fun here : c = ';' => plain (here ▸ present)
      obtain ⟨rfl, rests⟩ := append_cons_inj (inside closed) (inside otherClosed) rfl rfl names
      exact ⟨rfl, (List.cons.inj rests).2⟩

/-- No unit starts another one. -/
theorem TypeUnit.spelling_append_inj {u v : TypeUnit} {rest last : List Char}
    (same : u.spelling ++ rest = v.spelling ++ last) : u = v ∧ rest = last := by
  obtain ⟨depth, element⟩ := u
  obtain ⟨otherDepth, other⟩ := v
  rw [TypeUnit.spelling, TypeUnit.spelling, List.append_assoc, List.append_assoc] at same
  obtain ⟨rfl, elements⟩ := brackets_append_inj (element.head?_spelling_append rest)
    (other.head?_spelling_append last) same
  obtain ⟨rfl, rests⟩ := Element.spelling_append_inj elements
  exact ⟨rfl, rests⟩

/-- A text is a sequence of units in at most one way. -/
theorem spelling_inj {units others : List TypeUnit} (same : spelling units = spelling others) :
    units = others := by
  induction units generalizing others with
  | nil =>
    cases others with
    | nil => rfl
    | cons v others =>
      rw [spelling_cons] at same
      exact absurd (List.append_eq_nil_iff.mp same.symm).1 v.spelling_ne_nil
  | cons u units ih =>
    rw [spelling_cons] at same
    cases others with
    | nil => exact absurd (List.append_eq_nil_iff.mp same).1 u.spelling_ne_nil
    | cons v others =>
      rw [spelling_cons] at same
      obtain ⟨rfl, rests⟩ := TypeUnit.spelling_append_inj same
      rw [ih rests]

/-! ### Descriptors -/

/-- Every spelling is decoded to the types that it is made of. -/
theorem decodeFrom_spelling (units : List TypeUnit) :
    decodeFrom (.element 0 0) (spelling units) = .ok (units.map TypeUnit.type) := by
  have read := decodeFrom_units 0 units []
  rw [List.append_nil, decodeFrom, if_pos rfl] at read
  simpa [Except.map] using read

theorem decode_eq_ok_iff {text : String} {types : List ParamType} :
    decode text = .ok types ↔ decodeFrom (.element 0 0) text.toList = .ok types := by
  unfold decode
  cases decodeFrom (.element 0 0) text.toList <;> simp [Except.mapError]

/-- A text is decoded exactly when it is a sequence of units, to the types that these stand for, and it is
such a sequence in one way only. -/
theorem decode_iff_units (text : String) (types : List ParamType) :
    (decode text = .ok types ↔ ∃ units, text.toList = spelling units ∧
      List.Forall₂ TypeUnit.Denotes units types) ∧
    ∀ units others, text.toList = spelling units → text.toList = spelling others → units = others := by
  refine ⟨?_, fun units others first second => spelling_inj (first.symm.trans second)⟩
  simp only [forall₂_denotes_iff, decode_eq_ok_iff]
  constructor
  · intro decoded
    obtain ⟨units, rest, spelled, rfl | ⟨offset, fault, stuck⟩⟩ := exists_units text.toList
    · rw [List.append_nil] at spelled
      have read := decodeFrom_spelling units
      rw [spelled, read] at decoded
      exact ⟨units, spelled, Except.ok.inj decoded⟩
    · rw [spelled, decodeFrom_units, decodeFrom_stuck _ stuck] at decoded
      cases decoded
  · rintro ⟨units, spelled, rfl⟩
    rw [spelled, decodeFrom_spelling]

end DefectGraph.Descriptor
