import DefectGraph.LongName
import DefectGraph.Proofs.Descriptors

/-!
# Formal parameters and decoded types

A formal parameter is compared with a decoded type by its name and by its array dimensions. Names agree when
the segments of one are the last segments of the other, so no comparison stops inside a segment.

## Main Definitions

* `segments` - the parts of a dotted name.
* `FormalParam.Fits` - when a formal parameter and a decoded type go together.
* `FormalParam.WrittenAs` - the units that binary names write for a formal parameter.

## Main Statements

* `namesAgree_iff` - agreement of names in terms of their segments.
* `shaped_of_decode` - a decoded type is an array exactly when it has dimensions.
* `paramsAgree_iff_fits` - agreement of parameters, place by place.
* `paramsAgree_written` - when formal parameters agree with what binary names write for them.

## Design Notes

A parameter that takes any number of arguments counts as an array of one dimension, whatever its declared
type is. In binary names its dimensions are those of that type and one more, so such a parameter of an array
type does not fit its own descriptor.
-/

namespace DefectGraph

open DefectGraph.Source DefectGraph.Descriptor

/-! ### Segments of names -/

/-- The parts of a name between its dots. -/
def segments (name : String) : List (List Char) := name.toList.splitOn '.'

theorem segments_ne_nil (name : String) : segments name ≠ [] := List.splitOn_ne_nil '.' _

/-- A name is its segments with dots between them. -/
theorem intercalate_segments (name : String) : ['.'].intercalate (segments name) = name.toList :=
  List.intercalate_splitOn '.'

/-- A name ends with a shorter one when a dot stands in front of it. -/
theorem endsWithSegment_iff {long short : String} :
    endsWithSegment long short = true ↔ ∃ before, long.toList = before ++ '.' :: short.toList := by
  rw [endsWithSegment, List.isSuffixOf_iff_suffix]
  constructor
  · rintro ⟨before, same⟩
    exact ⟨before, same.symm⟩
  · rintro ⟨before, same⟩
    exact ⟨before, same.symm⟩

/-- Segments in front of those of a name end with a dot. -/
theorem intercalate_append_segments (first : List Char) (before : List (List Char)) (name : String) :
    ∃ start, ['.'].intercalate (first :: before ++ segments name) = start ++ '.' :: name.toList := by
  induction before generalizing first with
  | nil =>
    refine ⟨first, ?_⟩
    rw [List.singleton_append, List.intercalate_cons_of_ne_nil (segments_ne_nil name),
      intercalate_segments]
    simp
  | cons second before ih =>
    obtain ⟨start, same⟩ := ih second
    refine ⟨first ++ '.' :: start, ?_⟩
    rw [List.cons_append, List.intercalate_cons_of_ne_nil (by simp), same]
    simp

/-- The last segments of a name are those of the name itself or of what follows one of its dots. -/
theorem segments_suffix_iff {short long : String} :
    segments short <:+ segments long ↔ short = long ∨ endsWithSegment long short = true := by
  rw [endsWithSegment_iff]
  constructor
  · rintro ⟨before, same⟩
    have spelled := intercalate_segments long
    rw [← same] at spelled
    cases before with
    | nil =>
      rw [List.nil_append, intercalate_segments] at spelled
      exact Or.inl (String.toList_inj.mp spelled)
    | cons first before =>
      obtain ⟨start, joined⟩ := intercalate_append_segments first before short
      exact Or.inr ⟨start, spelled.symm.trans joined⟩
  · rintro (rfl | ⟨before, spelled⟩)
    · exact List.suffix_rfl
    · refine ⟨before.splitOn '.', ?_⟩
      rw [segments, segments, spelled, List.splitOn_append_cons_self]

/-- Names agree when the segments of one are the last segments of the other. -/
theorem namesAgree_iff {a b : String} :
    namesAgree a b = true ↔ segments a <:+ segments b ∨ segments b <:+ segments a := by
  rw [segments_suffix_iff, segments_suffix_iff, namesAgree, Bool.or_eq_true, Bool.or_eq_true,
    beq_iff_eq]
  constructor
  · rintro ((rfl | ends) | ends)
    · exact Or.inl (Or.inl rfl)
    · exact Or.inl (Or.inr ends)
    · exact Or.inr (Or.inr ends)
  · rintro ((rfl | ends) | (rfl | ends))
    · exact Or.inl (Or.inl rfl)
    · exact Or.inl (Or.inr ends)
    · exact Or.inl (Or.inl rfl)
    · exact Or.inr ends

example : namesAgree "Entry" "Map.Entry" = true ∧ namesAgree "MyEntry" "Entry" = false := by decide

/-- The last segments of names that agree are the same. -/
theorem getLast?_segments_of_suffix {a b : String} (suffix : segments a <:+ segments b) :
    (segments a).getLast? = (segments b).getLast? := by
  obtain ⟨before, same⟩ := suffix
  rw [← same, List.getLast?_append_of_ne_nil _ (segments_ne_nil a)]

/-! ### Arrays -/

/-- The type is an array exactly when it has dimensions. -/
def ParamType.Shaped (p : ParamType) : Prop := p.isArray = true ↔ 0 < p.depth

/-- An element with dimensions is an array, and without them it is none. -/
theorem shaped_ofElement (depth : Nat) {kind : TypeKind} (flat : kind ≠ .array) (name : String) :
    (ofElement depth kind name).Shaped := by
  unfold ParamType.Shaped ofElement ParamType.isArray
  by_cases bare : depth = 0
  · simp [bare, flat]
  · simp [bare, Nat.pos_of_ne_zero bare]

theorem shaped_of_map {rest : Except (Nat × DescriptorFault) (List ParamType)}
    {types : List ParamType} {p : ParamType} (first : p.Shaped)
    (others : ∀ types, rest = .ok types → ∀ q ∈ types, q.Shaped)
    (decoded : rest.map (p :: ·) = .ok types) : ∀ q ∈ types, q.Shaped := by
  cases rest with
  | error fault => cases decoded
  | ok later =>
    cases decoded
    rw [List.forall_mem_cons]
    exact ⟨first, others later rfl⟩

/-- All decoded types are arrays exactly when they have dimensions. -/
theorem shaped_of_decodeFrom {state : State} {text : List Char} {types : List ParamType}
    (decoded : decodeFrom state text = .ok types) : ∀ p ∈ types, p.Shaped := by
  -- Only a letter and the end of a class name add a type, and both put brackets over an element.
  fun_induction decodeFrom state text generalizing types with
  | case1 start =>
    cases decoded
    simp
  | case2 start depth => cases decoded
  | case3 start depth reversed => cases decoded
  | case4 start depth rest ih => exact ih decoded
  | case5 start depth rest _ ih => exact ih decoded
  | case6 start depth c rest _ _ keyword _ ih =>
    exact shaped_of_map (shaped_ofElement depth (by decide) keyword) (fun _ => ih) decoded
  | case7 start depth c rest => cases decoded
  | case8 start depth reversed rest ih =>
    exact shaped_of_map (shaped_ofElement depth (by decide) _) (fun _ => ih) decoded
  | case9 start depth reversed c rest _ ih => exact ih decoded

/-- What is decoded is an array exactly when it has dimensions. -/
theorem shaped_of_decode {text : String} {types : List ParamType} (decoded : decode text = .ok types) :
    ∀ p ∈ types, p.Shaped :=
  shaped_of_decodeFrom (decode_eq_ok_iff.mp decoded)

/-! ### Parameters that agree -/

/-- A formal parameter and a decoded type go together: they have as many dimensions, any number of arguments
being one, and the segments of one name are the last segments of the other. A type variable goes by the
name of its bound. -/
structure Source.FormalParam.Fits (f : FormalParam) (p : ParamType) : Prop where
  depth : p.depth = if f.varargs then 1 else f.dims
  names : segments (f.typeVarBound.getD f.typeName) <:+ segments p.baseName ∨
    segments p.baseName <:+ segments (f.typeVarBound.getD f.typeName)

/-- For a type that is an array when it has dimensions, the two tests on arrays come down to the number of
dimensions. -/
theorem ParamType.Shaped.agrees_iff {p : ParamType} (shaped : p.Shaped) (f : FormalParam) :
    p.agrees f = true ↔ f.Fits p := by
  have array : p.isArray = decide (0 < p.depth) := 
    Bool.eq_iff_iff.mpr (Iff.trans shaped decide_eq_true_iff.symm)
  have dims : (p.isArray == decide (0 < f.comparisonDims) &&
      (!p.isArray || p.depth == f.comparisonDims)) = true ↔ p.depth = f.comparisonDims := by
    simp only [array, Bool.and_eq_true, Bool.or_eq_true, Bool.not_eq_true', beq_iff_eq,
      decide_eq_decide, decide_eq_false_iff_not]
    omega
  rw [agrees, Bool.and_assoc, Bool.and_eq_true, namesAgree_iff, dims]
  exact ⟨fun ⟨names, depth⟩ => ⟨depth, names⟩, fun fits => ⟨fits.names, fits.depth⟩⟩

/-- Parameters agree when they fit one by one. -/
theorem paramsAgree_iff_forall₂ {formals : List FormalParam} {types : List ParamType}
    (shaped : ∀ p ∈ types, p.Shaped) :
    paramsAgree formals types = true ↔ List.Forall₂ FormalParam.Fits formals types := by
  induction formals generalizing types with
  | nil => cases types <;> simp [paramsAgree]
  | cons f formals ih =>
    cases types with
    | nil => simp [paramsAgree]
    | cons p types =>
      obtain ⟨first, others⟩ := List.forall_mem_cons.mp shaped
      rw [paramsAgree, Bool.and_eq_true, first.agrees_iff, ih others, List.forall₂_cons]

/-- Formal parameters agree with decoded types exactly when there are as many of them and those in the same
place go together; their names then have the same last segment. -/
theorem paramsAgree_iff_fits (formals : List FormalParam) (descriptor : String)
    (types : List ParamType) (decoded : decode descriptor = .ok types) :
    (paramsAgree formals types = true ↔
      formals.length = types.length ∧ ∀ f p, (f, p) ∈ formals.zip types → f.Fits p) ∧
    (paramsAgree formals types = true → ∀ f p, (f, p) ∈ formals.zip types →
      (segments (f.typeVarBound.getD f.typeName)).getLast? = (segments p.baseName).getLast?) := by
  have agree : paramsAgree formals types = true ↔
      formals.length = types.length ∧ ∀ f p, (f, p) ∈ formals.zip types → f.Fits p := by
    rw [paramsAgree_iff_forall₂ (shaped_of_decode decoded), List.forall₂_iff_zip]
  refine ⟨agree, fun agreed f p together => ?_⟩
  rcases ((agree.mp agreed).2 f p together).names with suffix | suffix
  · exact getLast?_segments_of_suffix suffix
  · exact (getLast?_segments_of_suffix suffix).symm

/-- A simple name for a nested class, an array, and a type variable that takes any number of arguments. -/
theorem paramsAgree_iff_fits_of_kinds :
    let formals : List FormalParam := [⟨"Entry", 0, false, none, "Entry<K, V>"⟩,
      ⟨"int", 2, false, none, "int[][]"⟩, ⟨"T", 0, true, some "java.lang.Number", "T..."⟩]
    let types : List ParamType := [⟨.object, "Map.Entry", 0⟩, ⟨.array, "int", 2⟩, ⟨.array, "Number", 1⟩]
    decode "Ljava/util/Map$Entry;[[I[Ljava/lang/Number;" = .ok types ∧
      paramsAgree formals types = true ∧
      ∀ f p, (f, p) ∈ formals.zip types → f.Fits p := by
  intro formals types
  have decoded : decode "Ljava/util/Map$Entry;[[I[Ljava/lang/Number;" = .ok types := by rfl
  have agreed : paramsAgree formals types = true := by decide
  exact ⟨decoded, agreed, ((paramsAgree_iff_fits formals _ types decoded).1.mp agreed).2⟩

/-! ### Parameters as binary names write them -/

/-- The element that binary names write for the type of a formal parameter: the letter of a primitive type,
or else a class, by the name of the type or of the bound of a type variable but for some leading segments. -/
inductive Source.FormalParam.Names (f : FormalParam) : Element → Prop
  | primitive {type : Primitive} : f.typeVarBound = none → f.typeName = type.keyword →
      f.Names (.primitive type)
  | object {internal : List Char} {closed : ';' ∉ internal} {name : String} :
      (f.typeVarBound = none → ∀ type : Primitive, f.typeName ≠ type.keyword) →
      IsSimpleName internal name → segments name <:+ segments (f.typeVarBound.getD f.typeName) →
      f.Names (.object internal closed)

/-- The unit that binary names write for a formal parameter: any number of arguments is one more
dimension. -/
structure Source.FormalParam.WrittenAs (f : FormalParam) (u : TypeUnit) : Prop where
  depth : u.depth = f.dims + if f.varargs then 1 else 0
  element : f.Names u.element

theorem Descriptor.TypeUnit.shaped_type (u : TypeUnit) : u.type.Shaped :=
  shaped_ofElement u.depth (by cases u.element <;> simp [Element.kind]) _

/-- The name of what is written is made of the last segments of the parameter's. -/
theorem Source.FormalParam.Names.suffix {f : FormalParam} {e : Element} (names : f.Names e) :
    segments e.baseName <:+ segments (f.typeVarBound.getD f.typeName) := by
  cases names with
  | primitive unbound keyword =>
    rw [unbound, Option.getD_none, keyword]
    exact List.suffix_rfl
  | object other simple suffix =>
    rw [isSimpleName_iff] at simple
    rw [simple] at suffix
    exact suffix

/-- A formal parameter fits what is written for it unless it takes any number of arrays. -/
theorem Source.FormalParam.WrittenAs.fits_iff {f : FormalParam} {u : TypeUnit}
    (written : f.WrittenAs u) : f.Fits u.type ↔ (f.varargs = true → f.dims = 0) := by
  have depth : u.type.depth = f.dims + if f.varargs then 1 else 0 := written.depth
  constructor
  · intro fits varargs
    have same := fits.depth
    rw [depth, if_pos varargs, if_pos varargs] at same
    omega
  · intro single
    refine ⟨?_, Or.inr written.element.suffix⟩
    rw [depth]
    by_cases varargs : f.varargs = true
    · rw [if_pos varargs, if_pos varargs, single varargs]
    · rw [if_neg varargs, if_neg varargs, Nat.add_zero]

/-- What binary names write for formal parameters is decoded, and they agree with it exactly when none of
them takes any number of arrays. -/
theorem paramsAgree_written (formals : List FormalParam) (units : List TypeUnit)
    (written : List.Forall₂ FormalParam.WrittenAs formals units) :
    ∃ types, decode (String.ofList (spelling units)) = .ok types ∧
      (paramsAgree formals types = true ↔ ∀ f ∈ formals, f.varargs = true → f.dims = 0) := by
  refine ⟨units.map TypeUnit.type, ?_, ?_⟩
  · rw [decode_eq_ok_iff, String.toList_ofList, decodeFrom_spelling]
  · rw [paramsAgree_iff_forall₂ (List.forall_mem_map.mpr fun u _ => u.shaped_type)]
    induction written with
    | nil => simp
    | cons first others ih =>
      rw [List.map_cons, List.forall₂_cons, ih, first.fits_iff, List.forall_mem_cons]

/-- A qualified name written as a nested class, an array, and a type variable that takes any number of
arguments. -/
theorem paramsAgree_written_of_kinds :
    let formals : List FormalParam := [⟨"java.util.Map.Entry", 0, false, none, "java.util.Map.Entry"⟩,
      ⟨"int", 2, false, none, "int[][]"⟩, ⟨"T", 0, true, some "Number", "T..."⟩]
    let units : List TypeUnit := [⟨0, .object "java/util/Map$Entry".toList (by decide)⟩,
      ⟨2, .primitive .int⟩, ⟨1, .object "java/lang/Number".toList (by decide)⟩]
    List.Forall₂ FormalParam.WrittenAs formals units ∧
      spelling units = "Ljava/util/Map$Entry;[[I[Ljava/lang/Number;".toList ∧
      ∃ types, decode (String.ofList (spelling units)) = .ok types ∧
        paramsAgree formals types = true := by
  intro formals units
  have written : List.Forall₂ FormalParam.WrittenAs formals units := by
    refine .cons ⟨rfl, ?_⟩ (.cons ⟨rfl, .primitive rfl rfl⟩ (.cons ⟨rfl, ?_⟩ .nil))
    · exact .object (fun _ type => by cases type <;> decide) (isSimpleName_iff.mpr rfl) (by decide)
    · exact .object (fun bound => by cases bound) (isSimpleName_iff.mpr rfl) (by decide)
  obtain ⟨types, decoded, agree⟩ := paramsAgree_written formals units written
  exact ⟨written, by decide, types, decoded, agree.mpr (by decide)⟩

/-- Binary names write two brackets for a parameter that takes any number of arrays of one dimension, and it
does not agree with them. -/
theorem arrays_not_matched :
    let formal : FormalParam := ⟨"int", 1, true, none, "int[]..."⟩
    let unit : TypeUnit := ⟨2, .primitive .int⟩
    List.Forall₂ FormalParam.WrittenAs [formal] [unit] ∧
      decode (String.ofList (spelling [unit])) = .ok [⟨.array, "int", 2⟩] ∧
      paramsAgree [formal] [⟨.array, "int", 2⟩] = false :=
  ⟨.cons ⟨rfl, .primitive rfl rfl⟩ .nil, rfl, by decide⟩

end DefectGraph
