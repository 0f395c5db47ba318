/-!
# Parameter descriptors

The compact spelling of parameter types in binary names of methods: a letter for a primitive type,
`L...;` for a class, brackets in front for an array.

## Main Definitions

* `ParamType` - a decoded parameter type.
* `DescriptorError` - why and where a descriptor cannot be decoded.
* `Descriptor.decode` - the parameter types of a descriptor.

## Design Notes

Decoding is one pass over the characters. Its state says whether it stands at the start of a type, after
some brackets, or inside a class name; all offsets count characters.
-/

namespace DefectGraph

/-- The kinds of parameter types. -/
inductive TypeKind where
  | primitive
  | object
  | array
  deriving DecidableEq, Repr

/-- A parameter type as a descriptor gives it. -/
structure ParamType where
  kind : TypeKind
  /-- The keyword of a primitive type, or the simple name of a class, nested names dotted. -/
  baseName : String
  /-- The number of array dimensions. -/
  depth : Nat
  deriving DecidableEq, Repr

/-- The type is an array. -/
def ParamType.isArray (p : ParamType) : Bool :=
  p.kind == .array

/-- The type as it is spelled in source. -/
def ParamType.text (p : ParamType) : String :=
  p.baseName ++ String.join (List.replicate p.depth "[]")

/-- What is wrong with a descriptor. -/
inductive DescriptorFault where
  /-- A class name has no end. -/
  | unterminatedObject
  /-- A character starts no type. -/
  | unknownCode (code : Char)
  /-- Brackets are not followed by a type. -/
  | missingArrayElement
  deriving DecidableEq, Repr

/-- A descriptor that cannot be decoded, with the offset of the fault in characters. -/
structure DescriptorError where
  descriptor : String
  offset : Nat
  fault : DescriptorFault
  deriving DecidableEq, Repr

/-- The text that reports the error. -/
def DescriptorError.message (e : DescriptorError) : String :=
  let place := " at offset " ++ toString e.offset ++ " in '" ++ e.descriptor ++ "'"
  match e.fault with
  | .unterminatedObject => "unterminated object type" ++ place
  | .unknownCode code => "unknown descriptor code '" ++ String.singleton code ++ "'" ++ place
  | .missingArrayElement => "array prefix without element type" ++ place

namespace Descriptor

/-- The keyword of the primitive type that a letter stands for. -/
def primitiveKeyword? : Char → Option String
  | 'I' => some "int"
  | 'Z' => some "boolean"
  | 'B' => some "byte"
  | 'C' => some "char"
  | 'D' => some "double"
  | 'F' => some "float"
  | 'J' => some "long"
  | 'S' => some "short"
  | 'V' => some "void"
  | _ => none

/-- The simple name in a class name: what follows the last slash, with dots for dollar signs. -/
def simpleName (internal : List Char) : String :=
  let last := (internal.reverse.takeWhile fun c => c != '/').reverse
  String.ofList (last.map fun c => if c == '$' then '.' else c)

/-- The type of `depth` array dimensions over an element type. -/
def ofElement (depth : Nat) (kind : TypeKind) (baseName : String) : ParamType :=
  ⟨if depth = 0 then kind else .array, baseName, depth⟩

/-- Where decoding stands. -/
inductive State where
  /-- After `depth` brackets, the first of them at offset `start`. -/
  | element (start depth : Nat)
  /-- Inside a class name whose characters so far are given in reverse. -/
  | className (start depth : Nat) (reversed : List Char)

/-- Decodes the rest of a descriptor from a state, or finds the first fault and its offset. -/
def decodeFrom : State → List Char → Except (Nat × DescriptorFault) (List ParamType)
  | .element start depth, [] =>
    if depth = 0 then .ok [] else .error (start, .missingArrayElement)
  | .className start depth _, [] => .error (start + depth, .unterminatedObject)
  | .element start depth, c :: rest =>
    if c = '[' then decodeFrom (.element start (depth + 1)) rest
    else if c = 'L' then decodeFrom (.className start depth []) rest
    else
      match primitiveKeyword? c with
      | some keyword =>
        (decodeFrom (.element (start + depth + 1) 0) rest).map
          (ofElement depth .primitive keyword :: ·)
      | none => .error (start + depth, .unknownCode c)
  | .className start depth reversed, c :: rest =>
    if c = ';' then
      (decodeFrom (.element (start + depth + reversed.length + 2) 0) rest).map
        (ofElement depth .object (simpleName reversed.reverse) :: ·)
    else decodeFrom (.className start depth (c :: reversed)) rest

/-- The parameter types of a descriptor. -/
def decode (descriptor : String) : Except DescriptorError (List ParamType) :=
  (decodeFrom (.element 0 0) descriptor.toList).mapError fun (offset, fault) =>
    ⟨descriptor, offset, fault⟩

end Descriptor

end DefectGraph
