import DefectGraph.Descriptor
import DefectGraph.Source.Tree
import DefectGraph.Text.Search

/-!
# Finding declarations by long name

A long name is the binary name of a method or constructor with its parameter descriptor, such as
`com.x.Outer$1.run(I[Ljava/lang/String;)V`, or the name of an enum constant. The item tree of a file is
walked from the top; every type on the way takes its part off the front of the name.

## Main Definitions

* `ParamType.agrees`, `paramsAgree` - when parameters as declared fit parameters as decoded.
* `LongName.accepted` - the declarations that a walk accepts, in the order of the walk.
* `LongName.find` - the declaration that a long name means.

## Design Notes

A type that the name does not mention is walked through all the same, because names are sometimes given
without it, but what is found that way is weak: it counts only when nothing is found on the named path.
-/

namespace DefectGraph

open DefectGraph.Source DefectGraph.Text

/-! ### Parameters -/

/-- A name ends with a dot and another name. -/
def endsWithSegment (long short : String) : Bool :=
  ('.' :: short.toList).isSuffixOf long.toList

/-- The names are equal, or one is a dotted end of the other. -/
def namesAgree (a b : String) : Bool :=
  a == b || endsWithSegment b a || endsWithSegment a b

/-- The name that a formal parameter is compared by: the bound of its type variable, or its type. -/
def Source.FormalParam.comparisonName (f : FormalParam) : String :=
  f.typeVarBound.getD f.typeName

/-- The array dimensions that a formal parameter is compared by; any number of arguments counts as one
dimension. -/
def Source.FormalParam.comparisonDims (f : FormalParam) : Nat :=
  if f.varargs then 1 else f.dims

/-- A formal parameter fits a decoded one: their names agree, and both are arrays of as many dimensions, or
neither is one. -/
def ParamType.agrees (p : ParamType) (f : FormalParam) : Bool :=
  namesAgree f.comparisonName p.baseName && p.isArray == decide (0 < f.comparisonDims) &&
    (!p.isArray || p.depth == f.comparisonDims)

/-- Formal parameters fit decoded ones, place by place. -/
def paramsAgree : List FormalParam → List ParamType → Bool
  | [], [] => true
  | f :: fs, p :: ps => p.agrees f && paramsAgree fs ps
  | _, _ => false

namespace LongName

/-- Why a long name means no declaration. -/
inductive MatchError where
  /-- The name does not start with the file's package. -/
  | packageMismatch (longName package : String)
  /-- Nothing in the file fits. -/
  | notFound (longName : String)
  /-- The parameter descriptor cannot be decoded. -/
  | malformedDescriptor (error : DescriptorError)
  deriving DecidableEq, Repr

/-- The text that reports the error. -/
def MatchError.message : MatchError → String
  | .packageMismatch longName package =>
    "long name '" ++ longName ++ "' does not belong to package '" ++ package ++ "'"
  | .notFound longName => "no declaration matches '" ++ longName ++ "'"
  | .malformedDescriptor error => error.message

/-! ### Taking parts off a name -/

/-- A part of the name ends here: the rest is empty or starts with a separator. -/
def atBoundary : List Char → Bool
  | [] => true
  | c :: _ => c == '.' || c == '$'

/-- Takes a separator and a type's name off the front. -/
def afterSegment? (separator : Char) (name : String) (rest : List Char) : Option (List Char) :=
  (afterStart? (separator :: name.toList) rest).filter atBoundary

/-- Takes a type off the front: a dot and its name, or a dollar sign and its name if it is nested. -/
def afterType? (name : String) (nested : Bool) (rest : List Char) : Option (List Char) :=
  (afterSegment? '.' name rest).or (if nested then afterSegment? '$' name rest else none)

/-- Takes the number of an inline class body off the front; no further digit may follow. -/
def afterOrdinal? (ordinal : Nat) (rest : List Char) : Option (List Char) :=
  (afterStart? ('$' :: (toString ordinal).toList) rest).filter fun tail =>
    !(tail.head?.any Char.isDigit)

/-- A result descriptor is empty or one type. -/
def isResult (text : List Char) : Bool :=
  text.isEmpty ||
    match Descriptor.decode (String.ofList text) with
    | .ok [_] => true
    | _ => false

/-- The name by which a method or constructor is called in a long name. -/
def binaryMember (d : Declaration) : String :=
  match d.kind with
  | .constructor => "<init>"
  | _ => d.name

/-- The rest of the name is a dot, a member and a parenthesised descriptor with a result. -/
def isCallableTail (member : String) (rest : List Char) : Bool :=
  match afterStart? ('.' :: member.toList ++ ['(']) rest with
  | some opened =>
    match splitAt? ')' opened with
    | some (_, result) => isResult result
    | none => false
  | none => false

/-- The rest of the name means the declaration; `params` are the decoded parameters. -/
def accepts (params : Option (List ParamType)) (rest : List Char) (d : Declaration) : Bool :=
  match d.kind with
  | .enumConstant => rest == '.' :: d.name.toList
  | .method | .constructor =>
    isCallableTail (binaryMember d) rest && params.any (paramsAgree d.params)

/-! ### The walk -/

/-- A declaration that the walk accepts, and whether it passed a type that the name does not mention. -/
structure Candidate where
  decl : DeclId
  weak : Bool
  deriving DecidableEq, Repr

/-- What is being looked for, and in which file. -/
structure Query where
  tree : Tree
  params : Option (List ParamType)

/-- The declaration as a candidate, if the rest of the name means it. -/
def Query.candidate (q : Query) (rest : List Char) (weak : Bool) (decl : DeclId) : List Candidate :=
  if (q.tree.decl? decl).any (accepts q.params rest) then [⟨decl, weak⟩] else []

mutual

/-- The candidates in an item, and the number of the next inline class body around it. -/
def accepted (q : Query) (rest : List Char) (weak : Bool) (ordinal : Nat) :
    Item → List Candidate × Nat
  | .type _ name nested members =>
    match afterType? name nested rest with
    | some tail => ((acceptedAll q tail weak 1 members).1, ordinal)
    | none => ((acceptedAll q rest true 1 members).1, ordinal)
  | .anonymous _ members =>
    match afterOrdinal? ordinal rest with
    | some tail => ((acceptedAll q tail weak 1 members).1, ordinal + 1)
    | none => ([], ordinal + 1)
  | .callable decl inner =>
    let (found, ordinal) := acceptedAll q rest weak ordinal inner
    (q.candidate rest weak decl ++ found, ordinal)
  | .enumConstant decl inner =>
    let (found, ordinal) := acceptedAll q rest weak ordinal inner
    (q.candidate rest weak decl ++ found, ordinal)

/-- The candidates in items, one after the other. -/
def acceptedAll (q : Query) (rest : List Char) (weak : Bool) (ordinal : Nat) :
    List Item → List Candidate × Nat
  | [] => ([], ordinal)
  | item :: items =>
    let (a, ordinal) := accepted q rest weak ordinal item
    let (b, ordinal) := acceptedAll q rest weak ordinal items
    (a ++ b, ordinal)

end

/-! ### Finding -/

/-- What follows the package, from a dot on. -/
def afterPackage (package longName : String) : Except MatchError (List Char) :=
  if package.isEmpty then .ok ('.' :: longName.toList)
  else
    match afterStart? package.toList longName.toList with
    | some ('.' :: rest) => .ok ('.' :: rest)
    | _ => .error (.packageMismatch longName package)

/-- The text between the first opening parenthesis and the closing one after it. -/
def descriptor? (longName : String) : Option String := do
  let (_, opened) ← splitAt? '(' longName.toList
  let (inside, _) ← splitAt? ')' opened
  return String.ofList inside

/-- The decoded parameters of a long name, if it has any. -/
def params (longName : String) : Except MatchError (Option (List ParamType)) :=
  match descriptor? longName with
  | some descriptor =>
    match Descriptor.decode descriptor with
    | .ok params => .ok (some params)
    | .error error => .error (.malformedDescriptor error)
  | none => .ok none

/-- The candidates, each replaced by the outermost member around it; of several for one member the
first stays. -/
def members (t : Tree) (candidates : List Candidate) : List Candidate :=
  candidates.foldl
    (fun found c =>
      let root := t.outermost c.decl
      if found.any fun f => f.decl == root then found else found ++ [⟨root, c.weak⟩])
    []

/-- The declaration that a long name means, and the others that fit as well. -/
structure Match where
  decl : DeclId
  ignored : List DeclId
  deriving DecidableEq, Repr

/-- The first candidate on the named path, else the first one. -/
def choose (found : List Candidate) : Option DeclId :=
  ((found.find? fun c => !c.weak).or found.head?).map Candidate.decl

/-- The declaration that a long name means. -/
def find (t : Tree) (longName : String) : Except MatchError Match := do
  let rest ← afterPackage t.package longName
  let params ← params longName
  let found := members t (acceptedAll ⟨t, params⟩ rest false 1 t.items).1
  match choose found with
  | some decl => return ⟨decl, (found.map Candidate.decl).filter fun d => d != decl⟩
  | none => throw (.notFound longName)

end LongName

end DefectGraph
