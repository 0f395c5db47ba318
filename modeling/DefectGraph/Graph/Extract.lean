import DefectGraph.Graph.Neighborhood
import DefectGraph.Source.Resolver

/-!
# Extracting neighborhoods

Starting from seeds, the references of every declaration lead to further declarations.

## Main Definitions

* `Template` - what the nodes found for one file share.
* `targets` - the declarations that a reference leads to.
* `Scan` - what the references of one declaration lead to.
* `extract` - the neighborhood of seeds.

## Design Notes

A reference that is not resolved leads to every method and constructor of its name, unless its receiver
names something else. A constructor that goes on after `super(...)` is invalid: its references are read up
to that call, and it leads no further.
-/

namespace DefectGraph.Graph

open DefectGraph.Source

/-- What the nodes found for one file share. -/
structure Template where
  project : String
  hash : String
  classSourceFile : String
  /-- Signatures start with the type that the declaration is a member of. -/
  qualify : Bool
  deriving DecidableEq, Repr

/-- The node of a declaration that is only discovered. -/
def Template.node (t : Template) (tree : Tree) (decl : DeclId) (id : Nat) : Node :=
  let parent := ((tree.decl? decl).map Declaration.owner).getD ""
  let signature := tree.signature decl
  { decl, id
    project := t.project
    hash := t.hash
    parent
    classSourceFile := t.classSourceFile
    signature := if t.qualify then parent ++ "." ++ signature else signature
    longName := none
    bugs := discoveredBugs
    seed := false
    valid := true
    explicitSuper := false
    graphId := none }

/-- Draws a number for the node of a declaration that is only discovered. -/
def Template.discover (t : Template) (tree : Tree) (decl : DeclId) (ids : Ids) : Node × Ids :=
  let (id, ids) := ids.nextNode
  (t.node tree decl id, ids)

/-- What extraction reports. -/
inductive Event where
  | mergedSeed (signature : String)
  /-- A call is not resolved and leads to all declarations of its name. -/
  | guessedCall (source name : String)
  /-- A call on a receiver is not resolved and leads nowhere. -/
  | droppedCall (source name : String)
  /-- A method reference is not resolved and leads nowhere. -/
  | droppedMethodRef (source name : String)
  /-- A constructor goes on after `super(...)`. -/
  | invalidSuper (source : String)
  deriving DecidableEq, Repr

/-! ### References of one declaration -/

/-- The methods and constructors of that name. -/
def named (tree : Tree) (name : String) : List DeclId :=
  (tree.decls.filter fun d => d.isCallable && d.name == name).map Declaration.id

/-- A call that is not resolved leads to all declarations of its name: its receiver names nothing
else. -/
def isGuessed (receiver : Option Receiver) : Bool :=
  receiver.all fun r => !r.namesOther

/-- The declarations that a reference leads to. -/
def targets (tree : Tree) (ref : Reference) : List DeclId :=
  match ref with
  | .call name receiver _ _ =>
    match tree.resolve ref with
    | some decl => [decl]
    | none => if isGuessed receiver then named tree name else []
  | .methodRef .. => (tree.resolve ref).toList
  | .creation type hasBody => if hasBody then [] else named tree type
  | .redirect .toThis type _ => named tree type
  | .redirect .toSuper _ _ => []

/-- What is reported of a reference in the declaration of the given signature. -/
def report (tree : Tree) (source : String) (ref : Reference) : List Event :=
  match ref with
  | .call name receiver _ _ =>
    match tree.resolve ref with
    | some _ => []
    | none => if isGuessed receiver then [.guessedCall source name] else [.droppedCall source name]
  | .methodRef name _ _ =>
    match tree.resolve ref with
    | some _ => []
    | none => [.droppedMethodRef source name]
  | .creation .. | .redirect .. => []

/-- The reference is a `super(...)` after which the constructor goes on. -/
def isBreak : Reference → Bool
  | .redirect .toSuper _ isLast => !isLast
  | _ => false

/-- The reference is a `super(...)` that is the constructor's only statement. -/
def isLastSuper : Reference → Bool
  | .redirect .toSuper _ isLast => isLast
  | _ => false

/-- What the references of one declaration lead to. -/
structure Scan where
  /-- The declarations led to, each once, in the order of the references. -/
  targets : List DeclId
  explicitSuper : Bool
  invalid : Bool
  events : List Event

/-- Reads the references of a declaration, up to a `super(...)` after which it goes on. -/
def scan (tree : Tree) (decl : DeclId) : Scan :=
  let refs := ((tree.decl? decl).map Declaration.references).getD []
  let source := tree.signature decl
  let read := refs.takeWhile fun ref => !isBreak ref
  let invalid := refs.any isBreak
  { targets := (read.flatMap (targets tree)).eraseDups
    explicitSuper := read.any isLastSuper
    invalid
    events := read.flatMap (report tree source) ++ if invalid then [.invalidSuper source] else [] }

/-! ### Exploring -/

/-- How far extraction has come. -/
structure Progress where
  hood : Neighborhood
  visited : List DeclId
  ids : Ids
  events : List Event

/-- Adds the edge to a declaration, and a node for it if there is none. -/
def Progress.addTarget (template : Template) (tree : Tree) (source : DeclId) (p : Progress)
    (target : DeclId) : Progress :=
  if p.hood.hasNode target then { p with hood := p.hood.addEdge source target }
  else
    let (node, ids) := template.discover tree target p.ids
    { p with hood := (p.hood.putNode node).addEdge source target, ids }

/-- Reads the references of a declaration that has not been visited. -/
def Progress.visit (template : Template) (tree : Tree) (p : Progress) (decl : DeclId) : Progress :=
  let s := scan tree decl
  let hood := p.hood.updateNode decl fun n =>
    { n with explicitSuper := n.explicitSuper || s.explicitSuper, valid := n.valid && !s.invalid }
  s.targets.foldl (Progress.addTarget template tree decl)
    { p with hood, visited := decl :: p.visited, events := p.events ++ s.events }

/-- The declarations to go on with after one has been visited. -/
def successors (tree : Tree) (decl : DeclId) : List DeclId :=
  let s := scan tree decl
  if s.invalid then [] else s.targets

/-- The declarations that have not been visited. -/
def unvisited (tree : Tree) (visited : List DeclId) : List DeclId :=
  (List.range tree.decls.length).filter fun d => !visited.contains d

/-- A visit leaves the other declarations that have not been visited. -/
theorem unvisited_cons (tree : Tree) (visited : List DeclId) (decl : DeclId) :
    unvisited tree (decl :: visited) = (unvisited tree visited).filter fun d => !(d == decl) := by
  unfold unvisited
  rw [List.filter_filter]
  congr 1
  funext d
  by_cases same : d = decl <;> simp [same]

/-- Meeting a target is no visit. -/
@[simp]
theorem addTarget_visited (template : Template) (tree : Tree) (source : DeclId) (p : Progress)
    (target : DeclId) : (p.addTarget template tree source target).visited = p.visited := by
  unfold Progress.addTarget
  split <;> rfl

/-- A visit is noted in front of the earlier ones. -/
@[simp]
theorem visit_visited (template : Template) (tree : Tree) (p : Progress) (decl : DeclId) :
    (p.visit template tree decl).visited = decl :: p.visited := by
  have fold : ∀ (targets : List DeclId) (q : Progress),
      (targets.foldl (Progress.addTarget template tree decl) q).visited = q.visited := by
    intro targets
    induction targets with
    | nil => intro q; rfl
    | cons target rest ih => intro q; rw [List.foldl_cons, ih, addTarget_visited]
  unfold Progress.visit
  rw [fold]

/-- How many declarations those that have not been visited lead on to, counted once for each of them. -/
def awaited (tree : Tree) (visited : List DeclId) : Nat :=
  (unvisited tree visited).foldr (fun d count => (successors tree d).length + count) 0

/-- Leaving out a declaration takes what it leads on to off the count. -/
theorem foldr_filter_le (count : DeclId → Nat) (decl : DeclId) (decls : List DeclId)
    (present : decl ∈ decls) :
    (decls.filter fun d => !(d == decl)).foldr (fun d sum => count d + sum) 0 + count decl ≤
      decls.foldr (fun d sum => count d + sum) 0 := by
  have part : ∀ decls : List DeclId,
      (decls.filter fun d => !(d == decl)).foldr (fun d sum => count d + sum) 0 ≤
        decls.foldr (fun d sum => count d + sum) 0 := by
    intro decls
    induction decls with
    | nil => exact Nat.le_refl _
    | cons d rest ih =>
      by_cases same : d = decl
      · simp [same]
        omega
      · simp [same]
        omega
  induction decls with
  | nil => cases present
  | cons d rest ih =>
    by_cases same : d = decl
    · have others := part rest
      simp [same]
      omega
    · have later : decl ∈ rest := (List.mem_cons.mp present).resolve_left fun here => same here.symm
      have others := ih later
      simp [same]
      omega

/-- A visit takes what the declaration leads on to off the count. -/
theorem awaited_cons_le (tree : Tree) (visited : List DeclId) (decl : DeclId)
    (declared : decl < tree.decls.length) (fresh : visited.contains decl = false) :
    awaited tree (decl :: visited) + (successors tree decl).length ≤ awaited tree visited := by
  have present : decl ∈ unvisited tree visited := by
    unfold unvisited
    simp [declared]
    simpa using fresh
  unfold awaited
  rw [unvisited_cons]
  exact foldr_filter_le (fun d => (successors tree d).length) decl _ present

/-- Explores depth first, the declarations on the stack first. -/
def explore (template : Template) (tree : Tree) (p : Progress) (stack : List DeclId) : Progress :=
  match stack with
  | [] => p
  | decl :: rest =>
    if h : p.visited.contains decl = false ∧ decl < tree.decls.length then
      let p' := p.visit template tree decl
      let next := (successors tree decl).filter fun d => !p'.visited.contains d
      have : awaited tree p'.visited + (next ++ rest).length <
          awaited tree p.visited + (decl :: rest).length := by
        have fewer := awaited_cons_le tree p.visited decl h.2 h.1
        have pushed : next.length ≤ (successors tree decl).length := List.length_filter_le _ _
        simp only [p', visit_visited, List.length_append, List.length_cons]
        omega
      explore template tree p' (next ++ rest)
    else explore template tree p rest
termination_by awaited tree p.visited + stack.length
decreasing_by
  · exact this
  · exact Nat.lt_succ_self _

/-! ### Seeds -/

/-- Adds a seed to the nodes, joining it to one for the same declaration; `none` on overflow. -/
def addSeed? (state : Neighborhood × List Event) (seed : Node) : Option (Neighborhood × List Event) :=
  if state.1.hasNode seed.decl then
    (state.1.absorb? seed).map fun hood => (hood, state.2 ++ [.mergedSeed seed.signature])
  else some (state.1.putNode seed, state.2)

/-- The nodes of seeds; `none` when adding up bug counts overflows. -/
def addSeeds? (seeds : List Node) : Option (Neighborhood × List Event) :=
  seeds.foldlM addSeed? (.empty, [])

/-- The neighborhood of seeds with what is reported; `none` when adding up bug counts overflows. -/
def extract? (template : Template) (tree : Tree) (seeds : List Node) (ids : Ids) :
    Option (Neighborhood × List Event × Ids) := do
  let (hood, events) ← addSeeds? seeds
  let p := (seeds.map Node.decl).foldl (fun p decl => explore template tree p [decl])
    ⟨hood, [], ids, events⟩
  return (p.hood, p.events, p.ids)

end DefectGraph.Graph
