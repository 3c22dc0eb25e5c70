import HeaderBindings.CType

/-! The graph of all types of one header. Types are added one after the other; a typedef may be
bound later to any type, so only typedefs can close a cycle. The walks of this module follow
pointers, arrays and signatures alone, whose edges go to smaller ids (`WellFormed`), and recur
along them. -/

namespace HeaderBindings

structure TypeGraph where
  nodes : Array CType := #[]
  deriving Repr

namespace TypeGraph

def size (g : TypeGraph) : Nat :=
  g.nodes.size

/-- An id outside the graph stands for a type that is not described. -/
def node (g : TypeGraph) (id : TypeId) : CType :=
  g.nodes.getD id (.unresolved "")

/-- Adds a type; its id is the size of the graph before. -/
def add (g : TypeGraph) (type : CType) : TypeGraph :=
  { g with nodes := g.nodes.push type }

/-- Binds a typedef; another type is left as it is. -/
def bind (g : TypeGraph) (id target : TypeId) : TypeGraph :=
  match g.node id with
  | .typedef name _ => { g with nodes := g.nodes.setIfInBounds id (.typedef name (some target)) }
  | _ => g

def isTypedef (g : TypeGraph) (id : TypeId) : Bool :=
  match g.node id with
  | .typedef _ _ => true
  | _ => false

def inner? (g : TypeGraph) (id : TypeId) : Option TypeId :=
  (g.node id).inner?

/-- Ids that a type refers to other than as the target of a typedef. -/
def children : CType → List TypeId
  | .pointer pointee _ => [pointee]
  | .array element _ => [element]
  | .function s => s.result :: s.parameters.map (·.type)
  | .builtin _ | .typedef _ _ | .tagged _ _ | .unresolved _ => []

/-- Every id is in range, and only a typedef refers to a type that was not there before it. -/
structure WellFormed (g : TypeGraph) : Prop where
  children_lt : ∀ id, ∀ child ∈ children (g.node id), child < id
  target_lt : ∀ id name target, g.node id = .typedef name (some target) → target < g.size

/-- Number of pointer layers on the outside. -/
def pointerDepth (g : TypeGraph) (id : TypeId) : Nat :=
  match g.node id with
  | .pointer pointee _ => if pointee < id then pointerDepth g pointee + 1 else 1
  | _ => 0
termination_by id

/-- The first type below the outer pointer layers. -/
def pointerBase (g : TypeGraph) (id : TypeId) : TypeId :=
  match g.node id with
  | .pointer pointee _ => if pointee < id then pointerBase g pointee else pointee
  | _ => id
termination_by id

/-- One or more pointers around a function, with no typedef between them. -/
def isDirectFunctionPointer (g : TypeGraph) (id : TypeId) : Bool :=
  0 < g.pointerDepth id && (g.node (g.pointerBase id)).isFunction

/-- A rendering close to C, for messages. -/
def displayName (g : TypeGraph) (id : TypeId) : String :=
  match g.node id with
  | .builtin type => type.spelling
  | .typedef name _ => name
  | .pointer pointee isConst =>
    (if isConst then "const " else "") ++
      (if pointee < id then displayName g pointee else "") ++ "*"
  | .array element size =>
    (if element < id then displayName g element else "") ++
      match size with
      | some n => s!"[{n}]"
      | none => "[]"
  | .tagged kind name => kind.keyword ++ " " ++ name
  | .function s =>
    let parameters := s.parameters.map fun p => if p.type < id then displayName g p.type else ""
    (if s.result < id then displayName g s.result else "") ++
      " (*)(" ++ String.intercalate ", " parameters ++ ")"
  | .unresolved spelling => spelling
termination_by id

end TypeGraph

end HeaderBindings
