import HeaderBindings.TypeGraph

/-! Walks down the layers of a type through typedefs, which may lead back to where they came from.
Each walk remembers the ids it has seen and ends at the latest when one comes again; the number of
ids not yet seen is its measure. -/

namespace HeaderBindings.TypeGraph

/-- Number of ids of the graph that are not in `seen`. -/
def unseen (g : TypeGraph) (seen : List TypeId) : Nat :=
  ((List.range g.size).filter (· ∉ seen)).length

theorem lt_size_of_inner?_eq_some {g : TypeGraph} {id next : TypeId} (h : g.inner? id = some next) :
    id < g.size := by
  refine Nat.lt_of_not_le fun hle => ?_
  simp [inner?, node, Array.getD, show ¬id < g.nodes.size from Nat.not_lt.2 hle, CType.inner?] at h

theorem unseen_cons_lt {g : TypeGraph} {id : TypeId} {seen : List TypeId} (hseen : id ∉ seen)
    (hid : id < g.size) : g.unseen (id :: seen) < g.unseen seen := by
  have hsplit : (List.range g.size).filter (· ∉ id :: seen) =
      ((List.range g.size).filter (· ∉ seen)).filter (· ≠ id) := by
    rw [List.filter_filter]
    congr 1
    funext x
    by_cases hx : x = id <;> simp [hx, hseen]
  unfold unseen
  rw [hsplit]
  refine List.length_filter_lt_length_iff_exists.2 ⟨id, ?_, by simp⟩
  simp [hid, hseen]

/-- The type one layer down, unless it is a typedef at which the walk is to stop. -/
def step? (g : TypeGraph) (stop : String → Bool) (id : TypeId) : Option TypeId :=
  match g.node id with
  | .typedef name target => if stop name then none else target
  | type => type.inner?

theorem inner?_of_step? {g : TypeGraph} {stop : String → Bool} {id next : TypeId}
    (h : g.step? stop id = some next) : g.inner? id = some next := by
  unfold step? at h
  unfold inner?
  split at h
  · split at h
    · cases h
    · next hn _ => rw [hn]; exact h
  · exact h

/-- Where a walk ended, and whether because it came back to a type it had seen. -/
structure Landing where
  id : TypeId
  looped : Bool
  deriving DecidableEq, Repr

def canonicalFrom (g : TypeGraph) (stop : String → Bool) (seen : List TypeId) (id : TypeId) :
    Landing :=
  if _hseen : id ∈ seen then ⟨id, true⟩
  else match _hstep : g.step? stop id with
    | some next => canonicalFrom g stop (id :: seen) next
    | none => ⟨id, false⟩
termination_by g.unseen seen
decreasing_by exact unseen_cons_lt _hseen (lt_size_of_inner?_eq_some (inner?_of_step? _hstep))

/-- Goes down all layers, not through a typedef at which `stop` holds. A walk that does not end
stops at the first type that comes twice. -/
def canonical (g : TypeGraph) (stop : String → Bool) (id : TypeId) : Landing :=
  canonicalFrom g stop [] id

/-- The type at the bottom of all layers. -/
def canonicalType (g : TypeGraph) (id : TypeId) : Landing :=
  canonical g (fun _ => false) id

def resolvedDepthFrom (g : TypeGraph) (stop : String → Bool) (seen : List TypeId) (id : TypeId) :
    Nat :=
  if _hseen : id ∈ seen then 0
  else
    (if (g.node id).isIndirection then 1 else 0) +
    match _hstep : g.step? stop id with
    | some next => resolvedDepthFrom g stop (id :: seen) next
    | none => 0
termination_by g.unseen seen
decreasing_by exact unseen_cons_lt _hseen (lt_size_of_inner?_eq_some (inner?_of_step? _hstep))

/-- Number of pointers and arrays on the way down, behind typedefs too. -/
def resolvedDepth (g : TypeGraph) (stop : String → Bool) (id : TypeId) : Nat :=
  resolvedDepthFrom g stop [] id

def functionFrom (g : TypeGraph) (seen : List TypeId) (id : TypeId) : Option TypeId :=
  if _hseen : id ∈ seen then none
  else if (g.node id).isFunction then some id
  else match _hstep : g.inner? id with
    | some next => functionFrom g (id :: seen) next
    | none => none
termination_by g.unseen seen
decreasing_by exact unseen_cons_lt _hseen (lt_size_of_inner?_eq_some _hstep)

/-- The function type at the bottom of a type, if there is one. Its id is what an alias names. -/
def function? (g : TypeGraph) (id : TypeId) : Option TypeId :=
  functionFrom g [] id

end HeaderBindings.TypeGraph
