import HeaderBindings.Proofs.TypeGraph.Growth

/-! The walks along pointers, arrays and signatures, without the check of each edge that makes them
end. Such a walk is given up after some rounds, or where an id is none of the graph. In a
well-formed graph it is never given up if it may take more rounds than the number of its id, and its
value is that of the walk that checks. -/

namespace HeaderBindings.TypeGraph

variable {g : TypeGraph}

def pointerDepthWithin (g : TypeGraph) : Nat → TypeId → Option Nat
  | 0, _ => none
  | rounds + 1, id => do
    match ← g.nodes[id]? with
    | .pointer pointee _ => return (← pointerDepthWithin g rounds pointee) + 1
    | _ => return 0

/-- One or more pointers around a function, where `depth` pointers have been passed. -/
def functionPointerFromWithin (g : TypeGraph) : Nat → Nat → TypeId → Option Bool
  | 0, _, _ => none
  | rounds + 1, depth, id => do
    match ← g.nodes[id]? with
    | .pointer pointee _ => functionPointerFromWithin g rounds (depth + 1) pointee
    | type => return 0 < depth && type.isFunction

def isDirectFunctionPointerWithin (g : TypeGraph) (rounds : Nat) (id : TypeId) : Option Bool :=
  g.functionPointerFromWithin rounds 0 id

def displayNameWithin (g : TypeGraph) : Nat → TypeId → Option String
  | 0, _ => none
  | rounds + 1, id => do
    match ← g.nodes[id]? with
    | .builtin type => return type.spelling
    | .typedef name _ => return name
    | .pointer pointee isConst =>
      return (if isConst then "const " else "") ++ (← displayNameWithin g rounds pointee) ++ "*"
    | .array element size =>
      return (← displayNameWithin g rounds element) ++
        match size with
        | some n => s!"[{n}]"
        | none => "[]"
    | .tagged kind name => return kind.keyword ++ " " ++ name
    | .function s =>
      let parameters ← s.parameters.mapM fun p => displayNameWithin g rounds p.type
      return (← displayNameWithin g rounds s.result) ++ " (*)(" ++
        String.intercalate ", " parameters ++ ")"
    | .unresolved spelling => return spelling

theorem mapM_eq_some_map {α β : Type} {f : α → Option β} {value : α → β} {l : List α}
    (h : ∀ a ∈ l, f a = some (value a)) : l.mapM f = some (l.map value) := by
  induction l with
  | nil => rfl
  | cons a rest ih =>
    rw [List.mapM_cons, h a List.mem_cons_self, ih fun b hb => h b (List.mem_cons_of_mem _ hb)]
    rfl

namespace WellFormed

variable {id : TypeId}

theorem pointee_lt (h : g.WellFormed) {pointee : TypeId} {isConst : Bool}
    (hn : g.node id = .pointer pointee isConst) : pointee < id :=
  h.children_lt id pointee (by rw [hn]; exact List.mem_singleton_self pointee)

theorem element_lt (h : g.WellFormed) {element : TypeId} {size : Option Nat}
    (hn : g.node id = .array element size) : element < id :=
  h.children_lt id element (by rw [hn]; exact List.mem_singleton_self element)

theorem result_lt (h : g.WellFormed) {s : Signature} (hn : g.node id = .function s) :
    s.result < id :=
  h.children_lt id s.result (by rw [hn]; exact List.mem_cons_self)

theorem parameter_lt (h : g.WellFormed) {s : Signature} (hn : g.node id = .function s)
    {p : Parameter} (hp : p ∈ s.parameters) : p.type < id :=
  h.children_lt id p.type (by
    rw [hn]
    exact List.mem_cons_of_mem _ (List.mem_map_of_mem hp))

theorem pointerDepthWithin_eq (h : g.WellFormed) (rounds : Nat) (hid : id < g.size)
    (hrounds : id < rounds) : g.pointerDepthWithin rounds id = some (g.pointerDepth id) := by
  induction rounds generalizing id with
  | zero => cases hrounds
  | succ rounds ih =>
    rw [pointerDepthWithin, getElem?_of_lt hid, pointerDepth]
    cases hn : g.node id with
    | pointer pointee isConst =>
      have hlt := h.pointee_lt hn
      have hrest := Nat.lt_of_lt_of_le hlt (Nat.le_of_lt_succ hrounds)
      simp [hlt, ih (Nat.lt_trans hlt hid) hrest]
    | _ => rfl

theorem functionPointerFromWithin_eq (h : g.WellFormed) (rounds depth : Nat) (hid : id < g.size)
    (hrounds : id < rounds) : g.functionPointerFromWithin rounds depth id =
      some (0 < depth + g.pointerDepth id && (g.node (g.pointerBase id)).isFunction) := by
  induction rounds generalizing id depth with
  | zero => cases hrounds
  | succ rounds ih =>
    rw [functionPointerFromWithin, getElem?_of_lt hid, pointerDepth, pointerBase]
    cases hn : g.node id with
    | pointer pointee isConst =>
      have hlt := h.pointee_lt hn
      have hrest := Nat.lt_of_lt_of_le hlt (Nat.le_of_lt_succ hrounds)
      simp [hlt, ih (depth + 1) (Nat.lt_trans hlt hid) hrest, Nat.add_assoc, Nat.add_comm 1]
    | _ => simp [hn]

theorem isDirectFunctionPointerWithin_eq (h : g.WellFormed) (rounds : Nat) (hid : id < g.size)
    (hrounds : id < rounds) :
    g.isDirectFunctionPointerWithin rounds id = some (g.isDirectFunctionPointer id) := by
  rw [isDirectFunctionPointerWithin, h.functionPointerFromWithin_eq rounds 0 hid hrounds,
    Nat.zero_add]
  rfl

theorem displayNameWithin_eq (h : g.WellFormed) (rounds : Nat) (hid : id < g.size)
    (hrounds : id < rounds) : g.displayNameWithin rounds id = some (g.displayName id) := by
  induction rounds generalizing id with
  | zero => cases hrounds
  | succ rounds ih =>
    have hchild {child : TypeId} (hlt : child < id) :
        g.displayNameWithin rounds child = some (g.displayName child) :=
      ih (Nat.lt_trans hlt hid) (Nat.lt_of_lt_of_le hlt (Nat.le_of_lt_succ hrounds))
    rw [displayNameWithin, getElem?_of_lt hid, displayName]
    cases hn : g.node id with
    | pointer pointee isConst =>
      have hlt := h.pointee_lt hn
      simp [hlt, hchild hlt]
    | array element size =>
      have hlt := h.element_lt hn
      cases size <;> simp [hlt, hchild hlt]
    | function s =>
      have hlt := h.result_lt hn
      have hparameters : s.parameters.mapM (fun p => g.displayNameWithin rounds p.type) =
          some (s.parameters.map fun p =>
            if p.type < id then g.displayName p.type else "") :=
        mapM_eq_some_map fun p hp => by
          have hp := h.parameter_lt hn hp
          rw [if_pos hp, hchild hp]
      simp [hlt, hchild hlt, hparameters]
    | _ => rfl

end WellFormed

end HeaderBindings.TypeGraph
