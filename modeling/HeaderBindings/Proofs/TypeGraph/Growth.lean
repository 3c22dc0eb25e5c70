import HeaderBindings.TypeGraph
import Mathlib.Data.List.Induction
import Mathlib.Logic.Relation

/-! Graphs as they grow. Types are added that refer to types added before, and typedefs are bound
to any of them; so all ids stay in range, and whatever goes round in a graph goes through a
typedef. -/

namespace HeaderBindings.TypeGraph

variable {g : TypeGraph}

/-- Ids that a type refers to, the target of a typedef among them. -/
def references : CType → List TypeId
  | .typedef _ target => target.toList
  | type => children type

/-- A type of the graph refers to another. -/
def Refers (g : TypeGraph) (id x : TypeId) : Prop :=
  x ∈ references (g.node id)

instance (g : TypeGraph) (id x : TypeId) : Decidable (g.Refers id x) :=
  inferInstanceAs (Decidable (x ∈ references (g.node id)))

/-- The graphs that come of adding types and binding typedefs, with ids given out before. -/
inductive Built : TypeGraph → Prop
  | empty : Built {}
  | add {g : TypeGraph} {type : CType} (h : Built g) (hrefs : ∀ x ∈ references type, x < g.size) :
      Built (g.add type)
  | bind {g : TypeGraph} {id target : TypeId} (h : Built g) (hid : id < g.size)
      (htarget : target < g.size) : Built (g.bind id target)

@[simp] theorem size_add (g : TypeGraph) (type : CType) : (g.add type).size = g.size + 1 :=
  Array.size_push type

@[simp] theorem size_bind (g : TypeGraph) (id target : TypeId) :
    (g.bind id target).size = g.size := by
  unfold bind
  split
  · exact Array.size_setIfInBounds
  · rfl

theorem node_of_le {id : TypeId} (h : g.size ≤ id) : g.node id = .unresolved "" := by
  rw [node, Array.getD_eq_getD_getElem?, Array.getElem?_eq_none h]
  rfl

theorem getElem?_of_lt {id : TypeId} (h : id < g.size) : g.nodes[id]? = some (g.node id) := by
  rw [node, Array.getD_eq_getD_getElem?, Array.getElem?_eq_getElem h]
  rfl

theorem node_add (g : TypeGraph) (type : CType) (id : TypeId) :
    (g.add type).node id = if id = g.size then type else g.node id := by
  simp only [node, add, size, Array.getD_eq_getD_getElem?, Array.getElem?_push]
  split <;> rfl

/-- Binding changes nothing but what the typedef stands for. -/
theorem node_bind_cases (g : TypeGraph) (id target x : TypeId) :
    (g.bind id target).node x = g.node x ∨
      x = id ∧ ∃ name, (g.bind id target).node x = .typedef name (some target) := by
  unfold bind
  split
  · next name _ _ =>
    simp only [node, Array.getD_eq_getD_getElem?, Array.getElem?_setIfInBounds]
    split
    · next heq =>
      split
      · exact .inr ⟨heq.symm, name, rfl⟩
      · next hsize => exact .inl (by rw [← heq, Array.getElem?_eq_none (Nat.not_lt.1 hsize)])
    · exact .inl rfl
  · exact .inl rfl

theorem lt_size_of_mem_references {id x : TypeId} (h : x ∈ references (g.node id)) :
    id < g.size := by
  refine Nat.lt_of_not_le fun hle => ?_
  rw [node_of_le hle] at h
  cases h

theorem mem_references_of_mem_children {type : CType} {x : TypeId} (h : x ∈ children type) :
    x ∈ references type := by
  cases type with
  | typedef name target => cases h
  | _ => exact h

/-- Every id that is stored in a built graph is in range, and the edges that no binding can set go
to smaller ids. -/
theorem Built.wellFormed (h : Built g) : g.WellFormed := by
  induction h with
  | empty =>
    refine ⟨fun id child hchild => ?_, fun id name target hn => ?_⟩
    · rw [node_of_le (Nat.zero_le id)] at hchild
      cases hchild
    · rw [node_of_le (Nat.zero_le id)] at hn
      cases hn
  | @add g type h hrefs ih =>
    refine ⟨fun id child hchild => ?_, fun id name target hn => ?_⟩
    · rw [node_add] at hchild
      split at hchild
      · next heq => exact heq ▸ hrefs child (mem_references_of_mem_children hchild)
      · exact ih.children_lt id child hchild
    · rw [node_add] at hn
      rw [size_add]
      split at hn
      · exact Nat.lt_succ_of_lt (hrefs target (by rw [hn]; exact List.mem_singleton_self target))
      · exact Nat.lt_succ_of_lt (ih.target_lt id name target hn)
  | @bind g id target h hid htarget ih =>
    refine ⟨fun x child hchild => ?_, fun x name other hn => ?_⟩
    · rcases g.node_bind_cases id target x with heq | ⟨-, name, heq⟩
      · exact ih.children_lt x child (heq ▸ hchild)
      · rw [heq] at hchild
        cases hchild
    · rw [size_bind]
      rcases g.node_bind_cases id target x with heq | ⟨-, name', heq⟩
      · exact ih.target_lt x name other (heq.symm.trans hn)
      · rw [heq] at hn
        cases hn
        exact htarget

/-- Types that refer to types before them make a graph. -/
theorem Built.of_forall_lt {types : List CType}
    (h : ∀ i : Fin types.length, ∀ x ∈ references types[i], x < i) : Built ⟨types.toArray⟩ := by
  induction types using List.reverseRecOn with
  | nil => exact .empty
  | append_singleton types type ih =>
    have hbuilt : Built ⟨types.toArray⟩ := ih fun i x hx => by
      have hi : i.val < (types ++ [type]).length := by
        rw [List.length_append]
        exact Nat.lt_add_right 1 i.isLt
      refine h ⟨i, hi⟩ x ?_
      rw [Fin.getElem_fin, List.getElem_append_left i.isLt]
      exact hx
    have hlast : Built (TypeGraph.add ⟨types.toArray⟩ type) := hbuilt.add fun x hx =>
      h ⟨types.length, by simp⟩ x (by simpa using hx)
    rwa [TypeGraph.add, List.push_toArray] at hlast

namespace WellFormed

theorem reference_lt (h : g.WellFormed) {id x : TypeId} (hx : g.Refers id x) : x < g.size := by
  have hid := lt_size_of_mem_references hx
  unfold Refers references at hx
  split at hx
  · next name target hn =>
    obtain rfl := Option.mem_toList.1 hx
    exact h.target_lt id name x hn
  · exact Nat.lt_trans (h.children_lt id x hx) hid

theorem inner?_lt (h : g.WellFormed) {id x : TypeId} (hx : g.inner? id = some x) : x < g.size := by
  have href : x ∈ references (g.node id) := by
    unfold inner? at hx
    cases hn : g.node id <;> simp_all [CType.inner?, references, children]
  exact h.reference_lt href

/-- References go to smaller ids until they come to a typedef. -/
theorem lt_or_typedef (h : g.WellFormed) {id x : TypeId} (hx : Relation.TransGen g.Refers id x) :
    x < id ∨ ∃ y, g.isTypedef y ∧ Relation.ReflTransGen g.Refers id y ∧
      Relation.ReflTransGen g.Refers y x := by
  have hstep {id x : TypeId} (hx : g.Refers id x) : x < id ∨ g.isTypedef id := by
    unfold Refers references at hx
    split at hx
    · next hn => exact .inr (by rw [isTypedef, hn])
    · exact .inl (h.children_lt id x hx)
  induction hx with
  | single hx => exact (hstep hx).imp_right fun hid => ⟨id, hid, .refl, .single hx⟩
  | @tail y x hy hx ih =>
    rcases ih with hlt | ⟨z, hz, hto, hfrom⟩
    · rcases hstep hx with hlt' | hy'
      · exact .inl (Nat.lt_trans hlt' hlt)
      · exact .inr ⟨y, hy', hy.to_reflTransGen, .single hx⟩
    · exact .inr ⟨z, hz, hto, hfrom.tail hx⟩

/-- Whatever leads back to itself goes through a typedef. -/
theorem typedef_on_cycle (h : g.WellFormed) {id : TypeId} (hid : Relation.TransGen g.Refers id id) :
    ∃ x, g.isTypedef x ∧ Relation.ReflTransGen g.Refers id x ∧
      Relation.ReflTransGen g.Refers x id :=
  (h.lt_or_typedef hid).resolve_left (Nat.lt_irrefl id)

end WellFormed

end HeaderBindings.TypeGraph
