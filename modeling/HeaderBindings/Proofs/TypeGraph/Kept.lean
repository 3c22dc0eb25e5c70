import HeaderBindings.Proofs.TypeGraph.Growth

/-! What a graph says of a type, and how long that is true. Adding types changes nothing of what was
there; binding a typedef changes one thing, what it stands for, and where only typedefs are bound
that were not, that is set once. -/

namespace HeaderBindings

namespace TypeGraph

/-- There is a type of that id, and it is this one. -/
def Holds (g : TypeGraph) (id : TypeId) (type : CType) : Prop :=
  g.nodes[id]? = some type

/-- All types of `g` are in `g'`, as they are. -/
def Keeps (g g' : TypeGraph) : Prop :=
  ∀ id type, g.Holds id type → g'.Holds id type

/-- All types of `g` are in `g'`, up to what typedefs stand for. -/
structure Refines (g g' : TypeGraph) : Prop where
  holds : ∀ id type, g.Holds id type → (∀ name target, type ≠ .typedef name target) →
    g'.Holds id type
  typedef : ∀ id name target, g.Holds id (.typedef name target) →
    ∃ target', g'.Holds id (.typedef name target')

/-- One type is added, if it is a typedef the only one of its name, or a typedef is bound that was
not. -/
inductive Step : TypeGraph → TypeGraph → Prop
  | add {g : TypeGraph} (type : CType)
      (h : ∀ name target, type = .typedef name target →
        target = none ∧ ∀ id other, ¬g.Holds id (.typedef name other)) : Step g (g.add type)
  | bind {g : TypeGraph} {id : TypeId} {name : String} (target : TypeId)
      (h : g.Holds id (.typedef name none)) : Step g (g.bind id target)

variable {g g' g'' : TypeGraph} {id x target : TypeId} {type type' : CType} {name : String}

theorem Holds.lt_size (h : g.Holds id type) : id < g.size := by
  obtain ⟨hlt, -⟩ := Array.getElem?_eq_some_iff.1 h
  exact hlt

theorem Holds.node_eq (h : g.Holds id type) : g.node id = type := by
  rw [node, Array.getD_eq_getD_getElem?, h]
  rfl

theorem Holds.unique (h : g.Holds id type) (h' : g.Holds id type') : type = type' :=
  h.node_eq.symm.trans h'.node_eq

theorem holds_add_iff : (g.add type).Holds id type' ↔
    (id = g.size ∧ type' = type) ∨ (id ≠ g.size ∧ g.Holds id type') := by
  unfold Holds add
  rw [Array.getElem?_push]
  by_cases hid : id = g.nodes.size
  · simp [hid, size, eq_comm]
  · simp [hid, size]

theorem holds_add_self (g : TypeGraph) (type : CType) : (g.add type).Holds g.size type :=
  holds_add_iff.2 (.inl ⟨rfl, rfl⟩)

theorem keeps_add (g : TypeGraph) (type : CType) : g.Keeps (g.add type) :=
  fun _ _ h => holds_add_iff.2 (.inr ⟨Nat.ne_of_lt h.lt_size, h⟩)

theorem holds_bind_iff (h : g.Holds id (.typedef name none)) : (g.bind id target).Holds x type ↔
    (x = id ∧ type = .typedef name (some target)) ∨ (x ≠ id ∧ g.Holds x type) := by
  unfold Holds bind
  rw [h.node_eq]
  simp only [Array.getElem?_setIfInBounds]
  by_cases hx : x = id
  · have hlt : id < g.nodes.size := h.lt_size
    simp [hx, hlt, eq_comm]
  · simp [hx, Ne.symm hx]

theorem Keeps.refl (g : TypeGraph) : g.Keeps g := fun _ _ h => h

theorem Keeps.trans (h : g.Keeps g') (h' : g'.Keeps g'') : g.Keeps g'' :=
  fun id type hid => h' id type (h id type hid)

theorem Keeps.refines (h : g.Keeps g') : g.Refines g' :=
  ⟨fun id type hid _ => h id type hid, fun id _ target hid => ⟨target, h id _ hid⟩⟩

theorem refines_bind (h : g.Holds id (.typedef name none)) (target : TypeId) :
    g.Refines (g.bind id target) := by
  refine ⟨fun x type hx htype => ?_, fun x other bound hx => ?_⟩
  · have hne : x ≠ id := fun heq => htype name none ((heq ▸ hx).unique h)
    exact (holds_bind_iff h).2 (.inr ⟨hne, hx⟩)
  · by_cases hid : x = id
    · subst hid
      cases hx.unique h
      exact ⟨_, (holds_bind_iff h).2 (.inl ⟨rfl, rfl⟩)⟩
    · exact ⟨bound, (holds_bind_iff h).2 (.inr ⟨hid, hx⟩)⟩

/-- A typedef that is bound stays bound as it is. -/
theorem Step.holds_bound (h : g.Step g') (hid : g.Holds id (.typedef name (some target))) :
    g'.Holds id (.typedef name (some target)) := by
  cases h with
  | add type _ => exact g.keeps_add type _ _ hid
  | @bind other _ _ hother =>
    have hne : id ≠ other := fun heq => by
      subst heq
      cases hid.unique hother
    exact (holds_bind_iff hother).2 (.inr ⟨hne, hid⟩)

theorem holds_of_steps (h : Relation.ReflTransGen Step g g')
    (hid : g.Holds id (.typedef name (some target))) :
    g'.Holds id (.typedef name (some target)) := by
  induction h with
  | refl => exact hid
  | tail _ hstep ih => exact hstep.holds_bound ih

end TypeGraph

end HeaderBindings
