import HeaderBindings.Proofs.TypeGraph.Descent

/-! Pointers with no typedef between them lead to the type below them, so what looks like a function
pointer is one for the walks through typedefs too. -/

namespace HeaderBindings.TypeGraph

variable {g : TypeGraph}

theorem leadsTo_pointerBase (g : TypeGraph) (id : TypeId) : g.LeadsTo id (g.pointerBase id) := by
  induction id using Nat.strongRecOn with
  | _ id ih =>
    rw [pointerBase]
    split
    · next pointee _ hn =>
      have hinner : g.inner? id = some pointee := inner?_of_node hn
      split
      · next hlt => exact .head hinner (ih pointee hlt)
      · exact .single hinner
    · exact .refl

theorem function?_of_isDirectFunctionPointer {id : TypeId} (h : g.isDirectFunctionPointer id) :
    g.function? id = some (g.pointerBase id) := by
  rw [isDirectFunctionPointer, Bool.and_eq_true] at h
  exact function?_eq_some_iff.2 ⟨g.leadsTo_pointerBase id, h.2⟩

/-- A function pointer, or arrays of constant sizes of one; the sizes stand from the outside in. -/
inductive Callback (g : TypeGraph) : TypeId → List Nat → Prop
  | pointer {id : TypeId} (h : g.isDirectFunctionPointer id) : Callback g id []
  | array {id element size : Nat} {sizes : List Nat} (h : g.node id = .array element (some size))
      (hlt : element < id) (rest : Callback g element sizes) : Callback g id (size :: sizes)

theorem Callback.exists_function {id : TypeId} {sizes : List Nat} (h : Callback g id sizes) :
    ∃ f, g.function? id = some f := by
  induction h with
  | pointer h => exact ⟨_, function?_of_isDirectFunctionPointer h⟩
  | @array id element size sizes hn _ _ ih =>
    have hinner : g.inner? id = some element := inner?_of_node hn
    rw [function?_of_inner? hinner]
    exact ih

end HeaderBindings.TypeGraph
