import HeaderBindings.TypeGraph.Walk
import Mathlib.Logic.Relation

/-! The layers below a type. Where they end, no id comes twice, so none of the walks is cut off by
what it remembers: each of them gives what the list of the layers says. A function type is found
below a type exactly when some layers lead to one. -/

namespace HeaderBindings.TypeGraph

variable {g : TypeGraph} {stop : String → Bool}

/-- Going down layers, typedefs included, one gets from the first type to the second. -/
def LeadsTo (g : TypeGraph) : TypeId → TypeId → Prop :=
  Relation.ReflTransGen fun x y => g.inner? x = some y

/-- `above` lists the layers that a walk from `id` leaves, and `bottom` is the first that it does
not leave. -/
inductive Descent (g : TypeGraph) (stop : String → Bool) :
    TypeId → List TypeId → TypeId → Prop
  | bottom {id : TypeId} (h : g.step? stop id = none) : Descent g stop id [] id
  | layer {id next bottom : TypeId} {above : List TypeId} (h : g.step? stop id = some next)
      (rest : Descent g stop next above bottom) : Descent g stop id (id :: above) bottom

theorem inner?_of_node {id : TypeId} {type : CType} (h : g.node id = type) :
    g.inner? id = type.inner? := by
  rw [inner?, h]

/-- Number of pointers and arrays among some types. -/
def indirections (g : TypeGraph) (ids : List TypeId) : Nat :=
  ids.countP fun id => (g.node id).isIndirection

theorem indirections_cons (g : TypeGraph) (id : TypeId) (ids : List TypeId) :
    g.indirections (id :: ids) =
      (if (g.node id).isIndirection then 1 else 0) + g.indirections ids := by
  rw [indirections, List.countP_cons, Nat.add_comm]
  rfl

theorem Descent.unique {id b c : TypeId} {xs ys : List TypeId} (h : Descent g stop id xs b)
    (h' : Descent g stop id ys c) : xs = ys ∧ b = c := by
  induction h generalizing ys with
  | bottom hb =>
    cases h' with
    | bottom _ => exact ⟨rfl, rfl⟩
    | layer hs _ => rw [hb] at hs; cases hs
  | layer hs _ ih =>
    cases h' with
    | bottom hb => rw [hb] at hs; cases hs
    | layer hs' rest' =>
      obtain rfl : _ = _ := Option.some.inj (hs.symm.trans hs')
      obtain ⟨rfl, rfl⟩ := ih rest'
      exact ⟨rfl, rfl⟩

/-- Below each of the layers lie at most as many. -/
theorem Descent.from_mem {id b : TypeId} {xs : List TypeId} (h : Descent g stop id xs b) :
    ∀ x ∈ xs ++ [b], ∃ ys, Descent g stop x ys b ∧ ys.length ≤ xs.length := by
  induction h with
  | bottom hb =>
    intro x hx
    obtain rfl := List.mem_singleton.1 hx
    exact ⟨[], .bottom hb, Nat.le_refl _⟩
  | @layer id next b xs hs rest ih =>
    intro x hx
    rcases List.mem_cons.1 hx with rfl | hx
    · exact ⟨_, .layer hs rest, Nat.le_refl _⟩
    · obtain ⟨ys, hys, hlen⟩ := ih x hx
      exact ⟨ys, hys, Nat.le_succ_of_le hlen⟩

theorem Descent.not_mem_rest {id next b : TypeId} {xs : List TypeId}
    (hs : g.step? stop id = some next) (rest : Descent g stop next xs b) : id ∉ xs ++ [b] := by
  intro hmem
  -- `id` would have two lists of layers below it, one longer than the other
  obtain ⟨ys, hys, hlen⟩ := rest.from_mem id hmem
  obtain ⟨rfl, -⟩ := hys.unique (.layer hs rest)
  simp only [List.length_cons] at hlen
  omega

/-- What a walk may assume of the ids it remembers, one layer down. -/
theorem Descent.unseen_rest {id next b : TypeId} {xs seen : List TypeId}
    (hs : g.step? stop id = some next) (rest : Descent g stop next xs b)
    (hnew : ∀ x ∈ id :: xs ++ [b], x ∉ seen) : ∀ x ∈ xs ++ [b], x ∉ id :: seen := by
  intro x hx hmem
  rcases List.mem_cons.1 hmem with rfl | hseen
  · exact rest.not_mem_rest hs hx
  · exact hnew x (List.mem_cons_of_mem _ hx) hseen

theorem canonicalFrom_of_descent {id b : TypeId} {xs : List TypeId}
    (h : Descent g stop id xs b) :
    ∀ seen : List TypeId, (∀ x ∈ xs ++ [b], x ∉ seen) →
      g.canonicalFrom stop seen id = ⟨b, false⟩ := by
  induction h with
  | bottom hb =>
    intro seen hnew
    rw [canonicalFrom, dif_neg (hnew _ (by simp))]
    split
    · next hs => rw [hb] at hs; cases hs
    · rfl
  | layer hs rest ih =>
    intro seen hnew
    rw [canonicalFrom, dif_neg (hnew _ (by simp))]
    split
    · next hs' =>
      obtain rfl : _ = _ := Option.some.inj (hs.symm.trans hs')
      exact ih _ (rest.unseen_rest hs hnew)
    · next hn => rw [hs] at hn; cases hn

theorem resolvedDepthFrom_of_descent {id b : TypeId} {xs : List TypeId}
    (h : Descent g stop id xs b) :
    ∀ seen : List TypeId, (∀ x ∈ xs ++ [b], x ∉ seen) →
      g.resolvedDepthFrom stop seen id = g.indirections (xs ++ [b]) := by
  induction h with
  | bottom hb =>
    intro seen hnew
    rw [resolvedDepthFrom, dif_neg (hnew _ (by simp)), List.nil_append, indirections_cons]
    congr 1
    split
    · next hs => rw [hb] at hs; cases hs
    · rfl
  | layer hs rest ih =>
    intro seen hnew
    rw [resolvedDepthFrom, dif_neg (hnew _ (by simp)), List.cons_append, indirections_cons]
    congr 1
    split
    · next hs' =>
      obtain rfl : _ = _ := Option.some.inj (hs.symm.trans hs')
      exact ih _ (rest.unseen_rest hs hnew)
    · next hn => rw [hs] at hn; cases hn

theorem canonical_of_descent {id b : TypeId} {xs : List TypeId} (h : Descent g stop id xs b) :
    g.canonical stop id = ⟨b, false⟩ :=
  canonicalFrom_of_descent h [] (by simp)

theorem resolvedDepth_of_descent {id b : TypeId} {xs : List TypeId}
    (h : Descent g stop id xs b) :
    g.resolvedDepth stop id = g.indirections (xs ++ [b]) :=
  resolvedDepthFrom_of_descent h [] (by simp)

/-- A walk that stops at no typedef goes down every layer. -/
theorem step?_never (g : TypeGraph) (id : TypeId) : g.step? (fun _ => false) id = g.inner? id := by
  unfold step? inner?
  split
  · next hn => rw [hn]; rfl
  · rfl

theorem inner?_of_isFunction {id : TypeId} (h : (g.node id).isFunction) : g.inner? id = none := by
  unfold inner?
  cases hn : g.node id <;> simp_all [CType.isFunction, CType.inner?]

theorem isFunction_eq_false_of_inner? {id next : TypeId} (h : g.inner? id = some next) :
    (g.node id).isFunction = false := by
  refine Bool.eq_false_iff.2 fun hf => ?_
  rw [inner?_of_isFunction hf] at h
  cases h

theorem exists_descent {id b : TypeId}
    (h : Relation.ReflTransGen (fun x y => g.step? stop x = some y) id b)
    (hb : g.step? stop b = none) : ∃ xs, Descent g stop id xs b := by
  induction h using Relation.ReflTransGen.head_induction_on with
  | refl => exact ⟨[], .bottom hb⟩
  | head hs _ ih =>
    obtain ⟨xs, hxs⟩ := ih
    exact ⟨_, .layer hs hxs⟩

theorem descent_of_leadsTo {id b : TypeId} (h : g.LeadsTo id b) (hb : g.inner? b = none) :
    ∃ xs, Descent g (fun _ => false) id xs b := by
  apply exists_descent
  · simp only [step?_never]
    exact h
  · rw [step?_never, hb]

theorem functionFrom_of_descent {id b : TypeId} {xs : List TypeId}
    (h : Descent g (fun _ => false) id xs b) (hb : (g.node b).isFunction) :
    ∀ seen : List TypeId, (∀ x ∈ xs ++ [b], x ∉ seen) → g.functionFrom seen id = some b := by
  induction h with
  | bottom _ =>
    intro seen hnew
    rw [functionFrom, dif_neg (hnew _ (by simp)), if_pos hb]
  | @layer id next b xs hs rest ih =>
    intro seen hnew
    have hinner : g.inner? id = some next := by rw [← step?_never, hs]
    have hid := Bool.eq_false_iff.1 (isFunction_eq_false_of_inner? hinner)
    rw [functionFrom, dif_neg (hnew _ (by simp)), if_neg hid]
    split
    · next hs' =>
      obtain rfl : _ = _ := Option.some.inj (hinner.symm.trans hs')
      exact ih hb _ (rest.unseen_rest hs hnew)
    · next hn => rw [hinner] at hn; cases hn

theorem leadsTo_of_functionFrom {id f : TypeId} {seen : List TypeId}
    (h : g.functionFrom seen id = some f) : g.LeadsTo id f ∧ (g.node f).isFunction := by
  fun_induction functionFrom g seen id with
  | case1 => cases h
  | case2 seen id _ hf =>
    obtain rfl := Option.some.inj h
    exact ⟨.refl, hf⟩
  | case3 seen id _ _ next hs ih =>
    obtain ⟨hlead, hf⟩ := ih h
    exact ⟨.head hs hlead, hf⟩
  | case4 => cases h

/-- A function is found below a type exactly when its layers lead to it. -/
theorem function?_eq_some_iff {id f : TypeId} :
    g.function? id = some f ↔ g.LeadsTo id f ∧ (g.node f).isFunction := by
  constructor
  · exact leadsTo_of_functionFrom
  · rintro ⟨hlead, hf⟩
    obtain ⟨xs, hxs⟩ := descent_of_leadsTo hlead (inner?_of_isFunction hf)
    exact functionFrom_of_descent hxs hf [] (by simp)

/-- The function below a type is the one below its next layer. -/
theorem function?_of_inner? {id next : TypeId} (h : g.inner? id = some next) :
    g.function? id = g.function? next := by
  ext f
  rw [function?_eq_some_iff, function?_eq_some_iff]
  constructor
  · rintro ⟨hlead, hf⟩
    rcases Relation.ReflTransGen.cases_head hlead with rfl | ⟨_, hstep, hrest⟩
    · rw [inner?_of_isFunction hf] at h
      cases h
    · obtain rfl := Option.some.inj (h.symm.trans hstep)
      exact ⟨hrest, hf⟩
  · exact fun ⟨hlead, hf⟩ => ⟨.head h hlead, hf⟩

theorem function?_eq_none {id : TypeId}
    (h : ∀ f, g.LeadsTo id f → (g.node f).isFunction = false) : g.function? id = none := by
  cases hf : g.function? id with
  | none => rfl
  | some f =>
    obtain ⟨hlead, hfun⟩ := function?_eq_some_iff.1 hf
    rw [h f hlead] at hfun
    cases hfun

theorem function?_eq_none_iff {id : TypeId} :
    g.function? id = none ↔ ∀ f, g.LeadsTo id f → (g.node f).isFunction = false := by
  refine ⟨fun hnone f hlead => Bool.eq_false_iff.2 fun hf => ?_, function?_eq_none⟩
  rw [function?_eq_some_iff.2 ⟨hlead, hf⟩] at hnone
  cases hnone

end HeaderBindings.TypeGraph
