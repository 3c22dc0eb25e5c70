import HeaderBindings.Proofs.Bindings.FunctionText

/-! The text of a field whose type leads to no function. Arrays of constant sizes on the outside
stay arrays, and everything from the first other layer on is counted as pointers. A typedef is such
a layer: behind it an array of a constant size turns into a pointer, unlike the same array without
the typedef. -/

namespace HeaderBindings

open TypeGraph

namespace TypeGraph

variable {g : TypeGraph} {stop : String → Bool}

/-- The size of an array of constant size. -/
def arraySize? (g : TypeGraph) (id : TypeId) : Option Nat :=
  match g.node id with
  | .array _ size => size
  | _ => none

def isFixedArray (g : TypeGraph) (id : TypeId) : Bool :=
  (g.arraySize? id).isSome

/-- The pointers and arrays among some layers, with the constant sizes of the arrays. -/
def extents (g : TypeGraph) (layers : List TypeId) : List (Option Nat) :=
  (layers.filter fun id => (g.node id).isIndirection).map g.arraySize?

/-- What a field keeps of them: the constant sizes up to the first other layer. -/
def fieldExtents (g : TypeGraph) (layers : List TypeId) : List (Option Nat) :=
  g.extents (layers.takeWhile g.isFixedArray) ++
    (g.extents (layers.dropWhile g.isFixedArray)).map fun _ => none

/-- There is nothing but typedefs in front of an array of constant size. -/
inductive OpensArray (g : TypeGraph) : List TypeId → Prop
  | array {id : TypeId} {rest : List TypeId} (h : g.isFixedArray id) : OpensArray g (id :: rest)
  | typedef {id : TypeId} {rest : List TypeId} (h : g.isTypedef id) (hrest : OpensArray g rest) :
      OpensArray g (id :: rest)

/-- A typedef stands in front of an array of constant size, and only such arrays around it. -/
inductive HidesArray (g : TypeGraph) : List TypeId → Prop
  | typedef {id : TypeId} {rest : List TypeId} (h : g.isTypedef id) (hrest : OpensArray g rest) :
      HidesArray g (id :: rest)
  | array {id : TypeId} {rest : List TypeId} (h : g.isFixedArray id) (hrest : HidesArray g rest) :
      HidesArray g (id :: rest)

theorem isFixedArray_iff {id : TypeId} :
    g.isFixedArray id ↔ ∃ element size, g.node id = .array element (some size) := by
  unfold isFixedArray arraySize?
  cases g.node id with
  | array element size => cases size <;> simp
  | _ => simp

theorem isIndirection_of_isFixedArray {id : TypeId} (h : g.isFixedArray id) :
    (g.node id).isIndirection := by
  obtain ⟨element, size, hn⟩ := isFixedArray_iff.1 h
  rw [hn]
  rfl

theorem isTypedef_of_isFixedArray {id : TypeId} (h : g.isFixedArray id) :
    g.isTypedef id = false := by
  obtain ⟨element, size, hn⟩ := isFixedArray_iff.1 h
  rw [isTypedef, hn]

theorem HidesArray.exists_isTypedef {layers : List TypeId} (h : g.HidesArray layers) :
    ∃ id ∈ layers, g.isTypedef id := by
  induction h with
  | typedef h _ => exact ⟨_, List.mem_cons_self, h⟩
  | array _ _ ih =>
    obtain ⟨id, hid, htypedef⟩ := ih
    exact ⟨id, List.mem_cons_of_mem _ hid, htypedef⟩

theorem extents_cons (g : TypeGraph) (id : TypeId) (rest : List TypeId) :
    g.extents (id :: rest) =
      if (g.node id).isIndirection then g.arraySize? id :: g.extents rest else g.extents rest := by
  rw [extents, List.filter_cons]
  split <;> rfl

theorem fieldExtents_cons (g : TypeGraph) (id : TypeId) (rest : List TypeId) :
    g.fieldExtents (id :: rest) =
      if g.isFixedArray id then g.arraySize? id :: g.fieldExtents rest
      else (g.extents (id :: rest)).map fun _ => none := by
  rw [fieldExtents, List.takeWhile_cons, List.dropWhile_cons]
  by_cases h : g.isFixedArray id
  · rw [if_pos h, if_pos h, if_pos h, extents_cons, if_pos (isIndirection_of_isFixedArray h),
      List.cons_append, fieldExtents]
  · rw [if_neg h, if_neg h, if_neg h]
    rfl

theorem length_extents (g : TypeGraph) (layers : List TypeId) :
    (g.extents layers).length = g.indirections layers := by
  rw [extents, List.length_map, indirections, List.countP_eq_length_filter]

/-- Each layer is a typedef, or else a pointer or an array. -/
def Layered (g : TypeGraph) (layers : List TypeId) : Prop :=
  ∀ id ∈ layers, g.isTypedef id = !(g.node id).isIndirection

/-- The first pointer or array is an array of constant size. -/
theorem opensArray_iff {layers : List TypeId} (h : g.Layered layers) :
    g.OpensArray layers ↔ ∃ size rest, g.extents layers = some size :: rest := by
  induction layers with
  | nil => exact iff_of_false (fun h => nomatch h) (by simp [extents])
  | cons id rest ih =>
    obtain ⟨hid, hrest⟩ := List.forall_mem_cons.1 h
    rw [extents_cons]
    by_cases hindirection : (g.node id).isIndirection
    · rw [hindirection] at hid
      rw [if_pos hindirection]
      constructor
      · rintro (harray | ⟨htypedef, -⟩)
        · obtain ⟨size, hsize⟩ := Option.isSome_iff_exists.1 harray
          exact ⟨size, g.extents rest, by rw [hsize]⟩
        · cases htypedef.symm.trans hid
      · rintro ⟨size, rest', heq⟩
        exact .array (Option.isSome_iff_exists.2 ⟨size, (List.cons.inj heq).1⟩)
    · rw [if_neg hindirection, ← ih hrest]
      constructor
      · rintro (harray | ⟨-, hopens⟩)
        · exact absurd (isIndirection_of_isFixedArray harray) hindirection
        · exact hopens
      · exact .typedef (by rw [hid]; simpa using hindirection)

/-- No `*` is written for the layer at the bottom. -/
theorem indirections_bottom {b : TypeId} (h : g.step? stop b = none) : g.indirections [b] = 0 := by
  rw [indirections_cons]
  cases hn : g.node b with
  | pointer pointee isConst => simp [step?, hn, CType.inner?] at h
  | array element size => rw [step?_of_array hn] at h; cases h
  | _ => rfl

theorem Descent.step?_bottom {id b : TypeId} {xs : List TypeId} (h : Descent g stop id xs b) :
    g.step? stop b = none := by
  induction h with
  | bottom hb => exact hb
  | layer _ _ ih => exact ih

theorem Descent.layered {id b : TypeId} {xs : List TypeId} (h : Descent g stop id xs b) :
    g.Layered xs := by
  induction h with
  | bottom _ => exact fun _ hx => nomatch hx
  | @layer id next b xs hs rest ih =>
    refine List.forall_mem_cons.2 ⟨?_, ih⟩
    have hinner := inner?_of_step? hs
    unfold isTypedef
    rw [inner?] at hinner
    cases hn : g.node id <;> simp_all [CType.inner?, CType.isIndirection]

theorem Descent.function?_eq {id b : TypeId} {xs : List TypeId} (h : Descent g stop id xs b) :
    g.function? id = g.function? b := by
  induction h with
  | bottom _ => rfl
  | layer hs _ ih => exact (function?_of_inner? (inner?_of_step? hs)).trans ih

end TypeGraph

/-- Pointers and arrays around a base, from the outside in: an array of a constant size stays an
array as long as there are only such arrays around it, and anything else is a pointer. -/
def storageText (base : String) : List (Option Nat) → String
  | [] => base
  | some size :: inner => storageText base inner ++ s!"[{size}]"
  | none :: inner => base ++ pointerSuffix (inner.length + 1)

theorem storageText_map_none (base : String) (extents : List (Option Nat)) :
    storageText base (extents.map fun _ => none) = base ++ pointerSuffix extents.length := by
  cases extents with
  | nil => simp [storageText, pointerSuffix]
  | cons extent rest => rw [List.map_cons, storageText, List.length_map, List.length_cons]

theorem length_pointerSuffix (depth : Nat) : (pointerSuffix depth).length = depth := by
  simp [pointerSuffix]

theorem two_le_length_dimension (size : Nat) : 2 ≤ s!"[{size}]".length := by
  have hopen : (toString "[").length = 1 := rfl
  have hclose : (toString "]").length = 1 := rfl
  simp only [String.length_append, hopen, hclose]
  omega

theorem length_storageText (base : String) (extents : List (Option Nat)) :
    base.length + extents.length ≤ (storageText base extents).length := by
  induction extents with
  | nil => exact Nat.le_refl _
  | cons extent rest ih =>
    cases extent with
    | none => simp [storageText, pointerSuffix]
    | some size =>
      rw [storageText, String.length_append, List.length_cons]
      have hsize := two_le_length_dimension size
      omega

/-- Pointers alone are written where no array of constant size is outermost, and only there. -/
theorem storageText_eq_stars_iff (base : String) (extents : List (Option Nat)) :
    storageText base extents = base ++ pointerSuffix extents.length ↔
      ¬∃ size rest, extents = some size :: rest := by
  cases extents with
  | nil => simp [storageText, pointerSuffix]
  | cons extent rest =>
    cases extent with
    | none => simp [storageText]
    | some size =>
      refine iff_of_false (fun heq => ?_) (not_not.2 ⟨size, rest, rfl⟩)
      -- a size between brackets is longer than one star
      have hinner := length_storageText base rest
      have hsize := two_le_length_dimension size
      have hlength := String.length_append (storageText base rest) s!"[{size}]"
      rw [storageText] at heq
      rw [heq, String.length_append, length_pointerSuffix, List.length_cons] at hlength
      omega

/-- A field is written as it is stored exactly if no array of constant size hides behind a
typedef. -/
theorem storageText_fieldExtents_iff {g : TypeGraph} (base : String) {layers : List TypeId}
    (h : g.Layered layers) :
    storageText base (g.fieldExtents layers) = storageText base (g.extents layers) ↔
      ¬g.HidesArray layers := by
  induction layers with
  | nil => exact iff_of_true rfl fun h => nomatch h
  | cons id rest ih =>
    obtain ⟨hid, hrest⟩ := List.forall_mem_cons.1 h
    rw [fieldExtents_cons]
    by_cases hfixed : g.isFixedArray id
    · obtain ⟨size, hsize⟩ := Option.isSome_iff_exists.1 hfixed
      rw [if_pos hfixed, extents_cons, if_pos (isIndirection_of_isFixedArray hfixed), hsize,
        storageText, storageText, String.append_left_inj, ih hrest]
      refine not_congr ⟨.array hfixed, ?_⟩
      rintro (⟨htypedef, -⟩ | ⟨-, hhides⟩)
      · rw [isTypedef_of_isFixedArray hfixed] at htypedef
        cases htypedef
      · exact hhides
    · rw [if_neg hfixed, storageText_map_none, eq_comm, storageText_eq_stars_iff,
        ← opensArray_iff h]
      refine not_congr ⟨?_, ?_⟩
      · rintro (hfixed' | ⟨htypedef, hopens⟩)
        · exact absurd hfixed' hfixed
        · exact .typedef htypedef hopens
      · rintro (⟨htypedef, hopens⟩ | ⟨hfixed', -⟩)
        · exact .typedef htypedef hopens
        · exact absurd hfixed' hfixed

/-- Arrays stand behind the pointers. -/
theorem exists_storageText_eq (base : String) (extents : List (Option Nat)) :
    ∃ depth sizes, storageText base extents = base ++ pointerSuffix depth ++ dimensions sizes := by
  induction extents with
  | nil => exact ⟨0, [], by simp [storageText, pointerSuffix, dimensions]⟩
  | cons extent rest ih =>
    cases extent with
    | none => exact ⟨rest.length + 1, [], by rw [storageText, dimensions, String.append_empty]⟩
    | some size =>
      obtain ⟨depth, sizes, htext⟩ := ih
      exact ⟨depth, size :: sizes, by rw [storageText, htext, dimensions, String.append_assoc]⟩

namespace Job

variable {job : Job} {aliases : AliasTable} {id b : TypeId} {xs : List TypeId}

theorem not_isDirectFunctionPointer
    (hfun : ∀ f, job.types.LeadsTo id f → (job.types.node f).isFunction = false) :
    ¬job.types.isDirectFunctionPointer id := by
  intro hdirect
  have hsome := function?_of_isDirectFunctionPointer hdirect
  rw [function?_eq_none hfun] at hsome
  cases hsome

/-- Where the text of a field is that of its type, nothing but pointers is written. -/
theorem fieldText_of_descent_of_not_array (field : String)
    (h : Descent job.types job.typeMap.knows id xs b)
    (hfun : ∀ f, job.types.LeadsTo id f → (job.types.node f).isFunction = false)
    (hn : ∀ element size, job.types.node id = .array element (some size) → ¬element < id) :
    job.fieldText (job.naming aliases) field id =
      storageText (job.typeMap.baseText (job.types.node b))
        ((job.types.extents xs).map fun _ => none) := by
  rw [fieldText_of_not_array (not_isDirectFunctionPointer hfun) hn, text_of_descent h hfun,
    storageText_map_none, length_extents, indirections_append, indirections_bottom h.step?_bottom,
    Nat.add_zero]

/-- The text of a field whose layers end with no function: arrays of constant sizes on the outside
stay arrays. -/
theorem exists_fieldText_eq (aliases : AliasTable) (field : String)
    (h : Descent job.types job.typeMap.knows id xs b)
    (hfun : ∀ f, job.types.LeadsTo id f → (job.types.node f).isFunction = false) :
    ∃ extents, job.fieldText (job.naming aliases) field id =
        storageText (job.typeMap.baseText (job.types.node b)) extents ∧
      (job.types.WellFormed → extents = job.types.fieldExtents xs) := by
  induction h with
  | @bottom id hb =>
    have harray (element : TypeId) (size : Nat)
        (hn : job.types.node id = .array element (some size)) : ¬element < id := by
      rw [step?_of_array hn] at hb
      cases hb
    exact ⟨_, fieldText_of_descent_of_not_array field (.bottom hb) hfun harray, fun _ => rfl⟩
  | @layer id next b xs hs rest ih =>
    by_cases harray : ∃ element size, job.types.node id = .array element (some size) ∧ element < id
    · obtain ⟨element, size, hn, hlt⟩ := harray
      obtain rfl : element = next := Option.some.inj ((step?_of_array hn).symm.trans hs)
      obtain ⟨extents, htext, hextents⟩ := ih fun f hf => hfun f (.head (inner?_of_step? hs) hf)
      have hsize : job.types.arraySize? id = some size := by rw [arraySize?, hn]
      refine ⟨some size :: extents, ?_, fun hg => ?_⟩
      · rw [fieldText_of_array (not_isDirectFunctionPointer hfun) hn hlt, htext, storageText]
      · rw [fieldExtents_cons, isFixedArray, hsize, hextents hg]
        rfl
    · have hnone (element : TypeId) (size : Nat)
          (hn : job.types.node id = .array element (some size)) : ¬element < id :=
        fun hlt => harray ⟨element, size, hn, hlt⟩
      refine ⟨_, fieldText_of_descent_of_not_array field (.layer hs rest) hfun hnone, fun hg => ?_⟩
      rw [fieldExtents_cons, if_neg]
      intro hfixed
      obtain ⟨element, size, hn⟩ := isFixedArray_iff.1 hfixed
      exact hnone element size hn (hg.element_lt hn)

theorem fieldText_of_descent (aliases : AliasTable) (field : String) (hg : job.types.WellFormed)
    (h : Descent job.types job.typeMap.knows id xs b)
    (hfun : ∀ f, job.types.LeadsTo id f → (job.types.node f).isFunction = false) :
    job.fieldText (job.naming aliases) field id =
      storageText (job.typeMap.baseText (job.types.node b)) (job.types.fieldExtents xs) := by
  obtain ⟨extents, htext, hextents⟩ := exists_fieldText_eq aliases field h hfun
  rw [htext, hextents hg]

end Job

namespace Emit

/-- A field whose type leads to no function is written with the arrays of constant sizes on the
outside, and a `*` for each pointer and array from the first other layer on. So it is written as it
is stored, which is how the type without the typedefs is written, exactly if no array of constant
size hides behind a typedef. -/
theorem fieldTypeText_eq_storageText_iff (job : Job) (d : Draft) (hd : d.Coherent job)
    (hg : job.types.WellFormed) (field : String) {id b : TypeId} {xs : List TypeId}
    (h : Descent job.types job.typeMap.knows id xs b)
    (hfun : ∀ f, job.types.LeadsTo id f → (job.types.node f).isFunction = false) :
    let written (x : TypeId) := ((fieldTypeText job field x).run d).1
    let base := job.typeMap.baseText (job.types.node b)
    written id = storageText base (job.types.fieldExtents xs) ∧
    (∀ bare layers, Descent job.types job.typeMap.knows bare layers b →
      (∀ x ∈ layers, ¬job.types.isTypedef x) → job.types.extents layers = job.types.extents xs →
      written bare = storageText base (job.types.extents xs)) ∧
    (written id = storageText base (job.types.extents xs) ↔ ¬job.types.HidesArray xs) := by
  intro written base
  have hwritten {x : TypeId} {layers : List TypeId}
      (hx : Descent job.types job.typeMap.knows x layers b) :
      written x = storageText base (job.types.fieldExtents layers) := by
    have hnone : job.types.function? x = none := by
      rw [hx.function?_eq, ← h.function?_eq, function?_eq_none hfun]
    change ((fieldTypeText job field x).run d).1 = _
    rw [(writes_fieldTypeText field x).value_eq d, Draft.naming_of_coherent hd]
    exact Job.fieldText_of_descent d.aliases field hg hx (function?_eq_none_iff.1 hnone)
  refine ⟨hwritten h, fun bare layers hbare hplain hextents => ?_, ?_⟩
  · rw [hwritten hbare, ← hextents, storageText_fieldExtents_iff base hbare.layered]
    intro hhides
    obtain ⟨x, hx, htypedef⟩ := hhides.exists_isTypedef
    exact hplain x hx htypedef
  · rw [hwritten h, storageText_fieldExtents_iff base h.layered]

/-- A typedef for an array, and an array of those. -/
def bodies : Job where
  header := { types := ⟨#[.builtin .int, .array 0 (some 3), .typedefOf "vec3" 1,
    .array 2 (some 2)]⟩ }
  options := ⟨"demo.dll", "Demo"⟩
  typeMap := .withRules []

theorem coherent_bodies : Draft.Coherent bodies {} :=
  fun _ _ h => nomatch h

theorem wellFormed_bodies : bodies.types.WellFormed :=
  (Built.of_forall_lt (by decide)).wellFormed

theorem descent_bodies : Descent bodies.types bodies.typeMap.knows 3 [3, 2, 1] 0 :=
  .layer rfl (.layer (by decide +kernel) (.layer rfl (.bottom rfl)))

theorem isFunction_bodies (f : TypeId) : (bodies.types.node f).isFunction = false := by
  match f with
  | 0 | 1 | 2 | 3 => rfl
  | _ + 4 => rfl

theorem fieldTypeText_eq_storageText_iff_bodies :
    ((fieldTypeText bodies "speeds" 3).run {}).1 = "int32*[2]" ∧
      ((fieldTypeText bodies "speeds" 3).run {}).1 ≠ "int32[3][2]" := by
  obtain ⟨htext, -, hstored⟩ := fieldTypeText_eq_storageText_iff bodies {} coherent_bodies
    wellFormed_bodies "speeds" descent_bodies fun f _ => isFunction_bodies f
  have hhides : bodies.types.HidesArray [3, 2, 1] := .array rfl (.typedef rfl (.array rfl))
  refine ⟨htext.trans (by decide +kernel), fun heq => ?_⟩
  exact hstored.1 (heq.trans (by decide +kernel)) hhides

/-- Not every field is written as it is stored. -/
theorem not_forall_fieldTypeText_eq_storageText :
    ¬∀ (job : Job) (d : Draft) (field : String) (id b : TypeId) (xs : List TypeId),
      d.Coherent job → job.types.WellFormed → Descent job.types job.typeMap.knows id xs b →
      (∀ f, job.types.LeadsTo id f → (job.types.node f).isFunction = false) →
      ((fieldTypeText job field id).run d).1 =
        storageText (job.typeMap.baseText (job.types.node b)) (job.types.extents xs) := by
  intro h
  have hstored := h bodies {} "speeds" 3 0 [3, 2, 1] coherent_bodies wellFormed_bodies
    descent_bodies fun f _ => isFunction_bodies f
  revert hstored
  decide +kernel

end Emit

end HeaderBindings
