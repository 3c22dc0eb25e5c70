import HeaderBindings.Proofs.Bindings.FunctionText

/-! Fields that hold function pointers, next to parameters of the same type. A parameter keeps every
pointer but the one that makes the function a function pointer. A field is given the name that its
own name makes as soon as there is a pointer, and further pointers are lost; the arrays around them
are kept. -/

namespace HeaderBindings

open TypeGraph

namespace TypeGraph

variable {g : TypeGraph} {f part id : TypeId} {depth : Nat} {sizes : List Nat}

/-- `depth` pointers, and right below them the function `f`. -/
inductive PointsTo (g : TypeGraph) (f : TypeId) : TypeId → Nat → Prop
  | function (h : (g.node f).isFunction) : PointsTo g f f 0
  | pointer {id pointee : TypeId} {isConst : Bool} {depth : Nat}
      (h : g.node id = .pointer pointee isConst) (rest : PointsTo g f pointee depth) :
      PointsTo g f id (depth + 1)

/-- Arrays of constant sizes, from the outside in, and right below them the type `part`. -/
inductive ArraysOf (g : TypeGraph) (part : TypeId) : TypeId → List Nat → Prop
  | part : ArraysOf g part part []
  | array {id element size : Nat} {sizes : List Nat} (h : g.node id = .array element (some size))
      (rest : ArraysOf g part element sizes) : ArraysOf g part id (size :: sizes)

/-- The outer pointers are counted up to the function. -/
theorem PointsTo.pointers (hg : g.WellFormed) (h : g.PointsTo f id depth) :
    g.pointerDepth id = depth ∧ g.pointerBase id = f ∧ (g.node f).isFunction := by
  induction h with
  | function hf =>
    rw [pointerDepth, pointerBase]
    cases hn : g.node f with
    | function s => exact ⟨rfl, rfl, rfl⟩
    | _ => rw [hn] at hf; cases hf
  | pointer hn _ ih =>
    obtain ⟨hdepth, hbase, hf⟩ := ih
    have hlt := hg.pointee_lt hn
    rw [pointerDepth, pointerBase, hn]
    simp only [hlt, if_true, hdepth, hbase, hf, and_self]

theorem PointsTo.isDirectFunctionPointer (hg : g.WellFormed) (h : g.PointsTo f id depth)
    (hdepth : 0 < depth) : g.isDirectFunctionPointer id := by
  obtain ⟨hpointers, hbase, hf⟩ := h.pointers hg
  rw [TypeGraph.isDirectFunctionPointer, hpointers, hbase, hf, Bool.and_true]
  exact decide_eq_true hdepth

theorem ArraysOf.callback (hg : g.WellFormed) (h : g.ArraysOf part id sizes)
    (hpart : g.isDirectFunctionPointer part) : g.Callback id sizes := by
  induction h with
  | part => exact .pointer hpart
  | array hn _ ih => exact .array hn (hg.element_lt hn) ih

end TypeGraph

namespace Emit

/-- The text of a field that holds function pointers of any depth, or arrays of them, is its own
name for the function and the sizes of the arrays. The text of the pointers as a parameter is the
name of the function and a `*` for each of them but one. So the field has as many pointers as the
parameter exactly if there is one pointer. -/
theorem fieldTypeText_eq_stars_iff (job : Job) (d : Draft) (hg : job.types.WellFormed)
    (field : String) {id part f : TypeId} {depth : Nat} {sizes : List Nat}
    (harrays : job.types.ArraysOf part id sizes) (hpart : job.types.PointsTo f part depth)
    (hdepth : 0 < depth) :
    ((fieldTypeText job field id).run d).1 = Name.fieldAlias field ++ dimensions sizes ∧
    ((typeText job part).run d).1 =
      ((typeName job part).run d).1 ++ pointerSuffix (depth - 1) ∧
    (((fieldTypeText job field id).run d).1 =
        Name.fieldAlias field ++ pointerSuffix (depth - 1) ++ dimensions sizes ↔ depth = 1) := by
  have hdirect := hpart.isDirectFunctionPointer hg hdepth
  have hfield : ((fieldTypeText job field id).run d).1 =
      Name.fieldAlias field ++ dimensions sizes := by
    rw [(writes_fieldTypeText field id).value_eq d,
      Job.fieldText_of_callback _ field (harrays.callback hg hdirect)]
  refine ⟨hfield, ?_, ?_⟩
  · have hnot (element : TypeId) (size : Option Nat)
        (hn : job.types.node part = .array element size) : ¬element < part := by
      rw [TypeGraph.isDirectFunctionPointer, pointerDepth, hn] at hdirect
      cases hdirect
    have hsuffix : job.suffixDepth part = depth - 1 := by
      rw [Job.suffixDepth, function?_of_isDirectFunctionPointer hdirect, if_pos hdirect,
        (hpart.pointers hg).1]
    rw [(writes_typeText part).value_eq d, (writes_typeName part).value_eq d,
      Job.text_of_not_array hnot, Job.suffixedText, hsuffix]
  · have hnone : Name.fieldAlias field = Name.fieldAlias field ++ pointerSuffix 0 :=
      String.append_empty.symm
    rw [hfield, String.append_left_inj]
    nth_rewrite 1 [hnone]
    rw [append_pointerSuffix_inj]
    omega

/-- A struct with two places for a function pointer, each of them behind a pointer. -/
def hooks : Job where
  header :=
    { types := ⟨#[.builtin .void, .builtin .int, .function ⟨0, [⟨"code", 1⟩], false⟩,
        .pointer 2 false, .pointer 3 false, .array 4 (some 2)]⟩
      units := [⟨"hooks.h", [.struct ⟨"table", .struct, [⟨"hooks", 5, none⟩], true, none⟩]⟩] }
  options := ⟨"demo.dll", "Demo"⟩
  typeMap := .withRules []

def hooksDraft : Draft where
  aliases := AliasTable.collect hooks.header

theorem wellFormed_hooks : hooks.types.WellFormed :=
  (Built.of_forall_lt (by decide)).wellFormed

theorem arraysOf_hooks : hooks.types.ArraysOf 4 5 [2] :=
  .array rfl .part

theorem pointsTo_hooks : hooks.types.PointsTo 2 4 2 :=
  .pointer rfl (.pointer rfl (.function rfl))

theorem fieldTypeText_eq_stars_iff_hooks :
    ((fieldTypeText hooks "hooks" 5).run hooksDraft).1 = "HooksFn[2]" ∧
      ((fieldTypeText hooks "hooks" 5).run hooksDraft).1 ≠ "HooksFn*[2]" ∧
      ((typeText hooks 4).run hooksDraft).1 = "HooksFn*" := by
  obtain ⟨hfield, htext, hstars⟩ := fieldTypeText_eq_stars_iff hooks hooksDraft wellFormed_hooks
    "hooks" arraysOf_hooks pointsTo_hooks (by decide)
  refine ⟨hfield.trans (by decide +kernel), fun heq => ?_, htext.trans (by decide +kernel)⟩
  exact absurd (hstars.1 (heq.trans (by decide +kernel))) (by decide)

/-- Not every pointer of a field but one is written. -/
theorem not_forall_field_stars :
    ¬∀ (job : Job) (d : Draft) (field : String) (id part f : TypeId) (depth : Nat)
      (sizes : List Nat), job.types.WellFormed → job.types.ArraysOf part id sizes →
      job.types.PointsTo f part depth → 0 < depth →
      ((fieldTypeText job field id).run d).1 =
        Name.fieldAlias field ++ pointerSuffix (depth - 1) ++ dimensions sizes := by
  intro h
  have htext := h hooks hooksDraft "hooks" 5 4 2 2 [2] wellFormed_hooks arraysOf_hooks
    pointsTo_hooks (by decide)
  revert htext
  decide +kernel

end Emit

end HeaderBindings
