import HeaderBindings.Bindings.TypeText
import HeaderBindings.Proofs.TypeGraph.Unchecked

/-! The texts of types, written without the checks that make the recursion end: arrays are peeled
off and pointers passed for as long as there are any, and writing is given up after some rounds. In
a well-formed graph it is not given up if there are enough of them, and what is written is what is
written with the checks. -/

namespace HeaderBindings

open TypeGraph

/-- The number of pointers written behind a name, where they are counted without the checks. -/
def Job.suffixDepthWithin (job : Job) (rounds : Nat) (id : TypeId) : Option Nat :=
  match job.types.function? id with
  | some _ => do
    let depth ← job.types.pointerDepthWithin rounds id
    return if ← job.types.isDirectFunctionPointerWithin rounds id then depth - 1 else depth
  | none => some (job.types.resolvedDepth job.typeMap.knows id)

theorem Job.suffixDepthWithin_eq {job : Job} (h : job.types.WellFormed) {rounds : Nat} {id : TypeId}
    (hid : id < job.types.size) (hrounds : id < rounds) :
    job.suffixDepthWithin rounds id = some (job.suffixDepth id) := by
  unfold suffixDepthWithin suffixDepth
  rw [h.pointerDepthWithin_eq rounds hid hrounds,
    h.isDirectFunctionPointerWithin_eq rounds hid hrounds]
  cases job.types.function? id with
  | some f => rfl
  | none => rfl

namespace Emit

/-- An emitter that may be given up. -/
abbrev Unchecked := StateT Draft Option

/-- An emitter that comes to an end. -/
def ended {α : Type} (e : Emit α) : Unchecked α :=
  fun d => some (e.run d)

def typeTextWithin (job : Job) : Nat → TypeId → Unchecked String
  | 0, _ => failure
  | rounds + 1, id => do
    match ← job.types.nodes[id]? with
    | .array element _ => return (← typeTextWithin job rounds element) ++ "*"
    | _ =>
      let depth ← job.suffixDepthWithin (rounds + 1) id
      return (← ended (typeName job id)) ++ pointerSuffix depth

def fieldTypeTextWithin (job : Job) (field : String) : Nat → TypeId → Unchecked String
  | 0, _ => failure
  | rounds + 1, id => do
    if ← job.types.isDirectFunctionPointerWithin (rounds + 1) id then
      return Name.fieldAlias field
    else match ← job.types.nodes[id]? with
      | .array element (some size) =>
        return (← fieldTypeTextWithin job field rounds element) ++ s!"[{size}]"
      | _ => typeTextWithin job (rounds + 1) id

theorem ended_bind {α β : Type} (e : Emit α) (f : α → Emit β) :
    ended (e >>= f) = ended e >>= fun a => ended (f a) :=
  rfl

theorem lift_some_bind {α β : Type} (a : α) (f : α → Unchecked β) :
    ((some a : Option α) : Unchecked α) >>= f = f a :=
  rfl

variable {job : Job} {id : TypeId}

theorem typeTextWithin_eq (h : job.types.WellFormed) (rounds : Nat) (hid : id < job.types.size)
    (hrounds : id < rounds) : typeTextWithin job rounds id = ended (typeText job id) := by
  induction rounds generalizing id with
  | zero => cases hrounds
  | succ rounds ih =>
    rw [typeTextWithin, getElem?_of_lt hid, lift_some_bind, typeText,
      Job.suffixDepthWithin_eq h hid hrounds, lift_some_bind]
    cases hn : job.types.node id with
    | array element size =>
      have hlt := h.element_lt hn
      have hrest := Nat.lt_of_lt_of_le hlt (Nat.le_of_lt_succ hrounds)
      dsimp only
      rw [if_pos hlt, ended_bind, ih (Nat.lt_trans hlt hid) hrest]
      rfl
    | _ => rfl

theorem fieldTypeTextWithin_eq (h : job.types.WellFormed) (rounds : Nat)
    (hid : id < job.types.size) (hrounds : id < rounds) (field : String) :
    fieldTypeTextWithin job field rounds id = ended (fieldTypeText job field id) := by
  induction rounds generalizing id with
  | zero => cases hrounds
  | succ rounds ih =>
    have htext := typeTextWithin_eq h (rounds + 1) hid hrounds
    rw [fieldTypeTextWithin, h.isDirectFunctionPointerWithin_eq (rounds + 1) hid hrounds,
      lift_some_bind, getElem?_of_lt hid, lift_some_bind, fieldTypeText]
    by_cases hd : job.types.isDirectFunctionPointer id
    · rw [if_pos hd, if_pos hd]
      rfl
    · rw [if_neg hd, if_neg hd]
      cases hn : job.types.node id with
      | array element size =>
        have hlt := h.element_lt hn
        have hrest := Nat.lt_of_lt_of_le hlt (Nat.le_of_lt_succ hrounds)
        cases size with
        | some size =>
          dsimp only
          rw [if_pos hlt, ended_bind, ih (Nat.lt_trans hlt hid) hrest]
          rfl
        | none => exact htext
      | _ => exact htext

end Emit

end HeaderBindings
