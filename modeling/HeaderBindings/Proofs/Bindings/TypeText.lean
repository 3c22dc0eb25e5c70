import HeaderBindings.Proofs.Bindings.Script
import HeaderBindings.Proofs.TypeGraph.Descent

/-! The text of a type whose layers end. Arrays are peeled off from the outside, pointers are
counted by one walk and the name is looked for by another; for a type that leads to no function
they add up to the text of the bottom layer and a `*` for each pointer and array above it, however
typedefs stand between them. -/

namespace HeaderBindings

/-- A typedef that is bound to a type. -/
def CType.typedefOf (name : String) (target : TypeId) : CType :=
  .typedef name (some target)

/-- Text of the layer at which a walk ends. -/
def TypeMap.baseText (map : TypeMap) : CType → String
  | .builtin type => map.convert type.spelling
  | .typedef name _ | .tagged _ name => if name.isEmpty then nameless else map.convert name
  | .pointer _ _ | .array _ _ | .function _ | .unresolved _ => nameless

theorem TypeMap.baseText_typedef {map : TypeMap} {name : String} {target : Option TypeId}
    (hne : name ≠ "") : map.baseText (.typedef name target) = map.convert name :=
  if_neg fun hempty => hne (String.isEmpty_iff.1 hempty)

theorem TypeMap.baseText_tagged {map : TypeMap} {kind : TagKind} {name : String}
    (hne : name ≠ "") : map.baseText (.tagged kind name) = map.convert name :=
  if_neg fun hempty => hne (String.isEmpty_iff.1 hempty)

theorem pointerSuffix_succ (depth : Nat) :
    pointerSuffix (depth + 1) = pointerSuffix depth ++ "*" := by
  unfold pointerSuffix
  rw [List.replicate_succ', String.ofList_append]

namespace TypeGraph

variable {g : TypeGraph} {stop : String → Bool}

theorem Descent.leadsTo {id b : TypeId} {xs : List TypeId} (h : Descent g stop id xs b) :
    g.LeadsTo id b := by
  induction h with
  | bottom _ => exact .refl
  | layer hs _ ih => exact .head (inner?_of_step? hs) ih

/-- Below an array the walk goes on with its element. -/
theorem step?_of_array {id element : TypeId} {size : Option Nat}
    (hn : g.node id = .array element size) : g.step? stop id = some element := by
  simp only [step?, hn, CType.inner?]

end TypeGraph

namespace Job

open TypeGraph

variable {job : Job} {aliases : AliasTable}

theorem layerName_eq_baseText {id : TypeId} (h : (job.types.node id).isFunction = false) :
    job.layerName aliases id = job.typeMap.baseText (job.types.node id) := by
  unfold layerName TypeMap.baseText
  cases hn : job.types.node id with
  | function s => rw [hn] at h; cases h
  | _ => rfl

theorem typeName_of_descent {id b : TypeId} {xs : List TypeId}
    (h : Descent job.types job.typeMap.knows id xs b)
    (hfun : ∀ f, job.types.LeadsTo id f → (job.types.node f).isFunction = false) :
    job.typeName aliases id = job.typeMap.baseText (job.types.node b) := by
  simp only [typeName, namingType, function?_eq_none hfun, canonical_of_descent h]
  exact layerName_eq_baseText (hfun b h.leadsTo)

theorem suffixedText_of_descent {id b : TypeId} {xs : List TypeId}
    (h : Descent job.types job.typeMap.knows id xs b)
    (hfun : ∀ f, job.types.LeadsTo id f → (job.types.node f).isFunction = false) :
    job.suffixedText (job.naming aliases) id = job.typeMap.baseText (job.types.node b) ++
      pointerSuffix (job.types.indirections (xs ++ [b])) := by
  have hdepth : job.suffixDepth id =
      job.types.indirections (xs ++ [b]) := by
    simp only [suffixDepth, function?_eq_none hfun, resolvedDepth_of_descent h]
  rw [suffixedText, naming, hdepth]
  exact congrArg (· ++ _) (typeName_of_descent h hfun)

theorem text_of_descent {id b : TypeId} {xs : List TypeId}
    (h : Descent job.types job.typeMap.knows id xs b)
    (hfun : ∀ f, job.types.LeadsTo id f → (job.types.node f).isFunction = false) :
    job.text (job.naming aliases) id = job.typeMap.baseText (job.types.node b) ++
      pointerSuffix (job.types.indirections (xs ++ [b])) := by
  induction h with
  | @bottom id hb =>
    rw [text_of_not_array fun _ _ hn => by rw [step?_of_array hn] at hb; cases hb]
    exact suffixedText_of_descent (.bottom hb) hfun
  | @layer id next b xs hs rest ih =>
    by_cases harray : ∃ element size, job.types.node id = .array element size ∧ element < id
    · obtain ⟨element, size, hn, hlt⟩ := harray
      obtain rfl : element = next := Option.some.inj ((step?_of_array hn).symm.trans hs)
      have hrest := ih fun f hf => hfun f (.head (inner?_of_step? hs) hf)
      have harrayLayer : (job.types.node id).isIndirection := by rw [hn]; rfl
      rw [text_of_array hn hlt, hrest, List.cons_append, indirections_cons, if_pos harrayLayer,
        Nat.add_comm, pointerSuffix_succ, String.append_assoc]
    · rw [text_of_not_array fun element size hn hlt => harray ⟨element, size, hn, hlt⟩]
      exact suffixedText_of_descent (.layer hs rest) hfun

end Job

namespace Emit

open TypeGraph

end Emit

end HeaderBindings
