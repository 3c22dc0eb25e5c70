import HeaderBindings.Proofs.Bindings.Unchecked
import HeaderBindings.Proofs.Report.Declarations
import HeaderBindings.Proofs.TypeGraph.Descent

/-! Reading comes to an end, and so does whatever follows the types that were read: typedefs may
lead back to themselves, but all that is done without remembering where it has been goes to smaller
ids. -/

namespace HeaderBindings

open Relation

theorem TypeGraph.WellFormed.lt_of_leadsTo {g : TypeGraph} (h : g.WellFormed) {id x : TypeId}
    (hid : id < g.size) (hx : g.LeadsTo id x) : x < g.size := by
  cases hx with
  | refl => exact hid
  | tail _ hlast => exact h.inner?_lt hlast

/-- In every graph that was built the ids are in range, cycles go through typedefs, and the walks
that do not remember where they have been end; a report is read to such a graph; and it is read as
if the number of typedefs inside each other had no bound. -/
theorem Report.walks_end :
    (∀ g : TypeGraph, g.Built →
      (∀ id x, g.Refers id x → x < g.size) ∧
      (∀ id, ∀ child ∈ TypeGraph.children (g.node id), child < id) ∧
      (∀ id, TransGen g.Refers id id →
        ∃ x, g.isTypedef x ∧ ReflTransGen g.Refers id x ∧ ReflTransGen g.Refers x id) ∧
      ∀ id < g.size,
        (∀ x, g.LeadsTo id x → x < g.size) ∧
        ∀ rounds, id < rounds →
          g.pointerDepthWithin rounds id = some (g.pointerDepth id) ∧
          g.isDirectFunctionPointerWithin rounds id = some (g.isDirectFunctionPointer id) ∧
          g.displayNameWithin rounds id = some (g.displayName id) ∧
          ∀ job : Job, job.types = g →
            Emit.typeTextWithin job rounds id = Emit.ended (Emit.typeText job id) ∧
            ∀ field, Emit.fieldTypeTextWithin job field rounds id =
              Emit.ended (Emit.fieldTypeText job field id)) ∧
    (∀ (report : Report) (skipSystemHeaders : Bool),
      let header := (report.reading skipSystemHeaders).header
      header.types.Built ∧
        ∀ declaration ∈ header.declarations, ∀ id ∈ declaration.typeIds, id < header.types.size) ∧
    ∀ (report : Report) (tagNames : TagNames) (stuck : Entity → Read TypeId) (n : Nat),
      report.nesting < n → ∀ s : Reading, s.Sound →
        let inner := (report.typedefStep tagNames)^[n] stuck
        (∀ e, (inner e).run s = (report.typedefType tagNames report.nesting e).run s) ∧
        ∀ names type, (TypeReader.read ⟨report, tagNames, inner⟩ names type).run s =
          (report.readType tagNames names type).run s := by
  refine ⟨fun g hg => ?_, fun report skip => ?_, fun report tagNames stuck n hn s hs => ?_⟩
  · have h := hg.wellFormed
    refine ⟨fun id x => h.reference_lt, h.children_lt, fun id => h.typedef_on_cycle,
      fun id hid => ⟨fun x => h.lt_of_leadsTo hid, fun rounds hrounds => ?_⟩⟩
    refine ⟨h.pointerDepthWithin_eq rounds hid hrounds,
      h.isDirectFunctionPointerWithin_eq rounds hid hrounds,
      h.displayNameWithin_eq rounds hid hrounds, ?_⟩
    rintro job rfl
    exact ⟨Emit.typeTextWithin_eq h rounds hid hrounds,
      Emit.fieldTypeTextWithin_eq h rounds hid hrounds⟩
  · have hs := report.sound_reading skip
    exact ⟨hs.built, fun _ => hs.header_lt⟩
  · have hw := within_of_sound hs report
    exact ⟨fun e => (agrees_nesting stuck hn e s hw (List.forall_mem_nil _)).1,
      fun names type => (agrees_readType stuck hn names type s hw (List.forall_mem_nil _)).1⟩

/-- Pointers to themselves, by way of a typedef. -/
def TypeGraph.selfPointer : TypeGraph :=
  let name := "self"
  ((({} : TypeGraph).add (.typedef name none)).add (.pointer 0 false)).bind 0 1

theorem TypeGraph.built_selfPointer : selfPointer.Built := by
  unfold selfPointer
  exact .bind (.add (.add .empty (by decide)) (by decide)) (by decide) (by decide)

def Entity.selfPointer : Entity :=
  .mk
    { kind := .typedefDecl
      name := some "self"
      underlying := some (.mk { kind := .pointer, spelling := "self *" }
        (some (.mk { kind := .typedef, spelling := "self", declaration := some 0 }
          none none none none none []))
        none none none none []) }
    [] []

def Report.selfPointer : Report where
  root := .mk { kind := .translationUnit } [Entity.selfPointer] []
  declarations := #[Entity.selfPointer]

theorem Report.walks_end_selfPointer :
    (∃ x, TypeGraph.selfPointer.isTypedef x ∧ ReflTransGen TypeGraph.selfPointer.Refers 1 x) ∧
    TypeGraph.selfPointer.pointerDepthWithin 2 1 = some 1 ∧
    TypeGraph.selfPointer.displayNameWithin 2 1 = some "self*" ∧
    (Report.selfPointer.reading false).header.types.Built ∧
    ∀ stuck, (((Report.selfPointer.typedefStep [])^[3] stuck Entity.selfPointer).run {}).2.types =
      TypeGraph.selfPointer := by
  obtain ⟨hgraph, hheader, hread⟩ := Report.walks_end
  obtain ⟨-, -, hcycles, hwalks⟩ := hgraph TypeGraph.selfPointer TypeGraph.built_selfPointer
  have hround : TransGen TypeGraph.selfPointer.Refers 1 1 :=
    .tail (.single (by decide : TypeGraph.selfPointer.Refers 1 0)) (by decide)
  obtain ⟨x, htypedef, hx, -⟩ := hcycles 1 hround
  obtain ⟨-, hends⟩ := hwalks 1 (by decide)
  obtain ⟨hdepth, -, hname, -⟩ := hends 2 (by decide)
  refine ⟨⟨x, htypedef, hx⟩, hdepth.trans (by decide +kernel), hname.trans (by decide +kernel),
    (hheader Report.selfPointer false).1, fun stuck => ?_⟩
  rw [(hread Report.selfPointer [] stuck 3 (by decide) {} sound_empty).1]
  exact congrArg TypeGraph.mk (by decide +kernel)

end HeaderBindings
