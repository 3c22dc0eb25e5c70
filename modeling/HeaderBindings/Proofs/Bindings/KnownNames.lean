import HeaderBindings.Proofs.Bindings.Independent

/-! Typedefs with a name that the type table knows. The walks for the name and for the pointers stop
there, so the converted name stands for whatever the typedef is bound to. The walk for a function
does not stop and comes first: a typedef with a function below it gets the name of the function. -/

namespace HeaderBindings

open TypeGraph

namespace TypeGraph

variable {g : TypeGraph} {stop : String → Bool} {b p : TypeId} {name : String}
  {target : Option TypeId} {isConst : Bool}

theorem step?_of_known (hn : g.node b = .typedef name target) (hknown : stop name) :
    g.step? stop b = none := by
  rw [step?, hn]
  exact if_pos hknown

theorem pointerDepth_of_typedef (hn : g.node b = .typedef name target) : g.pointerDepth b = 0 := by
  rw [pointerDepth, hn]

theorem pointerBase_of_typedef (hn : g.node b = .typedef name target) : g.pointerBase b = b := by
  rw [pointerBase, hn]

/-- Outer pointers are counted down to the typedef. -/
theorem pointers_of_typedef (hp : g.node p = .pointer b isConst)
    (hn : g.node b = .typedef name target) : g.pointerDepth p = 1 ∧ g.pointerBase p = b := by
  rw [pointerDepth, pointerBase, hp]
  by_cases hlt : b < p
  · simp only [hlt, if_true, pointerDepth_of_typedef hn, pointerBase_of_typedef hn, and_self]
  · simp only [hlt, if_false, and_self]

theorem not_direct_of_typedef (hn : g.node b = .typedef name target) (hbase : g.pointerBase p = b) :
    ¬g.isDirectFunctionPointer p := by
  simp only [isDirectFunctionPointer, hbase, hn, CType.isFunction, Bool.and_false,
    Bool.false_eq_true, not_false_iff]

end TypeGraph

namespace Job

variable {job : Job} {aliases : AliasTable} {id f : TypeId}

/-- The text of a type that leads to a function, where no function pointer is in sight. -/
theorem text_of_function (hfun : job.types.function? id = some f)
    (hdirect : ¬job.types.isDirectFunctionPointer id)
    (harray : ∀ element size, job.types.node id ≠ .array element size) :
    job.text (job.naming aliases) id =
      functionName aliases f ++ pointerSuffix (job.types.pointerDepth id) := by
  have hname : (job.naming aliases).name id = functionName aliases f :=
    typeName_of_function aliases hfun
  have hdepth : job.suffixDepth id = job.types.pointerDepth id := by
    simp only [suffixDepth, hfun, if_neg hdirect]
  rw [text_of_not_array fun element size hn _ => harray element size hn, suffixedText, hname,
    hdepth]

end Job

namespace Emit

/-- Where nothing is registered meanwhile, texts are those under the table of the beginning. -/
theorem typeText_runAll_of_registers {job : Job} {aliases : AliasTable} {ops : List Operation}
    (h : ∀ op ∈ ops, op.registers = false) (id : TypeId) :
    ((typeText job id).run (Operation.runAll job { aliases } ops)).1 =
      job.text (job.naming aliases) id := by
  have hcoherent : Draft.Coherent job { aliases } := fun _ _ h => nomatch h
  rw [(writes_typeText id).value_eq, (Operation.grows_runAll ops { aliases } h).naming_eq,
    Draft.naming_of_coherent hcoherent]

/-- A typedef with a name that the type table knows is written as the converted name, whatever it
stands for, unless it leads to a function; a use of it adds a `*` for each pointer and array, and
the sizes of the arrays around a field. A typedef that leads to a function is written as the name of
the function. A pointer to the typedef adds one `*` in either case. -/
theorem known_typedef_text (job : Job) (aliases : AliasTable) (ops : List Operation) {b : TypeId}
    {name : String} {target : Option TypeId} (hn : job.types.node b = .typedef name target)
    (hne : name ≠ "") (hknown : job.typeMap.knows name) :
    let d := Operation.runAll job { aliases } ops
    let text (x : TypeId) := ((typeText job x).run d).1
    (job.types.function? b = none →
      text b = job.typeMap.convert name ∧
      (∀ p isConst, job.types.node p = .pointer b isConst →
        text p = job.typeMap.convert name ++ "*") ∧
      ∀ x layers, Descent job.types job.typeMap.knows x layers b →
        text x = job.typeMap.convert name ++ pointerSuffix (job.types.indirections layers) ∧
        (job.types.WellFormed → ∀ field, ((fieldTypeText job field x).run d).1 =
          storageText (job.typeMap.convert name) (job.types.fieldExtents layers))) ∧
    ∀ f, job.types.function? b = some f → (∀ op ∈ ops, op.registers = false) →
      text b = Job.functionName aliases f ∧
      ∀ p isConst, job.types.node p = .pointer b isConst →
        text p = Job.functionName aliases f ++ "*" := by
  intro d text
  have hstop : job.types.step? job.typeMap.knows b = none := step?_of_known hn hknown
  have hbase : job.typeMap.baseText (job.types.node b) = job.typeMap.convert name := by
    rw [hn, TypeMap.baseText_typedef hne]
  constructor
  · intro hnone
    have htext (x : TypeId) (layers : List TypeId)
        (hx : Descent job.types job.typeMap.knows x layers b) :
        text x = job.typeMap.convert name ++ pointerSuffix (job.types.indirections layers) := by
      change ((typeText job x).run d).1 = _
      rw [typeText_runAll ops hx hnone, hbase]
    refine ⟨(htext b [] (.bottom hstop)).trans String.append_empty, ?_, fun x layers hx =>
      ⟨htext x layers hx, fun hg field => ?_⟩⟩
    · intro p isConst hp
      have hstep : job.types.step? job.typeMap.knows p = some b := step?_of_pointer hp
      have hone : job.types.indirections [p] = 1 := by
        rw [indirections_cons, hp]
        rfl
      rw [htext p [p] (.layer hstep (.bottom hstop)), hone]
      rfl
    · rw [fieldTypeText_runAll ops field hg hx hnone, hbase]
  · intro f hfun hops
    constructor
    · have hdirect := not_direct_of_typedef hn (pointerBase_of_typedef hn)
      have harray (element : TypeId) (size : Option Nat) :
          job.types.node b ≠ .array element size := fun h => nomatch hn.symm.trans h
      change ((typeText job b).run d).1 = _
      rw [typeText_runAll_of_registers hops, Job.text_of_function hfun hdirect harray,
        pointerDepth_of_typedef hn]
      exact String.append_empty
    · intro p isConst hp
      obtain ⟨hdepth, hpointee⟩ := pointers_of_typedef hp hn
      have hinner : job.types.inner? p = some b := inner?_of_node hp
      have hdirect := not_direct_of_typedef hn hpointee
      have harray (element : TypeId) (size : Option Nat) :
          job.types.node p ≠ .array element size := fun h => nomatch hp.symm.trans h
      change ((typeText job p).run d).1 = _
      rw [typeText_runAll_of_registers hops,
        Job.text_of_function ((function?_of_inner? hinner).trans hfun) hdirect harray, hdepth]
      rfl

/-- Rules for two typedefs: `callback_t` for a function pointer (3), `handle_t` for a pointer (6),
with a pointer to the first and an array of the second. -/
def handlers : Job where
  header :=
    { types := ⟨#[.builtin .void, .function ⟨0, [], false⟩, .pointer 1 false,
        .typedefOf "callback_t" 2, .pointer 3 false, .pointer 0 false, .typedefOf "handle_t" 5,
        .array 6 (some 4)]⟩
      units := [⟨"handler.h", [.typeAlias ⟨"callback_t", 2⟩, .typeAlias ⟨"handle_t", 5⟩]⟩] }
  options := ⟨"demo.dll", "Demo"⟩
  typeMap := .withRules [⟨"callback_t", "Callback"⟩, ⟨"handle_t", "Handle"⟩]

theorem known_typedef_text_handlers :
    let written (id : TypeId) :=
      ((typeText handlers id).run
        (Operation.runAll handlers { aliases := AliasTable.collect handlers.header } [.name 4])).1
    written 6 = "Handle" ∧ written 7 = "Handle*" ∧
      written 3 = "CallbackT" ∧ written 4 = "CallbackT*" := by
  have hnone : handlers.types.function? 6 = none := by decide +kernel
  have hsome : handlers.types.function? 3 = some 1 := by decide +kernel
  have harray : Descent handlers.types handlers.typeMap.knows 7 [7] 6 :=
    .layer rfl (.bottom (by decide +kernel))
  have hhandle : handlers.types.node 6 = .typedefOf "handle_t" 5 := rfl
  have hcallback : handlers.types.node 3 = .typedefOf "callback_t" 2 := rfl
  obtain ⟨hplain, -⟩ := known_typedef_text handlers (AliasTable.collect handlers.header) [.name 4]
    hhandle (by decide) (by decide +kernel)
  obtain ⟨-, hfunction⟩ := known_typedef_text handlers (AliasTable.collect handlers.header)
    [.name 4] hcallback (by decide) (by decide +kernel)
  obtain ⟨htext, -, huses⟩ := hplain hnone
  obtain ⟨hname, hpointer⟩ := hfunction 1 hsome (by decide)
  exact ⟨htext.trans (by decide +kernel), (huses 7 [7] harray).1.trans (by decide +kernel),
    hname.trans (by decide +kernel), (hpointer 4 false rfl).trans (by decide +kernel)⟩

/-- A rule does not decide how a typedef is written that leads to a function. -/
theorem not_forall_known_typedef_text :
    ¬∀ (job : Job) (aliases : AliasTable) (b : TypeId) (name : String) (target : Option TypeId),
      job.types.node b = .typedef name target → name ≠ "" → job.typeMap.knows name →
      ((typeText job b).run { aliases }).1 = job.typeMap.convert name := by
  intro h
  have htext := h handlers (AliasTable.collect handlers.header) 3 "callback_t" (some 2) rfl
    (by decide) (by decide +kernel)
  revert htext
  decide +kernel

end Emit

end HeaderBindings
