import HeaderBindings.Proofs.Bindings.FunctionTypes
import HeaderBindings.Proofs.TypeGraph.Unchecked

/-! The text of a type that leads to a function. Only the arrays on the outside and the pointers
right below them are counted; what lies deeper, from the first typedef on or the first array below a
pointer, is hidden. So the text has one `*` less than there are pointers and arrays where nothing is
hidden and there is a pointer, or where just one of them is hidden, and nowhere else. -/

namespace HeaderBindings

namespace TypeGraph

variable {g : TypeGraph} {stop : String → Bool}

def isArray (g : TypeGraph) (id : TypeId) : Bool :=
  match g.node id with
  | .array _ _ => true
  | _ => false

def isPointer (g : TypeGraph) (id : TypeId) : Bool :=
  match g.node id with
  | .pointer _ _ => true
  | _ => false

/-- The arrays on the outside. -/
def outerArrays (g : TypeGraph) (layers : List TypeId) : List TypeId :=
  layers.takeWhile g.isArray

/-- The pointers right below the arrays on the outside. -/
def outerPointers (g : TypeGraph) (layers : List TypeId) : List TypeId :=
  (layers.dropWhile g.isArray).takeWhile g.isPointer

/-- The layers below those. -/
def hiddenLayers (g : TypeGraph) (layers : List TypeId) : List TypeId :=
  (layers.dropWhile g.isArray).dropWhile g.isPointer

theorem isIndirection_eq (g : TypeGraph) (id : TypeId) :
    (g.node id).isIndirection = (g.isArray id || g.isPointer id) := by
  unfold isArray isPointer
  cases g.node id <;> rfl

theorem indirections_append (g : TypeGraph) (xs ys : List TypeId) :
    g.indirections (xs ++ ys) = g.indirections xs + g.indirections ys :=
  List.countP_append

theorem indirections_takeWhile {p : TypeId → Bool} (h : ∀ x, p x → (g.node x).isIndirection)
    (layers : List TypeId) : g.indirections (layers.takeWhile p) = (layers.takeWhile p).length :=
  List.countP_eq_length.2 fun x hx => h x (List.all_eq_true.1 List.all_takeWhile x hx)

/-- Every pointer and array is on the outside or hidden. -/
theorem indirections_eq (g : TypeGraph) (layers : List TypeId) :
    g.indirections layers = (g.outerArrays layers).length + (g.outerPointers layers).length +
      g.indirections (g.hiddenLayers layers) := by
  have harrays := indirections_takeWhile (p := g.isArray) (fun x hx => by
    rw [isIndirection_eq, hx, Bool.true_or]) layers
  have hpointers := indirections_takeWhile (p := g.isPointer) (fun x hx => by
    rw [isIndirection_eq, hx, Bool.or_true]) (layers.dropWhile g.isArray)
  rw [outerArrays, outerPointers, hiddenLayers, ← harrays, ← hpointers, Nat.add_assoc,
    ← indirections_append, List.takeWhile_append_dropWhile, ← indirections_append,
    List.takeWhile_append_dropWhile]

theorem step?_of_pointer {id pointee : TypeId} {isConst : Bool}
    (hn : g.node id = .pointer pointee isConst) : g.step? stop id = some pointee := by
  simp only [step?, hn, CType.inner?]

/-- The pointers above a function, and whether they stand right on it. -/
theorem Descent.pointers (hg : g.WellFormed) {id f : TypeId} {xs : List TypeId}
    (h : Descent g stop id xs f) (hf : (g.node f).isFunction) :
    g.pointerDepth id = (xs.takeWhile g.isPointer).length ∧
      ((g.node (g.pointerBase id)).isFunction ↔ xs.dropWhile g.isPointer = []) := by
  induction h with
  | @bottom id _ =>
    rw [pointerDepth, pointerBase]
    cases hn : g.node id with
    | function s => simp [hn, CType.isFunction]
    | _ => rw [hn] at hf; cases hf
  | @layer id next f xs hs rest ih =>
    have hid := isFunction_eq_false_of_inner? (inner?_of_step? hs)
    rw [pointerDepth, pointerBase]
    cases hn : g.node id with
    | pointer pointee isConst =>
      obtain rfl : pointee = next := Option.some.inj ((step?_of_pointer hn).symm.trans hs)
      obtain ⟨hdepth, hbase⟩ := ih hf
      have hpointer : g.isPointer id := by rw [isPointer, hn]
      have hlt := hg.pointee_lt hn
      simp only [hlt, if_true, List.takeWhile_cons, List.dropWhile_cons, hpointer, hdepth, hbase,
        List.length_cons, and_self]
    | _ =>
      have hpointer : g.isPointer id = false := by rw [isPointer, hn]
      rw [hn] at hid
      simp [hpointer, hn, hid]

end TypeGraph

theorem append_pointerSuffix_inj {name : String} {m n : Nat} :
    name ++ pointerSuffix m = name ++ pointerSuffix n ↔ m = n := by
  constructor
  · intro h
    have hlength := congrArg String.length h
    simpa [pointerSuffix] using hlength
  · rintro rfl
    rfl

namespace Job

open TypeGraph

variable {job : Job} {aliases : AliasTable} {stop : String → Bool}

/-- Number of pointers behind the name of a function, where `layers` lie above it. -/
def functionStars (job : Job) (layers : List TypeId) : Nat :=
  (job.types.outerArrays layers).length +
    if job.types.hiddenLayers layers = [] then (job.types.outerPointers layers).length - 1
    else (job.types.outerPointers layers).length

theorem suffixDepth_of_descent (hg : job.types.WellFormed) {id f : TypeId} {xs : List TypeId}
    (h : Descent job.types stop id xs f) (hf : (job.types.node f).isFunction) :
    job.suffixDepth id =
      if xs.dropWhile job.types.isPointer = [] then (xs.takeWhile job.types.isPointer).length - 1
      else (xs.takeWhile job.types.isPointer).length := by
  obtain ⟨hdepth, hbase⟩ := h.pointers hg hf
  have hfunction := function?_eq_some_iff.2 ⟨h.leadsTo, hf⟩
  simp only [suffixDepth, hfunction, isDirectFunctionPointer, hdepth, Bool.and_eq_true,
    decide_eq_true_eq, hbase]
  -- without a pointer there is none to leave out
  cases hpointers : (xs.takeWhile job.types.isPointer).length with
  | zero => simp
  | succ depth => simp

theorem text_of_function_descent (hg : job.types.WellFormed) {id f : TypeId} {xs : List TypeId}
    (h : Descent job.types stop id xs f) (hf : (job.types.node f).isFunction) :
    job.text (job.naming aliases) id =
      functionName aliases f ++ pointerSuffix (job.functionStars xs) := by
  have hsuffixed {id : TypeId} {xs : List TypeId} (h : Descent job.types stop id xs f)
      (hxs : xs.dropWhile job.types.isArray = xs) (hnone : job.types.outerArrays xs = []) :
      job.suffixedText (job.naming aliases) id =
        functionName aliases f ++ pointerSuffix (job.functionStars xs) := by
    have hname : (job.naming aliases).name id = functionName aliases f :=
      typeName_of_function aliases (function?_eq_some_iff.2 ⟨h.leadsTo, hf⟩)
    rw [suffixedText, hname, suffixDepth_of_descent hg h hf, functionStars, hnone, hiddenLayers,
      outerPointers, hxs, List.length_nil, Nat.zero_add]
  induction h with
  | @bottom id hb =>
    rw [text_of_not_array fun _ _ hn => by rw [step?_of_array hn] at hb; cases hb]
    exact hsuffixed (.bottom hb) rfl rfl
  | @layer id next f xs hs rest ih =>
    by_cases harray : ∃ element size, job.types.node id = .array element size
    · obtain ⟨element, size, hn⟩ := harray
      obtain rfl : element = next := Option.some.inj ((step?_of_array hn).symm.trans hs)
      have hlayer : job.types.isArray id := by rw [isArray, hn]
      have hstars : job.functionStars (id :: xs) = job.functionStars xs + 1 := by
        simp only [functionStars, outerArrays, hiddenLayers, outerPointers, List.takeWhile_cons,
          List.dropWhile_cons, hlayer, if_true, List.length_cons]
        exact Nat.add_right_comm _ 1 _
      rw [text_of_array hn (hg.element_lt hn), ih hf hsuffixed, hstars, pointerSuffix_succ,
        String.append_assoc]
    · have hlayer : job.types.isArray id = false := by
        unfold isArray
        split
        · next hn => exact absurd ⟨_, _, hn⟩ harray
        · rfl
      rw [text_of_not_array fun element size hn _ => harray ⟨element, size, hn⟩]
      exact hsuffixed (.layer hs rest) (by simp [hlayer]) (by simp [outerArrays, hlayer])

/-- There is one `*` less than there are pointers and arrays. -/
theorem functionStars_eq_pred_iff {layers : List TypeId} (h : 0 < job.types.indirections layers) :
    job.functionStars layers = job.types.indirections layers - 1 ↔
      if job.types.hiddenLayers layers = [] then job.types.outerPointers layers ≠ []
      else job.types.indirections (job.types.hiddenLayers layers) = 1 := by
  have hsum := job.types.indirections_eq layers
  rw [functionStars, ← List.length_pos_iff]
  split
  · next hhidden =>
    rw [hhidden, show job.types.indirections [] = 0 from rfl] at hsum
    omega
  · omega

end Job

namespace Emit

open TypeGraph

/-- The text of a type that leads to a function: the name of the function, and a `*` for each array
on the outside and each pointer right below, but for one pointer where nothing is hidden. -/
theorem typeText_eq_functionName_stars (job : Job) (d : Draft) (hd : d.Coherent job)
    (hg : job.types.WellFormed) {stop : String → Bool} {id f : TypeId} {xs : List TypeId}
    (h : Descent job.types stop id xs f) (hf : (job.types.node f).isFunction) :
    ((typeText job id).run d).1 =
      Job.functionName d.aliases f ++ pointerSuffix (job.functionStars xs) ∧
    (0 < job.types.indirections xs →
      (((typeText job id).run d).1 =
          Job.functionName d.aliases f ++ pointerSuffix (job.types.indirections xs - 1) ↔
        if job.types.hiddenLayers xs = [] then job.types.outerPointers xs ≠ []
        else job.types.indirections (job.types.hiddenLayers xs) = 1)) := by
  have htext : ((typeText job id).run d).1 =
      Job.functionName d.aliases f ++ pointerSuffix (job.functionStars xs) := by
    rw [(writes_typeText id).value_eq d, Draft.naming_of_coherent hd,
      Job.text_of_function_descent hg h hf]
  refine ⟨htext, fun hpos => ?_⟩
  rw [htext, append_pointerSuffix_inj, Job.functionStars_eq_pred_iff hpos]

/-- A function type, `fn_t`, and pointers to it with and without typedefs between: `fn_t *` (4),
`void (*)(int)` (5), `cb_t` (6) for the latter, and `pcb` (8) for `cb_t *`. -/
def callbacks : Job where
  header :=
    { types := ⟨#[.builtin .void, .builtin .int, .function ⟨0, [⟨"", 1⟩], false⟩,
        .typedefOf "fn_t" 2, .pointer 3 false, .pointer 2 false, .typedefOf "cb_t" 5,
        .pointer 6 false, .typedefOf "pcb" 7]⟩
      units := [⟨"callbacks.h", [.typeAlias ⟨"fn_t", 2⟩]⟩] }
  options := ⟨"demo.dll", "Demo"⟩
  typeMap := .withRules []

/-- The draft that knows the names of the function types. -/
def callbacksDraft : Draft where
  aliases := AliasTable.collect callbacks.header

theorem coherent_callbacksDraft : callbacksDraft.Coherent callbacks :=
  fun _ _ h => by cases h

theorem wellFormed_callbacks : callbacks.types.WellFormed :=
  (Built.of_forall_lt (by decide)).wellFormed

/-- The way down from `pcb`, and the one from a pointer to `fn_t`. -/
theorem descent_callbacks :
    Descent callbacks.types callbacks.typeMap.knows 8 [8, 7, 6, 5] 2 ∧
      Descent callbacks.types callbacks.typeMap.knows 4 [4, 3] 2 :=
  ⟨.layer rfl (.layer rfl (.layer rfl
      (.layer rfl (.bottom rfl)))),
    .layer rfl (.layer rfl (.bottom rfl))⟩

theorem typeText_callbacks :
    ((typeText callbacks 8).run callbacksDraft).1 = "FnT" ∧
      ((typeText callbacks 4).run callbacksDraft).1 = "FnT*" ∧
      ((typeText callbacks 4).run callbacksDraft).1 ≠ "FnT" := by
  have hg := wellFormed_callbacks
  obtain ⟨hbehind, hfunction⟩ := descent_callbacks
  obtain ⟨hlost, -⟩ :=
    typeText_eq_functionName_stars callbacks _ coherent_callbacksDraft hg hbehind rfl
  obtain ⟨hextra, hpred⟩ :=
    typeText_eq_functionName_stars callbacks _ coherent_callbacksDraft hg hfunction rfl
  refine ⟨hlost.trans (by decide +kernel), hextra.trans (by decide +kernel), fun heq => ?_⟩
  have hnot := (hpred (by decide)).1 (heq.trans (by decide +kernel))
  exact absurd hnot (by decide)

/-- Not every pointer but the one that makes a function pointer is written. -/
theorem not_forall_pred_stars :
    ¬∀ (job : Job) (d : Draft) (id f : TypeId) (xs : List TypeId), d.Coherent job →
      job.types.WellFormed → Descent job.types job.typeMap.knows id xs f →
      (job.types.node f).isFunction → 0 < job.types.indirections xs →
      ((typeText job id).run d).1 =
        Job.functionName d.aliases f ++ pointerSuffix (job.types.indirections xs - 1) := by
  intro h
  have hbehind := h callbacks callbacksDraft 8 2 [8, 7, 6, 5] coherent_callbacksDraft
    wellFormed_callbacks descent_callbacks.1 rfl (by decide)
  have hname : Job.functionName callbacksDraft.aliases 2 = "FnT" := by decide +kernel
  have htext : ((typeText callbacks 8).run callbacksDraft).1 = "FnT" := by decide +kernel
  rw [htext, hname] at hbehind
  exact absurd hbehind (by decide)

end Emit

end HeaderBindings
