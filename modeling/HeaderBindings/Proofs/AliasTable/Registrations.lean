import HeaderBindings.Proofs.AliasTable
import Mathlib.Data.List.Nodup

/-! The registry over any sequence of registrations. A registration either adds one entry behind
those of its kind or changes nothing, so both lists hold the registrations that succeeded, in their
order. What the registry says of a name and of a function type is therefore settled by the first
registration of each. -/

namespace HeaderBindings

/-- A name of a plain type, with the type. -/
def Alias.plain? : Alias → Option (String × TypeId)
  | .function _ _ => none
  | .plain name id => some (name, id)

namespace AliasTable

/-- Registers a name of either kind and says whether it was free. -/
def register (t : AliasTable) : Alias → Bool × AliasTable
  | .function name id => t.addFunction name id
  | .plain name id => t.addPlain name id

/-- The registrations that succeed where they are made one after the other. -/
def accepted (t : AliasTable) : List Alias → List Alias
  | [] => []
  | a :: rest => (if (t.register a).1 then [a] else []) ++ (t.add a).accepted rest

/-- The empty table, or the one of a header. -/
def start (source : Option Header) : AliasTable :=
  source.elim {} collect

/-- No two function types share a name, and the name for each is the first that the table holds. -/
structure Sound (t : AliasTable) : Prop where
  distinct : (t.functions.map Prod.fst).Nodup
  consistent : t.Consistent

variable {t : AliasTable} {name : String} {id : TypeId}

theorem addPlain_of_taken {other : TypeId} (h : t.plain? name = some other) :
    t.addPlain name id = (false, t) := by
  rw [addPlain, h]

theorem addPlain_of_free (h : t.plain? name = none) :
    t.addPlain name id = (true, { t with plain := t.plain ++ [(name, id)] }) := by
  rw [addPlain, h]

theorem mem_plain_iff : name ∈ t.plain.map Prod.fst ↔ (t.plain? name).isSome :=
  mem_map_fst_iff

/-- A name of a function type is taken exactly if the table holds it, and then nothing happens. -/
theorem addFunction_iff (t : AliasTable) (name : String) (id : TypeId) :
    ((t.addFunction name id).1 = true ↔ name ∉ t.functions.map Prod.fst) ∧
      ((t.addFunction name id).1 = false → (t.addFunction name id).2 = t) := by
  rw [mem_functions_iff]
  cases h : t.function? name with
  | some other => simp [addFunction_of_taken h]
  | none => simp [addFunction_of_free h]

theorem addPlain_iff (t : AliasTable) (name : String) (id : TypeId) :
    ((t.addPlain name id).1 = true ↔ name ∉ t.plain.map Prod.fst) ∧
      ((t.addPlain name id).1 = false → (t.addPlain name id).2 = t) := by
  rw [mem_plain_iff]
  cases h : t.plain? name with
  | some other => simp [addPlain_of_taken h]
  | none => simp [addPlain_of_free h]

/-- One registration adds its entry behind the others of its kind if it succeeds. -/
theorem entries_add (t : AliasTable) (a : Alias) :
    (t.add a).functions = t.functions ++ (t.accepted [a]).filterMap Alias.function? ∧
      (t.add a).plain = t.plain ++ (t.accepted [a]).filterMap Alias.plain? := by
  cases a with
  | function name id =>
    cases h : t.function? name with
    | some other => simp [add, accepted, register, addFunction_of_taken h]
    | none => simp [add, accepted, register, addFunction_of_free h, Alias.function?, Alias.plain?]
  | plain name id =>
    cases h : t.plain? name with
    | some other => simp [add, accepted, register, addPlain_of_taken h]
    | none => simp [add, accepted, register, addPlain_of_free h, Alias.function?, Alias.plain?]

/-- Both lists hold the registrations that succeeded, in their order. -/
theorem entries_foldl_add (history : List Alias) (t : AliasTable) :
    (history.foldl add t).functions =
        t.functions ++ (t.accepted history).filterMap Alias.function? ∧
      (history.foldl add t).plain = t.plain ++ (t.accepted history).filterMap Alias.plain? := by
  induction history generalizing t with
  | nil => simp [accepted]
  | cons a rest ih =>
    obtain ⟨hfunctions, hplain⟩ := t.entries_add a
    obtain ⟨hrestFunctions, hrestPlain⟩ := ih (t.add a)
    have hsplit : t.accepted (a :: rest) = t.accepted [a] ++ (t.add a).accepted rest := by
      simp [accepted]
    constructor
    · rw [List.foldl_cons, hrestFunctions, hfunctions, hsplit, List.filterMap_append,
        List.append_assoc]
    · rw [List.foldl_cons, hrestPlain, hplain, hsplit, List.filterMap_append, List.append_assoc]

/-- A name of a function type stands for the type that it was registered for first. -/
theorem function?_foldl_add (history : List Alias) (t : AliasTable) (name : String) :
    (history.foldl add t).function? name =
      (t.function? name).or ((history.filterMap Alias.function?).lookup name) := by
  rw [function?, functions_foldl_add, List.lookup_append, lookup_firstsBeyond]
  by_cases h : name ∈ t.functions.map Prod.fst
  · rw [if_pos h, Option.or_none, Option.or_of_isSome (mem_functions_iff.1 h)]
    rfl
  · rw [if_neg h]
    rfl

theorem plain?_add (t : AliasTable) (a : Alias) (name : String) :
    (t.add a).plain? name = (t.plain? name).or (([a].filterMap Alias.plain?).lookup name) := by
  cases a with
  | function other id =>
    have hnone : [Alias.function other id].filterMap Alias.plain? = [] := rfl
    simp [add, plain?, addFunction_plain, hnone]
  | plain other id =>
    cases h : t.plain? other with
    | none => simp [add, addPlain_of_free h, plain?, List.lookup_append, Alias.plain?]
    | some first =>
      rw [add, addPlain_of_taken h]
      by_cases hname : name = other
      · rw [hname, h]
        rfl
      · simp [Alias.plain?, List.lookup_cons, beq_eq_false_iff_ne.2 hname]

/-- A plain name stands for the type that it was registered for first. -/
theorem plain?_foldl_add (history : List Alias) (t : AliasTable) (name : String) :
    (history.foldl add t).plain? name =
      (t.plain? name).or ((history.filterMap Alias.plain?).lookup name) := by
  induction history generalizing t with
  | nil => simp
  | cons a rest ih =>
    have hsplit : (a :: rest).filterMap Alias.plain? =
        [a].filterMap Alias.plain? ++ rest.filterMap Alias.plain? := by
      rw [← List.filterMap_append, List.singleton_append]
    rw [List.foldl_cons, ih, plain?_add, hsplit, List.lookup_append, Option.or_assoc]

theorem sound_empty : Sound {} :=
  ⟨List.nodup_nil, consistent_empty⟩

theorem Sound.add (h : t.Sound) (a : Alias) : (t.add a).Sound := by
  refine ⟨?_, h.consistent.add a⟩
  cases a with
  | plain name id =>
    rw [AliasTable.add, (t.addPlain_functions name id).1]
    exact h.distinct
  | function name id =>
    rw [AliasTable.add]
    cases hfree : t.function? name with
    | some other =>
      rw [addFunction_of_taken hfree]
      exact h.distinct
    | none =>
      have hnew : name ∉ t.functions.map Prod.fst := by
        simp [mem_functions_iff, hfree]
      rw [addFunction_of_free hfree, List.map_append, List.map_singleton, ← List.concat_eq_append]
      exact h.distinct.concat hnew

theorem Sound.foldl_add (h : t.Sound) (history : List Alias) :
    (history.foldl AliasTable.add t).Sound := by
  induction history generalizing t with
  | nil => exact h
  | cons a rest ih => exact ih (h.add a)

theorem sound_start (source : Option Header) : (start source).Sound := by
  cases source with
  | none => exact sound_empty
  | some header => exact sound_empty.foldl_add header.aliases

theorem nodup_plain_add (h : (t.plain.map Prod.fst).Nodup) (a : Alias) :
    ((t.add a).plain.map Prod.fst).Nodup := by
  cases a with
  | function name id =>
    rw [add, addFunction_plain]
    exact h
  | plain name id =>
    rw [add]
    cases hfree : t.plain? name with
    | some other =>
      rw [addPlain_of_taken hfree]
      exact h
    | none =>
      have hnew : name ∉ t.plain.map Prod.fst := by
        simp [mem_plain_iff, hfree]
      rw [addPlain_of_free hfree, List.map_append, List.map_singleton, ← List.concat_eq_append]
      exact h.concat hnew

/-- No plain name is listed twice. -/
theorem nodup_plain_foldl_add (h : (t.plain.map Prod.fst).Nodup) (history : List Alias) :
    ((history.foldl add t).plain.map Prod.fst).Nodup := by
  induction history generalizing t with
  | nil => exact h
  | cons a rest ih => exact ih (nodup_plain_add h a)

theorem Consistent.nameOf?_eq_none_iff (h : t.Consistent) :
    t.nameOf? id = none ↔ ∀ name, (name, id) ∉ t.functions := by
  rw [h id, Option.map_eq_none_iff, List.find?_eq_none]
  constructor
  · intro hnone name hmem
    exact hnone _ hmem (by simp)
  · intro hnone entry hmem heq
    apply hnone entry.1
    rw [← of_decide_eq_true heq]
    exact hmem

/-- A name that is the first of two function types would be registered twice. -/
theorem Sound.nameOf?_inj (h : t.Sound) {other : TypeId} (hid : t.nameOf? id = some name)
    (hother : t.nameOf? other = some name) : id = other := by
  have hentry := h.consistent.mem_functions hid
  have hentry' := h.consistent.mem_functions hother
  have hsame := List.inj_on_of_nodup_map h.distinct hentry hentry' rfl
  exact (Prod.mk.inj hsame).2

/-- Over any history a registration succeeds exactly if its name is free among those of its kind,
and changes nothing if it is not. Each name stands for the type of its first registration, both
lists hold the registrations that succeeded in their order, and a function type has the name of its
earliest entry, which is no other's. -/
theorem first_registrations_kept (source : Option Header) (history : List Alias) :
    let now := history.foldl add (start source)
    (∀ name id,
      ((now.addFunction name id).1 = true ↔ name ∉ now.functions.map Prod.fst) ∧
      ((now.addFunction name id).1 = false → (now.addFunction name id).2 = now)) ∧
    (∀ name id,
      ((now.addPlain name id).1 = true ↔ name ∉ now.plain.map Prod.fst) ∧
      ((now.addPlain name id).1 = false → (now.addPlain name id).2 = now)) ∧
    (∀ name, now.function? name =
      ((start source).function? name).or ((history.filterMap Alias.function?).lookup name)) ∧
    (∀ name, now.plain? name =
      ((start source).plain? name).or ((history.filterMap Alias.plain?).lookup name)) ∧
    now.functions =
      (start source).functions ++ ((start source).accepted history).filterMap Alias.function? ∧
    now.plain =
      (start source).plain ++ ((start source).accepted history).filterMap Alias.plain? ∧
    (∀ id, now.nameOf? id = (now.functions.find? (·.2 = id)).map (·.1)) ∧
    (∀ id, now.nameOf? id = none ↔ ∀ name, (name, id) ∉ now.functions) ∧
    ∀ id other name, now.nameOf? id = some name → now.nameOf? other = some name → id = other := by
  intro now
  have hsound : now.Sound := (sound_start source).foldl_add history
  obtain ⟨hfunctions, hplain⟩ := entries_foldl_add history (start source)
  refine ⟨now.addFunction_iff, now.addPlain_iff, ?_, ?_, hfunctions, hplain, hsound.consistent,
    ?_, ?_⟩
  · exact function?_foldl_add history (start source)
  · exact plain?_foldl_add history (start source)
  · intro id
    exact hsound.consistent.nameOf?_eq_none_iff
  · intro id other name hid hother
    exact hsound.nameOf?_inj hid hother

/-- A second name of a function type is listed, and the type keeps its first one. -/
example :
    let now := [.function "handler" 2, .plain "handler" 0, .function "listener" 2,
      .function "handler" 5].foldl add {}
    now.functions = [("handler", 2), ("listener", 2)] ∧ now.plain = [("handler", 0)] ∧
      now.nameOf? 2 = some "handler" ∧ now.nameOf? 5 = none := by
  decide

end AliasTable

end HeaderBindings
