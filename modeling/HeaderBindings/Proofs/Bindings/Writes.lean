import HeaderBindings.Bindings.TypeText
import HeaderBindings.Proofs.Log
import HeaderBindings.Proofs.Lookup
import HeaderBindings.Proofs.Output.Steps
import Mathlib.Data.List.Nodup

/-! What an emitter does to a draft. The only thing that it learns from the draft is how types are
named; it keeps the names found so far, adds those that it looks for, logs nothing but what it does,
and writes steps that depend on the names alone. So the names that a draft gives are the same before
and after every emitter, and what emitters write one after the other is written with one and the
same names. -/

namespace HeaderBindings

/-- How types are named: the registered names, and what each type is called. -/
structure Naming where
  aliases : AliasTable
  name : TypeId → String

/-- The names of types where nothing has been kept. -/
def Job.naming (job : Job) (aliases : AliasTable) : Naming :=
  ⟨aliases, job.typeName aliases⟩

namespace Draft

variable {job : Job} {d d' d'' : Draft}

/-- The names that a draft gives: the one it keeps for a type, else the one it would find. -/
def naming (job : Job) (d : Draft) : Naming :=
  ⟨d.aliases, fun id => (d.cache.lookup id).getD (job.typeName d.aliases id)⟩

/-- Every name that is kept is the one that would be found. -/
def Coherent (job : Job) (d : Draft) : Prop :=
  ∀ id name, d.cache.lookup id = some name → name = job.typeName d.aliases id

theorem naming_of_coherent (h : d.Coherent job) : d.naming job = job.naming d.aliases := by
  unfold naming Job.naming
  congr 1
  funext id
  cases hc : d.cache.lookup id with
  | none => rfl
  | some name => exact h id name hc

/-- Only names of types that had none are added to those that are kept, one for each type, as it is
found with the registered names of the first draft. -/
def Finds (job : Job) (d d' : Draft) : Prop :=
  ∃ found, d'.cache = found ++ d.cache ∧ (found.map Prod.fst).Nodup ∧
    ∀ entry ∈ found, d.cache.lookup entry.1 = none ∧ entry.2 = job.typeName d.aliases entry.1

theorem Finds.of_cache_eq (h : d'.cache = d.cache) : d.Finds job d' :=
  ⟨[], h, by simp⟩

theorem Finds.lookup_of_some (h : d.Finds job d') {id : TypeId} {name : String}
    (hname : d.cache.lookup id = some name) : d'.cache.lookup id = some name := by
  obtain ⟨found, hcache, -, hfound⟩ := h
  have hnone : found.lookup id = none := by
    cases hf : found.lookup id with
    | none => rfl
    | some other =>
      have := (hfound _ (mem_of_lookup hf)).1
      rw [hname] at this
      cases this
  rw [hcache, List.lookup_append, hnone, hname]
  rfl

theorem Finds.eq_typeName (h : d.Finds job d') {id : TypeId} {name : String}
    (hnone : d.cache.lookup id = none) (hname : d'.cache.lookup id = some name) :
    name = job.typeName d.aliases id := by
  obtain ⟨found, hcache, -, hfound⟩ := h
  rw [hcache, List.lookup_append, hnone, Option.or_none] at hname
  exact (hfound _ (mem_of_lookup hname)).2

/-- A record about what is written, or about how a type is named. -/
def IsWriting (r : Log.Record) : Prop :=
  r.origin = .generation ∨ r.origin = .naming

/-- What every emitter does to the names: those registered stay, and those found stay. What it logs
is about that. -/
structure Grows (job : Job) (d d' : Draft) : Prop where
  aliases : d'.aliases = d.aliases
  finds : d.Finds job d'
  logs : Log.Adds IsWriting d.log d'.log

theorem Grows.refl (d : Draft) : d.Grows job d := ⟨rfl, .of_cache_eq rfl, .refl d.log⟩

theorem Grows.trans (h : d.Grows job d') (h' : d'.Grows job d'') : d.Grows job d'' := by
  refine ⟨h'.aliases.trans h.aliases, ?_, h.logs.trans h'.logs⟩
  obtain ⟨found, hcache, hnodup, hfound⟩ := h.finds
  obtain ⟨found', hcache', hnodup', hfound'⟩ := h'.finds
  have hnew : ∀ entry ∈ found', found.lookup entry.1 = none ∧ d.cache.lookup entry.1 = none := by
    intro entry hentry
    rw [← Option.or_eq_none_iff, ← List.lookup_append, ← hcache]
    exact (hfound' entry hentry).1
  refine ⟨found' ++ found, by rw [hcache', hcache, List.append_assoc], ?_, fun entry hentry => ?_⟩
  · rw [List.map_append, List.nodup_append]
    refine ⟨hnodup', hnodup, fun id hid other hother => ?_⟩
    obtain ⟨entry, hentry, rfl⟩ := List.mem_map.1 hid
    obtain ⟨before, hbefore, rfl⟩ := List.mem_map.1 hother
    have hne := List.lookup_eq_none_iff.1 (hnew entry hentry).1 before hbefore
    simpa using hne
  · rcases List.mem_append.1 hentry with hin | hin
    · have hname := (hfound' entry hin).2
      rw [h.aliases] at hname
      exact ⟨(hnew entry hin).2, hname⟩
    · exact hfound entry hin

theorem Grows.naming_eq (h : d.Grows job d') : d'.naming job = d.naming job := by
  unfold naming
  rw [h.aliases]
  congr 1
  funext id
  cases hc : d.cache.lookup id with
  | some name => rw [h.finds.lookup_of_some hc]
  | none =>
    cases hc' : d'.cache.lookup id with
    | none => rfl
    | some name => exact h.finds.eq_typeName hc hc'

end Draft

namespace Emit

variable {α β : Type} {job : Job}

/-- From every draft, `e` gives `value` and writes `script`, both for the names of the draft. -/
structure Writes (job : Job) (e : Emit α) (value : Naming → α)
    (script : Naming → List Output.Step) : Prop where
  grows : ∀ d : Draft, d.Grows job (e.run d).2
  value_eq : ∀ d : Draft, (e.run d).1 = value (d.naming job)
  output_eq : ∀ d : Draft, (e.run d).2.output = d.output.play (script (d.naming job))

theorem Writes.pure (a : α) : Writes job (pure a) (fun _ => a) fun _ => [] :=
  ⟨fun d => .refl d, fun _ => rfl, fun _ => rfl⟩

theorem Writes.bind {e : Emit α} {f : α → Emit β} {value : Naming → α} {value' : α → Naming → β}
    {script : Naming → List Output.Step} {script' : α → Naming → List Output.Step}
    (he : Writes job e value script) (hf : ∀ a, Writes job (f a) (value' a) (script' a)) :
    Writes job (e >>= f) (fun n => value' (value n) n)
      fun n => script n ++ script' (value n) n where
  grows d := (he.grows d).trans ((hf _).grows _)
  value_eq d := by
    rw [← he.value_eq d, ← (he.grows d).naming_eq]
    exact (hf _).value_eq _
  output_eq d := by
    -- `f` starts from another draft, but that draft gives the same names
    rw [Output.play_append, ← he.output_eq d, ← he.value_eq d, ← (he.grows d).naming_eq]
    exact (hf _).output_eq _

theorem Writes.seq {e : Emit Unit} {f : Emit β} {value : Naming → β}
    {script script' : Naming → List Output.Step} (he : Writes job e (fun _ => ()) script)
    (hf : Writes job f value script') :
    Writes job (do e; f) value fun n => script n ++ script' n :=
  he.bind fun _ => hf

theorem Writes.congr {e : Emit α} {value value' : Naming → α}
    {script script' : Naming → List Output.Step} (h : Writes job e value script)
    (hvalue : ∀ n, value n = value' n) (hscript : ∀ n, script n = script' n) :
    Writes job e value' script' := by
  obtain rfl : value = value' := funext hvalue
  obtain rfl : script = script' := funext hscript
  exact h

theorem Writes.forM {f : α → Emit Unit} {script : α → Naming → List Output.Step} (l : List α)
    (h : ∀ a, Writes job (f a) (fun _ => ()) (script a)) :
    Writes job (l.forM f) (fun _ => ()) fun n => l.flatMap fun a => script a n := by
  induction l with
  | nil => exact .pure ()
  | cons a rest ih => exact (h a).seq ih

theorem Writes.mapM {f : α → Emit β} {value : α → Naming → β}
    {script : α → Naming → List Output.Step} (l : List α)
    (h : ∀ a, Writes job (f a) (value a) (script a)) :
    Writes job (l.mapM f) (fun n => l.map fun a => value a n)
      fun n => l.flatMap fun a => script a n := by
  induction l with
  | nil => exact .pure []
  | cons a rest ih =>
    rw [List.mapM_cons]
    refine ((h a).bind fun b => ih.bind fun bs => Writes.pure (b :: bs)).congr
      (fun n => rfl) fun n => ?_
    simp only [List.append_nil, List.flatMap_cons]

theorem writes_modifyOutput {f : Output → Output} {steps : List Output.Step}
    (h : ∀ out, f out = out.play steps) :
    Writes job (modifyOutput f) (fun _ => ()) fun _ => steps :=
  ⟨fun d => ⟨rfl, .of_cache_eq rfl, .refl d.log⟩, fun _ => rfl, fun d => h d.output⟩

theorem writes_line (text : String) : Writes job (line text) (fun _ => ()) fun _ => [.line text] :=
  writes_modifyOutput fun _ => rfl

theorem writes_blank : Writes job blank (fun _ => ()) fun _ => [.blank] :=
  writes_modifyOutput fun _ => rfl

theorem writes_deeper : Writes job deeper (fun _ => ()) fun _ => [.deeper] :=
  writes_modifyOutput fun _ => rfl

theorem writes_shallower : Writes job shallower (fun _ => ()) fun _ => [.shallower] :=
  writes_modifyOutput fun _ => rfl

/-- A record goes to the log alone. -/
theorem writes_record {r : Log.Record} (h : Draft.IsWriting r) :
    Writes job (record r) (fun _ => ()) fun _ => [] :=
  ⟨fun _ => ⟨rfl, .of_cache_eq rfl, Log.adds_push h⟩, fun _ => rfl, fun _ => rfl⟩

theorem writes_lines (texts : List String) :
    Writes job (lines texts) (fun _ => ()) fun _ => texts.map .line :=
  (Writes.forM texts writes_line).congr (fun _ => rfl) fun _ => by
    rw [List.map_eq_flatMap]

theorem typeName_run_of_some {d : Draft} {id : TypeId} {name : String}
    (h : d.cache.lookup id = some name) : (typeName job id).run d = (name, d) := by
  simp only [typeName, StateT.run_bind, StateT.run_get, pure_bind, h]
  rfl

theorem typeName_run_of_none {d : Draft} {id : TypeId} (h : d.cache.lookup id = none) :
    (typeName job id).run d =
      (job.typeName d.aliases id,
        { d with
          cache := (id, job.typeName d.aliases id) :: d.cache
          log := d.log ++ (job.namingRecords id).toArray }) := by
  simp only [typeName, StateT.run_bind, StateT.run_get, pure_bind, h]
  rfl

theorem origin_of_mem_namingRecords {id : TypeId} {r : Log.Record}
    (h : r ∈ job.namingRecords id) : r.origin = .naming := by
  unfold Job.namingRecords at h
  split at h
  · cases h
  · rcases List.mem_append.1 h with h | h
    · unfold TypeGraph.cycleRecords at h
      split at h
      · rw [List.mem_singleton.1 h]
      · cases h
    · split at h
      · rw [List.mem_singleton.1 h]
      · rw [List.mem_singleton.1 h]
      · rw [List.mem_singleton.1 h]
      · cases h

/-- The name of a type is the one that the draft gives, and it is kept from then on. -/
theorem writes_typeName (id : TypeId) : Writes job (typeName job id) (·.name id) fun _ => [] where
  grows d := by
    cases hc : d.cache.lookup id with
    | some name => rw [typeName_run_of_some hc]; exact .refl d
    | none =>
      rw [typeName_run_of_none hc]
      refine ⟨rfl, ⟨[(id, job.typeName d.aliases id)], rfl, List.nodup_singleton _,
        fun entry hentry => ?_⟩, Log.adds_append fun _ h => .inr (origin_of_mem_namingRecords h)⟩
      obtain rfl := List.mem_singleton.1 hentry
      exact ⟨hc, rfl⟩
  value_eq d := by
    cases hc : d.cache.lookup id with
    | some name => simp [typeName_run_of_some hc, Draft.naming, hc]
    | none => simp [typeName_run_of_none hc, Draft.naming, hc]
  output_eq d := by
    cases hc : d.cache.lookup id with
    | some name => simp [typeName_run_of_some hc]
    | none => simp [typeName_run_of_none hc]

end Emit

end HeaderBindings
