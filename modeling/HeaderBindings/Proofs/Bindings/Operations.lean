import HeaderBindings.Proofs.Bindings.Generate

/-! Drafts over any sequence of operations, registrations of names among them. The name that is
found for a type first is kept whatever follows, and it is the name under the table as it was then.
In a run no operation after the collection changes the table, so all names are those of the table
of the header, in whatever order they are asked for. -/

namespace HeaderBindings

/-- What can be done to a draft. -/
inductive Operation where
  | name (id : TypeId)
  | text (id : TypeId)
  | collect
  | register (entry : Alias)
  | stage (s : Stage)
  deriving DecidableEq, Repr

namespace Operation

/-- The draft after an operation. -/
def run (job : Job) (d : Draft) : Operation → Draft
  | .name id => ((Emit.typeName job id).run d).2
  | .text id => ((Emit.typeText job id).run d).2
  | .collect => ((Emit.collectAliases job).run d).2
  | .register entry =>
    { d with
      aliases := d.aliases.add entry
      log := d.log ++ (d.aliases.recordsOf entry).toArray }
  | .stage s => ((s.run job).run d).2

/-- The draft after some operations. -/
def runAll (job : Job) (d : Draft) (ops : List Operation) : Draft :=
  ops.foldl (run job) d

/-- The operations that may change the table of names. -/
def registers : Operation → Bool
  | .collect | .register _ => true
  | .name _ | .text _ | .stage _ => false

variable {job : Job}

theorem grows_run (d : Draft) {op : Operation} (h : op.registers = false) :
    d.Grows job (op.run job d) := by
  cases op with
  | name id => exact (Emit.writes_typeName id).grows d
  | text id => exact (Emit.writes_typeText id).grows d
  | stage s => exact (Emit.writes_run s).grows d
  | collect => cases h
  | register entry => cases h

/-- Whatever an operation does to the table, names are found with the table before it. -/
theorem finds_run (d : Draft) (op : Operation) : d.Finds job (op.run job d) := by
  cases op with
  | collect => exact .of_cache_eq rfl
  | register entry => exact .of_cache_eq rfl
  | name id => exact (grows_run d rfl).finds
  | text id => exact (grows_run d rfl).finds
  | stage s => exact (grows_run d rfl).finds

theorem lookup_runAll {id : TypeId} {name : String} (ops : List Operation) :
    ∀ d : Draft, d.cache.lookup id = some name →
      (runAll job d ops).cache.lookup id = some name := by
  induction ops with
  | nil => exact fun _ h => h
  | cons op rest ih => exact fun d h => ih _ ((finds_run d op).lookup_of_some h)

/-- Where a name comes to be kept there is an operation that finds it. -/
theorem exists_first_run {id : TypeId} {name : String} (ops : List Operation) :
    ∀ d : Draft, d.cache.lookup id = none → (runAll job d ops).cache.lookup id = some name →
      ∃ before op after, ops = before ++ op :: after ∧
        (runAll job d before).cache.lookup id = none ∧
        (runAll job d (before ++ [op])).cache.lookup id = some name ∧
        name = job.typeName (runAll job d before).aliases id := by
  induction ops with
  | nil => intro d hnone hsome; cases hnone.symm.trans hsome
  | cons op rest ih =>
    intro d hnone hsome
    cases hop : (op.run job d).cache.lookup id with
    | some first =>
      obtain rfl : first = name := Option.some.inj ((lookup_runAll rest _ hop).symm.trans hsome)
      exact ⟨[], op, rest, rfl, hnone, hop, (finds_run d op).eq_typeName hnone hop⟩
    | none =>
      obtain ⟨before, op', after, rfl, hbefore, hafter, hname⟩ := ih (op.run job d) hop hsome
      exact ⟨op :: before, op', after, rfl, hbefore, hafter, hname⟩

theorem grows_runAll (ops : List Operation) :
    ∀ d : Draft, (∀ op ∈ ops, op.registers = false) → d.Grows job (runAll job d ops) := by
  induction ops with
  | nil => exact fun d _ => .refl d
  | cons op rest ih =>
    intro d h
    exact (grows_run d (h op List.mem_cons_self)).trans
      (ih _ fun op' hop' => h op' (List.mem_cons_of_mem _ hop'))

theorem grows_runAll_collect (ops : List Operation) (h : ∀ op ∈ ops, op.registers = false) :
    (run job {} .collect).Grows job (runAll job {} (.collect :: ops)) :=
  grows_runAll ops _ h

theorem naming_runAll_collect (ops : List Operation) (h : ∀ op ∈ ops, op.registers = false) :
    (runAll job {} (.collect :: ops)).naming job = job.fileNaming :=
  (grows_runAll_collect ops h).naming_eq

/-- An answer is kept. -/
theorem lookup_run_name (d : Draft) (id : TypeId) :
    (run job d (.name id)).cache.lookup id = some ((Emit.typeName job id).run d).1 := by
  cases hc : d.cache.lookup id with
  | some name => rw [run, Emit.typeName_run_of_some hc, hc]
  | none => rw [run, Emit.typeName_run_of_none hc, List.lookup_cons_self]

end Operation

namespace Draft

open Operation

/-- A name that is kept stays, so every answer is the first answer, and that is the name under the
table of the moment. After the collection of a run every text is the one that would be written
without keeping any name, and so is the file. -/
theorem kept_names_stable (job : Job) :
    (∀ (d : Draft) (ops : List Operation) (id : TypeId),
      (∀ name, d.cache.lookup id = some name →
        (runAll job d ops).cache.lookup id = some name ∧
        ((Emit.typeName job id).run (runAll job d ops)).1 = name) ∧
      ((Emit.typeName job id).run (runAll job d (.name id :: ops))).1 =
        ((Emit.typeName job id).run d).1 ∧
      (d.cache.lookup id = none →
        ((Emit.typeName job id).run d).1 = job.typeName d.aliases id ∧
        ∀ name, (runAll job d ops).cache.lookup id = some name →
          ∃ before op after, ops = before ++ op :: after ∧
            (runAll job d before).cache.lookup id = none ∧
            (runAll job d (before ++ [op])).cache.lookup id = some name ∧
            name = job.typeName (runAll job d before).aliases id)) ∧
    (∀ ops : List Operation, (∀ op ∈ ops, op.registers = false) →
      (runAll job {} (.collect :: ops)).aliases = AliasTable.collect job.header ∧
      (∀ id, ((Emit.typeText job id).run (runAll job {} (.collect :: ops))).1 =
        job.text job.fileNaming id) ∧
      ∀ stage : Stage, ((stage.write job).run (runAll job {} (.collect :: ops))).2.output =
        (runAll job {} (.collect :: ops)).output.play (stage.script job job.fileNaming)) ∧
    job.generate.1 = job.plainFile := by
  refine ⟨fun d ops id => ⟨fun name hname => ?_, ?_, fun hnone => ⟨?_, ?_⟩⟩,
    fun ops hops => ⟨(grows_runAll_collect ops hops).aliases, fun id => ?_, fun stage => ?_⟩,
    job.generate_eq_plainFile⟩
  · have hkept : (runAll job d ops).cache.lookup id = some name := lookup_runAll ops d hname
    exact ⟨hkept, by rw [Emit.typeName_run_of_some hkept]⟩
  · have hkept : (runAll job d (.name id :: ops)).cache.lookup id =
        some ((Emit.typeName job id).run d).1 := lookup_runAll ops _ (lookup_run_name d id)
    rw [Emit.typeName_run_of_some hkept]
  · rw [Emit.typeName_run_of_none hnone]
  · exact fun name hname => exists_first_run ops d hnone hname
  · rw [(Emit.writes_typeText id).value_eq, naming_runAll_collect ops hops]
  · rw [(Emit.writes_stage stage).output_eq, naming_runAll_collect ops hops]

/-- A function pointer, with no name for the function type. -/
def pointerJob : Job where
  header := { types := ⟨#[.builtin .void, .function ⟨0, [], false⟩, .pointer 1 false]⟩ }
  options := ⟨"demo.dll", "Demo"⟩
  typeMap := .withRules []

/-- The pointer keeps the name that it got before its function type had one. -/
theorem kept_names_stable_pointer :
    ((Emit.typeName pointerJob 2).run
      (runAll pointerJob {} [.name 2, .register (.function "call_back" 1), .name 1])).1 = "void*" ∧
    ((Emit.typeName pointerJob 1).run
      (runAll pointerJob {} [.name 2, .register (.function "call_back" 1), .name 1])).1 =
        "CallBack" ∧
    (runAll pointerJob {} [.collect, .text 2, .stage .structs]).aliases =
      AliasTable.collect pointerJob.header := by
  obtain ⟨hkept, hcollected, -⟩ := kept_names_stable pointerJob
  refine ⟨?_, ?_, ?_⟩
  · obtain ⟨-, hsame, hfound⟩ := hkept {} [.register (.function "call_back" 1), .name 1] 2
    exact hsame.trans ((hfound rfl).1.trans (by decide +kernel))
  · obtain ⟨hstays, -⟩ := hkept
      (runAll pointerJob {} [.name 2, .register (.function "call_back" 1), .name 1]) [] 1
    exact (hstays "CallBack" (by decide +kernel)).2
  · exact (hcollected [.text 2, .stage .structs] (by decide)).1

end Draft

end HeaderBindings
