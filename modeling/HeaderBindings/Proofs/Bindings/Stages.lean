import HeaderBindings.Proofs.Bindings.Options

/-! A single stage, from any draft whatever: names registered by hand, names kept from another
table, lines at any indentation. A stage looks at the options before it does anything else, so one
that refuses them has changed nothing. What the others do to a draft is to write, and writing never
takes back a line, a registered name or a name that was found. -/

namespace HeaderBindings

open Output

namespace Emit

variable {α : Type} {job : Job} {e : Emit α} {value : Naming → α} {script : Naming → List Step}

/-- The lines that were there stay in front. -/
theorem Writes.lines_prefix (h : Writes job e value script) (d : Draft) :
    d.output.lines.toList <+: (e.run d).2.output.lines.toList := by
  rw [h.output_eq d, lines_play]
  exact List.prefix_append _ _

end Emit

namespace Stage

variable {job : Job} {stage : Stage}

theorem run_of_accepted (h : stage.problem? job.options = none) (d : Draft) :
    (stage.run job).run d = (.ok (), ((stage.write job).run d).2) := by
  rw [run, h]
  rfl

theorem run_of_problem {problem : ConfigProblem} (h : stage.problem? job.options = some problem)
    (d : Draft) : (stage.run job).run d = (.error ⟨.invalidConfig problem, []⟩, d) := by
  rw [run, h]
  rfl

/-- The stages that need a name of the options, and what they say where it is none. -/
inductive Refuses (options : Options) : Stage → ConfigProblem → Prop
  | space (h : ¬options.NamesSpace) : Refuses options .usings (.badNamespace options.space)
  | library (h : ¬options.NamesLibrary) : Refuses options .functions (.badLibrary options.library)

theorem problem?_eq_some_iff {options : Options} {problem : ConfigProblem} :
    stage.problem? options = some problem ↔ stage.Refuses options problem := by
  constructor
  · intro h
    cases stage with
    | usings =>
      by_cases hspace : options.validSpace
      · simp [problem?, hspace] at h
      · obtain rfl : .badNamespace options.space = problem := by simpa [problem?, hspace] using h
        exact .space (by rwa [← Options.validSpace_iff])
    | functions =>
      by_cases hlibrary : options.validLibrary
      · simp [problem?, hlibrary] at h
      · obtain rfl : .badLibrary options.library = problem := by
          simpa [problem?, hlibrary] using h
        exact .library (by rwa [← Options.validLibrary_iff])
    | _ => cases h
  · rintro (hspace | hlibrary)
    · simp [problem?, Options.validSpace_iff, hspace]
    · simp [problem?, Options.validLibrary_iff, hlibrary]

/-- From any draft, a stage that succeeds only adds: the lines before stay in front, the registered
names stay as they are, and names are found only for types that had none, one for each type. A stage
that fails refuses the options, and leaves the draft exactly as it was. -/
theorem run_appends_or_keeps (job : Job) (stage : Stage) (d : Draft) :
    match (stage.run job).run d with
    | (.ok (), d') =>
      (∀ problem, ¬stage.Refuses job.options problem) ∧
      d.output.lines.toList <+: d'.output.lines.toList ∧
      d'.aliases = d.aliases ∧
      ∃ found, d'.cache = found ++ d.cache ∧ (found.map Prod.fst).Nodup ∧
        ∀ entry ∈ found, d.cache.lookup entry.1 = none ∧
          entry.2 = job.typeName d.aliases entry.1
    | (.error e, d') =>
      (∃ problem, stage.Refuses job.options problem ∧ e = ⟨.invalidConfig problem, []⟩) ∧
      d' = d := by
  cases hproblem : stage.problem? job.options with
  | none =>
    rw [run_of_accepted hproblem]
    have hwrites : Emit.Writes job (stage.write job) _ _ := Emit.writes_stage stage
    refine ⟨fun problem hrefuses => ?_, hwrites.lines_prefix d, (hwrites.grows d).aliases,
      (hwrites.grows d).finds⟩
    rw [problem?_eq_some_iff.2 hrefuses] at hproblem
    cases hproblem
  | some problem =>
    rw [run_of_problem hproblem]
    exact ⟨⟨problem, problem?_eq_some_iff.1 hproblem, rfl⟩, rfl⟩

end Stage

end HeaderBindings
