import HeaderBindings.Log

/-! A log that grows. Nothing that is in it is changed or taken out; what is added, and only that,
can be told by where it comes from, so the rest of the log is the same before and after. -/

namespace HeaderBindings.Log

variable {p q : Record → Prop} {log log' log'' : Log}

/-- At the end of a log, records of which `p` holds are added. -/
def Adds (p : Record → Prop) (log log' : Log) : Prop :=
  ∃ records, log'.toList = log.toList ++ records ∧ ∀ r ∈ records, p r

theorem Adds.refl (log : Log) : Adds p log log :=
  ⟨[], by simp, by simp⟩

theorem Adds.trans (h : Adds p log log') (h' : Adds p log' log'') : Adds p log log'' := by
  obtain ⟨records, hlog, hp⟩ := h
  obtain ⟨records', hlog', hp'⟩ := h'
  refine ⟨records ++ records', by rw [hlog', hlog, List.append_assoc], fun r hr => ?_⟩
  rcases List.mem_append.1 hr with hr | hr
  · exact hp r hr
  · exact hp' r hr

theorem Adds.mono (h : Adds p log log') (hpq : ∀ r, p r → q r) : Adds q log log' := by
  obtain ⟨records, hlog, hp⟩ := h
  exact ⟨records, hlog, fun r hr => hpq r (hp r hr)⟩

theorem adds_append {records : List Record} (h : ∀ r ∈ records, p r) :
    Adds p log (log ++ records.toArray) :=
  ⟨records, by simp, h⟩

theorem adds_push {r : Record} (h : p r) : Adds p log (log.push r) :=
  ⟨[r], by simp, by simpa using h⟩

/-- Records of another kind are neither added nor lost. -/
theorem Adds.filter_eq (h : Adds p log log') {kind : Record → Bool}
    (hkind : ∀ r, p r → kind r = false) : log'.toList.filter kind = log.toList.filter kind := by
  obtain ⟨records, hlog, hp⟩ := h
  have hnone : records.filter kind = [] :=
    List.filter_eq_nil_iff.2 fun r hr => by simp [hkind r (hp r hr)]
  rw [hlog, List.filter_append, hnone, List.append_nil]

end HeaderBindings.Log
