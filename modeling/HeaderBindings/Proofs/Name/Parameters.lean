import HeaderBindings.Name

/-! Names of parameters. A blank name and a reserved word are replaced, and every other name is
kept. What they are replaced with is neither blank nor reserved, so a second time nothing changes.
Where two different names make one parameter name, both are blank or one of them is what the other
is replaced with. -/

namespace HeaderBindings.Name

open Text

variable {name : String}

theorem legalParameter_of_isBlank (h : name.toList.all isBlank) : legalParameter name = "value" :=
  if_pos h

/-- A name that is neither blank nor reserved is kept. -/
theorem legalParameter_of_notMem (hblank : ¬name.toList.all isBlank) (h : name ∉ reservedWords) :
    legalParameter name = name := by
  have hthis : name ≠ "this" := fun heq => h (by rw [heq]; decide)
  rw [legalParameter, if_neg hblank, if_neg hthis, if_neg h]

theorem legalParameter_cases (name : String) :
    name.toList.all isBlank ∨ name ∈ reservedWords ∨ legalParameter name = name := by
  by_cases hblank : name.toList.all isBlank
  · exact .inl hblank
  by_cases hreserved : name ∈ reservedWords
  · exact .inr (.inl hreserved)
  · exact .inr (.inr (legalParameter_of_notMem hblank hreserved))

/-- No reserved word is replaced with nothing, or with what a blank name is replaced with. -/
theorem legalParameter_of_mem (h : name ∈ reservedWords) :
    legalParameter name ≠ "" ∧ legalParameter name ≠ "value" := by
  revert name
  decide +kernel

/-- No two reserved words are replaced with the same name. -/
theorem eq_of_mem_reservedWords : ∀ v ∈ reservedWords, ∀ w ∈ reservedWords,
    legalParameter v = legalParameter w → v = w := by
  decide +kernel

/-- Two names are made one parameter name if they are one, if both are blank, or if one of them is
what the other is replaced with. -/
theorem legalParameter_eq_cases {a b : String} (h : legalParameter a = legalParameter b) :
    a = b ∨ legalParameter a = b ∨ a = legalParameter b ∨
      (a.toList.all isBlank ∧ b.toList.all isBlank) := by
  rcases legalParameter_cases a with ha | ha | ha
  · rcases legalParameter_cases b with hb | hb | hb
    · exact .inr (.inr (.inr ⟨ha, hb⟩))
    · rw [legalParameter_of_isBlank ha] at h
      exact absurd h.symm (legalParameter_of_mem hb).2
    · exact .inr (.inl (h.trans hb))
  · rcases legalParameter_cases b with hb | hb | hb
    · rw [legalParameter_of_isBlank hb] at h
      exact absurd h (legalParameter_of_mem ha).2
    · exact .inl (eq_of_mem_reservedWords a ha b hb h)
    · exact .inr (.inl (h.trans hb))
  · exact .inr (.inr (.inl (ha.symm.trans h)))

/-- A name that a parameter can have. -/
structure Legal (name : String) : Prop where
  not_blank : ¬name.toList.all isBlank
  not_reserved : name ∉ reservedWords

instance (name : String) : Decidable (Legal name) :=
  decidable_of_iff (¬name.toList.all isBlank ∧ name ∉ reservedWords)
    ⟨fun h => ⟨h.1, h.2⟩, fun h => ⟨h.not_blank, h.not_reserved⟩⟩

theorem legal_of_mem (h : name ∈ reservedWords) : Legal (legalParameter name) := by
  revert name
  decide +kernel

theorem legal_legalParameter (name : String) : Legal (legalParameter name) := by
  by_cases hblank : name.toList.all isBlank
  · rw [legalParameter_of_isBlank hblank]
    decide +kernel
  by_cases hreserved : name ∈ reservedWords
  · exact legal_of_mem hreserved
  · rw [legalParameter_of_notMem hblank hreserved]
    exact ⟨hblank, hreserved⟩

/-- The names that are kept are those that a parameter can have. -/
theorem legalParameter_eq_self_iff : legalParameter name = name ↔ Legal name :=
  ⟨fun h => h ▸ legal_legalParameter name,
    fun h => legalParameter_of_notMem h.not_blank h.not_reserved⟩

theorem legalParameter_ne_empty (name : String) : legalParameter name ≠ "" := by
  rcases legalParameter_cases name with hblank | hreserved | hkept
  · rw [legalParameter_of_isBlank hblank]
    decide
  · exact (legalParameter_of_mem hreserved).1
  · rw [hkept]
    rintro rfl
    rw [legalParameter_of_isBlank rfl] at hkept
    exact absurd hkept (by decide)

end HeaderBindings.Name
