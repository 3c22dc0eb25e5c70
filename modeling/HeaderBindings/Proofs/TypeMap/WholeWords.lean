import HeaderBindings.TypeMap

/-! Names that are a single word. Word boundaries lie at the two ends of such a name and nowhere
else, so a rule matches the whole name or nothing of it, whatever its pattern has in common with
the name. A rule for another name leaves it alone, and so does every list of such rules. -/

namespace HeaderBindings

open Text

namespace TypeRule

variable {s word new : List Char} {before : Bool}

theorem startsWord_of_ne_nil (hs : ∀ c ∈ s, isWordChar c) (hne : s ≠ []) :
    startsWord s = true := by
  cases s with
  | nil => exact absurd rfl hne
  | cons c rest => exact hs c List.mem_cons_self

theorem endsWord_of_ne_nil (hs : ∀ c ∈ s, isWordChar c) (hne : s ≠ []) :
    endsWord before s = true := by
  rw [endsWord, List.getLast?_eq_some_getLast hne]
  exact hs _ (List.getLast_mem hne)

/-- What matches in a word is all of it, at its start. -/
theorem eq_of_matchesAt (hs : ∀ c ∈ s, isWordChar c) (hword : word ≠ [])
    (h : matchesAt word before s = true) : before = false ∧ s = word := by
  rw [matchesAt, Bool.and_eq_true, Bool.and_eq_true, bne_iff_ne, bne_iff_ne] at h
  obtain ⟨⟨hopens, hstart⟩, hend⟩ := h
  obtain ⟨rest, rfl⟩ := List.isPrefixOf_iff_prefix.1 hopens
  obtain ⟨hfront, hrest⟩ := List.forall_mem_append.1 hs
  have hne : word ++ rest ≠ [] := List.append_ne_nil_of_left_ne_nil hword rest
  rw [startsWord_of_ne_nil hs hne] at hstart
  rw [endsWord_of_ne_nil hfront hword, List.drop_left] at hend
  refine ⟨Bool.eq_false_iff.2 hstart, ?_⟩
  cases rest with
  | nil => exact List.append_nil word
  | cons c rest =>
    -- behind the match there would be no boundary
    exact absurd (startsWord_of_ne_nil hrest (List.cons_ne_nil c rest)).symm hend

/-- Nothing is replaced in a word, unless it is the pattern and stands alone. -/
theorem substitute_of_word (hs : ∀ c ∈ s, isWordChar c) (hword : word ≠ [])
    (hother : before = true ∨ s ≠ word) : substitute word new before 0 s = s := by
  have hmatch {s : List Char} {before : Bool} (hs : ∀ c ∈ s, isWordChar c)
      (hother : before = true ∨ s ≠ word) : ¬matchesAt word before s = true := by
    intro h
    obtain ⟨hbefore, heq⟩ := eq_of_matchesAt hs hword h
    rcases hother with htrue | hne
    · cases hbefore.symm.trans htrue
    · exact hne heq
  induction s generalizing before with
  | nil =>
    rw [substitute, decide_eq_true rfl, Bool.true_and, if_neg (hmatch hs hother)]
  | cons c rest ih =>
    obtain ⟨hc, hrest⟩ := List.forall_mem_cons.1 hs
    unfold substitute
    rw [if_neg (hmatch hs hother), ih hrest (.inl hc)]

theorem apply_of_word {rule : TypeRule} (hs : ∀ c ∈ s, isWordChar c) (hpattern : rule.pattern ≠ "")
    (hother : s ≠ rule.pattern.toList) : rule.apply s = s :=
  substitute_of_word hs (fun h => hpattern (String.toList_eq_nil_iff.1 h)) (.inr hother)

end TypeRule

namespace TypeMap

variable {s : List Char}

/-- Rules that leave a text alone one by one leave it alone one after the other. -/
theorem foldl_apply_eq_self {rules : List TypeRule} (h : ∀ rule ∈ rules, rule.apply s = s) :
    rules.foldl (fun s rule => rule.apply s) s = s := by
  induction rules with
  | nil => rfl
  | cons rule rest ih =>
    obtain ⟨hfirst, hrest⟩ := List.forall_mem_cons.1 h
    rw [List.foldl_cons, hfirst]
    exact ih hrest

theorem foldl_apply_of_word {rules : List TypeRule} (hs : ∀ c ∈ s, isWordChar c)
    (hpatterns : ∀ rule ∈ rules, rule.pattern ≠ "")
    (hother : ∀ rule ∈ rules, s ≠ rule.pattern.toList) :
    rules.foldl (fun s rule => rule.apply s) s = s :=
  foldl_apply_eq_self fun rule hrule =>
    TypeRule.apply_of_word hs (hpatterns rule hrule) (hother rule hrule)

/-- A word does not begin with a text that holds a space. -/
theorem isPrefixOf_eq_false {front : List Char} (hs : ∀ c ∈ s, isWordChar c)
    (hspace : ' ' ∈ front) : front.isPrefixOf s = false := by
  refine Bool.eq_false_iff.2 fun h => ?_
  have hmem := (List.isPrefixOf_iff_prefix.1 h).subset hspace
  exact absurd (hs _ hmem) (by decide)

theorem dropConst_of_word (hs : ∀ c ∈ s, isWordChar c) : dropConst s = s := by
  rw [dropConst, isPrefixOf_eq_false hs (by decide), if_neg Bool.false_ne_true]

theorem dropUnsigned_of_word (hs : ∀ c ∈ s, isWordChar c) (hne : s ≠ "unsigned".toList) :
    dropUnsigned s = s := by
  rw [dropUnsigned, if_neg hne, isPrefixOf_eq_false hs (by decide), Bool.false_and,
    if_neg Bool.false_ne_true]

theorem pattern_ne_empty_of_mem_withRules {extra : List TypeRule}
    (hextra : ∀ rule ∈ extra, rule.pattern ≠ "") {rule : TypeRule}
    (h : rule ∈ (withRules extra).rules) : rule.pattern ≠ "" := by
  have hbuiltin : ∀ rule ∈ builtinRules, rule.pattern ≠ "" := by decide
  rcases List.mem_append.1 h with h | h
  · exact hextra rule h
  · exact hbuiltin rule h

theorem knows_eq_false_iff {map : TypeMap} {name : String} :
    map.knows name = false ↔ ∀ rule ∈ map.rules, rule.pattern ≠ name := by
  rw [knows, List.any_eq_false]
  simp only [beq_iff_eq, ne_eq]

/-- A word that no rule has as its pattern is converted to itself, unless it is `unsigned`. -/
theorem convert_of_word {map : TypeMap} {name : String}
    (hpatterns : ∀ rule ∈ map.rules, rule.pattern ≠ "") (hword : ∀ c ∈ name.toList, isWordChar c)
    (hunknown : map.knows name = false) (hunsigned : name ≠ "unsigned") :
    map.convert name = name := by
  have hother (rule : TypeRule) (hrule : rule ∈ map.rules) : name.toList ≠ rule.pattern.toList :=
    fun h => knows_eq_false_iff.1 hunknown rule hrule (String.toList_inj.1 h).symm
  have hne : name.toList ≠ "unsigned".toList := fun h => hunsigned (String.toList_inj.1 h)
  rw [convert, foldl_apply_of_word hword hpatterns hother, dropConst_of_word hword,
    dropUnsigned_of_word hword hne, String.ofList_toList]

end TypeMap

end HeaderBindings
