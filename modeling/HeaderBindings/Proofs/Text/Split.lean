import HeaderBindings.Text.Blank

/-! Texts cut at one character. No part holds that character, and what a part holds is in the
text; so it is for the lines of a text, and for what is left of them when they are trimmed. -/

namespace HeaderBindings.Text

theorem splitAt_eq_splitOn {α : Type} [DecidableEq α] (sep : α) (s : List α) :
    splitAt sep s = s.splitOn sep := by
  induction s with
  | nil => rfl
  | cons a rest ih =>
    rw [splitAt, ih, List.splitOn_eq_splitOnP, List.splitOn_eq_splitOnP,
      List.splitOnP_cons_eq_if_modifyHead]
    by_cases h : a = sep
    · simp [h]
    · have hne := List.splitOnP_ne_nil (· == sep) rest
      simp only [h, if_false, beq_iff_eq]
      cases hsplit : List.splitOnP (· == sep) rest with
      | nil => exact absurd hsplit hne
      | cons part parts => rfl

theorem splitAt_append {α : Type} [DecidableEq α] (sep : α) (s t : List α) :
    splitAt sep (s ++ sep :: t) = splitAt sep s ++ splitAt sep t := by
  simp only [splitAt_eq_splitOn, List.splitOn_eq_splitOnP]
  exact List.splitOnP_append_cons s t (beq_self_eq_true sep)

theorem mem_of_mem_splitAt {α : Type} [DecidableEq α] {sep a : α} {s part : List α}
    (hpart : part ∈ splitAt sep s) (ha : a ∈ part) : a ∈ s ∧ a ≠ sep := by
  induction s generalizing part with
  | nil =>
    rw [List.mem_singleton.1 hpart] at ha
    cases ha
  | cons b rest ih =>
    rw [splitAt] at hpart
    split at hpart
    · rcases List.mem_cons.1 hpart with rfl | hpart
      · cases ha
      · exact (ih hpart ha).imp_left (List.mem_cons_of_mem _)
    · next hb =>
      split at hpart
      · rw [List.mem_singleton.1 hpart, List.mem_singleton] at ha
        rw [ha]
        exact ⟨List.mem_cons_self, hb⟩
      · next first parts hsplit =>
        have hrest {other : List α} (hmem : other ∈ first :: parts) (h : a ∈ other) :
            a ∈ b :: rest ∧ a ≠ sep :=
          (ih (hsplit ▸ hmem) h).imp_left (List.mem_cons_of_mem _)
        rcases List.mem_cons.1 hpart with rfl | hpart
        · rcases List.mem_cons.1 ha with rfl | ha
          · exact ⟨List.mem_cons_self, hb⟩
          · exact hrest List.mem_cons_self ha
        · exact hrest (List.mem_cons_of_mem _ hpart) ha

theorem exists_mem_splitAt {α : Type} [DecidableEq α] {sep a : α} {s : List α} (ha : a ∈ s)
    (hne : a ≠ sep) : ∃ part ∈ splitAt sep s, a ∈ part := by
  induction s with
  | nil => cases ha
  | cons b rest ih =>
    rw [splitAt]
    split
    · next hb =>
      rcases List.mem_cons.1 ha with rfl | ha
      · exact absurd hb hne
      · obtain ⟨part, hpart, hin⟩ := ih ha
        exact ⟨part, List.mem_cons_of_mem _ hpart, hin⟩
    · split
      · next hsplit =>
        rcases List.mem_cons.1 ha with rfl | ha
        · exact ⟨[a], List.mem_cons_self, List.mem_cons_self⟩
        · obtain ⟨part, hpart, -⟩ := ih ha
          rw [hsplit] at hpart
          cases hpart
      · next first parts hsplit =>
        rcases List.mem_cons.1 ha with rfl | ha
        · exact ⟨a :: first, List.mem_cons_self, List.mem_cons_self⟩
        · obtain ⟨part, hpart, hin⟩ := ih ha
          rw [hsplit] at hpart
          rcases List.mem_cons.1 hpart with rfl | hpart
          · exact ⟨b :: part, List.mem_cons_self, List.mem_cons_of_mem _ hin⟩
          · exact ⟨part, List.mem_cons_of_mem _ hpart, hin⟩

theorem dropCarriageReturn_subset (line : List Char) : dropCarriageReturn line ⊆ line := by
  rw [dropCarriageReturn]
  split
  · exact line.dropLast_subset
  · exact List.Subset.refl line

/-- What a line holds is in the text, and it is no line feed. -/
theorem mem_of_mem_lines {c : Char} {s line : List Char} (hline : line ∈ lines s) (hc : c ∈ line) :
    c ∈ s ∧ c ≠ '\n' := by
  have hended {line : List Char}
      (h : line ∈ (splitAt '\n' s).dropLast.map dropCarriageReturn) (hc : c ∈ line) :
      c ∈ s ∧ c ≠ '\n' := by
    obtain ⟨part, hpart, rfl⟩ := List.mem_map.1 h
    exact mem_of_mem_splitAt (List.dropLast_subset _ hpart) (dropCarriageReturn_subset part hc)
  simp only [lines] at hline
  split at hline
  · exact hended hline hc
  · exact hended hline hc
  · next hlast =>
    rcases List.mem_append.1 hline with hline | hline
    · exact hended hline hc
    · rw [List.mem_singleton.1 hline] at hc
      exact mem_of_mem_splitAt (List.mem_of_getLast? hlast) hc

theorem trim_subset (s : List Char) : trim s ⊆ s := by
  intro c hc
  rw [trim, List.mem_reverse] at hc
  have htrimmed := (List.dropWhile_suffix isBlank).subset hc
  exact (List.dropWhile_suffix isBlank).subset (List.mem_reverse.1 htrimmed)

/-- A trimmed text does not begin with a blank. -/
theorem isBlank_of_trim_eq_cons {c : Char} {s rest : List Char} (h : trim s = c :: rest) :
    isBlank c = false := by
  have hprefix : trim s <+: trimLeft s := by
    rw [trim, ← List.reverse_suffix, List.reverse_reverse]
    exact List.dropWhile_suffix isBlank
  obtain ⟨after, hafter⟩ := hprefix
  rw [h, List.cons_append, trimLeft] at hafter
  have hhead := List.head?_dropWhile_not isBlank s
  rw [← hafter] at hhead
  exact hhead

end HeaderBindings.Text
