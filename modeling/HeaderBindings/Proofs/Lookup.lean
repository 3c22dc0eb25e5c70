import Mathlib.Data.List.Basic
import Mathlib.Data.List.Induction

/-! Look-ups in lists of entries, and lists without their repetitions. -/

namespace HeaderBindings

variable {α β : Type}

/-- What a look-up finds is an entry. -/
theorem mem_of_lookup [BEq α] [LawfulBEq α] {entries : List (α × β)} {key : α} {value : β}
    (h : entries.lookup key = some value) : (key, value) ∈ entries := by
  obtain ⟨before, after, rfl, -⟩ := List.lookup_eq_some_iff.1 h
  exact List.mem_append_right _ List.mem_cons_self

/-- A look-up does not see what has been taken out for another key. -/
theorem lookup_filter_ne [DecidableEq α] {key other : α} (h : key ≠ other)
    (entries : List (α × β)) :
    (entries.filter (·.1 ≠ other)).lookup key = entries.lookup key := by
  induction entries with
  | nil => rfl
  | cons entry rest ih =>
    by_cases hentry : entry.1 = other
    · have hne : (key == entry.1) = false := by simp [hentry, h]
      rw [List.filter_cons_of_neg (by simpa using hentry), ih, List.lookup_cons, hne]
    · rw [List.filter_cons_of_pos (by simpa using hentry), List.lookup_cons, List.lookup_cons, ih]

/-- A look-up finds something for the keys of the entries and for no other. -/
theorem mem_map_fst_iff {entries : List (String × β)} {k : String} :
    k ∈ entries.map Prod.fst ↔ (entries.lookup k).isSome := by
  rw [List.lookup_isSome_iff, List.mem_map]
  exact exists_congr fun entry => and_congr_right fun _ => by rw [beq_iff_eq, eq_comm]

theorem eraseDups_concat [DecidableEq α] (l : List α) (a : α) :
    (l ++ [a]).eraseDups = if a ∈ l then l.eraseDups else l.eraseDups ++ [a] := by
  rw [List.eraseDups_append, List.cons_removeAll]
  by_cases hmem : a ∈ l
  · rw [if_neg (by simpa using hmem), if_pos hmem]
    exact List.append_nil _
  · rw [if_pos (by simpa using hmem), if_neg hmem]
    rfl

/-- Without repetitions the elements stand in the order in which they come first. -/
theorem pairwise_idxOf_eraseDups [DecidableEq α] (l : List α) :
    l.eraseDups.Pairwise fun a b => l.idxOf a < l.idxOf b := by
  induction l using List.reverseRecOn with
  | nil => exact .nil
  | append_singleton l c ih =>
    have hbefore : l.eraseDups.Pairwise fun a b => (l ++ [c]).idxOf a < (l ++ [c]).idxOf b := by
      refine ih.imp_of_mem fun ha hb hlt => ?_
      rw [List.idxOf_append_of_mem (List.mem_eraseDups.1 ha),
        List.idxOf_append_of_mem (List.mem_eraseDups.1 hb)]
      exact hlt
    rw [eraseDups_concat]
    split
    · exact hbefore
    · next hc =>
      refine List.pairwise_append.2 ⟨hbefore, List.pairwise_singleton _ c, fun a ha b hb => ?_⟩
      obtain rfl := List.mem_singleton.1 hb
      have ha := List.mem_eraseDups.1 ha
      rw [List.idxOf_append_of_mem ha, List.idxOf_append_of_notMem hc]
      exact Nat.lt_add_right _ (List.idxOf_lt_length_iff.2 ha)

end HeaderBindings
