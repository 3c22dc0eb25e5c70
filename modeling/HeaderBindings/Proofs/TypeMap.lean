import HeaderBindings.TypeMap

/-! What the type table puts into a name. A character of a converted name is one of the name, one of
a replacement, or one of the type that stands for `unsigned` alone. -/

namespace HeaderBindings

open Text

namespace TypeRule

variable {c : Char}

theorem mem_of_mem_substitute {word new s : List Char} {before : Bool} {skip : Nat}
    (h : c ∈ substitute word new before skip s) : c ∈ new ∨ c ∈ s := by
  induction s generalizing before skip with
  | nil =>
    rw [substitute] at h
    split at h
    · exact .inl h
    · cases h
  | cons d rest ih =>
    have hrest {before : Bool} {skip : Nat} (h : c ∈ substitute word new before skip rest) :
        c ∈ new ∨ c ∈ d :: rest :=
      (ih h).imp_right (List.mem_cons_of_mem _)
    have hkept {before : Bool} (h : c ∈ d :: substitute word new before 0 rest) :
        c ∈ new ∨ c ∈ d :: rest := by
      rcases List.mem_cons.1 h with rfl | h
      · exact .inr List.mem_cons_self
      · exact hrest h
    cases skip with
    | succ skip => exact hrest h
    | zero =>
      unfold substitute at h
      split at h
      · cases word with
        | nil => exact (List.mem_append.1 h).elim .inl hkept
        | cons first w => exact (List.mem_append.1 h).elim .inl hrest
      · exact hkept h

end TypeRule

namespace TypeMap

variable {c : Char}

theorem mem_of_mem_foldl_apply {rules : List TypeRule} {s : List Char}
    (h : c ∈ rules.foldl (fun s rule => rule.apply s) s) :
    c ∈ s ∨ ∃ rule ∈ rules, c ∈ rule.replacement.toList := by
  induction rules generalizing s with
  | nil => exact .inl h
  | cons rule rest ih =>
    rcases ih h with happly | ⟨other, hother, hc⟩
    · rcases TypeRule.mem_of_mem_substitute happly with hnew | hs
      · exact .inr ⟨rule, List.mem_cons_self, hnew⟩
      · exact .inl hs
    · exact .inr ⟨other, List.mem_cons_of_mem _ hother, hc⟩

theorem trimLeft_drop_subset (n : Nat) (s : List Char) : trimLeft (s.drop n) ⊆ s :=
  fun _ hc => List.drop_subset n s ((List.dropWhile_suffix isBlank).subset hc)

theorem dropConst_subset (s : List Char) : dropConst s ⊆ s := by
  fun_induction dropConst s with
  | case1 s _ ih => exact fun _ hc => trimLeft_drop_subset 6 s (ih hc)
  | case2 s => exact List.Subset.refl s

theorem mem_of_mem_dropUnsigned {s : List Char} (h : c ∈ dropUnsigned s) :
    c ∈ s ∨ c ∈ "uint32".toList := by
  rw [dropUnsigned] at h
  split at h
  · exact .inr h
  · split at h
    · exact .inl (trimLeft_drop_subset 9 s h)
    · exact .inl h

theorem mem_of_mem_convert {map : TypeMap} {spelling : String}
    (h : c ∈ (map.convert spelling).toList) :
    c ∈ spelling.toList ∨ (∃ rule ∈ map.rules, c ∈ rule.replacement.toList) ∨
      c ∈ "uint32".toList := by
  rw [convert, String.toList_ofList] at h
  rcases mem_of_mem_dropUnsigned h with h | h
  · exact (mem_of_mem_foldl_apply (dropConst_subset _ h)).imp_right .inl
  · exact .inr (.inr h)

end TypeMap

end HeaderBindings
