import HeaderBindings.Bindings.Structs
import Mathlib.Data.List.Basic

/-! Of several entries with the same key only the first one is kept. What is kept is what is found
first for its key, so a look-up finds the same among the entries that are kept as among all. -/

namespace HeaderBindings

variable {α β : Type}

theorem mem_of_mem_firstsBeyond {key : α → String} {seen : List String} {entries : List α} {a : α}
    (h : a ∈ firstsBeyond key seen entries) : a ∈ entries := by
  induction entries generalizing seen with
  | nil => cases h
  | cons b rest ih =>
    rw [firstsBeyond] at h
    split at h
    · exact List.mem_cons_of_mem _ (ih h)
    · rcases List.mem_cons.1 h with rfl | h
      · exact List.mem_cons_self
      · exact List.mem_cons_of_mem _ (ih h)

theorem mem_of_mem_firsts {key : α → String} {entries : List α} {a : α}
    (h : a ∈ firsts key entries) : a ∈ entries :=
  mem_of_mem_firstsBeyond h

theorem firstsBeyond_sublist (key : α → String) (seen : List String) (entries : List α) :
    (firstsBeyond key seen entries).Sublist entries := by
  induction entries generalizing seen with
  | nil => exact .slnil
  | cons a rest ih =>
    rw [firstsBeyond]
    split
    · exact (ih _).cons a
    · exact (ih _).cons_cons a

/-- What is kept is what is found first for its key. -/
theorem find?_of_mem_firstsBeyond {key : α → String} {seen : List String} {entries : List α} {a : α}
    (h : a ∈ firstsBeyond key seen entries) :
    key a ∉ seen ∧ entries.find? (fun b => key b == key a) = some a := by
  induction entries generalizing seen with
  | nil => cases h
  | cons b rest ih =>
    rw [firstsBeyond] at h
    split at h
    · next hseen =>
      obtain ⟨hnew, hfind⟩ := ih h
      have hne : key b ≠ key a := fun heq => hnew (heq ▸ hseen)
      exact ⟨hnew, by rw [List.find?_cons_of_neg (by simpa using hne), hfind]⟩
    · next hseen =>
      rcases List.mem_cons.1 h with rfl | h
      · exact ⟨hseen, List.find?_cons_of_pos (beq_self_eq_true _)⟩
      · obtain ⟨hnew, hfind⟩ := ih h
        have hne : key b ≠ key a := fun heq => hnew (heq ▸ List.mem_cons_self)
        refine ⟨fun hin => hnew (List.mem_cons_of_mem _ hin), ?_⟩
        rw [List.find?_cons_of_neg (by simpa using hne), hfind]

theorem find?_of_mem_firsts {key : α → String} {entries : List α} {a : α}
    (h : a ∈ firsts key entries) : entries.find? (fun b => key b == key a) = some a :=
  (find?_of_mem_firstsBeyond h).2

theorem mem_firstsBeyond_of_find? {key : α → String} {seen : List String} {entries : List α} {a : α}
    (hnew : key a ∉ seen) (hfind : entries.find? (fun b => key b == key a) = some a) :
    a ∈ firstsBeyond key seen entries := by
  induction entries generalizing seen with
  | nil => cases hfind
  | cons b rest ih =>
    rw [firstsBeyond]
    by_cases hkey : key b = key a
    · rw [List.find?_cons_of_pos (by simpa using hkey)] at hfind
      cases hfind
      rw [if_neg hnew]
      exact List.mem_cons_self
    · rw [List.find?_cons_of_neg (by simpa using hkey)] at hfind
      split
      · exact ih hnew hfind
      · refine List.mem_cons_of_mem _ (ih (fun hmem => ?_) hfind)
        rcases List.mem_cons.1 hmem with heq | hmem
        · exact hkey heq.symm
        · exact hnew hmem

theorem mem_firsts {key : α → String} {entries : List α} {a : α} :
    a ∈ firsts key entries ↔ entries.find? (fun b => key b == key a) = some a :=
  ⟨find?_of_mem_firsts, mem_firstsBeyond_of_find? List.not_mem_nil⟩

theorem map_firstsBeyond (key : α → String) (seen : List String) (entries : List α) :
    (firstsBeyond key seen entries).map key =
      ((entries.map key).filter (· ∉ seen)).eraseDups := by
  induction entries generalizing seen with
  | nil => rfl
  | cons a rest ih =>
    rw [firstsBeyond, List.map_cons]
    split
    · next hseen => rw [ih, List.filter_cons_of_neg (by simpa using hseen)]
    · next hseen =>
      rw [List.map_cons, ih, List.filter_cons_of_pos (by simpa using hseen), List.eraseDups_cons,
        List.filter_filter]
      simp only [List.mem_cons, not_or, Bool.decide_and, decide_not]
      rfl

/-- The keys that are kept are all keys, each at its first place. -/
theorem map_firsts (key : α → String) (entries : List α) :
    (firsts key entries).map key = (entries.map key).eraseDups := by
  rw [firsts, map_firstsBeyond, List.filter_eq_self.2 (by simp)]

theorem nodup_map_firstsBeyond (key : α → String) (seen : List String) (entries : List α) :
    ((firstsBeyond key seen entries).map key).Nodup := by
  induction entries generalizing seen with
  | nil => exact .nil
  | cons a rest ih =>
    rw [firstsBeyond]
    split
    · exact ih seen
    · rw [List.map_cons, List.nodup_cons]
      refine ⟨fun hmem => ?_, ih _⟩
      obtain ⟨b, hb, hkey⟩ := List.mem_map.1 hmem
      exact (find?_of_mem_firstsBeyond hb).1 (hkey ▸ List.mem_cons_self)

/-- Of the keys seen before, only which ones they are counts. -/
theorem firstsBeyond_congr {key : α → String} {seen seen' : List String}
    (h : ∀ k, k ∈ seen ↔ k ∈ seen') (entries : List α) :
    firstsBeyond key seen entries = firstsBeyond key seen' entries := by
  induction entries generalizing seen seen' with
  | nil => rfl
  | cons a rest ih =>
    simp only [firstsBeyond, h (key a)]
    split
    · exact ih h
    · exact congrArg (a :: ·) (ih fun k => by rw [List.mem_cons, List.mem_cons, h k])

theorem firstsBeyond_map (key : β → String) (f : α → β) (seen : List String) (entries : List α) :
    firstsBeyond key seen (entries.map f) =
      (firstsBeyond (fun a => key (f a)) seen entries).map f := by
  induction entries generalizing seen with
  | nil => rfl
  | cons a rest ih =>
    rw [List.map_cons, firstsBeyond, firstsBeyond]
    split
    · exact ih seen
    · rw [List.map_cons, ih]

theorem firsts_map (key : β → String) (f : α → β) (entries : List α) :
    firsts key (entries.map f) = (firsts (fun a => key (f a)) entries).map f :=
  firstsBeyond_map key f [] entries

theorem firstsBeyond_eq_self {key : α → String} {seen : List String} {entries : List α}
    (h : (entries.map key).Nodup) (hnew : ∀ a ∈ entries, key a ∉ seen) :
    firstsBeyond key seen entries = entries := by
  induction entries generalizing seen with
  | nil => rfl
  | cons a rest ih =>
    obtain ⟨ha, hrest⟩ := List.forall_mem_cons.1 hnew
    obtain ⟨hkey, hdistinct⟩ := List.nodup_cons.1 h
    have hnew' : ∀ b ∈ rest, key b ∉ key a :: seen := fun b hb hmem => by
      rcases List.mem_cons.1 hmem with heq | hmem
      · exact hkey (heq ▸ List.mem_map_of_mem hb)
      · exact hrest b hb hmem
    rw [firstsBeyond, if_neg ha, ih hdistinct hnew']

/-- Nothing is left out where no key comes twice. -/
theorem firsts_eq_self {key : α → String} {entries : List α} (h : (entries.map key).Nodup) :
    firsts key entries = entries :=
  firstsBeyond_eq_self h fun _ _ => List.not_mem_nil

theorem lookup_firstsBeyond (entries : List (String × β)) (seen : List String) (k : String) :
    (firstsBeyond Prod.fst seen entries).lookup k =
      if k ∈ seen then none else entries.lookup k := by
  induction entries generalizing seen with
  | nil => rw [firstsBeyond, List.lookup_nil, ite_self]
  | cons entry rest ih =>
    obtain ⟨name, b⟩ := entry
    by_cases hk : k = name
    · subst hk
      by_cases hseen : k ∈ seen
      · rw [firstsBeyond, if_pos hseen, ih, if_pos hseen, if_pos hseen]
      · rw [firstsBeyond, if_neg hseen, if_neg hseen, List.lookup_cons_self, List.lookup_cons_self]
    · have hother (after : List (String × β)) : ((name, b) :: after).lookup k = after.lookup k := by
        rw [List.lookup_cons, beq_eq_false_iff_ne.2 hk]
      have hcons : k ∈ name :: seen ↔ k ∈ seen := by rw [List.mem_cons, or_iff_right hk]
      rw [firstsBeyond, hother]
      split
      · exact ih seen
      · rw [hother, ih]
        simp only [hcons]

/-- A look-up among the first entries finds what it finds among all. -/
theorem lookup_firsts (entries : List (String × β)) (k : String) :
    (firsts Prod.fst entries).lookup k = entries.lookup k := by
  rw [firsts, lookup_firstsBeyond, if_neg List.not_mem_nil]

end HeaderBindings
