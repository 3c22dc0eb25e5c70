import HeaderBindings.Name
import HeaderBindings.Proofs.Text.Uppercase

/-! A name is converted part by part. A converted name has no underscore and begins with its own
upper case, so converting it again changes nothing, and a name in camel case is converted to what
its own name is. The same holds of the name of a function type that a field gives, which is
converted once where the field is written and twice where the function type is. -/

namespace HeaderBindings.Name

open Text

/-- A text in which there is nothing left to convert. -/
structure Settled (cs : List Char) : Prop where
  no_underscore : '_' ∉ cs
  head : ∀ c rest, cs = c :: rest → uppercase c = [c]

/-- A part of a name with its first character in upper case. -/
def capitalize : List Char → List Char
  | [] => []
  | c :: rest => uppercase c ++ rest

/-- The parts of a name, one behind the other and capitalised. The first one is kept unless it
`starts` with a capital as well. -/
def partwise (starts : Bool) : List (List Char) → List Char
  | [] => []
  | first :: rest => (if starts then capitalize first else first) ++ rest.flatMap capitalize

theorem partwise_true (parts : List (List Char)) :
    partwise true parts = parts.flatMap capitalize := by
  cases parts with
  | nil => rfl
  | cons first rest => rw [partwise, if_pos rfl, List.flatMap_cons]

theorem joinParts_eq_partwise (starts : Bool) (cs : List Char) :
    joinParts starts cs = partwise starts (splitAt '_' cs) := by
  induction cs generalizing starts with
  | nil => cases starts <;> rfl
  | cons c rest ih =>
    rw [joinParts, splitAt]
    split
    · rw [ih, partwise_true]
      cases starts <;> rfl
    · rw [ih false]
      cases splitAt '_' rest with
      | nil => cases starts <;> simp [partwise, capitalize]
      | cons part parts => cases starts <;> simp [partwise, capitalize]

theorem joinParts_append (starts : Bool) (first second : List Char) :
    joinParts starts (first ++ '_' :: second) =
      joinParts starts first ++ joinParts true second := by
  induction first generalizing starts with
  | nil => rfl
  | cons c rest ih =>
    rw [List.cons_append, joinParts, joinParts]
    split
    · exact ih true
    · rw [ih false, List.append_assoc]

theorem underscore_notMem_joinParts (starts : Bool) (cs : List Char) :
    '_' ∉ joinParts starts cs := by
  induction cs generalizing starts with
  | nil => exact List.not_mem_nil
  | cons c rest ih =>
    rw [joinParts]
    split
    · exact ih true
    · next hc =>
      rw [List.mem_append, not_or]
      refine ⟨?_, ih false⟩
      split
      · exact notMem_uppercase caseless_underscore hc
      · simpa using Ne.symm hc

/-- A character without case is in a converted name only if it is in the name. -/
theorem mem_of_mem_joinParts {x : Char} (hx : Caseless x) {starts : Bool} {cs : List Char}
    (h : x ∈ joinParts starts cs) : x ∈ cs := by
  induction cs generalizing starts with
  | nil => cases h
  | cons c rest ih =>
    by_cases hc : c = x
    · rw [hc]
      exact List.mem_cons_self
    · refine List.mem_cons_of_mem _ ?_
      rw [joinParts] at h
      split at h
      · exact ih h
      · rcases List.mem_append.1 h with hfirst | hrest
        · split at hfirst
          · exact absurd hfirst (notMem_uppercase hx hc)
          · exact absurd (List.mem_singleton.1 hfirst).symm hc
        · exact ih hrest

theorem settled_joinParts (cs : List Char) : Settled (joinParts true cs) := by
  refine ⟨underscore_notMem_joinParts true cs, ?_⟩
  induction cs with
  | nil => exact fun _ _ h => nomatch h
  | cons c rest ih =>
    rw [joinParts]
    split
    · exact ih
    · intro first after h
      obtain ⟨head, tail, hc, hhead⟩ := exists_uppercase_eq_cons c
      rw [if_pos rfl, hc, List.cons_append, List.cons.injEq] at h
      rw [← h.1, hhead]

theorem Settled.append {first second : List Char} (h : Settled first) (h' : Settled second) :
    Settled (first ++ second) := by
  refine ⟨fun hmem => (List.mem_append.1 hmem).elim h.no_underscore h'.no_underscore, ?_⟩
  cases first with
  | nil => exact h'.head
  | cons d ds =>
    intro c rest hcons
    rw [List.cons_append, List.cons.injEq] at hcons
    exact h.head c ds (by rw [hcons.1])

theorem joinParts_of_notMem {cs : List Char} (h : '_' ∉ cs) : joinParts false cs = cs := by
  induction cs with
  | nil => rfl
  | cons c rest ih =>
    have hc : c ≠ '_' := fun hc => h (hc ▸ List.mem_cons_self)
    rw [joinParts, if_neg hc, ih fun hmem => h (List.mem_cons_of_mem _ hmem)]
    rfl

theorem Settled.joinParts_eq {cs : List Char} (h : Settled cs) : joinParts true cs = cs := by
  cases cs with
  | nil => rfl
  | cons c rest =>
    have hc : c ≠ '_' := fun hc => h.no_underscore (hc ▸ List.mem_cons_self)
    have hrest : '_' ∉ rest := fun hmem => h.no_underscore (List.mem_cons_of_mem _ hmem)
    rw [joinParts, if_neg hc, if_pos rfl, h.head c rest rfl, joinParts_of_notMem hrest]
    rfl

theorem convert_eq_self {name : String} (h : Settled name.toList) :
    convert .pascal name = name := by
  rw [convert, decide_eq_true rfl, h.joinParts_eq, String.ofList_toList]

theorem settled_convert (name : String) : Settled (convert .pascal name).toList := by
  rw [convert, String.toList_ofList]
  exact settled_joinParts name.toList

theorem convert_convert (casing : Casing) (name : String) :
    convert casing (convert casing name) = convert casing name := by
  cases casing with
  | pascal => exact convert_eq_self (settled_convert name)
  | camel =>
    have hrest := joinParts_of_notMem (underscore_notMem_joinParts false name.toList)
    simp [convert, hrest]

/-- What stands before an underscore and what stands behind it are converted apart. -/
theorem convert_append_underscore (casing : Casing) (first second : String) :
    convert casing (first ++ "_" ++ second) = convert casing first ++ convert .pascal second := by
  simp [convert, joinParts_append]

/-- A name in camel case has the same name in Pascal case as the name it comes from. -/
theorem convert_convert_camel (name : String) :
    convert .pascal (convert .camel name) = convert .pascal name := by
  have hparts (cs : List Char) : joinParts true (joinParts false cs) = joinParts true cs := by
    cases cs with
    | nil => rfl
    | cons c rest =>
      by_cases hc : c = '_'
      · rw [joinParts, if_pos hc, (settled_joinParts rest).joinParts_eq, joinParts, if_pos hc]
      · -- the first part is kept, and what comes behind it is converted already
        have hrest := joinParts_of_notMem (underscore_notMem_joinParts false rest)
        simp [joinParts, hc, hrest]
  simp only [convert, String.toList_ofList]
  exact congrArg String.ofList (hparts name.toList)

theorem convert_fieldAlias (field : String) :
    convert .pascal (fieldAlias field) = fieldAlias field := by
  have hsuffix : Settled "Fn".toList := by
    refine ⟨by decide, fun c rest h => ?_⟩
    obtain rfl : 'F' = c := (List.cons.inj h).1
    decide +kernel
  refine convert_eq_self ?_
  rw [fieldAlias, String.toList_append]
  exact (settled_convert field).append hsuffix

end HeaderBindings.Name
