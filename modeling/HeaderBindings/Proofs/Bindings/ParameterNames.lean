import HeaderBindings.Proofs.Bindings.Script
import HeaderBindings.Proofs.Text.Digits
import Mathlib.Data.List.Induction

/-! The names in a parameter list. A name that stands in the list before is set apart by its
position, but the name made so is not looked for again. So two parameters have one name exactly
where a name with its position behind it stands in the list before, and then one of their own names
ends in a digit. -/

namespace HeaderBindings

/-- The name of the next parameter, after the names that are written before it. -/
def nextName (before : List String) (name : String) : String :=
  if name ∈ before then name ++ toString (before.length + 1) else name

theorem length_distinctNames (position : Nat) (used names : List String) :
    (distinctNames position used names).length = names.length := by
  induction names generalizing position used with
  | nil => rfl
  | cons name rest ih => rw [distinctNames, List.length_cons, ih, List.length_cons]

theorem distinctNames_concat (position : Nat) (used names : List String) (name : String) :
    distinctNames position used (names ++ [name]) =
      distinctNames position used names ++
        [if name ∈ used ∨ name ∈ distinctNames position used names then
          name ++ toString (position + names.length) else name] := by
  induction names generalizing position used with
  | nil => simp [distinctNames]
  | cons first rest ih =>
    -- the first name has been used for all that come after it
    simp only [List.cons_append, distinctNames, ih, List.mem_cons, List.length_cons, or_left_comm,
      or_assoc, Nat.add_assoc, Nat.add_comm 1]

@[simp]
theorem length_parameterNames (names : List String) :
    (parameterNames names).length = names.length := by
  rw [parameterNames, length_distinctNames, List.length_map]

theorem parameterNames_concat (names : List String) (name : String) :
    parameterNames (names ++ [name]) =
      parameterNames names ++ [nextName (parameterNames names) (Name.parameter name)] := by
  rw [nextName, length_parameterNames, parameterNames, List.map_append, List.map_singleton,
    distinctNames_concat, List.length_map, Nat.add_comm 1]
  simp [parameterNames]

theorem nextName_notMem (before : List String) (name : String) :
    nextName before name ∉ before ↔
      (name ∈ before → name ++ toString (before.length + 1) ∉ before) := by
  unfold nextName
  split
  · next h => simp [h]
  · next h => simp [h]

/-- Each written name is that of its parameter, or that with the position behind it. -/
theorem exists_of_mem_parameterNames {names : List String} {written : String}
    (h : written ∈ parameterNames names) :
    ∃ before name, before ++ [name] <+: names ∧
      (written = Name.parameter name ∨
        written = Name.parameter name ++ toString (before.length + 1)) := by
  induction names using List.reverseRecOn with
  | nil => cases h
  | append_singleton names name ih =>
    rw [parameterNames_concat] at h
    rcases List.mem_append.1 h with h | h
    · obtain ⟨before, name', hfront, hwritten⟩ := ih h
      exact ⟨before, name', hfront.trans (List.prefix_append _ _), hwritten⟩
    · refine ⟨names, name, List.prefix_rfl, ?_⟩
      rw [List.mem_singleton.1 h, nextName, length_parameterNames]
      split
      · exact .inr rfl
      · exact .inl rfl

/-- The names are distinct as long as the name made for a repeated one is new too. -/
theorem nodup_parameterNames_iff (names : List String) :
    (parameterNames names).Nodup ↔
      ∀ before name, before ++ [name] <+: names →
        Name.parameter name ∈ parameterNames before →
        Name.parameter name ++ toString (before.length + 1) ∉ parameterNames before := by
  induction names using List.reverseRecOn with
  | nil =>
    exact iff_of_true List.nodup_nil fun before name hfront => by simp at hfront
  | append_singleton names last ih =>
    have hlast := nextName_notMem (parameterNames names) (Name.parameter last)
    rw [length_parameterNames] at hlast
    rw [parameterNames_concat, List.nodup_append_comm, List.singleton_append, List.nodup_cons, ih,
      hlast]
    constructor
    · rintro ⟨hnew, hbefore⟩ before name hfront
      rcases List.prefix_concat_iff.1 hfront with heq | hfront
      · obtain ⟨rfl, hname⟩ := List.append_inj' heq rfl
        obtain rfl := List.singleton_inj.1 hname
        exact hnew
      · exact hbefore before name hfront
    · intro h
      exact ⟨h names last List.prefix_rfl, fun before name hfront =>
        h before name (hfront.trans (List.prefix_append _ _))⟩

/-- The last character of a name is a digit. -/
def endsInDigit (name : String) : Bool :=
  name.toList.getLast?.any Char.isDigit

theorem endsInDigit_of_suffix {name : String} {digits : List Char}
    (hsuffix : digits <:+ name.toList) (hne : digits ≠ []) (hdigits : ∀ c ∈ digits, c.isDigit) :
    endsInDigit name := by
  obtain ⟨front, hname⟩ := hsuffix
  rw [endsInDigit, ← hname, List.getLast?_append_of_ne_nil _ hne, List.getLast?_eq_some_getLast hne]
  exact hdigits _ (List.getLast_mem hne)

theorem endsInDigit_append_toString (name : String) (n : Nat) :
    endsInDigit (name ++ toString n) :=
  endsInDigit_of_suffix (by simp) (by simp) fun _ => isDigit_of_mem_toString (n := n)

/-- Where names do not end in digits, the positions behind them can be read off. -/
theorem eq_of_append_toString_eq {first second : String} {m n : Nat} (hfirst : ¬endsInDigit first)
    (hsecond : ¬endsInDigit second) (h : first ++ toString m = second ++ toString n) : m = n := by
  -- what one name has more than the other stands among the digits of a position
  have hnil {longer shorter : String} {between rest : List Char} {k : Nat}
      (hlonger : ¬endsInDigit longer) (hsplit : longer.toList = shorter.toList ++ between)
      (hk : (toString k).toList = between ++ rest) : between = [] := by
    by_contra hne
    refine hlonger (endsInDigit_of_suffix ⟨_, hsplit.symm⟩ hne fun c hc => ?_)
    exact isDigit_of_mem_toString (hk ▸ List.mem_append_left rest hc)
  have hlists := congrArg String.toList h
  rw [String.toList_append, String.toList_append] at hlists
  have hdigits : (toString m).toList = (toString n).toList := by
    rcases List.append_eq_append_iff.1 hlists with ⟨between, hsplit, hm⟩ | ⟨between, hsplit, hn⟩
    · rw [hm, hnil hsecond hsplit hm, List.nil_append]
    · rw [hn, hnil hfirst hsplit hn, List.nil_append]
  rw [Nat.toString_eq_repr, Nat.toString_eq_repr, Nat.toList_repr, Nat.toList_repr] at hdigits
  rw [← Nat.ofDigitChars_ten_toDigits (n := m), hdigits, Nat.ofDigitChars_ten_toDigits]

/-- No two parameters have one name if none of their own names ends in a digit. -/
theorem nodup_parameterNames_of_not_endsInDigit {names : List String}
    (h : ∀ name ∈ names, ¬endsInDigit (Name.parameter name)) : (parameterNames names).Nodup := by
  refine (nodup_parameterNames_iff names).2 fun before name hfront _ hmem => ?_
  have hname : name ∈ names := hfront.subset (by simp)
  obtain ⟨earlier, other, hearlier, heq⟩ := exists_of_mem_parameterNames hmem
  have hother : other ∈ names :=
    hfront.subset (List.mem_append_left _ (hearlier.subset (by simp)))
  rcases heq with heq | heq
  · exact h other hother (heq ▸ endsInDigit_append_toString _ _)
  · have hposition := eq_of_append_toString_eq (h name hname) (h other hother) heq
    have hlength := hearlier.length_le
    simp only [List.length_append, List.length_singleton] at hlength
    omega

namespace Emit

/-- The names that are written in a parameter list, one for each parameter. They are distinct
exactly as long as each name that is set apart by its position is new in the list too, and always if
none of the names ends in a digit. -/
theorem parameterNames_nodup_iff (job : Job) (parameters : List Parameter) (variadic : Bool)
    (d : Draft) :
    let names := parameters.map (·.name)
    ((parameterList job parameters variadic).run d).1 =
      String.intercalate ", "
        (List.zipWith (fun type name => type ++ " " ++ name)
          (parameters.map fun p => job.text (d.naming job) p.type) (parameterNames names) ++
        if variadic then ["..."] else []) ∧
    (parameterNames names).length = parameters.length ∧
    ((parameterNames names).Nodup ↔
      ∀ before name, before ++ [name] <+: names →
        Name.parameter name ∈ parameterNames before →
        Name.parameter name ++ toString (before.length + 1) ∉ parameterNames before) ∧
    ((∀ name ∈ names, ¬endsInDigit (Name.parameter name)) → (parameterNames names).Nodup) := by
  intro names
  exact ⟨(writes_parameterList parameters variadic).value_eq d, by simp [names],
    nodup_parameterNames_iff names, nodup_parameterNames_of_not_endsInDigit⟩

/-- A parameter that is called what the third one is called for want of a name, and two parameters
without a name. -/
def areaParameters : List Parameter :=
  [⟨"value3", 1⟩, ⟨"", 1⟩, ⟨"", 1⟩]

def area : Job where
  header :=
    { types := ⟨#[.builtin .void, .builtin .int]⟩
      units := [⟨"area.h",
        [.function ⟨"set_area", 0, areaParameters, false, false, false, none⟩]⟩] }
  options := ⟨"demo.dll", "Demo"⟩
  typeMap := .withRules []

theorem parameterNames_nodup_iff_area :
    ((parameterList area areaParameters false).run {}).1 =
      "int32 value3, int32 value, int32 value3" ∧
    ¬(parameterNames ["value3", "", ""]).Nodup ∧ (parameterNames ["", "", "ref", "ref"]).Nodup := by
  obtain ⟨htext, -, hnodup, -⟩ := parameterNames_nodup_iff area areaParameters false {}
  obtain ⟨-, -, -, hdistinct⟩ := parameterNames_nodup_iff area
    [⟨"", 1⟩, ⟨"", 1⟩, ⟨"ref", 1⟩, ⟨"ref", 1⟩] false {}
  refine ⟨htext.trans (by decide +kernel), fun h => ?_, hdistinct (by decide +kernel)⟩
  exact hnodup.1 h ["value3", ""] "" List.prefix_rfl (by decide +kernel) (by decide +kernel)

/-- The names of a parameter list are not always distinct. -/
theorem not_forall_parameterNames_nodup : ¬∀ names, (parameterNames names).Nodup := by
  intro h
  have hnodup := h ["value3", "", ""]
  revert hnodup
  decide +kernel

end Emit

end HeaderBindings
