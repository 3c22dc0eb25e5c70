import HeaderBindings.Proofs.Name
import HeaderBindings.Proofs.Name.Parameters

/-! Which converted names are identifiers again. The conversion drops the underscores that an
identifier may start with, so that a digit behind them comes to the front; where there is nothing
behind them, nothing is left. A parameter is given a name where none is left, but a digit in front
of its name stays there. -/

namespace HeaderBindings.Name

open Text

/-- Letters and digits of ASCII and underscores, with no digit in front. -/
def isIdentifier (name : String) : Bool :=
  name.toList.head?.any (!·.isDigit) && name.toList.all fun c => c.isAlphanum || c == '_'

/-- The first character of a name that is no underscore. -/
def front? (name : String) : Option Char :=
  name.toList.find? (· ≠ '_')

section Characters

variable {c : Char}

theorem toNat_of_isAlphanum (h : c.isAlphanum) : 47 < c.toNat ∧ c.toNat < 123 := by
  simp only [Char.isAlphanum, Char.isAlpha, Char.isUpper, Char.isLower, Char.isDigit,
    Bool.or_eq_true, Bool.and_eq_true, decide_eq_true_eq, UInt32.le_iff_toNat_le, ge_iff_le] at h
  have hcode : c.toNat = c.val.toNat := rfl
  have hbounds : '0'.val.toNat = 48 ∧ '9'.val.toNat = 57 ∧ 'A'.val.toNat = 65 ∧
      'Z'.val.toNat = 90 ∧ 'a'.val.toNat = 97 ∧ 'z'.val.toNat = 122 := by decide
  omega

theorem isAlpha_of_isDigit (h : c.isDigit) : c.isAlpha = false := by
  simp only [Char.isDigit, Bool.and_eq_true, decide_eq_true_eq, UInt32.le_iff_toNat_le,
    ge_iff_le] at h
  simp only [Char.isAlpha, Char.isUpper, Char.isLower, Bool.or_eq_false_iff, Bool.and_eq_false_iff,
    decide_eq_false_iff_not, UInt32.le_iff_toNat_le, ge_iff_le]
  have hbounds : '9'.val.toNat < 'A'.val.toNat ∧ 'A'.val.toNat < 'a'.val.toNat := by decide
  omega

theorem not_isDigit_eq_isAlpha (h : c.isAlphanum) : (!c.isDigit) = c.isAlpha := by
  rw [Char.isAlphanum, Bool.or_eq_true] at h
  by_cases hdigit : c.isDigit
  · rw [hdigit, isAlpha_of_isDigit hdigit, Bool.not_true]
  · rw [h.resolve_right hdigit, Bool.eq_false_iff.2 hdigit, Bool.not_false]

theorem isBlank_of_isAlphanum (h : c.isAlphanum) : isBlank c = false := by
  have hcode := toNat_of_isAlphanum h
  simp only [isBlank, blankRanges, Ranges.contains, List.any_cons, List.any_nil, Bool.or_false,
    Bool.or_eq_false_iff, Bool.and_eq_false_iff, decide_eq_false_iff_not]
  omega

theorem uppercase_of_isAlphanum (h : c.isAlphanum) : uppercase c = [c.toUpper] := by
  have hcode := toNat_of_isAlphanum h
  refine if_pos ?_
  simp only [isAscii, decide_eq_true_eq]
  omega

theorem isAlphanum_toUpper (h : c.isAlphanum) : c.toUpper.isAlphanum := by
  by_cases halpha : c.isAlpha
  · rw [Char.isAlphanum, Char.isAlpha_toUpper_eq_isAlpha, halpha, Bool.true_or]
  · rw [Char.isAlpha, Bool.or_eq_true, not_or] at halpha
    rwa [Char.toUpper_eq_of_not_isLower halpha.2]

end Characters

section Parts

variable {cs : List Char}

theorem isAlphanum_of_mem_joinParts (h : ∀ c ∈ cs, c.isAlphanum ∨ c = '_') {starts : Bool} :
    ∀ c ∈ joinParts starts cs, c.isAlphanum := by
  induction cs generalizing starts with
  | nil => exact fun _ hc => nomatch hc
  | cons c rest ih =>
    obtain ⟨hfirst, hrest⟩ := List.forall_mem_cons.1 h
    rw [joinParts]
    split
    · exact ih hrest
    · next hc =>
      have halphanum := hfirst.resolve_right hc
      refine List.forall_mem_append.2 ⟨?_, ih hrest⟩
      split
      · rw [uppercase_of_isAlphanum halphanum]
        exact List.forall_mem_singleton.2 (isAlphanum_toUpper halphanum)
      · exact List.forall_mem_singleton.2 halphanum

/-- The first character that is no underscore comes to the front, perhaps in upper case. -/
theorem head?_joinParts (h : ∀ c ∈ cs, c.isAlphanum ∨ c = '_') (starts : Bool) :
    (joinParts starts cs).head?.map Char.isAlpha =
      (cs.find? (· ≠ '_')).map Char.isAlpha := by
  induction cs generalizing starts with
  | nil => rfl
  | cons c rest ih =>
    obtain ⟨hfirst, hrest⟩ := List.forall_mem_cons.1 h
    rw [joinParts]
    split
    · next hc => rw [ih hrest, List.find?_cons_of_neg (by simpa using hc)]
    · next hc =>
      rw [List.find?_cons_of_pos (by simpa using hc)]
      cases starts with
      | true =>
        simp [uppercase_of_isAlphanum (hfirst.resolve_right hc), Char.isAlpha_toUpper_eq_isAlpha]
      | false => rfl

end Parts

variable {name : String}

theorem word_of_isIdentifier (h : isIdentifier name) :
    ∀ c ∈ name.toList, c.isAlphanum ∨ c = '_' := by
  rw [isIdentifier, Bool.and_eq_true, List.all_eq_true] at h
  intro c hc
  simpa using h.2 c hc

theorem all_isAlphanum_convert (h : isIdentifier name) (casing : Casing) :
    (convert casing name).toList.all Char.isAlphanum := by
  rw [convert, String.toList_ofList]
  exact List.all_eq_true.2 (isAlphanum_of_mem_joinParts (word_of_isIdentifier h))

theorem head?_convert (h : isIdentifier name) (casing : Casing) :
    (convert casing name).toList.head?.map Char.isAlpha = (front? name).map Char.isAlpha := by
  rw [convert, String.toList_ofList]
  exact head?_joinParts (word_of_isIdentifier h) _

/-- Letters and digits alone are an identifier exactly if a letter is in front. -/
theorem isIdentifier_eq (h : name.toList.all Char.isAlphanum) :
    isIdentifier name = (name.toList.head?.map Char.isAlpha).any id := by
  have hword : name.toList.all (fun c => c.isAlphanum || c == '_') = true := by
    rw [List.all_eq_true] at h ⊢
    exact fun c hc => by rw [h c hc, Bool.true_or]
  rw [isIdentifier, hword, Bool.and_true, Option.any_map]
  cases hname : name.toList with
  | nil => rfl
  | cons c rest =>
    rw [hname, List.all_cons, Bool.and_eq_true] at h
    exact not_isDigit_eq_isAlpha h.1

theorem eq_empty_of_isBlank (h : name.toList.all Char.isAlphanum)
    (hblank : name.toList.all isBlank) : name = "" := by
  refine String.toList_eq_nil_iff.1 (List.eq_nil_iff_forall_not_mem.2 fun c hc => ?_)
  have hc' := isBlank_of_isAlphanum (List.all_eq_true.1 h c hc)
  rw [List.all_eq_true.1 hblank c hc] at hc'
  cases hc'

theorem isIdentifier_legalParameter_of_mem (h : name ∈ reservedWords) :
    (legalParameter name).toList.all Char.isAlphanum ∧ isIdentifier (legalParameter name) ∧
      (name.toList.head?.map Char.isAlpha).all id := by
  revert name
  decide +kernel

/-- Of letters and digits a parameter name of letters and digits is made, and it is an identifier
unless a digit is in front. -/
theorem legalParameter_of_isAlphanum (h : name.toList.all Char.isAlphanum) :
    (legalParameter name).toList.all Char.isAlphanum ∧
      isIdentifier (legalParameter name) = (name.toList.head?.map Char.isAlpha).all id := by
  by_cases hempty : name = ""
  · rw [hempty]
    decide +kernel
  rcases legalParameter_cases name with hblank | hreserved | hkept
  · exact absurd (eq_empty_of_isBlank h hblank) hempty
  · obtain ⟨hall, hid, hhead⟩ := isIdentifier_legalParameter_of_mem hreserved
    exact ⟨hall, hid.trans hhead.symm⟩
  · rw [hkept, isIdentifier_eq h]
    refine ⟨h, ?_⟩
    cases hname : name.toList with
    | nil => exact absurd (String.toList_eq_nil_iff.1 hname) hempty
    | cons c rest => rfl

/-- The converted names of an identifier are made of letters and digits. The name of a function, a
field or a function type is an identifier exactly if the first character that is no underscore is a
letter; the name of a parameter, if there is no such character or it is a letter. -/
theorem isIdentifier_convert_iff (h : isIdentifier name) :
    (convert .pascal name).toList.all Char.isAlphanum ∧
    (parameter name).toList.all Char.isAlphanum ∧ parameter name ≠ "" ∧
    (isIdentifier (convert .pascal name) ↔ (front? name).any Char.isAlpha) ∧
    (isIdentifier (parameter name) ↔ (front? name).all Char.isAlpha) := by
  have hpascal := all_isAlphanum_convert h .pascal
  obtain ⟨hparameter, hiff⟩ := legalParameter_of_isAlphanum (all_isAlphanum_convert h .camel)
  refine ⟨hpascal, hparameter, legalParameter_ne_empty _, ?_, ?_⟩
  · rw [isIdentifier_eq hpascal, head?_convert h, Option.any_map]
    rfl
  · rw [parameter, hiff, head?_convert h, Option.all_map]
    rfl

/-- Underscores with a letter behind them, with a digit behind them, and with nothing. -/
theorem isIdentifier_convert_iff_underscores :
    isIdentifier (convert .pascal "__max_size") ∧ isIdentifier (parameter "__max_size") ∧
    ¬isIdentifier (convert .pascal "_2d") ∧ ¬isIdentifier (parameter "_2d") ∧
    ¬isIdentifier (convert .pascal "_") ∧ isIdentifier (parameter "_") := by
  have ids : isIdentifier "__max_size" ∧ isIdentifier "_2d" ∧ isIdentifier "_" := by decide
  obtain ⟨-, -, -, hsize, hsize'⟩ := isIdentifier_convert_iff ids.1
  obtain ⟨-, -, -, hdigit, hdigit'⟩ := isIdentifier_convert_iff ids.2.1
  obtain ⟨-, -, -, hnone, hnone'⟩ := isIdentifier_convert_iff ids.2.2
  exact ⟨hsize.2 (by decide), hsize'.2 (by decide), mt hdigit.1 (by decide),
    mt hdigit'.1 (by decide), mt hnone.1 (by decide), hnone'.2 (by decide)⟩

/-- Not every identifier is converted to one. -/
theorem not_forall_isIdentifier_convert :
    ¬∀ name, isIdentifier name →
      isIdentifier (convert .pascal name) ∧ isIdentifier (parameter name) := by
  intro h
  have hdigit := h "_2d" (by decide)
  revert hdigit
  decide +kernel

end HeaderBindings.Name
