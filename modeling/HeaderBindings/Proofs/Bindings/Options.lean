import HeaderBindings.Proofs.Bindings.Generate
import HeaderBindings.Proofs.Text.Split
import Mathlib.Computability.Language

/-! The options that a file is made with, and no others. A namespace is accepted exactly if each of
its segments is an identifier, which is the language of one regular expression; what the header
holds never makes the generation fail. -/

/-- A set of texts. The name sets it apart from the language of a header. -/
abbrev TextLanguage := Language Char

namespace HeaderBindings

open Computability Text

namespace Options

/-- A letter of ASCII or an underscore, and then word characters. -/
def IsIdentifier (segment : List Char) : Prop :=
  ∃ c rest, segment = c :: rest ∧
    (('a' ≤ c ∧ c ≤ 'z') ∨ ('A' ≤ c ∧ c ≤ 'Z') ∨ c = '_') ∧ ∀ d ∈ rest, isWordChar d

/-- Every part of the namespace between dots is an identifier. -/
def NamesSpace (o : Options) : Prop :=
  ∀ segment ∈ o.space.toList.splitOn '.', IsIdentifier segment

/-- The library has a name that can stand between double quotes. -/
def NamesLibrary (o : Options) : Prop :=
  (∃ c ∈ o.library.toList, isBlank c = false) ∧ '"' ∉ o.library.toList

/-- The texts of one character of a class. -/
def oneOf (p : Char → Bool) : TextLanguage :=
  {s | ∃ c, p c ∧ s = [c]}

/-- The pattern `[A-Za-z_]\w*`. -/
def segmentPattern : TextLanguage :=
  oneOf (fun c => isAsciiLetter c || c == '_') * (oneOf isWordChar)∗

/-- The pattern `[A-Za-z_]\w*(\.[A-Za-z_]\w*)*`. -/
def spacePattern : TextLanguage :=
  segmentPattern * (oneOf (· == '.') * segmentPattern)∗

theorem mem_kstar_oneOf {p : Char → Bool} {s : List Char} : s ∈ (oneOf p)∗ ↔ ∀ c ∈ s, p c := by
  rw [Language.mem_kstar]
  constructor
  · rintro ⟨parts, rfl, hparts⟩ c hc
    obtain ⟨part, hpart, hc⟩ := List.mem_flatten.1 hc
    obtain ⟨d, hd, rfl⟩ := hparts part hpart
    rw [List.mem_singleton.1 hc]
    exact hd
  · intro h
    refine ⟨s.map fun c => [c], ?_, ?_⟩
    · simp [← List.flatMap_def]
    · intro part hpart
      obtain ⟨c, hc, rfl⟩ := List.mem_map.1 hpart
      exact ⟨c, h c hc, rfl⟩

theorem mem_segmentPattern {s : List Char} : s ∈ segmentPattern ↔ IsIdentifier s := by
  rw [segmentPattern, Language.mem_mul]
  constructor
  · rintro ⟨first, ⟨c, hc, rfl⟩, rest, hrest, rfl⟩
    refine ⟨c, rest, rfl, ?_, mem_kstar_oneOf.1 hrest⟩
    simpa [isAsciiLetter, or_assoc] using hc
  · rintro ⟨c, rest, rfl, hc, hrest⟩
    refine ⟨[c], ⟨c, ?_, rfl⟩, rest, mem_kstar_oneOf.2 hrest, rfl⟩
    simpa [isAsciiLetter, or_assoc] using hc

theorem isSegment_iff {s : List Char} : isSegment s ↔ IsIdentifier s := by
  cases s with
  | nil => simp [isSegment, IsIdentifier]
  | cons c rest => simp [isSegment, IsIdentifier, isAsciiLetter, or_assoc]

theorem IsIdentifier.dot_notMem {s : List Char} (h : IsIdentifier s) : '.' ∉ s := by
  obtain ⟨c, rest, rfl, hc, hrest⟩ := h
  intro hmem
  rcases List.mem_cons.1 hmem with rfl | hmem
  · revert hc
    decide
  · have hdot := hrest '.' hmem
    revert hdot
    decide

theorem intercalate_cons {α : Type} (sep first : List α) (parts : List (List α)) :
    sep.intercalate (first :: parts) = first ++ (parts.map (sep ++ ·)).flatten := by
  induction parts generalizing first with
  | nil => simp
  | cons part rest ih => simp [List.intercalate_cons_cons, ih]

/-- What follows the first segment: other segments, with a dot before each. -/
theorem mem_kstar_dotted {s : List Char} :
    s ∈ (oneOf (· == '.') * segmentPattern)∗ ↔
      ∃ segments : List (List Char), (∀ segment ∈ segments, IsIdentifier segment) ∧
        s = (segments.map (['.'] ++ ·)).flatten := by
  rw [Language.mem_kstar]
  constructor
  · rintro ⟨parts, rfl, hparts⟩
    induction parts with
    | nil => exact ⟨[], by simp, rfl⟩
    | cons part rest ih =>
      obtain ⟨segments, hsegments, hrest⟩ := ih fun y hy => hparts y (List.mem_cons_of_mem _ hy)
      obtain ⟨dot, ⟨c, hc, rfl⟩, segment, hsegment, rfl⟩ :=
        Language.mem_mul.1 (hparts part List.mem_cons_self)
      refine ⟨segment :: segments, ?_, ?_⟩
      · intro other hother
        rcases List.mem_cons.1 hother with rfl | hother
        · exact mem_segmentPattern.1 hsegment
        · exact hsegments other hother
      · rw [List.flatten_cons, hrest, List.map_cons, List.flatten_cons, beq_iff_eq.1 hc]
  · rintro ⟨segments, hsegments, rfl⟩
    refine ⟨segments.map (['.'] ++ ·), rfl, ?_⟩
    intro part hpart
    obtain ⟨segment, hsegment, rfl⟩ := List.mem_map.1 hpart
    have hpattern := mem_segmentPattern.2 (hsegments segment hsegment)
    exact Language.append_mem_mul ⟨'.', rfl, rfl⟩ hpattern

/-- The pattern accepts exactly the identifiers with dots between them. -/
theorem mem_spacePattern {s : List Char} :
    s ∈ spacePattern ↔ ∀ segment ∈ s.splitOn '.', IsIdentifier segment := by
  rw [spacePattern, Language.mem_mul]
  constructor
  · rintro ⟨first, hfirst, rest, hrest, rfl⟩
    obtain ⟨segments, hsegments, rfl⟩ := mem_kstar_dotted.1 hrest
    have hall : ∀ segment ∈ first :: segments, IsIdentifier segment :=
      List.forall_mem_cons.2 ⟨mem_segmentPattern.1 hfirst, hsegments⟩
    rw [← intercalate_cons, List.splitOn_intercalate '.'
      (fun segment h => (hall segment h).dot_notMem) (List.cons_ne_nil _ _)]
    exact hall
  · intro h
    have hjoin : ['.'].intercalate (s.splitOn '.') = s := List.intercalate_splitOn '.'
    cases hsplit : s.splitOn '.' with
    | nil => exact absurd hsplit (List.splitOn_ne_nil _ _)
    | cons first segments =>
      rw [hsplit] at h hjoin
      rw [intercalate_cons] at hjoin
      obtain ⟨hfirst, hsegments⟩ := List.forall_mem_cons.1 h
      refine ⟨first, mem_segmentPattern.2 hfirst, _, ?_, hjoin⟩
      exact mem_kstar_dotted.2 ⟨segments, hsegments, rfl⟩

theorem validSpace_iff {o : Options} : o.validSpace ↔ o.NamesSpace := by
  simp only [validSpace, segments, splitAt_eq_splitOn, List.all_eq_true, isSegment_iff, NamesSpace]

theorem validLibrary_iff {o : Options} : o.validLibrary ↔ o.NamesLibrary := by
  simp [validLibrary, NamesLibrary]

end Options

namespace Job

open Options

/-- Only the first and the third stage can refuse the options, and the first one is asked first. -/
theorem plainFile_eq (job : Job) : job.plainFile =
    if job.options.validSpace then
      if job.options.validLibrary then .ok (Output.joined (Stage.all.flatMap job.block))
      else .error ⟨.stageFailed "functions", [.invalidConfig (.badLibrary job.options.library)]⟩
    else .error ⟨.stageFailed "usings", [.invalidConfig (.badNamespace job.options.space)]⟩ := by
  by_cases hspace : job.options.validSpace
  · by_cases hlibrary : job.options.validLibrary
    · rw [if_pos hspace, if_pos hlibrary, plainFile_of_valid hspace hlibrary]
    · have hfirst : Stage.all.findSome? (Stage.failure? job.options) = some
          ⟨.stageFailed "functions", [.invalidConfig (.badLibrary job.options.library)]⟩ := by
        simp [Stage.all, List.findSome?_cons, Stage.failure?, Stage.problem?, hspace, hlibrary,
          Error.within, Stage.title]
      rw [plainFile, hfirst, if_pos hspace, if_neg hlibrary]
  · have hfirst : Stage.all.findSome? (Stage.failure? job.options) = some
        ⟨.stageFailed "usings", [.invalidConfig (.badNamespace job.options.space)]⟩ := by
      simp [Stage.all, Stage.failure?, Stage.problem?, hspace, Error.within, Stage.title]
    rw [plainFile, hfirst, if_neg hspace]

/-- The file is made exactly if the options name a namespace and a library, whatever the header and
the type table hold. Else the first stage that needs the name ends the run: the one that writes the
namespace, or where that is accepted the one that writes the functions. -/
theorem generate_ok_iff (job : Job) :
    ((∃ text, job.generate.1 = .ok text) ↔
      job.options.NamesSpace ∧ job.options.NamesLibrary) ∧
    (job.options.space.toList ∈ spacePattern ↔ job.options.NamesSpace) ∧
    (¬job.options.NamesSpace → job.generate.1 =
      .error ⟨.stageFailed "usings", [.invalidConfig (.badNamespace job.options.space)]⟩) ∧
    (job.options.NamesSpace → ¬job.options.NamesLibrary → job.generate.1 =
      .error ⟨.stageFailed "functions", [.invalidConfig (.badLibrary job.options.library)]⟩) := by
  rw [generate_eq_plainFile, plainFile_eq, ← validSpace_iff, ← validLibrary_iff]
  refine ⟨?_, ?_, ?_, ?_⟩
  · by_cases hspace : job.options.validSpace
    · by_cases hlibrary : job.options.validLibrary
      · simp [hspace, hlibrary]
      · simp [hspace, hlibrary]
    · simp [hspace]
  · rw [mem_spacePattern, validSpace_iff, NamesSpace]
  · intro hspace
    rw [if_neg hspace]
  · intro hspace hlibrary
    rw [if_pos hspace, if_neg hlibrary]

end Job

end HeaderBindings
