import HeaderBindings.FileSystem
import HeaderBindings.Proofs.Text.Split
import Mathlib.Data.List.DropRight
import Mathlib.Data.List.Induction

/-! Paths that are joined, and the directory a path leads through. An absolute path stays as it is
from wherever it is seen; a relative one starts where the directory ends. -/

namespace HeaderBindings.Path

open Text

variable {p dir other : Path} {front rest : Bytes} {segments parts : List Bytes}

section Join

theorem join_of_isAbsolute (h : other.isAbsolute) : dir.join other = other :=
  if_pos h

theorem names_append_slash (front rest : Bytes) :
    names ⟨front ++ slash :: rest⟩ = names ⟨front⟩ ++ names ⟨rest⟩ := by
  simp only [names, Path.segments, splitAt_append, List.filter_append]

theorem names_slash_cons (rest : Bytes) : names ⟨slash :: rest⟩ = names ⟨rest⟩ :=
  names_append_slash [] rest

/-- The bytes of a relative path seen from a directory: there is a slash between the two, unless
the directory is the empty path. -/
theorem join_cases (dir : Path) (h : ¬other.isAbsolute) :
    (dir.bytes = [] ∧ dir.join other = other) ∨
      (∃ front, dir.bytes = front ++ [slash] ∧
        dir.join other = ⟨front ++ slash :: other.bytes⟩) ∨
      (dir.bytes ≠ [] ∧ dir.join other = ⟨dir.bytes ++ slash :: other.bytes⟩) := by
  obtain ⟨bytes⟩ := dir
  rw [join, if_neg h]
  cases bytes using List.reverseRecOn with
  | nil => exact .inl ⟨rfl, rfl⟩
  | append_singleton front b =>
    by_cases hb : b = slash
    · exact .inr (.inl ⟨front, by rw [hb], by simp [hb]⟩)
    · exact .inr (.inr ⟨by simp, by simp [hb]⟩)

theorem names_join (h : ¬other.isAbsolute) : (dir.join other).names = dir.names ++ other.names := by
  obtain ⟨bytes⟩ := dir
  rcases join_cases ⟨bytes⟩ h with ⟨rfl, hjoin⟩ | ⟨front, rfl, hjoin⟩ | ⟨-, hjoin⟩
  · rw [hjoin]
    rfl
  · rw [hjoin, names_append_slash, names_append_slash, List.append_assoc]
    rfl
  · rw [hjoin, names_append_slash]

theorem isAbsolute_join (h : ¬other.isAbsolute) : (dir.join other).isAbsolute = dir.isAbsolute := by
  obtain ⟨bytes⟩ := dir
  rcases join_cases ⟨bytes⟩ h with ⟨rfl, hjoin⟩ | ⟨front, rfl, hjoin⟩ | ⟨hne, hjoin⟩
  · rw [hjoin, Bool.eq_false_iff.2 h]
    rfl
  · rw [hjoin, isAbsolute, isAbsolute]
    cases front <;> rfl
  · rw [hjoin, isAbsolute, isAbsolute, List.head?_append_of_ne_nil _ hne]

/-- A relative path is followed from the place of the directory. -/
theorem place_join (h : ¬other.isAbsolute) :
    (dir.join other).place = other.names.foldl Place.down dir.place := by
  rw [place, names_join h, List.foldl_append, base, isAbsolute_join h]
  rfl

end Join

section Parent

theorem names_ne_nil_of_endsInName (h : p.endsInName = true) : p.names ≠ [] := by
  unfold endsInName at h
  split at h
  · next hlast =>
    exact List.ne_nil_of_mem (List.mem_filter.2 ⟨List.mem_of_getLast? hlast, h⟩)
  · cases h

theorem dropNameless_concat (segments : List Bytes) (segment : Bytes) :
    dropNameless (segments ++ [segment]) =
      if isName segment then segments ++ [segment] else dropNameless segments := by
  rw [dropNameless, List.reverse_append]
  cases h : isName segment <;> simp [h, dropNameless]

theorem dropNameless_isPrefix (segments : List Bytes) : dropNameless segments <+: segments :=
  List.rdropWhile_prefix (fun s => !isName s) segments

theorem filter_dropNameless (segments : List Bytes) :
    (dropNameless segments).filter isName = segments.filter isName := by
  induction segments using List.reverseRecOn with
  | nil => rfl
  | append_singleton segments segment ih =>
    rw [dropNameless_concat]
    split
    · rfl
    · next h =>
      rw [ih, List.filter_append, List.filter_cons_of_neg h, List.filter_nil, List.append_nil]

/-- The last segment that is a name is the last name. -/
theorem filter_dropLast_dropNameless (segments : List Bytes) :
    (dropNameless segments).dropLast.filter isName = (segments.filter isName).dropLast := by
  induction segments using List.reverseRecOn with
  | nil => rfl
  | append_singleton segments segment ih =>
    rw [dropNameless_concat, List.filter_append]
    split
    · next h =>
      rw [List.filter_cons_of_pos h, List.filter_nil, List.dropLast_concat, List.dropLast_concat]
    · next h => rw [ih, List.filter_cons_of_neg h, List.filter_nil, List.append_nil]

theorem intercalate_isPrefix (h : parts <+: segments) :
    [slash].intercalate parts <+: [slash].intercalate segments := by
  obtain ⟨behind, rfl⟩ := h
  induction parts with
  | nil => exact List.nil_prefix
  | cons part parts ih =>
    cases parts with
    | nil =>
      cases behind with
      | nil => exact List.prefix_refl _
      | cons next behind =>
        rw [List.singleton_append, List.intercalate_cons_cons, List.intercalate_singleton,
          List.append_assoc]
        exact List.prefix_append _ _
    | cons next parts =>
      rw [List.cons_append, List.cons_append, List.intercalate_cons_cons,
        List.intercalate_cons_cons]
      exact (List.prefix_append_right_inj _).2 ih

/-- The names of segments that are joined again. -/
theorem names_intercalate (h : ∀ segment ∈ segments, slash ∉ segment) :
    names ⟨[slash].intercalate segments⟩ = segments.filter isName := by
  rw [names, Path.segments, splitAt_eq_splitOn]
  by_cases hne : segments = []
  · rw [hne]
    rfl
  · rw [List.splitOn_intercalate slash h hne]

theorem dropNameless_eq_nil_iff (segments : List Bytes) :
    dropNameless segments = [] ↔ segments.filter isName = [] := by
  rw [List.filter_eq_nil_iff]
  refine List.rdropWhile_eq_nil_iff.trans ?_
  simp only [Bool.not_eq_true', Bool.not_eq_true]

/-- What may stand in front of the names, with what follows. -/
def IsFront (front rest : Bytes) : Prop :=
  front = [] ∧ rest.head? ≠ some slash ∨ front = [slash] ∨
    front = [dot] ∧ (rest = [] ∨ rest.head? = some slash)

theorem splitFront_append (p : Path) : p.splitFront.1 ++ p.splitFront.2 = p.bytes := by
  unfold splitFront
  grind

theorem isFront_splitFront (p : Path) : IsFront p.splitFront.1 p.splitFront.2 := by
  unfold splitFront IsFront
  grind

theorem IsFront.of_isPrefix {less : Bytes} (h : IsFront front rest) (hless : less <+: rest) :
    IsFront front less := by
  have hhead : less = [] ∨ less.head? = rest.head? := by
    obtain ⟨behind, rfl⟩ := hless
    cases less
    · exact .inl rfl
    · exact .inr rfl
  unfold IsFront at h ⊢
  grind

theorem names_of_isFront (h : IsFront front rest) : names ⟨front ++ rest⟩ = names ⟨rest⟩ := by
  rcases h with ⟨rfl, -⟩ | rfl | ⟨rfl, rfl | hslash⟩
  · rfl
  · exact names_slash_cons rest
  · rfl
  · obtain ⟨behind, rfl⟩ := List.head?_eq_some_iff.1 hslash
    rw [names_slash_cons]
    exact names_append_slash [dot] behind

theorem isAbsolute_of_isFront (h : IsFront front rest) :
    isAbsolute ⟨front ++ rest⟩ = decide (front = [slash]) := by
  rcases h with ⟨rfl, hslash⟩ | rfl | ⟨rfl, -⟩
  · simpa [isAbsolute] using hslash
  · rfl
  · rfl

/-- A path with names has a parent, which has the same names but for the last one. -/
theorem exists_parent (h : p.names ≠ []) :
    ∃ dir, p.parent? = some dir ∧ dir.names = p.names.dropLast ∧
      dir.isAbsolute = p.isAbsolute := by
  have hfront := p.isFront_splitFront
  have hbytes := p.splitFront_append
  obtain ⟨bytes⟩ := p
  generalize hsplit : splitFront ⟨bytes⟩ = split at hfront hbytes
  obtain ⟨front, rest⟩ := split
  obtain rfl : front ++ rest = bytes := hbytes
  rw [names_of_isFront hfront] at h ⊢
  let named := dropNameless (splitAt slash rest)
  let kept := dropNameless named.dropLast
  have hkept : kept <+: splitAt slash rest :=
    (dropNameless_isPrefix _).trans ((List.dropLast_prefix _).trans (dropNameless_isPrefix _))
  have hless : [slash].intercalate kept <+: rest := by
    have hprefix := intercalate_isPrefix hkept
    rwa [splitAt_eq_splitOn, List.intercalate_splitOn] at hprefix
  refine ⟨⟨front ++ [slash].intercalate kept⟩, ?_, ?_, ?_⟩
  · have hnamed : named ≠ [] := fun hnil => h ((dropNameless_eq_nil_iff _).1 hnil)
    rw [parent?, hsplit]
    dsimp only
    split
    · next hnil => exact absurd hnil hnamed
    · rfl
  · rw [names_of_isFront (hfront.of_isPrefix hless), names_intercalate, filter_dropNameless,
      filter_dropLast_dropNameless]
    · rfl
    · intro segment hsegment hslash
      exact (mem_of_mem_splitAt (hkept.subset hsegment) hslash).2 rfl
  · rw [isAbsolute_of_isFront hfront, isAbsolute_of_isFront (hfront.of_isPrefix hless)]

end Parent

end HeaderBindings.Path
