import HeaderBindings.Proofs.Output.Steps
import Mathlib.Data.List.TakeWhile
import Mathlib.Data.Int.Cast.Lemmas

/-! Nesting and indentation. A brace that opens counts up and one that closes counts down. Steps
that are nested, with blocks in braces that are one level deeper, leave the count where it was and
never take it below; and each of their lines has as many tabs as the count says, less a shift that
is the same for all of them. -/

namespace HeaderBindings.Output

/-- A character that lays out the file. -/
def isLayout (c : Char) : Bool :=
  c == '\x7b' || c == '\x7d' || c == '\n'

/-- A text without braces and line feeds. -/
def Inert (text : String) : Prop :=
  ∀ c ∈ text.toList, isLayout c = false

/-- A text that can stand alone on a line, behind the tabs of the line. -/
structure Inline (text : String) : Prop where
  inert : Inert text
  head_ne : text.toList.head? ≠ some '\t'

/-- Steps in which every block stands between braces and is one level deeper. -/
inductive Nested : List Step → Prop
  | nil : Nested []
  | line {text : String} {rest : List Step} (htext : Inline text) (hrest : Nested rest) :
      Nested (.line text :: rest)
  | blank {rest : List Step} (hrest : Nested rest) : Nested (.blank :: rest)
  | block {body rest : List Step} (hbody : Nested body) (hrest : Nested rest) :
      Nested (.line "\x7b" :: .deeper :: body ++ .shallower :: .line "\x7d" :: rest)

/-- How many more braces open in a text than close. -/
def depth (s : List Char) : Int :=
  s.count '\x7b' - s.count '\x7d'

/-- From a depth, a text does not come below zero on its way. -/
def StaysOpen (before : Int) (s : List Char) : Prop :=
  ∀ p, p <+: s → 0 ≤ before + depth p

/-- Every brace that opens is closed, and none closes that has not been opened. -/
structure WellNested (s : List Char) : Prop where
  staysOpen : StaysOpen 0 s
  closed : depth s = 0

/-- Number of tabs that a line starts with. -/
def tabs (line : String) : Nat :=
  (line.toList.takeWhile (· == '\t')).length

/-- A closing brace stands behind the tabs of a line. -/
def closes (line : String) : Bool :=
  line.toList.dropWhile (· == '\t') == ['\x7d']

/-- The depth of a line: the one before it, or after it for a closing brace. -/
def lineDepth (before : Int) (line : String) : Int :=
  if closes line then before + depth line.toList else before

/-- A line that leads from one depth to another and stands as it is to stand there. -/
structure LaidLine (shift before : Int) (line : String) (after : Int) : Prop where
  no_feed : '\n' ∉ line.toList
  count_le : line.toList.count '\x7d' ≤ before
  depth_eq : before + depth line.toList = after
  tabs_eq : line ≠ "" → (tabs line : Int) = lineDepth before line - shift

/-- Lines each of which begins at the depth that those before it lead to. -/
inductive Laid (shift : Int) : Int → List String → Int → Prop
  | nil (before : Int) : Laid shift before [] before
  | cons {before next after : Int} {line : String} {rest : List String}
      (hline : LaidLine shift before line next) (hrest : Laid shift next rest after) :
      Laid shift before (line :: rest) after

instance (text : String) : Decidable (Inert text) :=
  decidable_of_iff (text.toList.all (!isLayout ·)) (by simp [Inert])

@[simp] theorem depth_nil : depth [] = 0 := rfl

@[simp] theorem depth_append (s t : List Char) : depth (s ++ t) = depth s + depth t := by
  simp only [depth, List.count_append, Nat.cast_add]
  omega

@[simp] theorem depth_lineFeed (s : List Char) : depth ('\n' :: s) = depth s := by
  simp [depth]

theorem inert_iff {text : String} :
    Inert text ↔ '\x7b' ∉ text.toList ∧ '\x7d' ∉ text.toList ∧ '\n' ∉ text.toList := by
  constructor
  · intro h
    have hnot {c : Char} (hc : isLayout c) : c ∉ text.toList := fun hmem => by
      rw [h c hmem] at hc
      cases hc
    exact ⟨hnot rfl, hnot rfl, hnot rfl⟩
  · rintro ⟨hopen, hclose, hfeed⟩ c hmem
    refine Bool.eq_false_iff.2 fun hc => ?_
    simp only [isLayout, Bool.or_eq_true, beq_iff_eq] at hc
    obtain (rfl | rfl) | rfl := hc
    · exact hopen hmem
    · exact hclose hmem
    · exact hfeed hmem

theorem depth_of_inert {text : String} (h : Inert text) : depth text.toList = 0 := by
  obtain ⟨hopen, hclose, -⟩ := inert_iff.1 h
  rw [depth, List.count_eq_zero.2 hopen, List.count_eq_zero.2 hclose]
  rfl

theorem inert_append {first second : String} :
    Inert (first ++ second) ↔ Inert first ∧ Inert second := by
  simp only [Inert, String.toList_append, List.forall_mem_append]

theorem Inert.append {first second : String} (h : Inert first) (h' : Inert second) :
    Inert (first ++ second) :=
  inert_append.2 ⟨h, h'⟩

section Texts

variable {before : Int} {s t : List Char}

theorem StaysOpen.append (h : StaysOpen before s) (h' : StaysOpen (before + depth s) t) :
    StaysOpen before (s ++ t) := by
  intro p hp
  rcases List.prefix_or_prefix_of_prefix hp (List.prefix_append s t) with hs | ⟨q, rfl⟩
  · exact h p hs
  · rw [depth_append, ← Int.add_assoc]
    exact h' q ((List.prefix_append_right_inj s).1 hp)

/-- Not more braces close in a text than are open before it. -/
theorem staysOpen_of_count_le (h : s.count '\x7d' ≤ before) : StaysOpen before s := by
  intro p hp
  have hcount := hp.sublist.count_le '\x7d'
  rw [depth]
  omega

end Texts

section Lines

variable {shift before next after : Int} {first second lines : List String} {line : String}

@[simp] theorem toList_joined_cons (line : String) (rest : List String) :
    (joined (line :: rest)).toList = line.toList ++ '\n' :: (joined rest).toList := by
  have hstart (lines : List String) (start : String) :
      lines.foldl (fun text line => text ++ line ++ "\n") start = start ++ joined lines := by
    induction lines generalizing start with
    | nil => exact String.append_empty.symm
    | cons line rest ih =>
      rw [joined, List.foldl_cons, List.foldl_cons, ih, ih, String.empty_append]
      simp only [String.append_assoc]
  rw [joined, List.foldl_cons, hstart, String.empty_append]
  simp

@[simp] theorem toList_joined_nil : (joined []).toList = [] := rfl

@[simp] theorem toList_joined_append (first second : List String) :
    (joined (first ++ second)).toList = (joined first).toList ++ (joined second).toList := by
  induction first with
  | nil => rfl
  | cons line rest ih => simp [ih]

theorem Laid.append (h : Laid shift before first next) (h' : Laid shift next second after) :
    Laid shift before (first ++ second) after := by
  induction h with
  | nil _ => exact h'
  | cons hline _ ih => exact .cons hline (ih h')

/-- The depth changes by what the braces of all lines together count. -/
theorem Laid.depth_eq (h : Laid shift before lines after) :
    before + depth (joined lines).toList = after := by
  induction h with
  | nil before => exact Int.add_zero before
  | cons hline _ ih =>
    rw [toList_joined_cons, depth_append, depth_lineFeed, ← Int.add_assoc, hline.depth_eq, ih]

theorem Laid.staysOpen (h : Laid shift before lines after) (hbefore : 0 ≤ before) :
    StaysOpen before (joined lines).toList := by
  induction h with
  | nil _ =>
    refine staysOpen_of_count_le ?_
    simpa using hbefore
  | @cons before next _ line rest hline _ ih =>
    have hnext : 0 ≤ next := by
      have hle := hline.count_le
      have hdepth := hline.depth_eq
      rw [depth] at hdepth
      omega
    have hcount : (line.toList ++ ['\n']).count '\x7d' ≤ before := by
      simpa using hline.count_le
    rw [toList_joined_cons, ← List.singleton_append, ← List.append_assoc]
    refine (staysOpen_of_count_le hcount).append ?_
    rw [depth_append, depth_lineFeed, depth_nil, Int.add_zero, hline.depth_eq]
    exact ih hnext

theorem Laid.no_feed (h : Laid shift before lines after) : ∀ line ∈ lines, '\n' ∉ line.toList := by
  induction h with
  | nil _ => simp
  | cons hline _ ih => exact List.forall_mem_cons.2 ⟨hline.no_feed, ih⟩

/-- Every line has the tabs that the depth before it asks for. -/
theorem Laid.tabs_eq (h : Laid shift before (first ++ line :: second) after) (hne : line ≠ "") :
    (tabs line : Int) = lineDepth (before + depth (joined first).toList) line - shift := by
  induction first generalizing before with
  | nil =>
    cases h with
    | cons hline _ => simpa using hline.tabs_eq hne
  | cons other rest ih =>
    cases h with
    | cons hline hrest =>
      rw [toList_joined_cons, depth_append, depth_lineFeed, ← Int.add_assoc, hline.depth_eq]
      exact ih hrest

/-- Lines without line feeds are what a text is cut into at its line feeds. -/
theorem splitOn_joined (h : ∀ line ∈ lines, '\n' ∉ line.toList) :
    (joined lines).toList.splitOn '\n' = lines.map String.toList ++ [[]] := by
  have hjoin : (joined lines).toList = ['\n'].intercalate (lines.map String.toList ++ [[]]) := by
    clear h
    induction lines with
    | nil => rfl
    | cons line rest ih =>
      rw [toList_joined_cons, ih, List.map_cons, List.cons_append]
      cases hrest : rest.map String.toList ++ [[]] with
      | nil => simp at hrest
      | cons _ _ => simp [List.intercalate_cons_cons]
  rw [hjoin, List.splitOn_intercalate]
  · intro part hpart
    rcases List.mem_append.1 hpart with hpart | hpart
    · obtain ⟨line, hline, rfl⟩ := List.mem_map.1 hpart
      exact h line hline
    · rw [List.mem_singleton.1 hpart]
      exact List.not_mem_nil
  · simp

end Lines

section Steps

variable {indent : Nat} {shift before after : Int} {text : String} {steps first second : List Step}

theorem toList_indented (indent : Nat) (text : String) :
    (String.ofList (List.replicate indent '\t') ++ text).toList =
      List.replicate indent '\t' ++ text.toList := by
  rw [String.toList_append, String.toList_ofList]

theorem depth_indented (indent : Nat) (text : String) :
    depth (String.ofList (List.replicate indent '\t') ++ text).toList = depth text.toList := by
  have htabs : depth (List.replicate indent '\t') = 0 := by simp [depth, List.count_replicate]
  rw [toList_indented, depth_append, htabs, Int.zero_add]

/-- The tabs of a line are taken off where its text does not begin with one. -/
theorem tabs_indented (indent : Nat) (h : text.toList.head? ≠ some '\t') :
    tabs (String.ofList (List.replicate indent '\t') ++ text) = indent ∧
      closes (String.ofList (List.replicate indent '\t') ++ text) = (text.toList == ['\x7d']) := by
  have htab : ∀ c ∈ List.replicate indent '\t', (c == '\t') = true := by simp
  rw [tabs, closes, toList_indented, List.takeWhile_append_of_pos htab,
    List.dropWhile_append_of_pos htab]
  cases hs : text.toList with
  | nil => simp
  | cons c rest =>
    have hc : (c == '\t') = false := by simpa [hs] using h
    simp [hc]

/-- A line behind its tabs, where the depth that counts for it is known. -/
theorem laidLine_indented (hfeed : '\n' ∉ text.toList) (htab : text.toList.head? ≠ some '\t')
    (hcount : text.toList.count '\x7d' ≤ before) (hdepth : before + depth text.toList = after)
    (hindent : indent = (if text.toList == ['\x7d'] then after else before) - shift) :
    LaidLine shift before (String.ofList (List.replicate indent '\t') ++ text) after where
  no_feed := by simp [hfeed]
  count_le := by simpa [toList_indented, List.count_replicate] using hcount
  depth_eq := by rwa [depth_indented]
  tabs_eq _ := by
    obtain ⟨htabs, hcloses⟩ := tabs_indented indent htab
    rw [htabs, lineDepth, hcloses, depth_indented, hdepth]
    exact hindent

theorem Inline.laidLine (h : Inline text) (hbefore : 0 ≤ before)
    (hindent : indent = before - shift) :
    LaidLine shift before (String.ofList (List.replicate indent '\t') ++ text) before := by
  obtain ⟨-, hclose, hfeed⟩ := inert_iff.1 h.inert
  refine laidLine_indented hfeed h.head_ne ?_ ?_ ?_
  · rw [List.count_eq_zero.2 hclose]
    exact hbefore
  · rw [depth_of_inert h.inert, Int.add_zero]
  · rw [ite_self]
    exact hindent

theorem laidLine_opening (hbefore : 0 ≤ before) (hindent : indent = before - shift) :
    LaidLine shift before (String.ofList (List.replicate indent '\t') ++ "\x7b") (before + 1) :=
  laidLine_indented (by decide) (by decide) hbefore rfl hindent

theorem laidLine_closing (hbefore : 0 ≤ before) (hindent : indent = before - shift) :
    LaidLine shift (before + 1) (String.ofList (List.replicate indent '\t') ++ "\x7d") before := by
  have hone : (1 : Int) ≤ before + 1 := by omega
  have hdepth : before + 1 + depth "\x7d".toList = before := Int.add_neg_cancel_right before 1
  exact laidLine_indented (by decide) (by decide) hone hdepth hindent

theorem laidLine_empty (hbefore : 0 ≤ before) : LaidLine shift before "" before where
  no_feed := List.not_mem_nil
  count_le := hbefore
  depth_eq := Int.add_zero before
  tabs_eq hne := absurd rfl hne

theorem Nested.append (h : Nested first) (h' : Nested second) : Nested (first ++ second) := by
  induction h with
  | nil => exact h'
  | line htext _ ih => exact .line htext ih
  | blank _ ih => exact .blank ih
  | block hbody _ _ ih => simpa using hbody.block ih

theorem Nested.flatMap {α : Type} {f : α → List Step} (l : List α) (h : ∀ a ∈ l, Nested (f a)) :
    Nested (l.flatMap f) := by
  induction l with
  | nil => exact .nil
  | cons a rest ih =>
    exact (h a List.mem_cons_self).append (ih fun b hb => h b (List.mem_cons_of_mem _ hb))

theorem nested_lines {texts : List String} (h : ∀ text ∈ texts, Inline text) :
    Nested (texts.map .line) := by
  induction texts with
  | nil => exact .nil
  | cons text rest ih =>
    exact .line (h text List.mem_cons_self) (ih fun t ht => h t (List.mem_cons_of_mem _ ht))

theorem Nested.balanced (h : Nested steps) : Balanced steps := by
  induction h with
  | nil => exact fun _ => rfl
  | line _ _ ih => exact ih
  | blank _ ih => exact ih
  | @block body rest _ _ hbody hrest =>
    intro indent
    have hblock := (hbody.nested.append hrest) indent
    simpa [indentAfter, indentAfter_append] using hblock

/-- Nested steps lay out their lines and close what they open. -/
theorem Nested.laid (h : Nested steps) (hbefore : 0 ≤ before) (hindent : indent = before - shift) :
    Laid shift before (linesFrom indent steps) before := by
  induction h generalizing indent before with
  | nil => exact .nil before
  | line htext _ ih => exact .cons (htext.laidLine hbefore hindent) (ih hbefore hindent)
  | blank _ ih => exact .cons (laidLine_empty hbefore) (ih hbefore hindent)
  | @block body rest hbody _ ihbody ihrest =>
    -- the body is one level deeper, in the indentation as well as in the depth
    have hdeeper : (indent + 1 : Nat) = before + 1 - shift := by
      push_cast
      omega
    have hinner := ihbody (Int.le_add_one hbefore) hdeeper
    have hlines : linesFrom indent
        (.line "\x7b" :: .deeper :: body ++ .shallower :: .line "\x7d" :: rest) =
        (String.ofList (List.replicate indent '\t') ++ "\x7b") :: (linesFrom (indent + 1) body ++
          (String.ofList (List.replicate indent '\t') ++ "\x7d") :: linesFrom indent rest) := by
      simp [linesFrom, linesFrom_append, hbody.balanced (indent + 1)]
    rw [hlines]
    exact .cons (laidLine_opening hbefore hindent)
      (hinner.append (.cons (laidLine_closing hbefore hindent) (ihrest hbefore hindent)))

end Steps

end HeaderBindings.Output
