import HeaderBindings.Proofs.Name.Identifiers
import HeaderBindings.Proofs.TypeMap.WholeWords

/-! What the first rule for a name decides. It replaces the name, and what it puts there is a text
like any other for the rules behind it: a later rule or a built-in one replaces what it finds in it
as a whole word. Where they find nothing, the replacement of the first rule is what is written. -/

namespace HeaderBindings

open Text

/-- There is a word boundary between the two texts. -/
def IsBoundary (front back : List Char) : Prop :=
  endsWord false front ≠ startsWord back

/-- `word` stands in `s` with a word boundary on both sides. -/
def StandsIn (word s : List Char) : Prop :=
  ∃ front back, s = front ++ word ++ back ∧ IsBoundary front (word ++ back) ∧
    IsBoundary (front ++ word) back

theorem Text.endsWord_append (before : Bool) (front back : List Char) :
    endsWord before (front ++ back) = endsWord (endsWord before front) back := by
  simp only [endsWord, List.getLast?_append]
  cases back.getLast? <;> rfl

theorem Text.endsWord_cons (before : Bool) (c : Char) (back : List Char) :
    endsWord before (c :: back) = endsWord (isWordChar c) back :=
  endsWord_append before [c] back

namespace TypeRule

variable {s word new : List Char} {before : Bool}

/-- `word` matches at one of the places of a text, of which the first one lies behind a word
character or not. -/
def matchesIn (word : List Char) : Bool → List Char → Bool
  | before, [] => matchesAt word before []
  | before, c :: rest => matchesAt word before (c :: rest) || matchesIn word (isWordChar c) rest

theorem matchesAt_iff : matchesAt word before s ↔
    ∃ back, s = word ++ back ∧ before ≠ startsWord (word ++ back) ∧
      endsWord before word ≠ startsWord back := by
  simp only [matchesAt, Bool.and_eq_true, bne_iff_ne]
  constructor
  · rintro ⟨⟨hopens, hstart⟩, hend⟩
    obtain ⟨back, rfl⟩ := List.isPrefixOf_iff_prefix.1 hopens
    rw [List.drop_left] at hend
    exact ⟨back, rfl, hstart, hend⟩
  · rintro ⟨back, rfl, hstart, hend⟩
    refine ⟨⟨List.isPrefixOf_iff_prefix.2 (List.prefix_append word back), hstart⟩, ?_⟩
    rwa [List.drop_left]

theorem matchesIn_iff : matchesIn word before s ↔
    ∃ front back, s = front ++ word ++ back ∧ endsWord before front ≠ startsWord (word ++ back) ∧
      endsWord before (front ++ word) ≠ startsWord back := by
  induction s generalizing before with
  | nil =>
    rw [matchesIn, matchesAt_iff]
    constructor
    · rintro ⟨back, hs, hstart, hend⟩
      exact ⟨[], back, hs, hstart, hend⟩
    · rintro ⟨front, back, hs, hstart, hend⟩
      obtain ⟨hfront, -⟩ := List.append_eq_nil_iff.1 (List.append_eq_nil_iff.1 hs.symm).1
      subst hfront
      exact ⟨back, hs, hstart, hend⟩
  | cons c rest ih =>
    rw [matchesIn, Bool.or_eq_true, matchesAt_iff, ih]
    constructor
    · rintro (⟨back, hs, hstart, hend⟩ | ⟨front, back, hs, hstart, hend⟩)
      · exact ⟨[], back, hs, hstart, hend⟩
      · refine ⟨c :: front, back, by rw [hs]; rfl, ?_, ?_⟩
        · rwa [endsWord_cons]
        · rwa [List.cons_append, endsWord_cons]
    · rintro ⟨front, back, hs, hstart, hend⟩
      cases front with
      | nil => exact .inl ⟨back, hs, hstart, hend⟩
      | cons d front =>
        obtain ⟨rfl, hrest⟩ := List.cons.inj hs
        rw [endsWord_cons] at hstart
        rw [List.cons_append, endsWord_cons] at hend
        exact .inr ⟨front, back, hrest, hstart, hend⟩

theorem matchesIn_eq_true_iff_standsIn : matchesIn word false s ↔ StandsIn word s :=
  matchesIn_iff

instance (word s : List Char) : Decidable (StandsIn word s) :=
  decidable_of_iff _ matchesIn_eq_true_iff_standsIn

theorem substitute_of_not_matchesIn (h : matchesIn word before s = false) :
    substitute word new before 0 s = s := by
  induction s generalizing before with
  | nil =>
    rw [matchesIn] at h
    rw [substitute, h, Bool.and_false, if_neg Bool.false_ne_true]
  | cons c rest ih =>
    rw [matchesIn, Bool.or_eq_false_iff] at h
    unfold substitute
    rw [h.1, if_neg Bool.false_ne_true, ih h.2]

/-- A rule leaves a text alone in which its pattern does not stand as a whole word. -/
theorem apply_of_not_standsIn {rule : TypeRule} (h : ¬StandsIn rule.pattern.toList s) :
    rule.apply s = s :=
  substitute_of_not_matchesIn (Bool.eq_false_iff.2 fun hmatch =>
    h (matchesIn_eq_true_iff_standsIn.1 hmatch))

theorem substitute_length (hword : word ≠ []) :
    substitute word new before s.length s = [] := by
  induction s generalizing before with
  | nil =>
    have hmatch : ¬matchesAt word before [] = true := by
      rw [matchesAt_iff]
      rintro ⟨back, hs, -⟩
      exact hword (List.append_eq_nil_iff.1 hs.symm).1
    rw [substitute, Bool.eq_false_iff.2 hmatch, Bool.and_false, if_neg Bool.false_ne_true]
  | cons c rest ih => exact ih

/-- A rule whose pattern is a word replaces that word. -/
theorem apply_pattern {rule : TypeRule} (hword : ∀ c ∈ rule.pattern.toList, isWordChar c)
    (hne : rule.pattern ≠ "") : rule.apply rule.pattern.toList = rule.replacement.toList := by
  have hpattern : rule.pattern.toList ≠ [] := fun h => hne (String.toList_eq_nil_iff.1 h)
  have hmatch : matchesAt rule.pattern.toList false rule.pattern.toList := by
    refine matchesAt_iff.2 ⟨[], (List.append_nil _).symm, ?_, ?_⟩
    · rw [List.append_nil, startsWord_of_ne_nil hword hpattern]
      exact Bool.false_ne_true
    · rw [endsWord_of_ne_nil hword hpattern]
      decide
  unfold apply
  generalize rule.pattern.toList = word at hpattern hmatch
  cases word with
  | nil => exact absurd rfl hpattern
  | cons c rest =>
    unfold substitute
    rw [if_pos hmatch]
    dsimp only
    rw [substitute_length hpattern, List.append_nil]

theorem substitute_nil_nil : substitute [] [] before 0 s = s := by
  induction s generalizing before with
  | nil => simp [substitute]
  | cons c rest ih =>
    unfold substitute
    rw [List.nil_append, ih, ite_self]

end TypeRule

namespace TypeMap

variable {earlier later : List TypeRule} {rule : TypeRule}

/-- The rules before the first one for a word leave it alone, unless one of them puts something at
every word boundary. -/
theorem apply_of_earlier (hword : ∀ c ∈ rule.pattern.toList, isWordChar c)
    (hfirst : ∀ r ∈ earlier, r.pattern ≠ rule.pattern)
    (hempty : ∀ r ∈ earlier, r.pattern = "" → r.replacement = "") :
    ∀ r ∈ earlier, r.apply rule.pattern.toList = rule.pattern.toList := by
  intro r hr
  by_cases hnone : r.pattern = ""
  · rw [TypeRule.apply, hnone, hempty r hr hnone]
    exact TypeRule.substitute_nil_nil
  · refine TypeRule.apply_of_word hword hnone fun heq => ?_
    exact hfirst r hr (String.toList_inj.1 heq).symm

/-- The first rule for a word replaces it, and the table that is left converts the replacement. -/
theorem convert_pattern (hword : ∀ c ∈ rule.pattern.toList, isWordChar c)
    (hne : rule.pattern ≠ "") (hfirst : ∀ r ∈ earlier, r.pattern ≠ rule.pattern)
    (hempty : ∀ r ∈ earlier, r.pattern = "" → r.replacement = "") :
    (withRules (earlier ++ rule :: later)).convert rule.pattern =
      (withRules later).convert rule.replacement := by
  simp only [convert, withRules, List.append_assoc, List.cons_append, List.foldl_append,
    List.foldl_cons]
  rw [foldl_apply_eq_self (apply_of_earlier hword hfirst hempty), TypeRule.apply_pattern hword hne]

/-- A text in which no rule finds its pattern is kept, but for the qualifiers in front. -/
theorem convert_of_not_standsIn {map : TypeMap} {text : String}
    (hrules : ∀ r ∈ map.rules, ¬StandsIn r.pattern.toList text.toList)
    (hconst : ¬"const ".toList <+: text.toList) (hunsigned : text ≠ "unsigned")
    (hqualified : ¬"unsigned ".toList <+: text.toList) : map.convert text = text := by
  have hkept : map.rules.foldl (fun s rule => rule.apply s) text.toList = text.toList :=
    foldl_apply_eq_self fun r hr => TypeRule.apply_of_not_standsIn (hrules r hr)
  have hunsigned' : text.toList ≠ "unsigned".toList := fun h => hunsigned (String.toList_inj.1 h)
  rw [← List.isPrefixOf_iff_prefix] at hconst hqualified
  rw [convert, hkept, dropConst, if_neg hconst, dropUnsigned, if_neg hunsigned',
    Bool.eq_false_iff.2 hqualified, Bool.false_and, if_neg Bool.false_ne_true, String.ofList_toList]

/-- A word is converted to what the rules behind the first one for it make of its replacement. That
is the replacement itself if it has no qualifier in front and none of these rules finds its pattern
in it. -/
theorem first_rule_decides (hword : ∀ c ∈ rule.pattern.toList, isWordChar c)
    (hne : rule.pattern ≠ "") (hfirst : ∀ r ∈ earlier, r.pattern ≠ rule.pattern)
    (hempty : ∀ r ∈ earlier, r.pattern = "" → r.replacement = "") :
    let map := withRules (earlier ++ rule :: later)
    map.convert rule.pattern = (withRules later).convert rule.replacement ∧
    ((∀ r ∈ later ++ builtinRules, ¬StandsIn r.pattern.toList rule.replacement.toList) →
      ¬"const ".toList <+: rule.replacement.toList → rule.replacement ≠ "unsigned" →
      ¬"unsigned ".toList <+: rule.replacement.toList →
      map.convert rule.pattern = rule.replacement) := by
  intro map
  have hconvert : map.convert rule.pattern = (withRules later).convert rule.replacement :=
    convert_pattern hword hne hfirst hempty
  refine ⟨hconvert, fun hrules hconst hunsigned hqualified => ?_⟩
  exact hconvert.trans (convert_of_not_standsIn hrules hconst hunsigned hqualified)

/-- Two rules whose replacements hold words, but no pattern, and one whose replacement is a
pattern. -/
def userRules : List TypeRule :=
  [⟨"HANDLE", "void*"⟩, ⟨"money_t", "$cents per int64"⟩, ⟨"count_t", "int"⟩]

theorem first_rule_decides_user :
    (withRules userRules).convert "HANDLE" = "void*" ∧
    (withRules userRules).convert "money_t" = "$cents per int64" ∧
    (withRules userRules).convert "count_t" = "int32" := by
  have hword (name : String) (h : name.toList.all isWordChar) : ∀ c ∈ name.toList, isWordChar c :=
    List.all_eq_true.1 h
  obtain ⟨-, hhandle⟩ := @first_rule_decides [] (userRules.drop 1) ⟨"HANDLE", "void*"⟩
    (hword _ (by decide)) (by decide) (by decide) (by decide)
  obtain ⟨-, hmoney⟩ := @first_rule_decides (userRules.take 1) (userRules.drop 2)
    ⟨"money_t", "$cents per int64"⟩ (hword _ (by decide)) (by decide) (by decide)
    (by decide)
  obtain ⟨hcount, -⟩ := @first_rule_decides (userRules.take 2) [] ⟨"count_t", "int"⟩
    (hword _ (by decide)) (by decide) (by decide) (by decide)
  exact ⟨hhandle (by decide +kernel) (by decide) (by decide) (by decide),
    hmoney (by decide +kernel) (by decide) (by decide) (by decide),
    hcount.trans (by decide +kernel)⟩

/-- The first rule for a name does not always decide: its replacement is converted by a built-in
rule, by a later rule, and an empty pattern before it takes the name away. -/
theorem not_forall_first_rule_decides :
    (¬∀ (earlier later : List TypeRule) (rule : TypeRule), Name.isIdentifier rule.pattern →
      (∀ r ∈ earlier, r.pattern ≠ rule.pattern) → ¬"const ".toList <+: rule.replacement.toList →
      ¬"unsigned".toList <+: rule.replacement.toList →
      (withRules (earlier ++ rule :: later)).convert rule.pattern = rule.replacement) ∧
    (withRules [⟨"money_t", "int"⟩]).convert "money_t" = "int32" ∧
    (withRules [⟨"money_t", "cents"⟩, ⟨"cents", "Money"⟩]).convert "money_t" = "Money" ∧
    (withRules [⟨"", "x"⟩, ⟨"money_t", "Money"⟩]).convert "money_t" = "xmoney_tx" := by
  have hbuiltin : (withRules [⟨"money_t", "int"⟩]).convert "money_t" = "int32" := by
    decide +kernel
  refine ⟨fun h => ?_, hbuiltin, by decide +kernel, by decide +kernel⟩
  have hint := h [] [] ⟨"money_t", "int"⟩ (by decide) (by decide) (by decide) (by decide)
  exact absurd (hint.symm.trans hbuiltin) (by decide)

end TypeMap

end HeaderBindings
