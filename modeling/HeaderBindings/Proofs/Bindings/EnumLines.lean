import HeaderBindings.Proofs.Bindings.Enums
import HeaderBindings.Proofs.Output.Nesting
import HeaderBindings.Proofs.Text.Digits
import Mathlib

/-! Enums read back from the lines that are written of them. The first line of a block tells whether
the enum has a name, and its items end at the first line that is no item: the brace that closes the
block, or the empty line where there is no name. The value of an item stands behind the last blank
of its line, so the names may hold anything but line feeds, and those matter only when the lines are
put together to one text. -/

namespace HeaderBindings

open Output

/-- An enum without comments. -/
@[mk_iff]
structure EnumDecl.Uncommented (decl : EnumDecl) : Prop where
  comment : decl.comment = none
  items : ∀ item ∈ decl.items, item.comment = none

/-- No name in the enum holds a line feed. -/
@[mk_iff]
structure EnumDecl.OneLine (decl : EnumDecl) : Prop where
  name : '\n' ∉ decl.name.toList
  items : ∀ item ∈ decl.items, '\n' ∉ item.name.toList

instance (decl : EnumDecl) : Decidable decl.Uncommented :=
  decidable_of_iff _ (EnumDecl.uncommented_iff decl).symm

instance (decl : EnumDecl) : Decidable decl.OneLine :=
  decidable_of_iff _ (EnumDecl.oneLine_iff decl).symm

section Cuts

variable {α : Type} {a : α} {x x' z z' : List α}

/-- There is one place at which an element comes first. -/
theorem cut_at_first (h : x ++ a :: z = x' ++ a :: z') (hx : a ∉ x) (hx' : a ∉ x') :
    x = x' ∧ z = z' := by
  rcases List.append_eq_append_iff.1 h with ⟨between, rfl, hz⟩ | ⟨between, rfl, hz⟩
  · cases between with
    | nil => exact ⟨(List.append_nil x).symm, (List.cons.inj hz).2⟩
    | cons b rest =>
      obtain ⟨rfl, -⟩ := List.cons.inj hz
      exact absurd (List.mem_append_right x List.mem_cons_self) hx'
  · cases between with
    | nil => exact ⟨List.append_nil x', (List.cons.inj hz).2.symm⟩
    | cons b rest =>
      obtain ⟨rfl, -⟩ := List.cons.inj hz
      exact absurd (List.mem_append_right x' List.mem_cons_self) hx

/-- There is one place at which an element comes last. -/
theorem cut_at_last (h : x ++ a :: z = x' ++ a :: z') (hz : a ∉ z) (hz' : a ∉ z') :
    x = x' ∧ z = z' := by
  have hreverse : z.reverse ++ a :: x.reverse = z'.reverse ++ a :: x'.reverse := by
    simpa using congrArg List.reverse h
  obtain ⟨hback, hfront⟩ := cut_at_first hreverse (by simpa using hz) (by simpa using hz')
  exact ⟨List.reverse_inj.1 hfront, List.reverse_inj.1 hback⟩

end Cuts

namespace Job

/-- The line of an item, without its tabs. -/
def itemText (front : String) (item : EnumItem) : String :=
  front ++ item.name ++ " = " ++ toString item.value ++ ";"

variable {front : String} {depth : Nat} {item item' : EnumItem} {items items' : List EnumItem}

theorem itemText_inj (h : itemText front item = itemText front item') :
    item.name = item'.name ∧ item.value = item'.value := by
  have hblank (i : Int) : ' ' ∉ (toString i).toList :=
    notMem_toString_int (by decide) (by decide) i
  have hsplit (item : EnumItem) : (front ++ item.name ++ " = " ++ toString item.value).toList =
      (front ++ item.name ++ " =").toList ++ ' ' :: (toString item.value).toList := by
    simp [String.toList_append]
  rw [itemText, itemText, String.append_left_inj, ← String.toList_inj, hsplit, hsplit] at h
  obtain ⟨hname, hvalue⟩ := cut_at_last h (hblank _) (hblank _)
  rw [String.toList_inj, String.append_left_inj, String.append_right_inj] at hname
  exact ⟨hname, Int.repr_injective (String.toList_inj.1 hvalue)⟩

theorem indented_inj {first second : String} :
    indented depth first = indented depth second ↔ first = second :=
  String.append_right_inj _

theorem indented_succ (depth : Nat) (text : String) :
    indented (depth + 1) text = indented depth ("\t" ++ text) := by
  rw [indented, indented, List.replicate_succ', String.ofList_append, String.append_assoc]

/-- The items of a block, from the text in front of each of them. -/
def itemLines (front : String) (depth : Nat) (items : List EnumItem) : List String :=
  items.map fun item => indented depth (itemText front item)

theorem itemLines_inj (hitems : ∀ item ∈ items, item.comment = none)
    (hitems' : ∀ item ∈ items', item.comment = none)
    (h : itemLines front depth items = itemLines front depth items') : items = items' := by
  induction items generalizing items' with
  | nil => exact (List.map_eq_nil_iff.1 h.symm).symm
  | cons item rest ih =>
    cases items' with
    | nil => cases h
    | cons item' rest' =>
      obtain ⟨hline, hlines⟩ := List.cons.inj h
      obtain ⟨hcomment, hrest⟩ := List.forall_mem_cons.1 hitems
      obtain ⟨hcomment', hrest'⟩ := List.forall_mem_cons.1 hitems'
      obtain ⟨hname, hvalue⟩ := itemText_inj (indented_inj.1 hline)
      have hitem : item = item' := by
        cases item
        cases item'
        simp only at hcomment hcomment' hname hvalue
        rw [hcomment, hcomment', hname, hvalue]
      rw [hitem, ih hrest hrest' hlines]

variable {decl decl' : EnumDecl}

theorem constantLines_eq (hitems : ∀ item ∈ items, item.comment = none) :
    items.flatMap (constantLines depth) = itemLines "public const c_int " depth items := by
  rw [itemLines, List.map_eq_flatMap]
  refine List.flatMap_congr fun item hitem => ?_
  rw [constantLines, hitems item hitem]
  rfl

theorem caseLines_eq (hitems : ∀ item ∈ items, item.comment = none) :
    items.flatMap (caseLines depth) = itemLines "case " depth items := by
  rw [itemLines, List.map_eq_flatMap]
  refine List.flatMap_congr fun item hitem => ?_
  rw [caseLines, hitems item hitem]
  rfl

theorem enumLines_of_anonymous (h : decl.Uncommented) (hname : decl.name = "") :
    enumLines depth decl = itemLines "public const c_int " depth decl.items ++ [""] := by
  rw [enumLines, h.comment, if_pos hname, constantLines_eq h.items]
  rfl

theorem enumLines_of_named (h : decl.Uncommented) (hname : decl.name ≠ "") :
    enumLines depth decl =
      [indented depth "[AllowDuplicates]",
        indented depth ("public enum " ++ decl.name ++ " : c_int"), indented depth "\x7b"] ++
      itemLines "case " (depth + 1) decl.items ++ [indented depth "\x7d", ""] := by
  rw [enumLines, h.comment, if_neg hname, caseLines_eq h.items]
  simp only [List.append_assoc]
  rfl

theorem ne_of_head? {first second : String} (h : first.toList.head? ≠ second.toList.head?) :
    first ≠ second :=
  fun heq => h (congrArg (·.toList.head?) heq)

theorem empty_notMem_itemLines : "" ∉ itemLines "public const c_int " depth items := by
  intro hmem
  obtain ⟨item, -, hline⟩ := List.mem_map.1 hmem
  revert hline
  simp [indented, itemText, ← String.toList_inj, String.toList_append]

theorem brace_notMem_itemLines :
    indented depth "\x7d" ∉ itemLines "case " (depth + 1) items := by
  intro hmem
  obtain ⟨item, -, hline⟩ := List.mem_map.1 hmem
  rw [indented_succ, indented_inj] at hline
  revert hline
  apply ne_of_head?
  simp [itemText, String.toList_append]

theorem opening_ne_empty : indented depth "[AllowDuplicates]" ≠ "" := by
  simp [indented, ← String.toList_inj, String.toList_append]

theorem opening_ne_constant :
    indented depth "[AllowDuplicates]" ≠
      indented depth (itemText "public const c_int " item) := by
  rw [ne_eq, indented_inj]
  apply ne_of_head?
  simp [itemText, String.toList_append]

/-- The first line tells whether an enum has a name. -/
theorem head?_enumLines_eq_opening_iff {rest : List String} (h : decl.Uncommented) :
    (enumLines depth decl ++ rest).head? = some (indented depth "[AllowDuplicates]") ↔
      decl.name ≠ "" := by
  by_cases hname : decl.name = ""
  · refine iff_of_false ?_ (not_not.2 hname)
    rw [enumLines_of_anonymous h hname]
    cases decl.items with
    | nil => exact fun hline => opening_ne_empty (Option.some.inj hline).symm
    | cons item items => exact fun hline => opening_ne_constant (Option.some.inj hline).symm
  · refine iff_of_true ?_ hname
    rw [enumLines_of_named h hname]
    rfl

theorem eq_of_name_items (h : decl.Uncommented) (h' : decl'.Uncommented)
    (hname : decl.name = decl'.name) (hitems : decl.items = decl'.items) : decl = decl' := by
  have hcomment : decl.comment = decl'.comment := h.comment.trans h'.comment.symm
  cases decl
  cases decl'
  simp only at hname hitems hcomment
  rw [hname, hitems, hcomment]

/-- The lines of an enum tell the enum, and where they end. -/
theorem enumLines_append_inj {rest rest' : List String} (h : decl.Uncommented)
    (h' : decl'.Uncommented) (heq : enumLines depth decl ++ rest = enumLines depth decl' ++ rest') :
    decl = decl' ∧ rest = rest' := by
  have hnamed : decl.name ≠ "" ↔ decl'.name ≠ "" := by
    rw [← head?_enumLines_eq_opening_iff h, heq, head?_enumLines_eq_opening_iff h']
  by_cases hname : decl.name = ""
  · have hname' : decl'.name = "" := not_not.1 fun hne => hnamed.2 hne hname
    rw [enumLines_of_anonymous h hname, enumLines_of_anonymous h' hname', List.append_assoc,
      List.append_assoc] at heq
    obtain ⟨hlines, hrest⟩ := cut_at_first heq empty_notMem_itemLines empty_notMem_itemLines
    have hitems : decl.items = decl'.items := itemLines_inj h.items h'.items hlines
    exact ⟨eq_of_name_items h h' (hname.trans hname'.symm) hitems, hrest⟩
  · rw [enumLines_of_named h hname, enumLines_of_named h' (hnamed.1 hname)] at heq
    simp only [List.append_assoc, List.cons_append, List.nil_append, List.cons.injEq,
      true_and] at heq
    obtain ⟨htitle, hbody⟩ := heq
    rw [indented_inj, String.append_left_inj, String.append_right_inj] at htitle
    obtain ⟨hlines, hend⟩ := cut_at_first hbody brace_notMem_itemLines brace_notMem_itemLines
    have hitems : decl.items = decl'.items := itemLines_inj h.items h'.items hlines
    exact ⟨eq_of_name_items h h' htitle hitems, (List.cons.inj hend).2⟩

theorem enumLines_ne_nil : enumLines depth decl ≠ [] :=
  List.append_ne_nil_of_right_ne_nil _ (List.cons_ne_nil "" [])

/-- The enums are read off one after the other. -/
theorem flatMap_enumLines_inj {decls decls' : List EnumDecl}
    (h : ∀ decl ∈ decls, decl.Uncommented) (h' : ∀ decl ∈ decls', decl.Uncommented)
    (heq : decls.flatMap (enumLines depth) = decls'.flatMap (enumLines depth)) :
    decls = decls' := by
  induction decls generalizing decls' with
  | nil =>
    cases decls' with
    | nil => rfl
    | cons decl' rest' =>
      exact absurd heq.symm (List.append_ne_nil_of_left_ne_nil enumLines_ne_nil _)
  | cons decl rest ih =>
    cases decls' with
    | nil => exact absurd heq (List.append_ne_nil_of_left_ne_nil enumLines_ne_nil _)
    | cons decl' rest' =>
      obtain ⟨hdecl, hrest⟩ := List.forall_mem_cons.1 h
      obtain ⟨hdecl', hrest'⟩ := List.forall_mem_cons.1 h'
      obtain ⟨rfl, hlines⟩ := enumLines_append_inj hdecl hdecl' heq
      rw [ih hrest hrest' hlines]

theorem feed_notMem_indented {text : String} (h : '\n' ∉ text.toList) :
    '\n' ∉ (indented depth text).toList := by
  rw [indented, toList_indented, List.mem_append, not_or]
  exact ⟨fun hmem => absurd (List.eq_of_mem_replicate hmem) (by decide), h⟩

theorem feed_notMem_itemLines (hfront : '\n' ∉ front.toList)
    (hitems : ∀ item ∈ items, '\n' ∉ item.name.toList) :
    ∀ line ∈ itemLines front depth items, '\n' ∉ line.toList := by
  intro line hline
  obtain ⟨item, hitem, rfl⟩ := List.mem_map.1 hline
  have hvalue : '\n' ∉ (toString item.value).toList :=
    notMem_toString_int (by decide) (by decide) item.value
  apply feed_notMem_indented
  simp only [itemText, String.toList_append, List.mem_append, not_or]
  exact ⟨⟨⟨⟨hfront, hitems item hitem⟩, by decide⟩, hvalue⟩, by decide⟩

theorem feed_notMem_enumLines (h : decl.Uncommented) (hline : decl.OneLine) :
    ∀ line ∈ enumLines depth decl, '\n' ∉ line.toList := by
  have hempty : ∀ line ∈ [""], '\n' ∉ line.toList := by decide
  by_cases hname : decl.name = ""
  · rw [enumLines_of_anonymous h hname]
    exact List.forall_mem_append.2 ⟨feed_notMem_itemLines (by decide) hline.items, hempty⟩
  · have htitle : '\n' ∉ ("public enum " ++ decl.name ++ " : c_int").toList := by
      simp [String.toList_append, hline.name]
    rw [enumLines_of_named h hname]
    refine List.forall_mem_append.2 ⟨List.forall_mem_append.2 ⟨?_, ?_⟩, ?_⟩
    · exact List.forall_mem_cons.2 ⟨feed_notMem_indented (by decide), List.forall_mem_cons.2
        ⟨feed_notMem_indented htitle, List.forall_mem_singleton.2
          (feed_notMem_indented (by decide))⟩⟩
    · exact feed_notMem_itemLines (by decide) hline.items
    · exact List.forall_mem_cons.2 ⟨feed_notMem_indented (by decide), hempty⟩

theorem feed_notMem_flatMap_enumLines {decls : List EnumDecl}
    (h : ∀ decl ∈ decls, decl.Uncommented) (hline : ∀ decl ∈ decls, decl.OneLine) :
    ∀ line ∈ decls.flatMap (enumLines depth), '\n' ∉ line.toList := by
  intro line hmem
  obtain ⟨decl, hdecl, hin⟩ := List.mem_flatMap.1 hmem
  exact feed_notMem_enumLines (h decl hdecl) (hline decl hdecl) line hin

end Job

/-- Lines without line feeds can be read off the text that they make. -/
theorem Output.joined_inj {lines lines' : List String} (h : ∀ line ∈ lines, '\n' ∉ line.toList)
    (h' : ∀ line ∈ lines', '\n' ∉ line.toList) (heq : joined lines = joined lines') :
    lines = lines' := by
  have hsplit := congrArg (·.toList.splitOn '\n') heq
  simp only [splitOn_joined h, splitOn_joined h'] at hsplit
  have hinjective : Function.Injective String.toList := fun _ _ => String.toList_injective
  exact List.map_injective_iff.2 hinjective (List.append_cancel_right hsplit)

namespace Stage

open Job

/-- Nothing is lost of enums without comments: from one draft, the stage writes the same lines for
two headers only if their enums are the same, with their names, the order and the values of their
items, and the bounds between those without a name. The text is enough to tell them if no name holds
a line feed. -/
theorem enums_read_back {job job' : Job} (h : ∀ decl ∈ job.header.enums, decl.Uncommented)
    (h' : ∀ decl ∈ job'.header.enums, decl.Uncommented) (d : Draft) :
    let written (job : Job) := ((Stage.enums.write job).run d).2.output
    ((written job).lines = (written job').lines ↔ job.header.enums = job'.header.enums) ∧
    ((∀ decl ∈ job.header.enums ++ job'.header.enums, decl.OneLine) →
      ((written job).text = (written job').text ↔ job.header.enums = job'.header.enums)) := by
  intro written
  let block (job : Job) := job.header.enums.flatMap (enumLines d.output.indent)
  have hlines (job : Job) :
      (written job).lines.toList = d.output.lines.toList ++ block job := by
    change ((Stage.enums.write job).run d).2.output.lines.toList = _
    rw [(Emit.writes_stage .enums).output_eq, lines_play, linesFrom_enums]
  have hsame (heq : job.header.enums = job'.header.enums) : block job = block job' := by
    simp only [block, heq]
  constructor
  · constructor
    · intro heq
      have hblocks := congrArg Array.toList heq
      rw [hlines, hlines] at hblocks
      exact flatMap_enumLines_inj h h' (List.append_cancel_left hblocks)
    · intro heq
      rw [← Array.toList_inj, hlines, hlines, hsame heq]
  · intro hone
    obtain ⟨hjob, hjob'⟩ := List.forall_mem_append.1 hone
    constructor
    · intro heq
      rw [text_eq_joined, text_eq_joined, hlines, hlines, ← String.toList_inj,
        toList_joined_append, toList_joined_append] at heq
      have hblocks : joined (block job) = joined (block job') :=
        String.toList_inj.1 (List.append_cancel_left heq)
      exact flatMap_enumLines_inj h h' (joined_inj (feed_notMem_flatMap_enumLines h hjob)
        (feed_notMem_flatMap_enumLines h' hjob') hblocks)
    · intro heq
      rw [text_eq_joined, text_eq_joined, hlines, hlines, hsame heq]

/-- A header with some enums. -/
def enumJob (decls : List EnumDecl) : Job where
  header := { units := [⟨"flags.h", decls.map .enum⟩] }
  options := ⟨"demo.dll", "Demo"⟩
  typeMap := .withRules []

/-- Two enums without names, and one without items. -/
def apart : List EnumDecl :=
  [⟨"", [⟨"low", 1, none⟩], none⟩, ⟨"", [⟨"high", -1, none⟩, ⟨"top", -1, none⟩], none⟩,
    ⟨"mode", [], none⟩]

/-- The same items in one enum. -/
def together : List EnumDecl :=
  [⟨"", [⟨"low", 1, none⟩, ⟨"high", -1, none⟩, ⟨"top", -1, none⟩], none⟩, ⟨"mode", [], none⟩]

theorem enums_read_back_apart :
    let written (decls : List EnumDecl) := ((Stage.enums.write (enumJob decls)).run {}).2.output
    (written apart).lines ≠ (written together).lines ∧
      (written apart).text ≠ (written together).text := by
  have hapart : ∀ decl ∈ (enumJob apart).header.enums, decl.Uncommented := by decide
  have htogether : ∀ decl ∈ (enumJob together).header.enums, decl.Uncommented := by decide
  have hone : ∀ decl ∈ (enumJob apart).header.enums ++ (enumJob together).header.enums,
      decl.OneLine := by decide
  have hne : (enumJob apart).header.enums ≠ (enumJob together).header.enums := by decide
  obtain ⟨hlines, htext⟩ := enums_read_back hapart htogether {}
  exact ⟨fun heq => hne (hlines.1 heq), fun heq => hne ((htext hone).1 heq)⟩

end Stage

end HeaderBindings
