import HeaderBindings.Proofs.Bindings.Structs

/-! The enums of a file. One with a name is a block of its own; the items of one without a name are
constants that nothing but an empty line sets apart from what follows. -/

namespace HeaderBindings

open Output

namespace Job

def constantLines (depth : Nat) (item : EnumItem) : List String :=
  commentLines depth item.comment ++
    [indented depth s!"public const c_int {item.name} = {item.value};"]

def caseLines (depth : Nat) (item : EnumItem) : List String :=
  commentLines depth item.comment ++ [indented depth s!"case {item.name} = {item.value};"]

/-- The lines of an enum. -/
def enumLines (depth : Nat) (decl : EnumDecl) : List String :=
  commentLines depth decl.comment ++
  (if decl.name = "" then decl.items.flatMap (constantLines depth)
  else
    [indented depth "[AllowDuplicates]",
      indented depth ("public enum " ++ decl.name ++ " : c_int"), indented depth "\x7b"] ++
    decl.items.flatMap (caseLines (depth + 1)) ++ [indented depth "\x7d"]) ++
  [""]

theorem linesFrom_constant (depth : Nat) (item : EnumItem) :
    linesFrom depth (Script.constant item) = constantLines depth item := by
  rw [Script.constant, linesFrom_append, linesFrom_comment, Script.balanced_comment]
  rfl

theorem linesFrom_enumCase (depth : Nat) (item : EnumItem) :
    linesFrom depth (Script.enumCase item) = caseLines depth item := by
  rw [Script.enumCase, linesFrom_append, linesFrom_comment, Script.balanced_comment]
  rfl

theorem linesFrom_enum (depth : Nat) (decl : EnumDecl) :
    linesFrom depth (Script.enum decl) = enumLines depth decl := by
  have hconstants : linesFrom depth (decl.items.flatMap Script.constant) =
      decl.items.flatMap (constantLines depth) := by
    rw [linesFrom_flatMap fun item _ => Script.balanced_constant item]
    simp only [linesFrom_constant]
  have hcases : linesFrom (depth + 1) (decl.items.flatMap Script.enumCase) =
      decl.items.flatMap (caseLines (depth + 1)) := by
    rw [linesFrom_flatMap fun item _ => Script.balanced_enumCase item]
    simp only [linesFrom_enumCase]
  have hbalanced : Balanced (decl.items.flatMap Script.enumCase) :=
    .flatMap _ fun item _ => Script.balanced_enumCase item
  rw [Script.enum, enumLines, linesFrom_append, linesFrom_append, linesFrom_comment,
    Script.balanced_comment]
  simp only [String.isEmpty_iff]
  split
  · rw [hconstants]
    rfl
  · simp only [linesFrom_append, hcases, indentAfter_append, indentAfter, hbalanced (depth + 1)]
    rfl

theorem linesFrom_enums (depth : Nat) (job : Job) (n : Naming) :
    linesFrom depth (Stage.enums.script job n) = job.header.enums.flatMap (enumLines depth) := by
  rw [Stage.script, linesFrom_flatMap fun decl _ => Script.balanced_enum decl]
  simp only [linesFrom_enum]

end Job

end HeaderBindings
