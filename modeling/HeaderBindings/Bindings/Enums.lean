import HeaderBindings.Bindings.Draft

/-! Enumerations. The items of one without a name are constants of the class. -/

namespace HeaderBindings.Emit

def constant (item : EnumItem) : Emit Unit := do
  comment item.comment
  line s!"public const c_int {item.name} = {item.value};"

def enumCase (item : EnumItem) : Emit Unit := do
  comment item.comment
  line s!"case {item.name} = {item.value};"

def enum (decl : EnumDecl) : Emit Unit := do
  comment decl.comment
  if decl.name.isEmpty then
    decl.items.forM constant
  else
    line "[AllowDuplicates]"
    line s!"public enum {decl.name} : c_int"
    line "\x7b"
    deeper
    decl.items.forM enumCase
    shallower
    line "\x7d"
  blank

end HeaderBindings.Emit
