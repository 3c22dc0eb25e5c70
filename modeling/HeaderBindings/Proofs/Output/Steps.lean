import HeaderBindings.Output

/-! Writing as a list of steps. What a list of steps adds to an output depends on its indentation
alone, so the lines of a file are the lines of its parts, one after the other. -/

namespace HeaderBindings.Output

/-- A line, an empty line, or a change of the indentation. -/
inductive Step where
  | line (text : String)
  | blank
  | deeper
  | shallower
  | leftmost
  deriving DecidableEq, Repr

def apply (out : Output) : Step → Output
  | .line text => out.append text
  | .blank => out.blank
  | .deeper => out.deeper
  | .shallower => out.shallower
  | .leftmost => out.leftmost

/-- Takes the steps one after the other. -/
def play (out : Output) (steps : List Step) : Output :=
  steps.foldl apply out

@[simp] theorem play_nil (out : Output) : out.play [] = out := rfl

@[simp] theorem play_cons (out : Output) (s : Step) (steps : List Step) :
    out.play (s :: steps) = (out.apply s).play steps := rfl

theorem play_append (out : Output) (first second : List Step) :
    out.play (first ++ second) = (out.play first).play second :=
  List.foldl_append

/-- The indentation after some steps. -/
def indentAfter (indent : Nat) : List Step → Nat
  | [] => indent
  | .line _ :: rest | .blank :: rest => indentAfter indent rest
  | .deeper :: rest => indentAfter (indent + 1) rest
  | .shallower :: rest => indentAfter (indent - 1) rest
  | .leftmost :: rest => indentAfter 0 rest

/-- The lines that some steps add, from an indentation. -/
def linesFrom (indent : Nat) : List Step → List String
  | [] => []
  | .line text :: rest =>
    (String.ofList (List.replicate indent '\t') ++ text) :: linesFrom indent rest
  | .blank :: rest => "" :: linesFrom indent rest
  | .deeper :: rest => linesFrom (indent + 1) rest
  | .shallower :: rest => linesFrom (indent - 1) rest
  | .leftmost :: rest => linesFrom 0 rest

theorem indentAfter_append (indent : Nat) (first second : List Step) :
    indentAfter indent (first ++ second) = indentAfter (indentAfter indent first) second := by
  induction first generalizing indent with
  | nil => rfl
  | cons s rest ih => cases s <;> simp only [List.cons_append, indentAfter, ih]

theorem linesFrom_append (indent : Nat) (first second : List Step) :
    linesFrom indent (first ++ second) =
      linesFrom indent first ++ linesFrom (indentAfter indent first) second := by
  induction first generalizing indent with
  | nil => rfl
  | cons s rest ih => cases s <;> simp only [List.cons_append, linesFrom, indentAfter, ih]

theorem indent_play (out : Output) (steps : List Step) :
    (out.play steps).indent = indentAfter out.indent steps := by
  induction steps generalizing out with
  | nil => rfl
  | cons s rest ih => cases s <;> exact ih _

theorem lines_play (out : Output) (steps : List Step) :
    (out.play steps).lines.toList = out.lines.toList ++ linesFrom out.indent steps := by
  induction steps generalizing out with
  | nil => simp [linesFrom]
  | cons s rest ih =>
    rw [play_cons, ih]
    cases s <;> simp [apply, append, blank, deeper, shallower, leftmost, linesFrom]

/-- Lines as one text, each with a line feed behind it. -/
def joined (lines : List String) : String :=
  lines.foldl (fun text line => text ++ line ++ "\n") ""

theorem text_eq_joined (out : Output) : out.text = joined out.lines.toList := by
  rw [text, joined, Array.foldl_toList]

/-- The text of a file is made of the lines that its steps add. -/
theorem text_play (steps : List Step) :
    (({} : Output).play steps).text = joined (linesFrom 0 steps) := by
  rw [text_eq_joined, lines_play]
  rfl

/-- Some steps go back to the indentation they start from. -/
def Balanced (steps : List Step) : Prop :=
  ∀ indent, indentAfter indent steps = indent

theorem Balanced.append {first second : List Step} (h : Balanced first) (h' : Balanced second) :
    Balanced (first ++ second) := by
  intro indent
  rw [indentAfter_append, h, h']

theorem Balanced.flatMap {α : Type} {f : α → List Step} (l : List α)
    (h : ∀ a ∈ l, Balanced (f a)) : Balanced (l.flatMap f) := by
  induction l with
  | nil => exact fun _ => rfl
  | cons a rest ih =>
    exact (h a List.mem_cons_self).append (ih fun b hb => h b (List.mem_cons_of_mem _ hb))

theorem Balanced.nested {steps : List Step} (h : Balanced steps) :
    Balanced (.deeper :: (steps ++ [.shallower])) := by
  intro indent
  simp only [indentAfter, indentAfter_append, h (indent + 1)]
  omega

theorem balanced_line (text : String) : Balanced [.line text] := fun _ => rfl

theorem balanced_blank : Balanced [.blank] := fun _ => rfl

theorem balanced_lines (texts : List String) : Balanced (texts.map .line) := by
  intro indent
  induction texts with
  | nil => rfl
  | cons text rest ih => exact ih

/-- Balanced parts are played one after the other from the same indentation. -/
theorem linesFrom_flatMap {α : Type} {f : α → List Step} {l : List α}
    (h : ∀ a ∈ l, Balanced (f a)) (indent : Nat) :
    linesFrom indent (l.flatMap f) = l.flatMap fun a => linesFrom indent (f a) := by
  induction l with
  | nil => rfl
  | cons a rest ih =>
    rw [List.flatMap_cons, List.flatMap_cons, linesFrom_append, h a List.mem_cons_self indent,
      ih fun b hb => h b (List.mem_cons_of_mem _ hb)]

/-- The lines of a part are lines of the whole where every part is balanced. -/
theorem mem_linesFrom_flatMap {α : Type} {f : α → List Step} {l : List α} {a : α} {indent : Nat}
    {text : String} (h : ∀ b ∈ l, Balanced (f b)) (ha : a ∈ l)
    (htext : text ∈ linesFrom indent (f a)) : text ∈ linesFrom indent (l.flatMap f) := by
  rw [linesFrom_flatMap h]
  exact List.mem_flatMap_of_mem ha htext

end HeaderBindings.Output
