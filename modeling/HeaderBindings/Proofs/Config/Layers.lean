import HeaderBindings.Config
import Mathlib.Data.List.Induction

/-! Configurations in layers. A value comes from the last layer that sets it, and the lists of all
layers are appended; this is one and the same configuration however the merges are bracketed. It is
complete unless a required key is set in none of the layers, and the first such key is named. -/

namespace HeaderBindings

namespace PartialConfig

/-- The layers merged from left to right. -/
def layered (layers : List PartialConfig) : PartialConfig :=
  layers.foldl merge {}

/-- The value in the last layer that has one. -/
def lastSet {α : Type} (value : PartialConfig → Option α) (layers : List PartialConfig) :
    Option α :=
  (layers.filterMap value).getLast?

/-- Each value from the last layer that sets it, and the lists of all layers. -/
def byField (layers : List PartialConfig) : PartialConfig where
  header := lastSet (·.header) layers
  output := lastSet (·.output) layers
  library := lastSet (·.library) layers
  space := lastSet (·.space) layers
  includeDirs := layers.flatMap (·.includeDirs)
  extraArguments := layers.flatMap (·.extraArguments)
  language := lastSet (·.language) layers
  standard := lastSet (·.standard) layers
  skipSystemHeaders := lastSet (·.skipSystemHeaders) layers
  typeRules := layers.flatMap (·.typeRules)

/-- The merges of some layers, bracketed in some way. -/
inductive Bracketing where
  | layer (p : PartialConfig)
  | merge (first second : Bracketing)

namespace Bracketing

def layers : Bracketing → List PartialConfig
  | layer p => [p]
  | merge first second => first.layers ++ second.layers

def result : Bracketing → PartialConfig
  | layer p => p
  | merge first second => first.result.merge second.result

end Bracketing

/-- The keys that a run cannot do without, in the order in which they are looked for. -/
def requiredKeys : List (String × (PartialConfig → Bool)) :=
  [("header", (·.header.isSome)), ("output", (·.output.isSome)), ("library", (·.library.isSome)),
   ("namespace", (·.space.isSome))]

/-- The first required key that is set in none of the layers. -/
def missing? (layers : List PartialConfig) : Option String :=
  (requiredKeys.find? fun entry => !layers.any entry.2).map Prod.fst

section Merge

theorem merge_assoc (p q r : PartialConfig) : (p.merge q).merge r = p.merge (q.merge r) := by
  simp only [merge, Option.or_assoc, List.append_assoc]

theorem default_merge (p : PartialConfig) : merge {} p = p := by
  simp only [merge, Option.or_none, List.nil_append]

theorem merge_default (p : PartialConfig) : p.merge {} = p := by
  simp only [merge, Option.none_or, List.append_nil]

theorem layered_append (first second : List PartialConfig) :
    layered (first ++ second) = (layered first).merge (layered second) := by
  induction second using List.reverseRecOn with
  | nil => rw [List.append_nil, layered, layered, List.foldl_nil, merge_default]
  | append_singleton second p ih =>
    have hstep (layers : List PartialConfig) :
        layered (layers ++ [p]) = (layered layers).merge p := by
      rw [layered, List.foldl_append, List.foldl_cons, List.foldl_nil, layered]
    rw [← List.append_assoc, hstep, hstep, ih, merge_assoc]

theorem Bracketing.result_eq (b : Bracketing) : b.result = layered b.layers := by
  induction b with
  | layer p => exact (default_merge p).symm
  | merge first second ihfirst ihsecond =>
    rw [result, layers, layered_append, ihfirst, ihsecond]

theorem lastSet_concat {α : Type} (value : PartialConfig → Option α) (layers : List PartialConfig)
    (p : PartialConfig) : lastSet value (layers ++ [p]) = (value p).or (lastSet value layers) := by
  rw [lastSet, List.filterMap_append, List.getLast?_append]
  cases h : value p <;> simp [lastSet, h]

theorem isSome_lastSet {α : Type} (value : PartialConfig → Option α) (layers : List PartialConfig) :
    (lastSet value layers).isSome = layers.any fun p => (value p).isSome := by
  induction layers using List.reverseRecOn with
  | nil => rfl
  | append_singleton layers p ih =>
    rw [lastSet_concat, Option.isSome_or, ih, List.any_append, Bool.or_comm]
    simp

theorem layered_eq_byField (layers : List PartialConfig) : layered layers = byField layers := by
  induction layers using List.reverseRecOn with
  | nil => rfl
  | append_singleton layers p ih =>
    rw [layered_append, ih, layered, List.foldl_cons, List.foldl_nil, default_merge]
    simp only [merge, byField, lastSet_concat, List.flatMap_append, List.flatMap_singleton]

end Merge

/-- A key is set in the merged layers if it is set in one of them. -/
theorem missing?_byField (layers : List PartialConfig) :
    missing? [byField layers] = missing? layers := by
  simp only [missing?, requiredKeys, byField, List.any_cons, List.any_nil, Bool.or_false,
    isSome_lastSet, List.find?_cons, List.find?_nil]

end PartialConfig

namespace Config

open PartialConfig

/-- The configuration has the values of a partial one, with the language and the choice for system
headers filled in where they are not set. -/
structure Completes (c : Config) (p : PartialConfig) : Prop where
  header : p.header = some c.header
  output : p.output = some c.output
  library : p.library = some c.library
  space : p.space = some c.space
  includeDirs : c.includeDirs = p.includeDirs
  extraArguments : c.extraArguments = p.extraArguments
  language : c.language = p.language.getD .c
  standard : c.standard = p.standard
  skipSystemHeaders : c.skipSystemHeaders = p.skipSystemHeaders.getD true
  typeRules : c.typeRules = p.typeRules

/-- The error for a required key that is not set. -/
def missingError (key : String) : Error :=
  ⟨.invalidConfig (.missing key), []⟩

variable {p : PartialConfig} {c : Config} {e : Error}

section Required

variable {α β : Type} {value : Option α} {key : String} {f : α → Except Error β} {result : β}

theorem required_bind_eq_ok :
    (required value key >>= f) = .ok result ↔ ∃ a, value = some a ∧ f a = .ok result := by
  cases value <;> simp [required, bind, Except.bind]

theorem required_bind_eq_error :
    (required value key >>= f) = .error e ↔
      (value = none ∧ e = missingError key) ∨ ∃ a, value = some a ∧ f a = .error e := by
  cases value <;> simp [required, bind, Except.bind, missingError, eq_comm]

end Required

theorem ofPartial_eq_ok : ofPartial p = .ok c ↔ c.Completes p := by
  simp only [ofPartial, required_bind_eq_ok]
  constructor
  · rintro ⟨header, hheader, output, houtput, library, hlibrary, space, hspace, hc⟩
    cases hc
    exact ⟨hheader, houtput, hlibrary, hspace, rfl, rfl, rfl, rfl, rfl, rfl⟩
  · obtain ⟨header, output, library, space, _, _, _, _, _, _⟩ := c
    rintro ⟨hheader, houtput, hlibrary, hspace, rfl, rfl, rfl, rfl, rfl, rfl⟩
    exact ⟨header, hheader, output, houtput, library, hlibrary, space, hspace, rfl⟩

/-- The values are required one after the other, so the first one that is not set is reported. -/
theorem ofPartial_eq_error :
    ofPartial p = .error e ↔ ∃ key, missing? [p] = some key ∧ e = missingError key := by
  simp only [ofPartial, required_bind_eq_error]
  obtain ⟨_ | header, _ | output, _ | library, _ | space, _⟩ := p <;>
    simp [missing?, requiredKeys, pure, Except.pure]

end Config

end HeaderBindings
