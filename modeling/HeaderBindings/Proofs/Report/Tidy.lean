import HeaderBindings.Proofs.Log
import HeaderBindings.Proofs.Report.Shows
import HeaderBindings.Proofs.Report.Visited
import Mathlib.Data.List.Nodup

/-! Reading keeps the types tidy. Whatever is read, the types that were there stay as they are, for
each name there is one typedef, known by that name, and a typedef that comes to be known is bound
once, to what was read for a declaration of its name. A type is read to one that shows it. -/

namespace HeaderBindings

/-- There is one typedef for each name, and it is known by that name. -/
structure Reading.Tidy (s : Reading) : Prop where
  nodup : (s.typedefs.map Prod.fst).Nodup
  holds : ∀ entry ∈ s.typedefs, ∃ target, s.types.Holds entry.2 (.typedef entry.1 target)
  mem : ∀ id name target, s.types.Holds id (.typedef name target) → (name, id) ∈ s.typedefs

namespace Report

/-- An entry for a typedef that was read to the end: it stands for what an entity of its name in the
report stands for, and for nothing where that is not reported. -/
def Settled (report : Report) (tagNames : TagNames) (g : TypeGraph) (entry : String × TypeId) :
    Prop :=
  ∃ e target, report.Contains e ∧ typedefName e = entry.1 ∧
    g.Holds entry.2 (.typedef entry.1 target) ∧
    Option.Rel (report.Shows tagNames g e.parameterNames) e.info.underlying target

/-- All types stay as they are, and typedefs that come to be known are settled. What is logged is
about the reading. -/
structure Grows (report : Report) (tagNames : TagNames) (s s' : Reading) : Prop where
  keeps : s.types.Keeps s'.types
  steps : Relation.ReflTransGen TypeGraph.Step s.types s'.types
  logs : Log.Adds (·.origin = .parsing) s.log s'.log
  typedefs : ∃ new, s'.typedefs = new ++ s.typedefs ∧
    ∀ entry ∈ new, report.Settled tagNames s'.types entry

/-- What reading a type does to a state. -/
structure Learns (report : Report) (tagNames : TagNames) (s s' : Reading) : Prop where
  tidy : s'.Tidy
  grows : report.Grows tagNames s s'
  functions_eq : s'.functions = s.functions
  declarations_eq : s'.declarations = s.declarations

/-- From tidy states in which at most `budget` typedefs are left to read and `P` holds of the graph,
`e` learns types, and `Q` holds of what it gives. -/
def Reads {α : Type} (report : Report) (tagNames : TagNames) (budget : Nat) (P : TypeGraph → Prop)
    (e : Read α) (Q : α → TypeGraph → Prop) : Prop :=
  ∀ s : Reading, s.Tidy → (report.pending s).card ≤ budget → P s.types →
    report.Learns tagNames s (e.run s).2 ∧ Q (e.run s).1 (e.run s).2.types

variable {report : Report} {tagNames : TagNames} {budget : Nat} {s s' s'' : Reading}
  {P F : TypeGraph → Prop} {α β : Type}

theorem Settled.keeps {g g' : TypeGraph} {entry : String × TypeId}
    (h : report.Settled tagNames g entry) (hg : g.Keeps g') :
    report.Settled tagNames g' entry := by
  obtain ⟨e, target, he, hname, hid, htarget⟩ := h
  refine ⟨e, target, he, hname, hg _ _ hid, ?_⟩
  generalize e.info.underlying = underlying at htarget ⊢
  cases htarget with
  | none => exact .none
  | some hshows => exact .some (hshows.refines hg.refines)

theorem Grows.refl (s : Reading) : report.Grows tagNames s s :=
  ⟨.refl s.types, .refl, .refl s.log, [], rfl, List.forall_mem_nil _⟩

theorem Grows.trans (h : report.Grows tagNames s s') (h' : report.Grows tagNames s' s'') :
    report.Grows tagNames s s'' := by
  obtain ⟨new, hnew, hsettled⟩ := h.typedefs
  obtain ⟨new', hnew', hsettled'⟩ := h'.typedefs
  refine ⟨h.keeps.trans h'.keeps, h.steps.trans h'.steps, h.logs.trans h'.logs, new' ++ new,
    by rw [hnew', hnew, List.append_assoc], fun entry hentry => ?_⟩
  rcases List.mem_append.1 hentry with hentry | hentry
  · exact hsettled' entry hentry
  · exact (hsettled entry hentry).keeps h'.keeps

theorem Learns.refl (hs : s.Tidy) : report.Learns tagNames s s :=
  ⟨hs, .refl s, rfl, rfl⟩

theorem Learns.trans (h : report.Learns tagNames s s') (h' : report.Learns tagNames s' s'') :
    report.Learns tagNames s s'' :=
  ⟨h'.tidy, h.grows.trans h'.grows, h'.functions_eq.trans h.functions_eq,
    h'.declarations_eq.trans h.declarations_eq⟩

/-- No typedef is left to read that was not left before. -/
theorem Grows.pending_le (h : report.Grows tagNames s s') :
    (report.pending s').card ≤ (report.pending s).card := by
  obtain ⟨new, hnew, -⟩ := h.typedefs
  refine Finset.card_le_card (Finset.sdiff_subset_sdiff (Finset.Subset.refl _) ?_)
  rw [hnew, List.map_append, List.toFinset_append]
  exact Finset.subset_union_right

theorem Reads.pure (a : α) {Q : α → TypeGraph → Prop} (h : ∀ g, P g → Q a g) :
    report.Reads tagNames budget P (pure a) Q :=
  fun s hs _ hP => ⟨.refl hs, h s.types hP⟩

theorem Reads.weaken {P' : TypeGraph → Prop} {e : Read α} {Q : α → TypeGraph → Prop}
    (h : report.Reads tagNames budget P e Q) (hP : ∀ g, P' g → P g) :
    report.Reads tagNames budget P' e Q :=
  fun s hs hpending hs' => h s hs hpending (hP _ hs')

theorem Reads.imp {e : Read α} {Q Q' : α → TypeGraph → Prop}
    (h : report.Reads tagNames budget P e Q) (hQ : ∀ a g, Q a g → Q' a g) :
    report.Reads tagNames budget P e Q' :=
  fun s hs hpending hP => ⟨(h s hs hpending hP).1, hQ _ _ (h s hs hpending hP).2⟩

/-- What follows from `P` may be assumed. -/
theorem Reads.assume {p : Prop} {e : Read α} {Q : α → TypeGraph → Prop} (hp : ∀ g, P g → p)
    (h : p → report.Reads tagNames budget P e Q) : report.Reads tagNames budget P e Q :=
  fun s hs hpending hP => h (hp _ hP) s hs hpending hP

theorem Reads.bind {e : Read α} {f : α → Read β} {Q : α → TypeGraph → Prop}
    {R : β → TypeGraph → Prop} (he : report.Reads tagNames budget P e Q)
    (hf : ∀ a, report.Reads tagNames budget (Q a) (f a) R) :
    report.Reads tagNames budget P (e >>= f) R := by
  intro s hs hpending hP
  obtain ⟨hlearns, hQ⟩ := he s hs hpending hP
  obtain ⟨hlearns', hR⟩ := hf (e.run s).1 (e.run s).2 hlearns.tidy
    (Nat.le_trans hlearns.grows.pending_le hpending) hQ
  exact ⟨hlearns.trans hlearns', hR⟩

/-- What is known of the types that are there is known afterwards. -/
theorem Reads.frame {e : Read α} {Q : α → TypeGraph → Prop}
    (h : report.Reads tagNames budget (fun _ => True) e Q)
    (hF : ∀ g g' : TypeGraph, g.Keeps g' → F g → F g') :
    report.Reads tagNames budget F e fun a g => Q a g ∧ F g := by
  intro s hs hpending hs'
  obtain ⟨hlearns, hQ⟩ := h s hs hpending trivial
  exact ⟨hlearns, hQ, hF _ _ hlearns.grows.keeps hs'⟩

theorem reads_record (level : Log.Level) (text : String) :
    report.Reads tagNames budget P (Read.record level text) fun _ => P :=
  fun _ hs _ hP => ⟨⟨⟨hs.nodup, hs.holds, hs.mem⟩,
    ⟨.refl _, .refl, Log.adds_push rfl, [], rfl, List.forall_mem_nil _⟩, rfl, rfl⟩, hP⟩

theorem reads_add {type : CType} {Q : TypeId → TypeGraph → Prop}
    (htype : ∀ name target, type ≠ .typedef name target)
    (h : ∀ g, P g → Q g.size (g.add type)) :
    report.Reads tagNames budget P (Read.add type) Q := by
  intro s hs _ hP
  have hkeeps := s.types.keeps_add type
  have htidy : ((Read.add type).run s).2.Tidy := by
    refine ⟨hs.nodup, fun entry hentry => ?_, fun id name target hid => ?_⟩
    · obtain ⟨target, htarget⟩ := hs.holds entry hentry
      exact ⟨target, hkeeps _ _ htarget⟩
    · rcases TypeGraph.holds_add_iff.1 hid with ⟨-, heq⟩ | ⟨-, hold⟩
      · exact absurd heq.symm (htype name target)
      · exact hs.mem id name target hold
  refine ⟨⟨htidy, ⟨hkeeps, .single (.add type fun name target heq => ?_), .refl s.log, [], rfl,
    List.forall_mem_nil _⟩, rfl, rfl⟩, h s.types hP⟩
  exact absurd heq (htype name target)

theorem reads_unresolved {names : List String} {type : ReportedType} {info : TypeInfo}
    (hinfo : type.info = info) (h : report.isPartial type = true) :
    report.Reads tagNames budget P (Read.unresolved info) fun id g =>
      report.Shows tagNames g names type id := by
  subst hinfo
  exact (reads_record _ _).bind fun _ => reads_add (by simp) fun g _ =>
    .unresolved h (g.holds_add_self _)

/-- A type that is made of a part of it, if there is one. -/
theorem reads_part {names : List String} {part : Option ReportedType} {type : ReportedType}
    {info : TypeInfo} {e : Read (Option TypeId)} {f : TypeId → Read TypeId}
    (hinfo : type.info = info)
    (he : report.Reads tagNames budget (fun _ => True) e fun id g =>
      Option.Rel (report.Shows tagNames g names) part id)
    (hsome : ∀ p, part = some p → ∀ id, report.Reads tagNames budget
      (fun g => report.Shows tagNames g names p id) (f id) fun id g =>
        report.Shows tagNames g names type id)
    (hnone : part = none → report.isPartial type = true) :
    report.Reads tagNames budget (fun _ => True)
      (do
        match ← e with
        | some id => f id
        | none => Read.unresolved info) fun id g =>
      report.Shows tagNames g names type id := by
  refine he.bind fun partId => ?_
  cases partId with
  | some id =>
    cases part with
    | some p => exact (hsome p rfl id).weaken fun g hg => by cases hg; assumption
    | none => exact .assume (p := False) (fun g hg => by cases hg) False.elim
  | none =>
    exact .assume (p := part = none) (fun g hg => by cases hg; rfl) fun hpart =>
      reads_unresolved hinfo (hnone hpart)

theorem Shows.keeps {g g' : TypeGraph} {names : List String} {type : ReportedType} {id : TypeId}
    (h : report.Shows tagNames g names type id) (hg : g.Keeps g') :
    report.Shows tagNames g' names type id :=
  h.refines hg.refines

/-- What the result of a function is read to: `void` where none is reported. -/
def ShowsResult (report : Report) (tagNames : TagNames) (g : TypeGraph)
    (result : Option ReportedType) (id : TypeId) : Prop :=
  (∀ type ∈ result, report.Shows tagNames g [] type id) ∧
    (result = none → g.Holds id (.builtin .void))

theorem ShowsResult.of_some {g : TypeGraph} {type : ReportedType} {id : TypeId}
    (h : report.Shows tagNames g [] type id) : report.ShowsResult tagNames g (some type) id :=
  ⟨fun _ h' => Option.mem_some.1 h' ▸ h, fun h' => nomatch h'⟩

theorem ShowsResult.of_none {g : TypeGraph} {id : TypeId} (h : g.Holds id (.builtin .void)) :
    report.ShowsResult tagNames g none id :=
  ⟨fun _ h' => absurd h' (Option.not_mem_none _), fun _ => h⟩

theorem ShowsResult.keeps {g g' : TypeGraph} {result : Option ReportedType} {id : TypeId}
    (h : report.ShowsResult tagNames g result id) (hg : g.Keeps g') :
    report.ShowsResult tagNames g' result id :=
  ⟨fun type htype => (h.1 type htype).keeps hg, fun hnone => hg _ _ (h.2 hnone)⟩

namespace TypeReader

variable {t : Entity → Read TypeId}

/-- The typedefs on the way are read to typedefs of their names. -/
def ReadsTypedefs (report : Report) (tagNames : TagNames) (budget : Nat)
    (t : Entity → Read TypeId) : Prop :=
  ∀ e ∈ report.declarations, report.Reads tagNames budget (fun _ => True) (t e) fun id g =>
    ∃ target, g.Holds id (.typedef (typedefName e) target)

variable {names : List String} {info : TypeInfo}
  {pointee element named result canonical : Option ReportedType} {arguments : List ReportedType}
  {e : Read (Option TypeId)} {e' : Read (List TypeId)}

theorem reads_reference (hform : info.kind.form = .reference)
    (he : report.Reads tagNames budget (fun _ => True) e fun id g =>
      Option.Rel (report.Shows tagNames g names) pointee id) :
    report.Reads tagNames budget (fun _ => True)
      (do
        match ← e with
        | some id => Read.add (.pointer id ((pointee.map (·.info.isConst)).getD false))
        | none => Read.unresolved info) fun id g =>
      report.Shows tagNames g names
        (.mk info pointee element named result canonical arguments) id := by
  refine reads_part rfl he (fun p hp id => reads_add (by simp) fun g hg => ?_)
    fun hnone => by simp [isPartial, hform, hnone]
  subst hp
  exact .reference hform (hg.keeps (g.keeps_add _)) (g.holds_add_self _)

theorem reads_array (hform : info.kind.form = .array)
    (he : report.Reads tagNames budget (fun _ => True) e fun id g =>
      Option.Rel (report.Shows tagNames g names) element id) :
    report.Reads tagNames budget (fun _ => True)
      (do
        match ← e with
        | some id => Read.add (.array id (if info.kind = .constantArray then info.size else none))
        | none => Read.unresolved info) fun id g =>
      report.Shows tagNames g names
        (.mk info pointee element named result canonical arguments) id := by
  refine reads_part rfl he (fun p hp id => reads_add (by simp) fun g hg => ?_)
    fun hnone => by simp [isPartial, hform, hnone]
  subst hp
  exact .array hform (hg.keeps (g.keeps_add _)) (g.holds_add_self _)

theorem reads_elaborated (hform : info.kind.form = .elaborated)
    (he : report.Reads tagNames budget (fun _ => True) e fun id g =>
      Option.Rel (report.Shows tagNames g names) named id) :
    report.Reads tagNames budget (fun _ => True)
      (do
        match ← e with
        | some id => pure id
        | none => Read.unresolved info) fun id g =>
      report.Shows tagNames g names
        (.mk info pointee element named result canonical arguments) id := by
  refine reads_part rfl he (fun p hp id => .pure id fun g hg => ?_)
    fun hnone => by simp [isPartial, hform, hnone]
  subst hp
  exact .elaborated hform hg

theorem reads_canonical (hform : info.kind.form = .other)
    (hdecorates : decorates info canonical = true)
    (he : report.Reads tagNames budget (fun _ => True) e fun id g =>
      Option.Rel (report.Shows tagNames g names) canonical id) :
    report.Reads tagNames budget (fun _ => True)
      (do
        match ← e with
        | some id => pure id
        | none => Read.unresolved info) fun id g =>
      report.Shows tagNames g names
        (.mk info pointee element named result canonical arguments) id := by
  refine reads_part rfl he (fun p hp id => .pure id fun g hg => ?_)
    fun hnone => by simp [hnone, decorates] at hdecorates
  subst hp
  exact .canonical hform hdecorates hg

theorem reads_tagged (hform : info.kind.form = .tag) :
    report.Reads tagNames budget (fun _ => True) (tagged ⟨report, tagNames, t⟩ info) fun id g =>
      report.Shows tagNames g names
        (.mk info pointee element named result canonical arguments) id :=
  reads_add (by simp) fun g _ => .tag hform (g.holds_add_self _)

theorem reads_function (hform : info.kind.form = .function)
    (he : report.Reads tagNames budget (fun _ => True) e fun id g =>
      Option.Rel (report.Shows tagNames g []) result id)
    (he' : report.Reads tagNames budget (fun _ => True) e' fun ids g =>
      List.Forall₂ (report.Shows tagNames g []) arguments ids) :
    report.Reads tagNames budget (fun _ => True)
      (do
        let id ← match ← e with
          | some id => pure id
          | none => Read.add (.builtin .void)
        let types ← e'
        Read.add (.function ⟨id, parameters names types, info.variadic⟩)) fun id g =>
      report.Shows tagNames g names
        (.mk info pointee element named result canonical arguments) id := by
  have hrest (id : TypeId) : report.Reads tagNames budget
      (fun g => report.ShowsResult tagNames g result id)
      (do
        let types ← e'
        Read.add (.function ⟨id, parameters names types, info.variadic⟩)) fun id g =>
      report.Shows tagNames g names
        (.mk info pointee element named result canonical arguments) id := by
    refine (he'.frame fun g g' hg h => h.keeps hg).bind fun types =>
      reads_add (by simp) fun g hg => ?_
    obtain ⟨harguments, hresult⟩ := hg
    obtain ⟨hlength, hzip⟩ := List.forall₂_iff_zip.1 harguments
    obtain ⟨hsome, hvoid⟩ := hresult.keeps (g.keeps_add _)
    exact .function hform hsome hvoid hlength
      (fun entry hentry => (hzip hentry).keeps (g.keeps_add _)) (g.holds_add_self _)
  refine he.bind fun part => ?_
  cases part with
  | some id =>
    refine (hrest id).weaken fun g hg => ?_
    cases hg with
    | some hshows => exact .of_some hshows
  | none =>
    refine Reads.bind (reads_add (by simp) fun g hg => ?_) hrest
    cases hg
    exact .of_none (g.holds_add_self _)

mutual

theorem reads_read (ht : ReadsTypedefs report tagNames budget t) (names : List String) :
    ∀ type, report.Reads tagNames budget (fun _ => True)
      (read ⟨report, tagNames, t⟩ names type) fun id g => report.Shows tagNames g names type id
  | .mk info pointee element named result canonical arguments => by
    have hpointee := reads_readOption ht names pointee
    have helement := reads_readOption ht names element
    have hnamed := reads_readOption ht names named
    have hcanonical := reads_readOption ht names canonical
    have hresult := reads_readOption ht [] result
    have harguments := reads_readAll ht arguments
    unfold read
    split
    · next hbuiltin =>
      exact reads_add (by simp) fun g _ =>
        .builtin (by simp [TypeKind.form, ReportedType.info, hbuiltin]) (g.holds_add_self _)
    · next hbuiltin =>
      split
      · next hk => exact reads_reference (by rw [hk]; rfl) hpointee
      · next hk => exact reads_reference (by rw [hk]; rfl) hpointee
      · next hk => exact reads_reference (by rw [hk]; rfl) hpointee
      · next hk => exact reads_array (by rw [hk]; rfl) helement
      · next hk => exact reads_array (by rw [hk]; rfl) helement
      · next hk => exact reads_array (by rw [hk]; rfl) helement
      · next hk =>
        have hform : info.kind.form = .typedef := by rw [hk]; rfl
        dsimp only
        cases hdeclaration : report.declaration? info with
        | some declaration =>
          refine (ht declaration (mem_declarations hdeclaration)).imp fun id g h => ?_
          obtain ⟨target, hid⟩ := h
          exact .typedef hform hdeclaration hid
        | none =>
          exact reads_unresolved rfl (by simp [isPartial, hform, hdeclaration])
      · next hk => exact reads_elaborated (by rw [hk]; rfl) hnamed
      · next hk => exact reads_tagged (by rw [hk]; rfl)
      · next hk => exact reads_tagged (by rw [hk]; rfl)
      · next hk => exact reads_function (by rw [hk]; rfl) hresult harguments
      · next hk => exact reads_function (by rw [hk]; rfl) hresult harguments
      · have hform : info.kind.form = .other := by
          unfold TypeKind.form
          split <;> simp_all
        split
        · next hdecorates => exact reads_canonical hform hdecorates hcanonical
        · next hdecorates => exact reads_unresolved rfl (by simp [isPartial, hform, hdecorates])

theorem reads_readOption (ht : ReadsTypedefs report tagNames budget t) (names : List String) :
    ∀ type, report.Reads tagNames budget (fun _ => True)
      (readOption ⟨report, tagNames, t⟩ names type) fun id g =>
        Option.Rel (report.Shows tagNames g names) type id
  | none => .pure none fun _ _ => .none
  | some type => (reads_read ht names type).bind fun id => .pure (some id) fun _ h => .some h

theorem reads_readAll (ht : ReadsTypedefs report tagNames budget t) :
    ∀ types, report.Reads tagNames budget (fun _ => True)
      (readAll ⟨report, tagNames, t⟩ types) fun ids g =>
        List.Forall₂ (report.Shows tagNames g []) types ids
  | [] => .pure [] fun _ _ => .nil
  | type :: rest => by
    refine (reads_read ht [] type).bind fun id => ?_
    refine ((reads_readAll ht rest).frame fun g g' hg h => h.keeps hg).bind fun ids => ?_
    exact .pure (id :: ids) fun g h => .cons h.2 h.1

end

end TypeReader

variable {e : Entity} {inner : Entity → Read TypeId} {name : String} {id target : TypeId}

theorem tidy_withTypedef (hs : s.Tidy) (hnone : s.typedefs.lookup name = none) :
    (withTypedef s name).Tidy := by
  have hnew (id : TypeId) : (name, id) ∉ s.typedefs := fun hmem =>
    absurd (List.lookup_eq_none_iff.1 hnone _ hmem) (by simp)
  refine ⟨?_, fun entry hentry => ?_, fun id other target hid => ?_⟩
  · refine List.nodup_cons.2 ⟨fun hmem => ?_, hs.nodup⟩
    obtain ⟨entry, hentry, rfl⟩ := List.mem_map.1 hmem
    exact hnew entry.2 hentry
  · rcases List.mem_cons.1 hentry with rfl | hentry
    · exact ⟨none, s.types.holds_add_self _⟩
    · obtain ⟨target, hid⟩ := hs.holds entry hentry
      exact ⟨target, s.types.keeps_add _ _ _ hid⟩
  · rcases TypeGraph.holds_add_iff.1 hid with ⟨rfl, heq⟩ | ⟨-, hold⟩
    · cases heq
      exact List.mem_cons_self
    · exact List.mem_cons_of_mem _ (hs.mem id other target hold)

theorem step_withTypedef (hs : s.Tidy) (hnone : s.typedefs.lookup name = none) :
    s.types.Step (withTypedef s name).types := by
  refine .add _ fun other target heq => ?_
  cases heq
  refine ⟨rfl, fun id other hid => ?_⟩
  exact absurd (List.lookup_eq_none_iff.1 hnone _ (hs.mem id name other hid)) (by simp)

/-- Binding a typedef changes what is known of no other. -/
theorem tidy_bind (hs : s.Tidy) (hid : s.types.Holds id (.typedef name none)) (target : TypeId) :
    ({ s with types := s.types.bind id target } : Reading).Tidy := by
  refine ⟨hs.nodup, fun entry hentry => ?_, fun x other bound hx => ?_⟩
  · obtain ⟨bound, hentry'⟩ := hs.holds entry hentry
    by_cases heq : entry.2 = id
    · rw [heq] at hentry' ⊢
      cases hentry'.unique hid
      exact ⟨some target, (TypeGraph.holds_bind_iff hid).2 (.inl ⟨rfl, rfl⟩)⟩
    · exact ⟨bound, (TypeGraph.holds_bind_iff hid).2 (.inr ⟨heq, hentry'⟩)⟩
  · rcases (TypeGraph.holds_bind_iff hid).1 hx with ⟨rfl, heq⟩ | ⟨-, hx⟩
    · cases heq
      exact hs.mem x name none hid
    · exact hs.mem x other bound hx

theorem Settled.bind {entry : String × TypeId} (h : s.types.Holds id (.typedef name none))
    (hsettled : report.Settled tagNames s.types entry) (hname : entry.1 ≠ name) :
    report.Settled tagNames (s.types.bind id target) entry := by
  obtain ⟨e, bound, he, heq, hentry, hbound⟩ := hsettled
  have hid : entry.2 ≠ id := fun heq => hname (by
    rw [heq] at hentry
    cases hentry.unique h
    rfl)
  refine ⟨e, bound, he, heq, (TypeGraph.holds_bind_iff h).2 (.inr ⟨hid, hentry⟩), ?_⟩
  generalize e.info.underlying = underlying at hbound ⊢
  cases hbound with
  | none => exact .none
  | some hshows => exact .some (hshows.refines (TypeGraph.refines_bind h target))

/-- A typedef is bound to what was read after it was added, and by then nothing has bound it. -/
theorem grows_typedef {u : ReportedType} (hs : s.Tidy) (he : report.Contains e)
    (hnone : s.typedefs.lookup (typedefName e) = none)
    (hlearns : report.Learns tagNames (withTypedef s (typedefName e)) s')
    (hu : e.info.underlying = some u)
    (hshows : report.Shows tagNames s'.types e.parameterNames u target) :
    s'.types.Holds s.types.size (.typedef (typedefName e) none) ∧
      report.Grows tagNames s { s' with types := s'.types.bind s.types.size target } := by
  have hadded : (withTypedef s (typedefName e)).types.Holds s.types.size
      (.typedef (typedefName e) none) := s.types.holds_add_self _
  have hid := hlearns.grows.keeps _ _ hadded
  obtain ⟨new, hnew, hsettled⟩ := hlearns.grows.typedefs
  refine ⟨hid, fun x type hx => ?_, ?_, hlearns.grows.logs,
    new ++ [(typedefName e, s.types.size)], ?_, fun entry hentry => ?_⟩
  · have hx' := hlearns.grows.keeps x type (s.types.keeps_add _ _ _ hx)
    exact (TypeGraph.holds_bind_iff hid).2 (.inr ⟨Nat.ne_of_lt hx.lt_size, hx'⟩)
  · exact .tail (.head (step_withTypedef hs hnone) hlearns.grows.steps) (.bind target hid)
  · rw [List.append_assoc]
    exact hnew
  · rcases List.mem_append.1 hentry with hentry | hentry
    · refine (hsettled entry hentry).bind hid fun hname => ?_
      -- the name would be there twice
      have hnodup := hlearns.tidy.nodup
      rw [hnew, List.map_append, List.nodup_append] at hnodup
      exact hnodup.2.2 _ (List.mem_map_of_mem hentry) _ List.mem_cons_self hname
    · obtain rfl := List.mem_singleton.1 hentry
      refine ⟨e, some target, he, rfl, (TypeGraph.holds_bind_iff hid).2 (.inl ⟨rfl, rfl⟩), ?_⟩
      rw [hu]
      exact .some (hshows.refines (TypeGraph.refines_bind hid target))

/-- A typedef read for the first time. -/
theorem learns_typedefStep (hs : s.Tidy) (he : report.Contains e)
    (hnone : s.typedefs.lookup (typedefName e) = none)
    (hpending : (report.pending (withTypedef s (typedefName e))).card ≤ budget)
    (hinner : TypeReader.ReadsTypedefs report tagNames budget inner) :
    report.Learns tagNames s ((report.typedefStep tagNames inner e).run s).2 ∧
      ∃ target, ((report.typedefStep tagNames inner e).run s).2.types.Holds
        ((report.typedefStep tagNames inner e).run s).1 (.typedef (typedefName e) target) := by
  have htidy := tidy_withTypedef hs hnone
  rw [typedefStep_run_of_none hnone, readTarget]
  cases hu : e.info.underlying with
  | none =>
    have hid : (withTypedef s (typedefName e)).types.Holds s.types.size
        (.typedef (typedefName e) none) := s.types.holds_add_self _
    refine ⟨⟨htidy, ⟨s.types.keeps_add _, .single (step_withTypedef hs hnone), .refl s.log,
      [(typedefName e, s.types.size)], rfl, fun entry hentry => ?_⟩, rfl, rfl⟩, none, hid⟩
    obtain rfl := List.mem_singleton.1 hentry
    refine ⟨e, none, he, rfl, hid, ?_⟩
    rw [hu]
    exact .none
  | some u =>
    obtain ⟨hlearns, hshows⟩ :=
      TypeReader.reads_read hinner e.parameterNames u _ htidy hpending trivial
    obtain ⟨hid, hgrows⟩ := grows_typedef hs he hnone hlearns hu hshows
    exact ⟨⟨tidy_bind hlearns.tidy hid _, hgrows, hlearns.functions_eq, hlearns.declarations_eq⟩,
      _, (TypeGraph.holds_bind_iff hid).2 (.inl ⟨rfl, rfl⟩)⟩

theorem reads_of_known {t : Read TypeId} (hs : s.Tidy)
    (h : s.typedefs.lookup (typedefName e) = some id) (ht : t.run s = (id, s)) :
    report.Learns tagNames s (t.run s).2 ∧
      ∃ target, (t.run s).2.types.Holds (t.run s).1 (.typedef (typedefName e) target) := by
  rw [ht]
  exact ⟨.refl hs, hs.holds _ (mem_of_lookup h)⟩

theorem readsTypedefs_typedefType : ∀ budget m, budget ≤ m →
    TypeReader.ReadsTypedefs report tagNames budget (report.typedefType tagNames m) := by
  intro budget
  induction budget with
  | zero =>
    intro m _ e he s hs hpending _
    cases hknown : s.typedefs.lookup (typedefName e) with
    | some id => exact reads_of_known hs hknown (typedefType_run_of_some hknown)
    | none =>
      have hempty := Finset.card_eq_zero.1 (Nat.le_zero.1 hpending)
      exact absurd (mem_pending he hknown) (hempty ▸ Finset.notMem_empty _)
  | succ budget ih =>
    intro m hm e he s hs hpending _
    obtain ⟨m, rfl⟩ := Nat.exists_eq_add_one_of_ne_zero (by omega : m ≠ 0)
    cases hknown : s.typedefs.lookup (typedefName e) with
    | some id => exact reads_of_known hs hknown (typedefType_run_of_some hknown)
    | none =>
      rw [typedefType_succ]
      refine learns_typedefStep hs (.inl he) hknown ?_ (ih m (Nat.le_of_succ_le_succ hm))
      rw [pending_withTypedef, Finset.card_erase_of_mem (mem_pending he hknown)]
      exact Nat.sub_le_of_le_add hpending

/-- From every tidy state a typedef is read to the typedef of its name. -/
theorem learns_typedefType (hs : s.Tidy) (he : report.Contains e) :
    report.Learns tagNames s ((report.typedefType tagNames report.nesting e).run s).2 ∧
      ∃ target, ((report.typedefType tagNames report.nesting e).run s).2.types.Holds
        ((report.typedefType tagNames report.nesting e).run s).1
          (.typedef (typedefName e) target) := by
  cases hknown : s.typedefs.lookup (typedefName e) with
  | some id => exact reads_of_known hs hknown (typedefType_run_of_some hknown)
  | none =>
    rw [nesting, typedefType_succ]
    exact learns_typedefStep hs he hknown (report.card_pending_le _)
      (readsTypedefs_typedefType _ _ (Nat.le_refl _))

/-- From every tidy state a type is read to one that shows it. -/
theorem learns_readType (hs : s.Tidy) (names : List String) (type : ReportedType) :
    report.Learns tagNames s ((report.readType tagNames names type).run s).2 ∧
      report.Shows tagNames ((report.readType tagNames names type).run s).2.types names type
        ((report.readType tagNames names type).run s).1 :=
  TypeReader.reads_read (readsTypedefs_typedefType _ _ (Nat.le_succ _)) names type s hs
    (report.card_pending_le s) trivial

end Report

end HeaderBindings
