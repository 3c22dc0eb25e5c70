import HeaderBindings.Proofs.Report.Types
import HeaderBindings.Report.Declarations

/-! What a report declares. Whatever is read, the graph stays built and no declaration mentions a
type that is not in it; so the same holds of the header. -/

namespace HeaderBindings

namespace SourceUnit

theorem place_perm (units : List SourceUnit) (file : String) (declaration : Declaration) :
    ((place units file declaration).flatMap declarations).Perm
      (units.flatMap declarations ++ [declaration]) := by
  induction units with
  | nil => exact .refl _
  | cons u rest ih =>
    unfold place
    split
    · simp only [List.flatMap_cons, List.append_assoc]
      exact List.perm_append_comm.append_left _
    · simp only [List.flatMap_cons, List.append_assoc]
      exact ih.append_left _

theorem foldl_place_perm (found : List (String × Declaration)) (units : List SourceUnit) :
    ((found.foldl (fun units (file, declaration) => place units file declaration) units).flatMap
      declarations).Perm (units.flatMap declarations ++ found.map Prod.snd) := by
  induction found generalizing units with
  | nil => simp
  | cons entry rest ih =>
    rw [List.foldl_cons, List.map_cons]
    refine (ih _).trans (((place_perm units entry.1 entry.2).append_right _).trans ?_)
    rw [List.append_assoc, List.singleton_append]

/-- Nothing is lost and nothing doubled when declarations are put with their files. -/
theorem group_perm (found : List (String × Declaration)) :
    ((group found).flatMap declarations).Perm (found.map Prod.snd) :=
  foldl_place_perm found []

end SourceUnit

namespace Report

/-- `e` leaves the state sound and gives ids in range, where `ids` are. -/
abbrev Gives {α : Type} (report : Report) (ids : List TypeId) (e : Read α)
    (out : α → List TypeId) : Prop :=
  report.Agrees report.declarations.size ids e e out

variable {report : Report} {budget : Nat} {ids : List TypeId} {tagNames : TagNames} {α β : Type}
  {s : Reading}

theorem Agrees.left {e e' : Read α} {out : α → List TypeId}
    (h : report.Agrees budget ids e e' out) : report.Agrees budget ids e e out :=
  fun s hs hids => ⟨rfl, (h s hs hids).2⟩

theorem within_of_sound (h : s.Sound) (report : Report) :
    report.Within report.declarations.size s :=
  ⟨h, report.card_pending_le s⟩

/-- Where typedefs are read to a depth at which none can be left, what stands below it is never
come to. -/
theorem agrees_nesting (stuck : Entity → Read TypeId) {n : Nat} (hn : report.nesting < n)
    (e : Entity) :
    report.Agrees report.declarations.size [] (report.typedefType tagNames report.nesting e)
      ((report.typedefStep tagNames)^[n] stuck e) fun id => [id] := by
  obtain ⟨n, rfl⟩ := Nat.exists_eq_add_one_of_ne_zero (Nat.ne_zero_of_lt hn)
  rw [Function.iterate_succ_apply', nesting, typedefType_succ]
  exact agrees_typedefStep
    (agrees_typedefType stuck _ _ n (Nat.le_refl _) (Nat.lt_of_succ_lt_succ hn)) e

theorem agrees_readType (stuck : Entity → Read TypeId) {n : Nat} (hn : report.nesting < n)
    (names : List String) (type : ReportedType) :
    report.Agrees report.declarations.size [] (report.readType tagNames names type)
      (TypeReader.read ⟨report, tagNames, (report.typedefStep tagNames)^[n] stuck⟩ names type)
      fun id => [id] :=
  TypeReader.agrees_read (fun e _ => agrees_nesting stuck hn e) names type

theorem gives_typedefType (e : Entity) :
    report.Gives [] (report.typedefType tagNames report.nesting e) fun id => [id] :=
  (agrees_nesting (fun _ => Pure.pure 0) (Nat.lt_succ_self _) e).left

theorem gives_readType (names : List String) (type : ReportedType) :
    report.Gives [] (report.readType tagNames names type) fun id => [id] :=
  (agrees_readType (fun _ => Pure.pure 0) (Nat.lt_succ_self _) names type).left

theorem gives_declare (e : Entity) {declaration : Declaration}
    (h : ∀ id ∈ declaration.typeIds, id ∈ ids) :
    report.Gives ids (Read.declare e declaration) fun _ => [] := by
  intro s hs hids
  refine ⟨rfl, ⟨⟨hs.sound.built, hs.sound.typedef_lt, fun entry hentry id hid => ?_⟩,
    hs.pending_le⟩, Nat.le_refl _, List.forall_mem_nil _⟩
  rcases Array.mem_push.1 hentry with hentry | rfl
  · exact hs.sound.declared_lt entry hentry id hid
  · exact hids id (h id hid)

theorem Agrees.mapM {f : α → Read β} {out : β → List TypeId} {l : List α}
    (h : ∀ a ∈ l, report.Agrees budget ids (f a) (f a) out) :
    report.Agrees budget ids (l.mapM f) (l.mapM f) fun bs => bs.flatMap out := by
  induction l with
  | nil => exact .pure [] (List.forall_mem_nil _)
  | cons a rest ih =>
    rw [List.mapM_cons]
    refine (h a List.mem_cons_self).bind fun b => ?_
    have hrest := (ih fun a ha => h a (List.mem_cons_of_mem _ ha)).mono
      fun id hid => List.mem_append_right (out b) hid
    refine hrest.bind fun bs => .pure (b :: bs) fun id hid => ?_
    rw [List.flatMap_cons] at hid
    rcases List.mem_append.1 hid with hid | hid
    · exact List.mem_append_right _ (List.mem_append_left _ hid)
    · exact List.mem_append_left _ hid

theorem Agrees.get {f : Reading → Read α} {out : α → List TypeId}
    (h : ∀ s, report.Within budget s → (∀ id ∈ ids, id < s.types.size) →
      report.Leads budget s (out ((f s).run s).1) ((f s).run s).2) :
    report.Agrees budget ids (do f (← get)) (do f (← get)) out :=
  fun s hs hids => ⟨rfl, h s hs hids⟩

/-- The functions that were found do not matter. -/
theorem Agrees.leads {e : Read α} {out : α → List TypeId} (h : report.Agrees budget [] e e out)
    (hs : report.Within budget s) (functions : List String) :
    report.Leads budget s (out (e.run { s with functions }).1) (e.run { s with functions }).2 := by
  have hs' : report.Within budget { s with functions } :=
    ⟨⟨hs.sound.built, hs.sound.typedef_lt, hs.sound.declared_lt⟩, hs.pending_le⟩
  have hled := (h _ hs' (List.forall_mem_nil _)).2
  exact ⟨hled.within, hled.size_le, hled.lt_size⟩

end Report

namespace Reader

variable (r : Reader) {ids : List TypeId}

theorem gives_nothing : r.report.Gives ids (pure ()) fun _ => [] :=
  .pure () (List.forall_mem_nil _)

theorem gives_enum (e : Entity) : r.report.Gives ids (enum r e) fun _ => [] := by
  unfold enum
  split
  · exact Report.gives_declare e (List.forall_mem_nil _)
  · exact r.gives_nothing

theorem gives_field (e : Entity) :
    r.report.Gives [] (field r e) fun fields => fields.map (·.type) := by
  unfold field
  split
  · exact (Report.gives_readType _ _).bind fun id => .pure _ fun _ h => List.mem_append_left _ h
  · exact .pure [] (List.forall_mem_nil _)

mutual

theorem gives_record (kind : TagKind) : ∀ e, r.report.Gives [] (record r kind e) fun _ => []
  | .mk info children arguments => by
    have hmembers := gives_members children
    unfold record
    dsimp only
    split
    · exact Report.agrees_record _ _
    · have hdeclare (name : String) {e : Read (List Field)}
          (h : r.report.Gives [] e fun fields => fields.map (·.type)) : r.report.Gives []
          (do
            let fields ← e
            Read.declare (.mk info children arguments)
              (.struct ⟨name, kind, fields, info.isDefinition, info.comment⟩)) fun _ => [] := by
        refine h.bind fun fields => ?_
        exact Report.gives_declare _ fun _ h => List.mem_append_left _ h
      split
      · exact hdeclare _ hmembers
      · exact hdeclare _ (.pure [] (List.forall_mem_nil _))

theorem gives_members : ∀ children,
    r.report.Gives [] (members r children) fun fields => fields.map (·.type)
  | [] => .pure [] (List.forall_mem_nil _)
  | .mk info children arguments :: rest => by
    have hstruct := gives_record .struct (.mk info children arguments)
    have hunion := gives_record .union (.mk info children arguments)
    have hrest := gives_members rest
    have hall {e : Read (List Field)} (h : r.report.Gives [] e fun fields => fields.map (·.type)) :
        r.report.Gives [] (do return (← e) ++ (← members r rest)) fun fields =>
          fields.map (·.type) := by
      refine h.bind fun fields => ?_
      refine hrest.weaken.bind fun others => ?_
      refine .pure _ fun id hid => ?_
      rw [List.map_append] at hid
      rcases List.mem_append.1 hid with hid | hid
      · exact List.mem_append_right _ (List.mem_append_left _ hid)
      · exact List.mem_append_left _ hid
    have hnone := hall (.pure [] (List.forall_mem_nil _))
    unfold members
    dsimp only
    split
    · exact hall (r.gives_field _)
    · exact hstruct.bind fun _ => hnone
    · exact hunion.bind fun _ => hnone
    · exact (r.gives_enum _).bind fun _ => hnone
    · exact hnone

end

theorem gives_typedef (e : Entity) : r.report.Gives [] (typedef r e) fun _ => [] := by
  unfold typedef
  split
  · exact r.gives_nothing
  · next name _ =>
    refine (Report.gives_typedefType e).bind fun id => .get fun s hs hids => ?_
    split
    case h_1 _ target hnode =>
      have htarget := hs.sound.built.wellFormed.target_lt _ _ _ hnode
      have hdeclare : r.report.Gives [target] (Read.declare e (.typeAlias ⟨name, target⟩))
          fun _ => [] := Report.gives_declare e fun _ h => h
      exact (hdeclare s hs fun x hx => List.mem_singleton.1 hx ▸ htarget).2
    case h_2 => exact (Report.agrees_record _ _ s hs hids).2

theorem gives_parameter (e : Entity) :
    r.report.Gives [] (parameter r e) fun parameter => [parameter.type] := by
  unfold parameter
  have hnamed {e' : Read TypeId} (h : r.report.Gives [] e' fun id => [id]) :
      r.report.Gives [] (do return ⟨e.info.name.getD "", ← e'⟩) fun parameter : Parameter =>
        [parameter.type] := by
    refine h.bind fun id => ?_
    exact .pure _ fun _ h => List.mem_append_left _ h
  dsimp only
  split
  · exact hnamed (Report.gives_readType _ _)
  · exact hnamed (Report.agrees_leaf rfl)

theorem gives_function (e : Entity) : r.report.Gives [] (function r e) fun _ => [] := by
  unfold function
  split
  · exact r.gives_nothing
  · next name _ =>
    have hdeclare (result : TypeId) : r.report.Gives [result]
        (do
          let parameters ← e.arguments.mapM (parameter r)
          Read.declare e (.function
            ⟨name, result, parameters, e.info.isInline, isOperatorName name, e.info.variadic,
              e.info.comment⟩)) fun _ => [] := by
      have hparameters := Report.Agrees.mapM (l := e.arguments) fun e _ => r.gives_parameter e
      refine hparameters.weaken.bind fun parameters => ?_
      refine Report.gives_declare e fun id hid => ?_
      rcases List.mem_cons.1 hid with rfl | hid
      · exact List.mem_append_right _ List.mem_cons_self
      · exact List.mem_append_left _ (List.map_eq_flatMap ▸ hid)
    have hresult {e' : Read TypeId} (h : r.report.Gives [] e' fun id => [id]) :=
      h.bind hdeclare
    refine .get fun s hs hids => ?_
    split
    · exact (Report.agrees_record _ _ s hs hids).2
    · split
      · exact (hresult (Report.gives_readType _ _)).leads hs _
      · exact (hresult (Report.agrees_leaf rfl)).leads hs _

mutual

theorem gives_entity : ∀ e, r.report.Gives [] (entity r e) fun _ => []
  | .mk info children arguments => by
    have hchildren := gives_entities children
    unfold entity
    dsimp only
    split
    · exact r.gives_nothing
    · split
      · exact r.gives_enum _
      · exact r.gives_record _ _
      · exact r.gives_record _ _
      · exact r.gives_typedef _
      · exact r.gives_function _
      · exact hchildren
      · exact hchildren
      · exact Report.agrees_record _ _

theorem gives_entities : ∀ es, r.report.Gives [] (entities r es) fun _ => []
  | [] => r.gives_nothing
  | e :: rest => (gives_entity e).bind fun _ => gives_entities rest

end

end Reader

namespace Report

theorem sound_empty : ({} : Reading).Sound :=
  ⟨.empty, List.forall_mem_nil _, fun _ h => absurd h (Array.not_mem_empty _)⟩

theorem sound_reading (report : Report) (skipSystemHeaders : Bool) :
    (report.reading skipSystemHeaders).Sound :=
  (Reader.gives_entities ⟨report, report.tagNames, skipSystemHeaders⟩ report.root.children {}
    (within_of_sound sound_empty report) (List.forall_mem_nil _)).2.within.sound

end Report

theorem Reading.Sound.header_lt {s : Reading} (h : s.Sound) {declaration : Declaration}
    (hd : declaration ∈ s.header.declarations) :
    ∀ id ∈ declaration.typeIds, id < s.header.types.size := by
  obtain ⟨entry, hentry, rfl⟩ := List.mem_map.1 ((SourceUnit.group_perm _).mem_iff.1 hd)
  exact h.declared_lt entry (Array.mem_toList_iff.1 hentry)

end HeaderBindings
