import HeaderBindings.Proofs.Lookup
import HeaderBindings.Proofs.TypeGraph.Growth
import HeaderBindings.Report.Types
import Mathlib.Data.Finset.Card
import Mathlib.Logic.Function.Iterate

/-! Types as they are read. A typedef is read with a way of reading the typedefs inside it; two such
ways that agree make readers that agree, and the rules that show this also show what reading keeps:
the graph stays built, and ids that are given out are in it. Since a typedef is known before what it
stands for is read, fewer and fewer are left to read inside each other, and the bound on their
number does not matter. -/

namespace HeaderBindings

/-- Ids of the types that a declaration mentions. -/
def Declaration.typeIds : Declaration → List TypeId
  | .enum _ => []
  | .struct decl => decl.fields.map (·.type)
  | .typeAlias decl => [decl.type]
  | .function decl => decl.result :: decl.parameters.map (·.type)

/-- What holds at any time while a report is read: the graph has been built, and no id that is kept
lies outside of it. -/
structure Reading.Sound (s : Reading) : Prop where
  built : s.types.Built
  typedef_lt : ∀ entry ∈ s.typedefs, entry.2 < s.types.size
  declared_lt : ∀ entry ∈ s.declarations, ∀ id ∈ entry.2.typeIds, id < s.types.size

namespace Report

def typedefName (e : Entity) : String :=
  e.info.name.getD ""

/-- Names of the declarations that have no typedef yet. -/
def pending (report : Report) (s : Reading) : Finset String :=
  (report.declarations.toList.map typedefName).toFinset \ (s.typedefs.map Prod.fst).toFinset

/-- A state in which at most `budget` typedefs can still be read one inside the other. -/
structure Within (report : Report) (budget : Nat) (s : Reading) : Prop where
  sound : s.Sound
  pending_le : (report.pending s).card ≤ budget

/-- What reading does to a state: it is sound still, and ids given out lie in the graph. -/
structure Leads (report : Report) (budget : Nat) (s : Reading) (ids : List TypeId) (s' : Reading) :
    Prop where
  within : report.Within budget s'
  size_le : s.types.size ≤ s'.types.size
  lt_size : ∀ id ∈ ids, id < s'.types.size

/-- From every state whose graph holds `ids`, both do the same and give ids in range. -/
def Agrees {α : Type} (report : Report) (budget : Nat) (ids : List TypeId) (e e' : Read α)
    (out : α → List TypeId) : Prop :=
  ∀ s, report.Within budget s → (∀ id ∈ ids, id < s.types.size) →
    e'.run s = e.run s ∧ report.Leads budget s (out (e.run s).1) (e.run s).2

variable {report : Report} {budget : Nat} {ids : List TypeId} {α β : Type}

theorem Agrees.pure (a : α) {out : α → List TypeId} (h : ∀ id ∈ out a, id ∈ ids) :
    report.Agrees budget ids (pure a) (pure a) out :=
  fun _ hs hids => ⟨rfl, hs, Nat.le_refl _, fun id hid => hids id (h id hid)⟩

theorem Agrees.bind {e e' : Read α} {f f' : α → Read β} {out : α → List TypeId}
    {out' : β → List TypeId} (he : report.Agrees budget ids e e' out)
    (hf : ∀ a, report.Agrees budget (out a ++ ids) (f a) (f' a) out') :
    report.Agrees budget ids (e >>= f) (e' >>= f') out' := by
  intro s hs hids
  obtain ⟨heq, hled⟩ := he s hs hids
  obtain ⟨heq', hled'⟩ := hf (e.run s).1 (e.run s).2 hled.within fun id hid => by
    rcases List.mem_append.1 hid with hid | hid
    · exact hled.lt_size id hid
    · exact Nat.lt_of_lt_of_le (hids id hid) hled.size_le
  refine ⟨?_, hled'.within, Nat.le_trans hled.size_le hled'.size_le, hled'.lt_size⟩
  change (f' (e'.run s).1).run (e'.run s).2 = (f (e.run s).1).run (e.run s).2
  rw [heq, heq']

theorem Agrees.mono {ids' : List TypeId} {e e' : Read α} {out : α → List TypeId}
    (h : report.Agrees budget ids e e' out) (hids : ∀ id ∈ ids, id ∈ ids') :
    report.Agrees budget ids' e e' out :=
  fun s hs hin => h s hs fun id hid => hin id (hids id hid)

theorem Agrees.weaken {e e' : Read α} {out : α → List TypeId}
    (h : report.Agrees budget [] e e' out) : report.Agrees budget ids e e' out :=
  h.mono (List.forall_mem_nil _)

theorem agrees_record (level : Log.Level) (text : String) :
    report.Agrees budget ids (Read.record level text) (Read.record level text) fun _ => [] :=
  fun _ hs _ => ⟨rfl, ⟨⟨hs.sound.built, hs.sound.typedef_lt, hs.sound.declared_lt⟩, hs.pending_le⟩,
    Nat.le_refl _, List.forall_mem_nil _⟩

theorem agrees_add {type : CType} (h : ∀ id ∈ TypeGraph.references type, id ∈ ids) :
    report.Agrees budget ids (Read.add type) (Read.add type) fun id => [id] := by
  intro s hs hids
  have hsize : ((Read.add type).run s).2.types.size = s.types.size + 1 := s.types.size_add type
  refine ⟨rfl, ⟨⟨?_, ?_, ?_⟩, hs.pending_le⟩, by omega, fun id hid => ?_⟩
  · exact hs.sound.built.add fun id hid => hids id (h id hid)
  · exact fun entry hentry => by
      rw [hsize]
      exact Nat.lt_succ_of_lt (hs.sound.typedef_lt entry hentry)
  · exact fun entry hentry id hid => by
      rw [hsize]
      exact Nat.lt_succ_of_lt (hs.sound.declared_lt entry hentry id hid)
  · rw [List.mem_singleton.1 hid, hsize]
    exact Nat.lt_succ_self s.types.size

/-- A type that is not made of others. -/
theorem agrees_leaf {type : CType} (h : TypeGraph.references type = []) :
    report.Agrees budget ids (Read.add type) (Read.add type) fun id => [id] :=
  agrees_add (h ▸ List.forall_mem_nil _)

theorem agrees_unresolved (info : TypeInfo) :
    report.Agrees budget ids (Read.unresolved info) (Read.unresolved info) fun id => [id] :=
  (agrees_record _ _).bind fun _ => agrees_leaf rfl

theorem mem_declarations {info : TypeInfo} {declaration : Entity}
    (h : report.declaration? info = some declaration) : declaration ∈ report.declarations := by
  obtain ⟨i, -, hi⟩ := Option.bind_eq_some_iff.1 h
  exact Array.mem_of_getElem? hi

/-- A type is made of a part of it, if there is one. -/
theorem Agrees.orUnresolved {e e' : Read (Option TypeId)} {f : TypeId → Read TypeId}
    (h : report.Agrees budget ids e e' Option.toList) (info : TypeInfo)
    (hf : ∀ id, report.Agrees budget [id] (f id) (f id) fun id => [id]) :
    report.Agrees budget ids
      (do
        match ← e with
        | some id => f id
        | none => Read.unresolved info)
      (do
        match ← e' with
        | some id => f id
        | none => Read.unresolved info)
      fun id => [id] := by
  refine h.bind fun part => ?_
  cases part with
  | some id => exact (hf id).mono fun _ h => List.mem_append_left _ h
  | none => exact agrees_unresolved info

namespace TypeReader

theorem types_parameters (names : List String) (types : List TypeId) :
    (parameters names types).map (·.type) = types := by
  unfold parameters
  rw [List.map_map]
  exact List.zipIdx_map_fst 0 types

variable {tagNames : TagNames} {t t' : Entity → Read TypeId}

theorem agrees_function {result result' : Read (Option TypeId)}
    {arguments arguments' : Read (List TypeId)}
    (hresult : report.Agrees budget [] result result' Option.toList)
    (harguments : report.Agrees budget [] arguments arguments' fun types => types)
    (names : List String) (variadic : Bool) :
    report.Agrees budget []
      (do
        let id ← match ← result with
          | some id => pure id
          | none => Read.add (.builtin .void)
        let types ← arguments
        Read.add (.function ⟨id, parameters names types, variadic⟩))
      (do
        let id ← match ← result' with
          | some id => pure id
          | none => Read.add (.builtin .void)
        let types ← arguments'
        Read.add (.function ⟨id, parameters names types, variadic⟩))
      fun id => [id] := by
  have hrest (ids : List TypeId) (id : TypeId) (hid : id ∈ ids) : report.Agrees budget ids
      (do
        let types ← arguments
        Read.add (.function ⟨id, parameters names types, variadic⟩))
      (do
        let types ← arguments'
        Read.add (.function ⟨id, parameters names types, variadic⟩))
      fun id => [id] := by
    refine harguments.weaken.bind fun types => ?_
    refine agrees_add fun x hx => ?_
    simp only [TypeGraph.references, TypeGraph.children, types_parameters] at hx
    rcases List.mem_cons.1 hx with rfl | hx
    · exact List.mem_append_right _ hid
    · exact List.mem_append_left _ hx
  refine hresult.bind fun part => ?_
  cases part with
  | some id => exact hrest _ id List.mem_cons_self
  | none =>
    exact (agrees_leaf rfl).bind fun id =>
      hrest _ id List.mem_cons_self

mutual

theorem agrees_read
    (ht : ∀ e ∈ report.declarations, report.Agrees budget [] (t e) (t' e) fun id => [id])
    (names : List String) : ∀ type, report.Agrees budget [] (read ⟨report, tagNames, t⟩ names type)
      (read ⟨report, tagNames, t'⟩ names type) fun id => [id]
  | .mk info pointee element named result canonical arguments => by
    have hpointee := agrees_readOption ht names pointee
    have helement := agrees_readOption ht names element
    have hnamed := agrees_readOption ht names named
    have hcanonical := agrees_readOption ht names canonical
    have hresult := agrees_readOption ht [] result
    have harguments := agrees_readAll ht arguments
    have hpointer (isConst : Bool) (id : TypeId) :
        report.Agrees budget [id] (Read.add (.pointer id isConst)) (Read.add (.pointer id isConst))
          fun id => [id] :=
      agrees_add fun _ h => h
    have harray (size : Option Nat) (id : TypeId) :
        report.Agrees budget [id] (Read.add (.array id size)) (Read.add (.array id size))
          fun id => [id] :=
      agrees_add fun _ h => h
    have hsame (id : TypeId) :
        report.Agrees budget [id] (Pure.pure id) (Pure.pure id) fun id => [id] :=
      .pure id fun _ h => h
    unfold read
    split
    · exact agrees_leaf rfl
    · split
      · exact hpointee.orUnresolved info (hpointer _)
      · exact hpointee.orUnresolved info (hpointer _)
      · exact hpointee.orUnresolved info (hpointer _)
      · exact helement.orUnresolved info (harray _)
      · exact helement.orUnresolved info (harray _)
      · exact helement.orUnresolved info (harray _)
      · dsimp only
        cases hdeclaration : report.declaration? info with
        | some declaration => exact ht declaration (mem_declarations hdeclaration)
        | none => exact agrees_unresolved info
      · exact hnamed.orUnresolved info hsame
      · exact agrees_leaf rfl
      · exact agrees_leaf rfl
      · exact agrees_function hresult harguments names info.variadic
      · exact agrees_function hresult harguments names info.variadic
      · split
        · exact hcanonical.orUnresolved info hsame
        · exact agrees_unresolved info

theorem agrees_readOption
    (ht : ∀ e ∈ report.declarations, report.Agrees budget [] (t e) (t' e) fun id => [id])
    (names : List String) : ∀ type, report.Agrees budget []
      (readOption ⟨report, tagNames, t⟩ names type) (readOption ⟨report, tagNames, t'⟩ names type)
      Option.toList
  | none => .pure none (List.forall_mem_nil _)
  | some type => (agrees_read ht names type).bind fun id => .pure (some id) fun _ h =>
      List.mem_append_left _ h

theorem agrees_readAll
    (ht : ∀ e ∈ report.declarations, report.Agrees budget [] (t e) (t' e) fun id => [id]) :
    ∀ types, report.Agrees budget [] (readAll ⟨report, tagNames, t⟩ types)
      (readAll ⟨report, tagNames, t'⟩ types) fun ids => ids
  | [] => .pure [] (List.forall_mem_nil _)
  | type :: rest => by
    refine (agrees_read ht [] type).bind fun id => ?_
    refine (agrees_readAll ht rest).weaken.bind fun ids => ?_
    refine .pure (id :: ids) fun x hx => ?_
    rcases List.mem_cons.1 hx with rfl | hx
    · simp
    · exact List.mem_append_left _ hx

end

end TypeReader

/-- Reads what a typedef stands for, where `inner` reads the typedefs on the way there. -/
def readTarget (report : Report) (tagNames : TagNames) (inner : Entity → Read TypeId)
    (e : Entity) (id : TypeId) : Read Unit :=
  match e.info.underlying with
  | some underlying => do
    let reader : TypeReader := ⟨report, tagNames, inner⟩
    let target ← reader.read e.parameterNames underlying
    modify fun s => { s with types := s.types.bind id target }
  | none => pure ()

/-- Reads the type of a typedef. -/
def typedefStep (report : Report) (tagNames : TagNames) (inner : Entity → Read TypeId)
    (e : Entity) : Read TypeId := do
  let s ← get
  match s.typedefs.lookup (typedefName e) with
  | some id => return id
  | none =>
    let id ← Read.add (.typedef (typedefName e) none)
    modify fun s => { s with typedefs := (typedefName e, id) :: s.typedefs }
    report.readTarget tagNames inner e id
    return id

/-- The state with one more typedef, which is not bound yet. -/
def withTypedef (s : Reading) (name : String) : Reading :=
  { s with
    types := s.types.add (.typedef name none)
    typedefs := (name, s.types.size) :: s.typedefs }

variable {tagNames : TagNames} {inner inner' : Entity → Read TypeId} {s : Reading} {e : Entity}

theorem typedefType_succ (report : Report) (tagNames : TagNames) (budget : Nat) :
    report.typedefType tagNames (budget + 1) =
      report.typedefStep tagNames (report.typedefType tagNames budget) := by
  funext e
  unfold typedefType typedefStep readTarget typedefName
  cases e.info.underlying <;> rfl

theorem typedefStep_run_of_some {id : TypeId} (h : s.typedefs.lookup (typedefName e) = some id) :
    (report.typedefStep tagNames inner e).run s = (id, s) := by
  unfold typedefStep
  simp only [StateT.run_bind, StateT.run_get, pure_bind, h]
  rfl

theorem typedefType_run_of_some {id : TypeId} (h : s.typedefs.lookup (typedefName e) = some id) :
    (report.typedefType tagNames budget e).run s = (id, s) := by
  unfold typedefType
  simp only [StateT.run_bind, StateT.run_get, pure_bind]
  rw [show s.typedefs.lookup (e.info.name.getD "") = some id from h]
  rfl

theorem typedefStep_run_of_none (h : s.typedefs.lookup (typedefName e) = none) :
    (report.typedefStep tagNames inner e).run s =
      (s.types.size,
        ((report.readTarget tagNames inner e s.types.size).run
          (withTypedef s (typedefName e))).2) := by
  unfold typedefStep
  simp only [StateT.run_bind, StateT.run_get, pure_bind, h]
  rfl

theorem agrees_bindTypedef (id target : TypeId) (hid : id ∈ ids) (htarget : target ∈ ids) :
    report.Agrees budget ids (modify fun s => { s with types := s.types.bind id target })
      (modify fun s => { s with types := s.types.bind id target }) fun _ : PUnit => [] := by
  intro s hs hids
  have hsize := s.types.size_bind id target
  refine ⟨rfl, ⟨⟨?_, fun entry hentry => ?_, fun entry hentry x hx => ?_⟩, hs.pending_le⟩,
    Nat.le_of_eq hsize.symm, List.forall_mem_nil _⟩
  · exact hs.sound.built.bind (hids id hid) (hids target htarget)
  · exact Nat.lt_of_lt_of_eq (hs.sound.typedef_lt entry hentry) hsize.symm
  · exact Nat.lt_of_lt_of_eq (hs.sound.declared_lt entry hentry x hx) hsize.symm

theorem agrees_readTarget
    (h : ∀ e ∈ report.declarations, report.Agrees budget [] (inner e) (inner' e) fun id => [id])
    (e : Entity) (id : TypeId) :
    report.Agrees budget [id] (report.readTarget tagNames inner e id)
      (report.readTarget tagNames inner' e id) fun _ => [] := by
  unfold readTarget
  cases e.info.underlying with
  | some underlying =>
    have hread : report.Agrees budget []
        (TypeReader.read ⟨report, tagNames, inner⟩ e.parameterNames underlying)
        (TypeReader.read ⟨report, tagNames, inner'⟩ e.parameterNames underlying) fun id => [id] :=
      TypeReader.agrees_read h _ underlying
    exact hread.weaken.bind fun target =>
      agrees_bindTypedef id target (List.mem_cons_of_mem _ List.mem_cons_self) List.mem_cons_self
  | none => exact .pure () (List.forall_mem_nil _)

theorem sound_withTypedef (h : s.Sound) (name : String) : (withTypedef s name).Sound := by
  have hsize : (withTypedef s name).types.size = s.types.size + 1 := s.types.size_add _
  refine ⟨h.built.add fun _ hx => absurd hx List.not_mem_nil, fun entry hentry => ?_,
    fun entry hentry id hid => ?_⟩
  · rw [hsize]
    rcases List.mem_cons.1 hentry with rfl | hentry
    · exact Nat.lt_succ_self _
    · exact Nat.lt_succ_of_lt (h.typedef_lt entry hentry)
  · rw [hsize]
    exact Nat.lt_succ_of_lt (h.declared_lt entry hentry id hid)

/-- No more typedefs are left to read than there are declarations. -/
theorem card_pending_le (report : Report) (s : Reading) :
    (report.pending s).card ≤ report.declarations.size :=
  (Finset.card_le_card Finset.sdiff_subset).trans
    ((List.toFinset_card_le _).trans (by rw [List.length_map, Array.length_toList]))

theorem pending_withTypedef (report : Report) (s : Reading) (name : String) :
    report.pending (withTypedef s name) = (report.pending s).erase name := by
  ext x
  simp only [pending, withTypedef, List.map_cons, List.toFinset_cons, Finset.mem_sdiff,
    Finset.mem_insert, Finset.mem_erase]
  tauto

theorem mem_pending (he : e ∈ report.declarations) (h : s.typedefs.lookup (typedefName e) = none) :
    typedefName e ∈ report.pending s := by
  rw [pending, Finset.mem_sdiff, List.mem_toFinset, List.mem_toFinset]
  refine ⟨List.mem_map_of_mem (Array.mem_toList_iff.2 he), fun hmem => ?_⟩
  obtain ⟨entry, hentry, hname⟩ := List.mem_map.1 hmem
  exact absurd (List.lookup_eq_none_iff.1 h entry hentry) (by simp [hname])

/-- A typedef read for the first time: what is read inside it has one budget, and it another. -/
theorem leads_typedefStep {budget' : Nat} (hle : budget' ≤ budget)
    (hnone : s.typedefs.lookup (typedefName e) = none)
    (hw : report.Within budget' (withTypedef s (typedefName e)))
    (h : ∀ e ∈ report.declarations, report.Agrees budget' [] (inner e) (inner' e) fun id => [id]) :
    (report.typedefStep tagNames inner' e).run s = (report.typedefStep tagNames inner e).run s ∧
      report.Leads budget s [((report.typedefStep tagNames inner e).run s).1]
        ((report.typedefStep tagNames inner e).run s).2 := by
  have hsize : (withTypedef s (typedefName e)).types.size = s.types.size + 1 := s.types.size_add _
  have hread : report.Agrees budget' [s.types.size]
      (report.readTarget tagNames inner e s.types.size)
      (report.readTarget tagNames inner' e s.types.size) fun _ => [] :=
    agrees_readTarget h e s.types.size
  obtain ⟨heq, hled⟩ := hread _ hw fun id hid => by
    rw [List.mem_singleton.1 hid, hsize]
    exact Nat.lt_succ_self _
  have hgrown : s.types.size < ((report.readTarget tagNames inner e s.types.size).run
      (withTypedef s (typedefName e))).2.types.size :=
    Nat.lt_of_lt_of_le (hsize ▸ Nat.lt_succ_self _) hled.size_le
  rw [typedefStep_run_of_none hnone, typedefStep_run_of_none hnone, heq]
  refine ⟨rfl, ⟨hled.within.sound, Nat.le_trans hled.within.pending_le hle⟩,
    Nat.le_of_lt hgrown, fun id hid => ?_⟩
  rw [List.mem_singleton.1 hid]
  exact hgrown

/-- A typedef that is known is not read again, so two readers need only agree on those that are
not. -/
theorem agrees_of_unknown {t t' : Read TypeId}
    (ht : ∀ s id, s.typedefs.lookup (typedefName e) = some id → t.run s = (id, s))
    (ht' : ∀ s id, s.typedefs.lookup (typedefName e) = some id → t'.run s = (id, s))
    (h : ∀ s, report.Within budget s → s.typedefs.lookup (typedefName e) = none →
      t'.run s = t.run s ∧ report.Leads budget s [(t.run s).1] (t.run s).2) :
    report.Agrees budget [] t t' fun id => [id] := by
  intro s hs _
  cases hknown : s.typedefs.lookup (typedefName e) with
  | some id =>
    rw [ht s id hknown, ht' s id hknown]
    refine ⟨rfl, hs, Nat.le_refl _, fun x hx => ?_⟩
    rw [List.mem_singleton.1 hx]
    exact hs.sound.typedef_lt _ (mem_of_lookup hknown)
  | none => exact h s hs hknown

/-- Typedefs are read alike where those on the way are. -/
theorem agrees_typedefStep
    (h : ∀ e ∈ report.declarations, report.Agrees budget [] (inner e) (inner' e) fun id => [id])
    (e : Entity) :
    report.Agrees budget [] (report.typedefStep tagNames inner e)
      (report.typedefStep tagNames inner' e) fun id => [id] := by
  refine agrees_of_unknown (fun _ _ => typedefStep_run_of_some)
    (fun _ _ => typedefStep_run_of_some) fun s hs hnone => ?_
  refine leads_typedefStep (Nat.le_refl _) hnone ⟨sound_withTypedef hs.sound _, ?_⟩ h
  rw [pending_withTypedef]
  exact Nat.le_trans Finset.card_erase_le hs.pending_le

/-- Each typedef that is read inside another is one less to read, so neither the bound of
`typedefType` nor what stands in for it is ever come to. -/
theorem agrees_typedefType (stuck : Entity → Read TypeId) : ∀ budget m n, budget ≤ m → budget < n →
    ∀ e ∈ report.declarations, report.Agrees budget [] (report.typedefType tagNames m e)
      ((report.typedefStep tagNames)^[n] stuck e) fun id => [id] := by
  intro budget
  induction budget with
  | zero =>
    intro m n _ hn e he
    obtain ⟨n, rfl⟩ := Nat.exists_eq_add_one_of_ne_zero (Nat.ne_of_gt hn)
    rw [Function.iterate_succ_apply']
    refine agrees_of_unknown (fun _ _ => typedefType_run_of_some)
      (fun _ _ => typedefStep_run_of_some) fun s hs hnone => ?_
    have hempty := Finset.card_eq_zero.1 (Nat.le_zero.1 hs.pending_le)
    exact absurd (mem_pending he hnone) (hempty ▸ Finset.notMem_empty _)
  | succ budget ih =>
    intro m n hm hn e he
    obtain ⟨m, rfl⟩ := Nat.exists_eq_add_one_of_ne_zero (by omega : m ≠ 0)
    obtain ⟨n, rfl⟩ := Nat.exists_eq_add_one_of_ne_zero (by omega : n ≠ 0)
    rw [Function.iterate_succ_apply', typedefType_succ]
    refine agrees_of_unknown (fun _ _ => typedefStep_run_of_some)
      (fun _ _ => typedefStep_run_of_some) fun s hs hnone => ?_
    refine leads_typedefStep (Nat.le_succ budget) hnone ⟨sound_withTypedef hs.sound _, ?_⟩
      (ih m n (by omega) (by omega))
    rw [pending_withTypedef, Finset.card_erase_of_mem (mem_pending he hnone)]
    exact Nat.sub_le_of_le_add hs.pending_le

end Report

end HeaderBindings
