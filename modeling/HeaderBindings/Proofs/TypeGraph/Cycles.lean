import HeaderBindings.Proofs.TypeGraph.Descent

/-! Walks that typedefs may lead back to where they came from. Every type has at most one layer
below it, so a walk either comes to a bottom or runs into a cycle, and which types it visits tells
where it lands, how deep it is and whether there is a function below. The walks keep their own
lists of what they have seen, but all of them visit the same types. -/

namespace HeaderBindings.TypeGraph

variable {g : TypeGraph} {stop : String → Bool}

/-- A walk goes down from the first type to the second. -/
def Down (g : TypeGraph) (stop : String → Bool) (id next : TypeId) : Prop :=
  g.step? stop id = some next

/-- A walk from the first type comes to the second. -/
def Reaches (g : TypeGraph) (stop : String → Bool) : TypeId → TypeId → Prop :=
  Relation.ReflTransGen (g.Down stop)

/-- A walk from `id` comes back to it. -/
def OnCycle (g : TypeGraph) (stop : String → Bool) (id : TypeId) : Prop :=
  Relation.TransGen (g.Down stop) id id

/-- A walk from `id` never comes to a bottom. -/
def Endless (g : TypeGraph) (stop : String → Bool) (id : TypeId) : Prop :=
  ∀ x, g.Reaches stop id x → ∃ next, g.Down stop x next

/-- `entry` is the first type on a cycle that a walk from `id` comes to. -/
inductive Enters (g : TypeGraph) (stop : String → Bool) : TypeId → TypeId → Prop
  | here {id : TypeId} (h : g.OnCycle stop id) : Enters g stop id id
  | layer {id next entry : TypeId} (h : ¬g.OnCycle stop id) (hs : g.step? stop id = some next)
      (rest : Enters g stop next entry) : Enters g stop id entry

/-- The loop of `canonicalFrom`, given up after some rounds: what it visits, and where it lands. -/
def canonicalWithin (g : TypeGraph) (stop : String → Bool) :
    Nat → List TypeId → TypeId → Option (List TypeId × Landing)
  | 0, _, _ => none
  | rounds + 1, seen, id =>
    if id ∈ seen then some ([], ⟨id, true⟩)
    else match g.step? stop id with
      | some next =>
        (canonicalWithin g stop rounds (id :: seen) next).map fun (visited, landing) =>
          (id :: visited, landing)
      | none => some ([id], ⟨id, false⟩)

/-- A walk from `id` that has seen `seen` visits `visited` and lands. -/
inductive Visits (g : TypeGraph) (stop : String → Bool) :
    List TypeId → TypeId → List TypeId → Landing → Prop
  | again {seen : List TypeId} {id : TypeId} (h : id ∈ seen) : Visits g stop seen id [] ⟨id, true⟩
  | bottom {seen : List TypeId} {id : TypeId} (h : id ∉ seen) (hs : g.step? stop id = none) :
      Visits g stop seen id [id] ⟨id, false⟩
  | layer {seen visited : List TypeId} {id next : TypeId} {landing : Landing} (h : id ∉ seen)
      (hs : g.step? stop id = some next) (rest : Visits g stop (id :: seen) next visited landing) :
      Visits g stop seen id (id :: visited) landing

theorem exists_visits (g : TypeGraph) (stop : String → Bool) (seen : List TypeId) (id : TypeId) :
    ∃ visited, g.Visits stop seen id visited (g.canonicalFrom stop seen id) := by
  fun_induction canonicalFrom g stop seen id with
  | case1 seen id h => exact ⟨[], .again h⟩
  | case2 seen id h next hs ih =>
    obtain ⟨visited, hvisits⟩ := ih
    exact ⟨id :: visited, .layer h hs hvisits⟩
  | case3 seen id h hs => exact ⟨[id], .bottom h hs⟩

namespace Visits

variable {seen visited : List TypeId} {id : TypeId} {landing : Landing}

/-- One round for each type not seen before, and a last one, are enough. -/
theorem canonicalWithin_eq (h : g.Visits stop seen id visited landing) :
    ∀ rounds, g.unseen seen < rounds →
      g.canonicalWithin stop rounds seen id = some (visited, landing) := by
  induction h with
  | again h =>
    rintro (_ | rounds) hrounds
    · cases hrounds
    · rw [canonicalWithin, if_pos h]
  | bottom h hs =>
    rintro (_ | rounds) hrounds
    · cases hrounds
    · rw [canonicalWithin, if_neg h, hs]
  | layer h hs rest ih =>
    have hfewer := unseen_cons_lt h (lt_size_of_inner?_eq_some (inner?_of_step? hs))
    rintro (_ | rounds) hrounds
    · cases hrounds
    · rw [canonicalWithin, if_neg h, hs]
      simp only [ih rounds (by omega), Option.map_some]

theorem resolvedDepthFrom_eq (h : g.Visits stop seen id visited landing) :
    g.resolvedDepthFrom stop seen id = g.indirections visited := by
  induction h with
  | again h => rw [resolvedDepthFrom, dif_pos h]; rfl
  | bottom h hs =>
    rw [resolvedDepthFrom, dif_neg h, indirections_cons]
    congr 1
    split
    · next hs' => rw [hs] at hs'; cases hs'
    · rfl
  | layer h hs rest ih =>
    rw [resolvedDepthFrom, dif_neg h, indirections_cons]
    congr 1
    split
    · next hs' =>
      obtain rfl : _ = _ := Option.some.inj (hs.symm.trans hs')
      exact ih
    · next hn => rw [hs] at hn; cases hn

theorem notMem_seen (h : g.Visits stop seen id visited landing) : ∀ x ∈ visited, x ∉ seen := by
  induction h with
  | again _ => exact fun x hx => absurd hx List.not_mem_nil
  | bottom h _ =>
    intro x hx
    rw [List.mem_singleton.1 hx]
    exact h
  | layer h _ _ ih =>
    intro x hx hseen
    rcases List.mem_cons.1 hx with rfl | hx
    · exact h hseen
    · exact ih x hx (List.mem_cons_of_mem _ hseen)

theorem nodup (h : g.Visits stop seen id visited landing) : visited.Nodup := by
  induction h with
  | again _ => exact List.nodup_nil
  | bottom _ _ => exact List.pairwise_singleton _ _
  | layer _ _ rest ih =>
    exact List.nodup_cons.2 ⟨fun hmem => rest.notMem_seen _ hmem List.mem_cons_self, ih⟩

theorem reaches (h : g.Visits stop seen id visited landing) :
    ∀ x ∈ visited, g.Reaches stop id x := by
  induction h with
  | again _ => exact fun x hx => absurd hx List.not_mem_nil
  | bottom _ _ =>
    intro x hx
    rw [List.mem_singleton.1 hx]
    exact .refl
  | layer _ hs _ ih =>
    intro x hx
    rcases List.mem_cons.1 hx with rfl | hx
    · exact .refl
    · exact .head hs (ih x hx)

theorem start_mem_or (h : g.Visits stop seen id visited landing) :
    id ∈ visited ∨ id = landing.id := by
  cases h with
  | again _ => exact .inr rfl
  | bottom _ _ => exact .inl List.mem_cons_self
  | layer _ _ _ => exact .inl List.mem_cons_self

theorem landing_mem_or (h : g.Visits stop seen id visited landing) :
    landing.id ∈ visited ∨ landing.id ∈ seen := by
  induction h with
  | again h => exact .inr h
  | bottom _ _ => exact .inl List.mem_cons_self
  | layer _ _ _ ih =>
    rcases ih with hin | hin
    · exact .inl (List.mem_cons_of_mem _ hin)
    · rcases List.mem_cons.1 hin with heq | hin
      · exact .inl (List.mem_cons.2 (.inl heq))
      · exact .inr hin

/-- Below a type that is visited lies another one, or the one at which the walk lands. -/
theorem down_mem_or (h : g.Visits stop seen id visited landing) :
    ∀ x ∈ visited, ∀ y, g.Down stop x y → y ∈ visited ∨ y = landing.id := by
  induction h with
  | again _ => exact fun x hx => absurd hx List.not_mem_nil
  | bottom _ hs =>
    intro x hx y hy
    rw [List.mem_singleton.1 hx, Down, hs] at hy
    cases hy
  | layer _ hs rest ih =>
    intro x hx y hy
    rcases List.mem_cons.1 hx with rfl | hx
    · obtain rfl : _ = y := Option.some.inj (hs.symm.trans hy)
      exact rest.start_mem_or.imp_left (List.mem_cons_of_mem _)
    · exact (ih x hx y hy).imp_left (List.mem_cons_of_mem _)

/-- A walk that lands at a type it had not seen has visited all that it can come to. -/
theorem mem_of_reaches (h : g.Visits stop seen id visited landing) (hland : landing.id ∉ seen)
    {x : TypeId} (hx : g.Reaches stop id x) : x ∈ visited := by
  have hmem : landing.id ∈ visited := h.landing_mem_or.resolve_right hland
  induction hx with
  | refl => exact h.start_mem_or.elim (fun hin => hin) fun heq => heq ▸ hmem
  | tail _ hstep ih =>
    exact (h.down_mem_or _ ih _ hstep).elim (fun hin => hin) fun heq => heq ▸ hmem

theorem step?_landing (h : g.Visits stop seen id visited landing) (hend : landing.looped = false) :
    g.step? stop landing.id = none := by
  induction h with
  | again _ => cases hend
  | bottom _ hs => exact hs
  | layer _ _ _ ih => exact ih hend

theorem exists_down (h : g.Visits stop seen id visited landing) (hloop : landing.looped = true) :
    ∀ x ∈ visited, ∃ y, g.Down stop x y := by
  induction h with
  | again _ => exact fun x hx => absurd hx List.not_mem_nil
  | bottom _ _ => cases hloop
  | layer _ hs _ ih =>
    intro x hx
    rcases List.mem_cons.1 hx with rfl | hx
    · exact ⟨_, hs⟩
    · exact ih hloop x hx

/-- Where the types seen lie above `id`, a walk that comes back to a type lands on a cycle, at the
first of its types unless that had been seen. -/
theorem enters (h : g.Visits stop seen id visited landing) (hloop : landing.looped = true) :
    (∀ x ∈ seen, Relation.TransGen (g.Down stop) x id) →
      g.OnCycle stop landing.id ∧ (landing.id ∉ seen → g.Enters stop id landing.id) := by
  induction h with
  | again h =>
    intro hseen
    exact ⟨hseen _ h, fun hnew => absurd h hnew⟩
  | bottom _ _ => cases hloop
  | @layer seen visited id next landing h hs rest ih =>
    intro hseen
    obtain ⟨hcycle, henters⟩ := ih hloop fun x hx => by
      rcases List.mem_cons.1 hx with rfl | hx
      · exact .single hs
      · exact .tail (hseen x hx) hs
    refine ⟨hcycle, fun hnew => ?_⟩
    by_cases hid : landing.id = id
    · rw [hid] at hcycle ⊢
      exact .here hcycle
    · have hbelow : landing.id ∉ id :: seen := by simp [hid, hnew]
      refine .layer (fun hon => ?_) hs (henters hbelow)
      -- the walk from `next` would come back to `id`, which it does not visit
      obtain ⟨next', hs', hback⟩ := Relation.TransGen.head'_iff.1 hon
      obtain rfl : next = next' := Option.some.inj (hs.symm.trans hs')
      exact rest.notMem_seen id (rest.mem_of_reaches hbelow hback) List.mem_cons_self

end Visits

/-- A walk ends at a bottom, or it is endless and ends at the first type of the cycle that it
enters. -/
theorem canonical_cases (g : TypeGraph) (stop : String → Bool) (id : TypeId) :
    (g.canonical stop id).looped = false ∧ ¬g.Endless stop id ∧
        g.step? stop (g.canonical stop id).id = none ∨
      (g.canonical stop id).looped = true ∧ g.Endless stop id ∧
        g.Enters stop id (g.canonical stop id).id := by
  obtain ⟨visited, h⟩ := g.exists_visits stop [] id
  cases hloop : (g.canonical stop id).looped with
  | false =>
    have hbottom := h.step?_landing hloop
    refine .inl ⟨rfl, fun hendless => ?_, hbottom⟩
    obtain ⟨next, hnext⟩ :=
      hendless _ (h.reaches _ (h.landing_mem_or.resolve_right List.not_mem_nil))
    rw [Down, hbottom] at hnext
    cases hnext
  | true =>
    refine .inr ⟨rfl, fun x hx => ?_, ?_⟩
    · exact h.exists_down hloop x (h.mem_of_reaches List.not_mem_nil hx)
    · exact (h.enters hloop fun x hx => absurd hx List.not_mem_nil).2 List.not_mem_nil

theorem reaches_canonical (g : TypeGraph) (stop : String → Bool) (id : TypeId) :
    g.Reaches stop id (g.canonical stop id).id := by
  obtain ⟨visited, h⟩ := g.exists_visits stop [] id
  exact h.reaches _ (h.landing_mem_or.resolve_right List.not_mem_nil)

theorem Enters.onCycle {id entry : TypeId} (h : g.Enters stop id entry) : g.OnCycle stop entry := by
  induction h with
  | here h => exact h
  | layer _ _ _ ih => exact ih

theorem Enters.eq_of_onCycle {id entry : TypeId} (h : g.Enters stop id entry)
    (hid : g.OnCycle stop id) : entry = id := by
  cases h with
  | here _ => rfl
  | layer hnot _ _ => exact absurd hid hnot

theorem Endless.of_reaches {id x : TypeId} (h : g.Endless stop id) (hx : g.Reaches stop id x) :
    g.Endless stop x :=
  fun y hy => h y (hx.trans hy)

/-- A walk from where a walk has landed stays there. -/
theorem canonical_canonical (g : TypeGraph) (stop : String → Bool) (id : TypeId) :
    (g.canonical stop (g.canonical stop id).id).id = (g.canonical stop id).id := by
  rcases g.canonical_cases stop id with ⟨-, -, hbottom⟩ | ⟨-, hendless, henters⟩
  · rw [canonical_of_descent (.bottom hbottom)]
  · have hland := hendless.of_reaches (g.reaches_canonical stop id)
    rcases g.canonical_cases stop (g.canonical stop id).id with ⟨-, hends, -⟩ | ⟨-, -, hagain⟩
    · exact absurd hland hends
    · exact hagain.eq_of_onCycle henters.onCycle

theorem leadsTo_of_reaches {id x : TypeId} (h : g.Reaches stop id x) : g.LeadsTo id x :=
  Relation.ReflTransGen.mono (fun _ _ hs => inner?_of_step? hs) _ _ h

theorem function?_of_canonical {id : TypeId}
    (h : (g.node (g.canonical stop id).id).isFunction) :
    g.function? id = some (g.canonical stop id).id :=
  function?_eq_some_iff.2 ⟨leadsTo_of_reaches (g.reaches_canonical stop id), h⟩

theorem function?_eq_some_iff_canonicalType {id f : TypeId} :
    g.function? id = some f ↔ (g.canonicalType id).id = f ∧ (g.node f).isFunction := by
  constructor
  · intro h
    obtain ⟨hlead, hf⟩ := function?_eq_some_iff.1 h
    obtain ⟨xs, hxs⟩ := descent_of_leadsTo hlead (inner?_of_isFunction hf)
    exact ⟨by rw [canonicalType, canonical_of_descent hxs], hf⟩
  · rintro ⟨rfl, hf⟩
    exact function?_of_canonical hf

theorem step?_eq_none_iff {id : TypeId} : g.step? stop id = none ↔
    g.inner? id = none ∨ ∃ name target, g.node id = .typedef name target ∧ stop name := by
  unfold step? inner?
  split
  · next name target hn =>
    by_cases hstop : stop name <;> simp [hn, hstop, CType.inner?]
  · next hn =>
    constructor
    · exact .inl
    · rintro (h | ⟨name, target, heq, -⟩)
      · exact h
      · exact absurd heq (hn name target)

/-- All walks that remember what they have seen end, and agree. The loop visits each type that it
can come to once and takes one more round at most; it lands at a type that it cannot leave or, if
and only if it would go on for ever, at the first type of the cycle that it enters. The number of
pointers and arrays is that among the types visited, and a function is found where the walk that
stops at no typedef lands on one. -/
theorem seen_walks_agree (g : TypeGraph) (stop : String → Bool) (id : TypeId) :
    (∃ visited : List TypeId,
      g.canonicalWithin stop (g.size + 1) [] id = some (visited, g.canonical stop id) ∧
      visited.Nodup ∧ (∀ x, x ∈ visited ↔ g.Reaches stop id x) ∧
      g.resolvedDepth stop id = g.indirections visited) ∧
    g.Reaches stop id (g.canonical stop id).id ∧
    ((g.canonical stop id).looped = false ∧ ¬g.Endless stop id ∧
        (g.inner? (g.canonical stop id).id = none ∨
          ∃ name target, g.node (g.canonical stop id).id = .typedef name target ∧ stop name) ∨
      (g.canonical stop id).looped = true ∧ g.Endless stop id ∧
        g.Enters stop id (g.canonical stop id).id) ∧
    (g.canonicalType (g.canonicalType id).id).id = (g.canonicalType id).id ∧
    (∀ f, g.function? id = some f ↔ (g.canonicalType id).id = f ∧ (g.node f).isFunction) ∧
    ((g.node (g.canonical stop id).id).isFunction →
      g.function? id = some (g.canonical stop id).id) := by
  refine ⟨?_, g.reaches_canonical stop id, ?_, g.canonical_canonical _ id,
    fun f => function?_eq_some_iff_canonicalType, function?_of_canonical⟩
  · obtain ⟨visited, h⟩ := g.exists_visits stop [] id
    have hsize : g.unseen [] < g.size + 1 := by
      have hle := List.length_filter_le (fun x => decide (x ∉ [])) (List.range g.size)
      rw [List.length_range] at hle
      exact Nat.lt_succ_of_le hle
    exact ⟨visited, h.canonicalWithin_eq _ hsize, h.nodup,
      fun x => ⟨h.reaches x, h.mem_of_reaches List.not_mem_nil⟩, h.resolvedDepthFrom_eq⟩
  · rw [← step?_eq_none_iff]
    exact g.canonical_cases stop id

/-- A pointer (3) to an array (2) of pointers (1) to a typedef (0) for that array. -/
def arrayLoop : TypeGraph :=
  let name := "loop"
  ⟨#[.typedef name (some 2), .pointer 0 false, .array 1 none, .pointer 2 false]⟩

example : arrayLoop.canonicalType 3 = ⟨2, true⟩ ∧
    arrayLoop.canonical (· == "loop") 3 = ⟨0, false⟩ ∧
    arrayLoop.resolvedDepth (fun _ => false) 3 = 3 ∧ arrayLoop.function? 3 = none := by
  decide +kernel

end HeaderBindings.TypeGraph
