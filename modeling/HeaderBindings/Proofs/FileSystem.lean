import HeaderBindings.FileSystem
import HeaderBindings.Proofs.Lookup

/-! What is in the files after a path has been written to, or directories have been made. A path
leads to its place wherever it leads anywhere, so a write changes one file, and making directories
changes none. -/

namespace HeaderBindings.FileSystem

open Text

variable {fs : FileSystem} {p : Path} {place : Place} {content : Bytes}

theorem file?_putFile (fs : FileSystem) (place : Place) (content : Bytes) (other : Place) :
    (fs.putFile place content).file? other =
      if other = place then some content else fs.file? other := by
  unfold putFile file?
  by_cases h : other = place
  · simp [h]
  · rw [if_neg h, List.lookup_cons, beq_eq_false_iff_ne.2 h]
    exact lookup_filter_ne h fs.files

/-- Making directories changes no file. -/
theorem makeBelow_files (names : List Bytes) (fs : FileSystem) (place : Place) :
    (fs.makeBelow place names).2.files = fs.files := by
  induction names generalizing fs place with
  | nil => rfl
  | cons name rest ih =>
    rw [makeBelow]
    split
    · exact ih fs _
    · split
      · rfl
      · split
        · rfl
        · exact ih _ _

theorem makeDirectories_files (fs : FileSystem) (p : Path) :
    (fs.makeDirectories p).2.files = fs.files := by
  unfold makeDirectories
  split
  · rfl
  · exact makeBelow_files _ _ _

/-- A path goes on from a name if the name is not too long and leads to a directory. -/
theorem follow_cons_cons {start : Place} {name second : Bytes} {rest : List Bytes} :
    fs.follow start (name :: second :: rest) = .ok place ↔
      name.length ≤ Path.maxName ∧ fs.isDirectory (start.down name) ∧
        fs.follow (start.down name) (second :: rest) = .ok place := by
  rw [follow]
  · by_cases hlength : Path.maxName < name.length
    · simp [hlength, Nat.not_le_of_lt hlength]
    · by_cases hthere : fs.isDirectory (start.down name)
      · simp [hlength, hthere, Nat.le_of_not_lt hlength]
      · simp [hlength, hthere]
  · simp

theorem follow_singleton {start : Place} {name : Bytes} :
    fs.follow start [name] = .ok place ↔
      name.length ≤ Path.maxName ∧ place = start.down name := by
  rw [follow]
  by_cases hlength : Path.maxName < name.length
  · simp [hlength, Nat.not_le_of_lt hlength]
  · simp [hlength, Nat.le_of_not_lt hlength, eq_comm]

theorem eq_foldl_of_follow {names : List Bytes} {start : Place}
    (h : fs.follow start names = .ok place) : place = names.foldl Place.down start := by
  induction names generalizing start with
  | nil => cases h; rfl
  | cons name rest ih =>
    cases rest with
    | nil => exact (follow_singleton.1 h).2
    | cons second rest => exact ih (follow_cons_cons.1 h).2.2

/-- A new file is not in the way of names that lead somewhere. -/
theorem follow_putFile {names : List Bytes} {start other : Place}
    (hfollow : fs.follow start names = .ok place) :
    (fs.putFile other content).follow start names = .ok place := by
  induction names generalizing start with
  | nil => exact hfollow
  | cons name rest ih =>
    cases rest with
    | nil => exact follow_singleton.2 (follow_singleton.1 hfollow)
    | cons second rest =>
      obtain ⟨hlength, hthere, hrest⟩ := follow_cons_cons.1 hfollow
      exact follow_cons_cons.2 ⟨hlength, hthere, ih hrest⟩

theorem refusal?_of_locate (h : fs.locate p = .ok place) : p.refusal? = none := by
  unfold locate at h
  cases hrefusal : p.refusal? with
  | none => rfl
  | some refusal => rw [hrefusal] at h; cases h

/-- A path that leads anywhere leads to its place. -/
theorem eq_place_of_locate (h : fs.locate p = .ok place) : place = p.place := by
  have hrefusal := refusal?_of_locate h
  rw [locate, hrefusal] at h
  exact eq_foldl_of_follow h

theorem locate_putFile {other : Place} (hlocate : fs.locate p = .ok place) :
    (fs.putFile other content).locate p = .ok place := by
  have hrefusal := refusal?_of_locate hlocate
  rw [locate, hrefusal] at hlocate ⊢
  exact follow_putFile hlocate

/-- A write that is not refused puts its content at the place of the path, which is no directory. -/
theorem write_eq_ok {fs' : FileSystem} (h : fs.write p content = .ok fs') :
    fs' = fs.putFile p.place content ∧ fs.locate p = .ok p.place ∧
      fs.isDirectory p.place = false ∧ p.endsInName = true := by
  unfold write at h
  cases hlocate : fs.locate p with
  | error refusal => rw [hlocate] at h; cases h
  | ok place =>
    obtain rfl := eq_place_of_locate hlocate
    rw [hlocate] at h
    cases hthere : fs.isDirectory p.place with
    | true => simp [hthere, bind, Except.bind, throw, throwThe, MonadExceptOf.throw] at h
    | false =>
      cases hname : p.endsInName with
      | false => simp [hthere, hname, bind, Except.bind, throw, throwThe, MonadExceptOf.throw] at h
      | true =>
        simp [hthere, hname, bind, Except.bind, pure, Except.pure] at h
        exact ⟨h.symm, rfl, rfl, rfl⟩

/-- What has been written is read back. -/
theorem read_of_write {fs' : FileSystem} (h : fs.write p content = .ok fs') :
    fs'.read p = .ok content := by
  obtain ⟨rfl, hlocate, hthere, hname⟩ := write_eq_ok h
  have hafter : (fs.putFile p.place content).locate p = .ok p.place := locate_putFile hlocate
  have hstill : (fs.putFile p.place content).isDirectory p.place = false := hthere
  have hfile : (fs.putFile p.place content).file? p.place = some content := by
    rw [file?_putFile, if_pos rfl]
  simp [read, hafter, hstill, hfile, hname, bind, Except.bind, pure, Except.pure]

/-- What is read at a path is read from the file at its place. -/
theorem read_eq_ok (h : fs.read p = .ok content) :
    fs.file? p.place = some content ∧ p.endsInName = true := by
  unfold read at h
  cases hlocate : fs.locate p with
  | error refusal => rw [hlocate] at h; cases h
  | ok place =>
    obtain rfl := eq_place_of_locate hlocate
    rw [hlocate] at h
    cases hthere : fs.isDirectory p.place with
    | true => simp [hthere, bind, Except.bind, throw, throwThe, MonadExceptOf.throw] at h
    | false =>
      cases hfile : fs.file? p.place with
      | none => simp [hthere, hfile, bind, Except.bind, throw, throwThe, MonadExceptOf.throw] at h
      | some found =>
        cases hname : p.endsInName with
        | false =>
          simp [hthere, hfile, hname, bind, Except.bind, throw, throwThe, MonadExceptOf.throw] at h
        | true =>
          simp [hthere, hfile, hname, bind, Except.bind, pure, Except.pure] at h
          exact ⟨by rw [h], rfl⟩

/-- The directory of a path is made, if it has one that is not there. -/
def withParent (fs : FileSystem) (p : Path) : Except Refusal Unit × FileSystem :=
  match p.parent? with
  | none => (.ok (), fs)
  | some parent =>
    if parent.isEmpty || fs.isThere parent then (.ok (), fs) else fs.makeDirectories parent

/-- The files after the directory of a path has been made and a content written to the path, where
neither is refused. -/
def saved? (fs : FileSystem) (p : Path) (content : Bytes) : Option FileSystem :=
  match fs.withParent p with
  | (.ok (), made) => (made.write p content).toOption
  | (.error _, _) => none

theorem withParent_files (fs : FileSystem) (p : Path) : (fs.withParent p).2.files = fs.files := by
  unfold withParent
  split
  · rfl
  · split
    · rfl
    · exact makeDirectories_files _ _

theorem saved?_of_made {made : FileSystem} (h : fs.withParent p = (.ok (), made)) :
    fs.saved? p content = (made.write p content).toOption := by
  rw [saved?, h]

theorem saved?_of_refused {refusal : Refusal} {made : FileSystem}
    (h : fs.withParent p = (.error refusal, made)) : fs.saved? p content = none := by
  rw [saved?, h]

/-- A saved content is read back, and no other file has changed. -/
theorem of_saved? {after : FileSystem} (h : fs.saved? p content = some after) :
    after.read p = .ok content ∧
      ∀ place, after.file? place = if place = p.place then some content else fs.file? place := by
  have hfiles := fs.withParent_files p
  cases hmade : fs.withParent p with
  | mk result made =>
    rw [hmade] at hfiles
    cases result with
    | error refusal =>
      rw [saved?_of_refused hmade] at h
      cases h
    | ok u =>
      rw [saved?_of_made hmade] at h
      cases hwrite : made.write p content with
      | error refusal =>
        rw [hwrite] at h
        cases h
      | ok written =>
        rw [hwrite] at h
        obtain rfl : written = after := Option.some.inj h
        refine ⟨read_of_write hwrite, fun place => ?_⟩
        rw [(write_eq_ok hwrite).1, file?_putFile, file?, hfiles, file?]

end HeaderBindings.FileSystem
