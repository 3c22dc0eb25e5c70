import HeaderBindings.CommandLine
import HeaderBindings.Proofs.Config.Layers
import HeaderBindings.Proofs.Path
import HeaderBindings.Proofs.Run

/-! Where the configuration of a run comes from: the file that is named on the command line, with
its relative paths seen from its own directory, and behind it the command line. -/

namespace HeaderBindings

open Text

/-- `dir` is the directory of the file at a path: it has the names of the path without the last. -/
structure Path.IsDirectoryOf (dir path : Path) : Prop where
  parent : path.parent? = some dir
  names : dir.names = path.names.dropLast
  isAbsolute : dir.isAbsolute = path.isAbsolute

/-- A file that can be read is in a directory. -/
theorem FileSystem.exists_isDirectoryOf {files : FileSystem} {path : Path} {content : Bytes}
    (h : files.read path = .ok content) : ∃ dir : Path, dir.IsDirectoryOf path := by
  have hnames := Path.names_ne_nil_of_endsInName (read_eq_ok h).2
  obtain ⟨dir, hparent, hdir, habsolute⟩ := Path.exists_parent hnames
  exact ⟨dir, hparent, hdir, habsolute⟩

/-- The text of a file, where it can be read and is text. -/
theorem Action.ensures_readText (path : Path) (files : FileSystem) :
    (readText path).Ensures files fun result after => after = files ∧ ∀ text,
      result = .ok text ↔
        ∃ content, files.read path = .ok content ∧ decode? content = some text := by
  refine Ensures.after_get fun log => ?_
  dsimp only
  split
  · next refusal hread =>
    exact ensures_throw ⟨rfl, by simp [hread]⟩
  · next content hread =>
    split
    · next htext => exact ensures_throw ⟨rfl, by simp [hread, htext]⟩
    · next text htext => exact ensures_pure ⟨rfl, by simp [hread, htext]⟩

namespace PartialConfig

/-- What a file sets: what is written in it, but with the header, the output and the include
directories seen from the directory of the file. -/
def InFile (files : FileSystem) (path : Path) (inFile : PartialConfig) : Prop :=
  ∃ (content : Bytes) (text : String) (written : PartialConfig) (dir : Path),
    files.read path = .ok content ∧ decode? content = some text ∧ read? text = some written ∧
    dir.IsDirectoryOf path ∧
    inFile = { written with
      header := written.header.map dir.join
      output := written.output.map dir.join
      includeDirs := written.includeDirs.map dir.join }

theorem ensures_load (path : Path) (files : FileSystem) :
    (load path).Ensures files fun result after => after = files ∧ ∀ inFile,
      result = .ok inFile ↔ InFile files path inFile := by
  refine Action.Ensures.after_logs (Action.logs_record _) ?_
  refine (Action.ensures_readText path files).bind ?_ ?_
  · rintro text files ⟨rfl, htext⟩
    obtain ⟨content, hread, hdecode⟩ := (htext text).1 rfl
    have hother {content' : Bytes} {text' : String} (hread' : files.read path = .ok content')
        (hdecode' : decode? content' = some text') : text' = text := by
      cases hread.symm.trans hread'
      exact Option.some.inj (hdecode'.symm.trans hdecode)
    split
    · next hwritten =>
      refine Action.ensures_throw ⟨rfl, fun inFile => ⟨nofun, ?_⟩⟩
      rintro ⟨content', text', written, dir, hread', hdecode', hread?, -⟩
      rw [hother hread' hdecode', hwritten] at hread?
      cases hread?
    · next written hwritten =>
      obtain ⟨dir, hdir⟩ := FileSystem.exists_isDirectoryOf hread
      rw [hdir.parent]
      refine Action.ensures_pure ⟨rfl, fun inFile => ⟨?_, ?_⟩⟩
      · intro hinFile
        cases hinFile
        exact ⟨content, text, written, dir, hread, hdecode, hwritten, hdir, rfl⟩
      · rintro ⟨content', text', written', dir', hread', hdecode', hread?, hdir', rfl⟩
        rw [hother hread' hdecode', hwritten] at hread?
        cases hread?
        cases hdir.parent.symm.trans hdir'.parent
        rfl
  · rintro e files ⟨rfl, htext⟩
    refine ⟨rfl, fun inFile => ⟨nofun, ?_⟩⟩
    rintro ⟨content, text, -, -, hread, hdecode, -⟩
    cases (htext text).2 ⟨content, hread, hdecode⟩

end PartialConfig

namespace Invocation

open PartialConfig

/-- The layers of a run: what the file sets, if one is given, and then the command line. -/
def Layers (i : Invocation) (files : FileSystem) (layers : List PartialConfig) : Prop :=
  match i.configFile with
  | none => layers = [i.settings]
  | some path => ∃ inFile, InFile files path inFile ∧ layers = [inFile, i.settings]

theorem ensures_config {i : Invocation} {files : FileSystem} {layers : List PartialConfig}
    (h : i.Layers files layers) :
    i.config.Ensures files fun result _ => result = Config.ofPartial (byField layers) := by
  unfold config
  unfold Layers at h
  cases hfile : i.configFile
  all_goals rw [hfile] at h
  case' some path =>
    obtain ⟨inFile, hinFile, rfl⟩ := h
    have hlayers : byField [inFile, i.settings] = inFile.merge i.settings := by
      rw [← layered_eq_byField, layered, List.foldl_cons, default_merge, List.foldl_cons,
        List.foldl_nil]
    refine (ensures_load path files).bind (fun base after hload => ?_)
      fun e after hload => by cases (hload.2 inFile).2 hinFile
    obtain rfl : base = inFile := Except.ok.inj ((hload.2 inFile).2 hinFile)
  case' none =>
    obtain rfl : layers = [i.settings] := h
    have hlayers : byField [i.settings] = merge {} i.settings := (layered_eq_byField _).symm
    refine (Action.ensures_pure (P := fun result _ => result = .ok {}) rfl).bind
      (fun base after hbase => ?_) fun e after hbase => by cases hbase
    obtain rfl : base = {} := Except.ok.inj hbase
  all_goals
    dsimp only
    rw [hlayers]
    split
    · next hok => exact Action.ensures_pure hok.symm
    · next herror => exact Action.ensures_throw herror.symm

/-- Merged configurations have each value from the last layer that sets it and the lists of all
layers, however the merges are bracketed. The layers of a run are the file and the command line; the
run has the configuration that completes them, or it fails with the first required key that is in
neither. Paths in the file are seen from its directory, unless they are absolute. -/
theorem config_of_layers (i : Invocation) (s : Session) :
    let result := (i.config.run.run s).1
    (∀ layers : List PartialConfig, layered layers = byField layers) ∧
    (∀ p q r : PartialConfig, (p.merge q).merge r = p.merge (q.merge r)) ∧
    (∀ p : PartialConfig, merge {} p = p ∧ p.merge {} = p) ∧
    (∀ b : Bracketing, b.result = layered b.layers) ∧
    (∀ path inFile, ((load path).run.run s).1 = .ok inFile ↔ InFile s.files path inFile) ∧
    (∀ dir other : Path, if other.isAbsolute then dir.join other = other
      else (dir.join other).names = dir.names ++ other.names ∧
        (dir.join other).place = other.names.foldl Place.down dir.place) ∧
    (∀ layers, i.Layers s.files layers →
      (∀ c, result = .ok c ↔ c.Completes (byField layers)) ∧
      ∀ e, result = .error e ↔
        ∃ key, missing? layers = some key ∧ e = ⟨.invalidConfig (.missing key), []⟩) := by
  intro result
  refine ⟨layered_eq_byField, merge_assoc, fun p => ⟨default_merge p, merge_default p⟩,
    Bracketing.result_eq, ?_, ?_, ?_⟩
  · intro path
    exact (ensures_load path s.files s.log).2
  · intro dir other
    split
    · next h => exact Path.join_of_isAbsolute h
    · next h => exact ⟨Path.names_join h, Path.place_join h⟩
  · intro layers hlayers
    have hresult : result = Config.ofPartial (byField layers) := ensures_config hlayers s.log
    rw [hresult, ← missing?_byField]
    exact ⟨fun c => Config.ofPartial_eq_ok, fun e => Config.ofPartial_eq_error⟩

/-- A file in a directory that sets all that is required. -/
def fileInDirectory : Session where
  files := FileSystem.withFile {} (.ofString "conf/lib.toml") (Bytes.ofString
    ("header = \"include/lib.h\"\noutput = \"/out/Lib.bf\"\nlibrary = \"lib.dll\"\n" ++
      "namespace = \"Lib\"\ninclude_dirs = [\"sys\"]\n"))

theorem config_of_layers_fileInDirectory :
    let settings : PartialConfig := { space := some "Vendor.Lib", includeDirs := [.ofString "sys"] }
    let result (i : Invocation) := (i.config.run.run fileInDirectory).1
    result { configFile := some (.ofString "conf/lib.toml"), settings } =
      .ok ⟨.ofString "conf/include/lib.h", .ofString "/out/Lib.bf", "lib.dll", "Vendor.Lib",
        [.ofString "conf/sys", .ofString "sys"], [], .c, none, true, []⟩ ∧
    result { settings } = .error ⟨.invalidConfig (.missing "header"), []⟩ := by
  intro settings result
  constructor
  · let i : Invocation := { configFile := some (.ofString "conf/lib.toml"), settings }
    let inFile : PartialConfig := {
      header := some (.ofString "conf/include/lib.h")
      output := some (.ofString "/out/Lib.bf")
      library := some "lib.dll"
      space := some "Lib"
      includeDirs := [.ofString "conf/sys"] }
    obtain ⟨-, -, -, -, hload, -, hconfig⟩ := config_of_layers i fileInDirectory
    have hinFile : InFile fileInDirectory.files (.ofString "conf/lib.toml") inFile :=
      (hload _ _).1 (by decide +kernel)
    refine ((hconfig [inFile, settings] ⟨inFile, hinFile, rfl⟩).1 _).2 ?_
    exact ⟨rfl, rfl, rfl, rfl, rfl, rfl, rfl, rfl, rfl, rfl⟩
  · obtain ⟨-, -, -, -, -, -, hconfig⟩ := config_of_layers { settings } fileInDirectory
    exact ((hconfig [settings] rfl).2 _).2 ⟨"header", rfl, rfl⟩

end Invocation

end HeaderBindings
