import HeaderBindings.Proofs.Firsts
import HeaderBindings.Proofs.Lookup
import HeaderBindings.Proofs.Report.Declarations

/-! Declarations by files. A unit holds the declarations of one file in the order in which they were
found, and the units stand in the order in which their files were. -/

namespace HeaderBindings

namespace SourceUnit

/-- The unit of a file. -/
def ofFile (found : List (String × Declaration)) (file : String) : SourceUnit :=
  ⟨file, (found.filter fun entry => entry.1 = file).map Prod.snd⟩

variable {found : List (String × Declaration)} {entry : String × Declaration}

theorem ofFile_append_of_ne {file : String} (h : entry.1 ≠ file) :
    ofFile (found ++ [entry]) file = ofFile found file := by
  rw [ofFile, List.filter_append, List.filter_cons_of_neg (by simpa using h), List.filter_nil,
    List.append_nil]
  rfl

theorem ofFile_append_self : ofFile (found ++ [entry]) entry.1 =
    ⟨entry.1, (ofFile found entry.1).declarations ++ [entry.2]⟩ := by
  rw [ofFile, List.filter_append, List.filter_cons_of_pos (by simp), List.filter_nil,
    List.map_append]
  rfl

theorem place_of_mem {files : List String} (hfiles : files.Nodup) (h : entry.1 ∈ files) :
    place (files.map (ofFile found)) entry.1 entry.2 = files.map (ofFile (found ++ [entry])) := by
  induction files with
  | nil => cases h
  | cons file rest ih =>
    obtain ⟨hfile, hrest⟩ := List.nodup_cons.1 hfiles
    rw [List.map_cons, List.map_cons, place]
    rcases List.mem_cons.1 h with rfl | h
    · have hothers : rest.map (ofFile (found ++ [entry])) = rest.map (ofFile found) :=
        List.map_congr_left fun other hother =>
          ofFile_append_of_ne fun heq => hfile (heq ▸ hother)
      rw [if_pos (by rfl), ofFile_append_self, hothers]
      rfl
    · have hne : entry.1 ≠ file := fun heq => hfile (heq ▸ h)
      rw [if_neg (show (ofFile found file).file ≠ entry.1 from Ne.symm hne),
        ofFile_append_of_ne hne, ih hrest h]

theorem place_of_notMem {files : List String} (hfiles : entry.1 ∉ files)
    (hfound : entry.1 ∉ found.map Prod.fst) :
    place (files.map (ofFile found)) entry.1 entry.2 =
      (files ++ [entry.1]).map (ofFile (found ++ [entry])) := by
  induction files with
  | nil =>
    have hnone : found.filter (fun other => other.1 = entry.1) = [] :=
      List.filter_eq_nil_iff.2 fun other hother => by
        have hne : other.1 ≠ entry.1 := fun heq => hfound (heq ▸ List.mem_map_of_mem hother)
        simpa using hne
    rw [List.nil_append, List.map_singleton, ofFile_append_self, ofFile, hnone]
    rfl
  | cons file rest ih =>
    obtain ⟨hfile, hrest⟩ := not_or.1 (mt List.mem_cons.2 hfiles)
    rw [List.cons_append, List.map_cons, List.map_cons, place,
      if_neg (show (ofFile found file).file ≠ entry.1 from Ne.symm hfile),
      ofFile_append_of_ne hfile, ih hrest]

theorem nodup_files (found : List (String × Declaration)) :
    (found.map Prod.fst).eraseDups.Nodup :=
  map_firsts Prod.fst found ▸ nodup_map_firstsBeyond Prod.fst [] found

/-- One unit for each file, in the order of the files. -/
theorem group_eq (found : List (String × Declaration)) :
    group found = (found.map Prod.fst).eraseDups.map (ofFile found) := by
  induction found using List.reverseRecOn with
  | nil => rfl
  | append_singleton before entry ih =>
    have hgroup : group (before ++ [entry]) = place (group before) entry.1 entry.2 := by
      unfold group
      rw [List.foldl_append]
      rfl
    rw [hgroup, ih, List.map_append, List.map_singleton, eraseDups_concat]
    split
    · next hmem => exact place_of_mem (nodup_files before) (List.mem_eraseDups.2 hmem)
    · next hmem => exact place_of_notMem (fun h => hmem (List.mem_eraseDups.1 h)) hmem

end SourceUnit

end HeaderBindings
