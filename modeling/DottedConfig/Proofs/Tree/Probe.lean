/-
What the disk says of a row.

A row names a place by going down one directory for each segment, and stops at the first
segment that is no plain name.  All that `probe` says is about the place that it ends up
at: of the row itself only this place matters, and the two ways there, from the base
down or from the place of the segments before the last, come to the same.
-/
import DottedConfig.Proofs.Path
import DottedConfig.Tree.Site

namespace DottedConfig.Site

variable {site : Site} {ns : Namespace}

/-! ### Places -/

/-- The place of a row is one step down from that of the segments before its last. -/
theorem place_append_singleton {directory path : String} {before : List String}
    (h : place directory before = .ok path) (part : String) :
    place directory (before ++ [part]) =
      if Path.isPlainName part then .ok (Path.join path part)
      else .error (nothingAt (Path.join path part)) := by
  induction before generalizing directory with
  | nil => cases h; rfl
  | cons first rest ih =>
      rw [place] at h
      rw [List.cons_append, place]
      split at h
      · rename_i hplain
        rw [if_pos hplain, ih h]
      · cases h

/-- A row with a segment that is no plain name does not name a place. -/
theorem place_of_not_plain {directory part : String} {row : List String} (hmem : part ∈ row)
    (hplain : ¬Path.isPlainName part) :
    ∃ stopped, place directory row = .error (nothingAt stopped) := by
  induction row generalizing directory with
  | nil => cases hmem
  | cons first rest ih =>
      rw [place]
      split
      · rename_i hfirst
        rcases List.mem_cons.mp hmem with rfl | hmem
        · exact absurd hfirst hplain
        · exact ih hmem
      · exact ⟨_, rfl⟩

/-- The place of a row is where its segments lead, and they are plain names. -/
theorem place_eq_ok {directory path : String} {row : List String}
    (h : place directory row = .ok path) :
    path = Path.joinAll directory row ∧ ∀ s ∈ row, Path.isPlainName s := by
  induction row generalizing directory with
  | nil =>
      cases h
      exact ⟨rfl, fun s hs => absurd hs List.not_mem_nil⟩
  | cons part rest ih =>
      rw [place] at h
      split at h
      · rename_i hplain
        obtain ⟨hpath, hrest⟩ := ih h
        exact ⟨hpath, List.forall_mem_cons.mpr ⟨hplain, hrest⟩⟩
      · cases h

/-- A row of plain names has a place. -/
theorem place_of_plain {row : List String} (h : ∀ s ∈ row, Path.isPlainName s)
    (directory : String) : place directory row = .ok (Path.joinAll directory row) := by
  induction row generalizing directory with
  | nil => rfl
  | cons s rest ih =>
      obtain ⟨hs, hrest⟩ := List.forall_mem_cons.mp h
      rw [place, if_pos hs, ih hrest]
      rfl

/-! ### What stands there -/

theorem probe_of_place_error {row : List String} {f : Failure}
    (h : place site.base row = .error f) : (site.probe ns row).1 = .error f := by
  rw [probe, h]

theorem probe_of_place {row : List String} {path : String} (h : place site.base row = .ok path) :
    (site.probe ns row).1 =
      if site.disk.isFile (Path.yaml path) ||
          (site.disk.has (Path.yaml path) && !site.disk.isDirectory path) then
        (site.loader site.disk (Path.yaml path) ns).map (Cache.Entry.file (Path.yaml path))
      else if site.disk.isDirectory path then .ok (.directory path)
      else .error (nothingAt path) := by
  rw [probe, h]
  show (if _ then _ else if _ then _ else _ : Except Failure Cache.Entry × List Note).1 = _
  split
  · cases site.loader site.disk (Path.yaml path) ns <;> rfl
  · split <;> rfl

/-- All that can come of looking on the disk for a row.  Only a row of plain names finds
anything, and only its own file is ever loaded. -/
inductive Probed (site : Site) (ns : Namespace) (row : List String) :
    Except Failure Cache.Entry × List Note → Prop where
  /-- A directory stands at its place. -/
  | directory {notes : List Note} (hplain : ∀ s ∈ row, Path.isPlainName s)
      (hloads : Note.loads notes = []) :
      Probed site ns row (.ok (.directory (Path.joinAll site.base row)), notes)
  /-- The loader makes the content of its file. -/
  | made {content : Value} {notes : List Note} (hplain : ∀ s ∈ row, Path.isPlainName s)
      (hload : site.loader site.disk (Path.fileAt site.base row) ns = .ok content)
      (hloads : Note.loads notes = [Path.fileAt site.base row]) :
      Probed site ns row (.ok (.file (Path.fileAt site.base row) content), notes)
  /-- The loader fails with its file. -/
  | refused {f : Failure} {notes : List Note} (hplain : ∀ s ∈ row, Path.isPlainName s)
      (hload : site.loader site.disk (Path.fileAt site.base row) ns = .error f)
      (hloads : Note.loads notes = [Path.fileAt site.base row]) :
      Probed site ns row (.error f, notes)
  /-- Nothing stands at its place, or it has none. -/
  | nothing {f : Failure} {notes : List Note} (hloads : Note.loads notes = []) :
      Probed site ns row (.error f, notes)

theorem probed_probe (site : Site) (ns : Namespace) (row : List String) :
    Probed site ns row (site.probe ns row) := by
  rw [probe]
  cases hplace : place site.base row with
  | error f => exact .nothing rfl
  | ok path =>
      obtain ⟨rfl, hplain⟩ := place_eq_ok hplace
      simp only
      split
      · split
        · rename_i hload
          exact .made hplain hload rfl
        · rename_i hload
          exact .refused hplain hload rfl
      · split
        · exact .directory hplain rfl
        · exact .nothing rfl

end DottedConfig.Site
