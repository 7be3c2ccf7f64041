/-
What a walk along a row records, and what it loads.

A walk asks for the prefixes of a row, from the shortest on, and goes on as long as it is
told of directories.  `Walked` is all that later files need to know of it: nothing recorded
is lost, what is added stands where its row says it does, below directories that are recorded
too, and the loader is asked for one file at most.  It is asked only for a file that is not
recorded, and if it makes the content, this is what ends up recorded.

Asking for one prefix is such a walk by itself, by what looking on the disk can come to.  A
directory never costs a load, so in a whole walk only the last step can.

None of this asks anything of the cache that the walk starts with.
-/
import DottedConfig.Proofs.Path
import DottedConfig.Proofs.Tree.Probe
import DottedConfig.Proofs.Tree.Question

namespace DottedConfig

open DottedConfig.Tree (IsRow IsSegment isRow_append_singleton)

/-! ### Recorded rows -/

namespace Cache

/-- Whatever the first cache holds, the second one holds too. -/
def Keeps (cache cache' : Cache) : Prop :=
  ∀ key entry, cache.get? key = some entry → cache'.get? key = some entry

namespace Keeps

variable {cache cache' cache'' : Cache}

theorem refl (cache : Cache) : Keeps cache cache := fun _ _ h => h

theorem trans (h : Keeps cache cache') (h' : Keeps cache' cache'') : Keeps cache cache'' :=
  fun key entry hentry => h' key entry (h key entry hentry)

theorem insert {key : String} (h : cache.get? key = none) (entry : Entry) :
    Keeps cache (cache.insert key entry) := by
  intro key' entry' h'
  have hne : key' ≠ key := by
    rintro rfl
    rw [h] at h'
    cases h'
  rw [SortedMap.get?_insert_ne cache hne]
  exact h'

/-- What is missing afterwards was missing before. -/
theorem get?_eq_none (h : Keeps cache cache') {key : String} (hnone : cache'.get? key = none) :
    cache.get? key = none := by
  cases hentry : cache.get? key with
  | none => rfl
  | some entry =>
      rw [h key entry hentry] at hnone
      cases hnone

end Keeps

/-- A row is recorded as a directory, and so is every shorter one that begins it. -/
def Leads (cache : Cache) (row : List String) : Prop :=
  ∀ above, above ≠ [] → above <+: row →
    ∃ path, cache.get? (Text.joinDots above) = some (.directory path)

/-- A row of names that recorded directories lead to. -/
structure Reaches (cache : Cache) (row : List String) : Prop where
  /-- There is a first name. -/
  nonempty : row ≠ []
  /-- The row holds names only. -/
  names : ∀ s ∈ row, Path.IsName s
  /-- All that is above it is recorded as a directory. -/
  above : ∀ above, above ≠ [] → above <+: row → above ≠ row →
    ∃ path, cache.get? (Text.joinDots above) = some (.directory path)

/-- An entry is recorded for a row, and it is what stands at the place of this row. -/
structure Records (cache : Cache) (base : String) (row : List String) (entry : Entry) : Prop
    extends Reaches cache row where
  /-- The entry goes under the dotted text of the row. -/
  recorded : cache.get? (Text.joinDots row) = some entry
  /-- It is the directory there, or the file. -/
  stands : entry = .directory (Path.joinAll base row) ∨
    ∃ content, entry = .file (Path.fileAt base row) content

variable {cache cache' : Cache} {row : List String}

theorem leads_nil (cache : Cache) : Leads cache [] := by
  intro above hne hbegins
  exact absurd (List.prefix_nil.mp hbegins) hne

theorem Leads.mono (h : Leads cache row) (hkeeps : Keeps cache cache') : Leads cache' row := by
  intro above hne hbegins
  obtain ⟨path, hpath⟩ := h above hne hbegins
  exact ⟨path, hkeeps _ _ hpath⟩

theorem Leads.append_singleton {part path : String} (h : Leads cache row)
    (hpart : cache.get? (Text.joinDots (row ++ [part])) = some (.directory path)) :
    Leads cache (row ++ [part]) := by
  intro above hne hbegins
  rcases List.prefix_concat_iff.mp hbegins with rfl | hbegins
  · exact ⟨path, hpart⟩
  · exact h above hne hbegins

/-- A name after directories makes a row that they lead to. -/
theorem Leads.reaches {part : String} (h : Leads cache row)
    (hnames : ∀ s ∈ row ++ [part], Path.IsName s) : Reaches cache (row ++ [part]) := by
  refine ⟨by simp, hnames, fun above hne hbegins hproper => ?_⟩
  rcases List.prefix_concat_iff.mp hbegins with rfl | hbegins
  · exact absurd rfl hproper
  · exact h above hne hbegins

theorem Reaches.mono (h : Reaches cache row) (hkeeps : Keeps cache cache') :
    Reaches cache' row := by
  refine ⟨h.nonempty, h.names, fun above hne hbegins hproper => ?_⟩
  obtain ⟨path, hpath⟩ := h.above above hne hbegins hproper
  exact ⟨path, hkeeps _ _ hpath⟩

theorem Records.mono {base : String} {entry : Entry} (h : Records cache base row entry)
    (hkeeps : Keeps cache cache') : Records cache' base row entry :=
  ⟨h.toReaches.mono hkeeps, hkeeps _ _ h.recorded, h.stands⟩

end Cache

/-! ### Asking for one row -/

/-- The names are the segments that are plain. -/
theorem Path.isName_of_isSegment {s : String} (h : IsSegment s) (hplain : Path.isPlainName s) :
    Path.IsName s := by
  obtain ⟨-, -, hslash, hbackslash⟩ := Path.isPlainName_iff.mp hplain
  exact ⟨h.1, h.2, hslash, hbackslash⟩

namespace Site

variable {site : Site} {ns : Namespace} {row : List String} {cache : Cache}

theorem entry_of_cached {entry : Cache.Entry} (h : cache.get? (Text.joinDots row) = some entry) :
    site.entry ns row cache = ⟨.ok entry, cache, [.log (.hit (Text.joinDots row))]⟩ := by
  rw [Site.entry, Cache.fetch_of_present h, Option.getD_none]

theorem entry_of_missing_ok {entry : Cache.Entry} {notes : List Note}
    (h : cache.get? (Text.joinDots row) = none) (hprobe : site.probe ns row = (.ok entry, notes)) :
    site.entry ns row cache = ⟨.ok entry, cache.insert (Text.joinDots row) entry, notes⟩ := by
  rw [Site.entry, Cache.fetch_of_missing h, hprobe]
  rfl

theorem entry_of_missing_error {f : Failure} {notes : List Note}
    (h : cache.get? (Text.joinDots row) = none) (hprobe : site.probe ns row = (.error f, notes)) :
    site.entry ns row cache = ⟨.error f, cache, notes⟩ := by
  rw [Site.entry, Cache.fetch_of_missing h, hprobe]
  rfl

/-- Asking for a row never loses an entry, whatever the row is. -/
theorem keeps_entry (site : Site) (ns : Namespace) (row : List String) (cache : Cache) :
    cache.Keeps (site.entry ns row cache).cache := by
  cases hcached : cache.get? (Text.joinDots row) with
  | some entry =>
      rw [entry_of_cached hcached]
      exact .refl cache
  | none =>
      rcases hprobe : site.probe ns row with ⟨found, notes⟩
      cases found with
      | error f =>
          rw [entry_of_missing_error hcached hprobe]
          exact .refl cache
      | ok entry =>
          rw [entry_of_missing_ok hcached hprobe]
          exact .insert hcached entry

/-! ### Walking along a row -/

/-- The loader is asked for the file of a row and for no other. -/
structure Loads (site : Site) (ns : Namespace) (row : List String) (cache cache' : Cache)
    (notes : List Note) : Prop extends Cache.Reaches cache' row where
  /-- This is what it is asked for. -/
  loads : Note.loads notes = [Path.fileAt site.base row]
  /-- The row was not recorded. -/
  missing : cache.get? (Text.joinDots row) = none
  /-- If the content could be made, the file is recorded now. -/
  kept : ∀ content, site.loader site.disk (Path.fileAt site.base row) ns = .ok content →
    cache'.get? (Text.joinDots row) = some (.file (Path.fileAt site.base row) content)

/-- What a walk along a row makes of a cache, and what it reports. -/
structure Walked (site : Site) (ns : Namespace) (row : List String) (cache cache' : Cache)
    (notes : List Note) : Prop where
  /-- Nothing is lost. -/
  keeps : cache.Keeps cache'
  /-- What is new stands for a part of the row. -/
  records : ∀ key entry, cache'.get? key = some entry → cache.get? key = some entry ∨
    ∃ part, part <+: row ∧ key = Text.joinDots part ∧ cache'.Records site.base part entry
  /-- One file is loaded at most. -/
  loads : Note.loads notes = [] ∨ ∃ part, part <+: row ∧ Loads site ns part cache cache' notes

namespace Walked

variable {cache' cache'' : Cache} {notes notes' : List Note} {part : List String}

/-- A walk that changes and loads nothing. -/
theorem still (site : Site) (ns : Namespace) (row : List String) (cache : Cache)
    (h : Note.loads notes = []) : Walked site ns row cache cache notes :=
  ⟨.refl cache, fun _ _ hentry => .inl hentry, .inl h⟩

/-- A walk that records what stands at the place of the row. -/
theorem insert {entry : Cache.Entry} (hreaches : cache.Reaches row)
    (hmissing : cache.get? (Text.joinDots row) = none)
    (hstands : entry = .directory (Path.joinAll site.base row) ∨
      ∃ content, entry = .file (Path.fileAt site.base row) content)
    (hloads : Note.loads notes = [] ∨
      Loads site ns row cache (cache.insert (Text.joinDots row) entry) notes) :
    Walked site ns row cache (cache.insert (Text.joinDots row) entry) notes := by
  have hkeeps := Cache.Keeps.insert hmissing entry
  have hbegins : row <+: row := List.prefix_refl row
  refine ⟨hkeeps, fun key entry' hentry => ?_, hloads.imp_right fun h => ⟨row, hbegins, h⟩⟩
  by_cases hkey : key = Text.joinDots row
  · subst hkey
    rw [SortedMap.get?_insert_self] at hentry
    cases hentry
    exact .inr ⟨row, hbegins, rfl, hreaches.mono hkeeps, SortedMap.get?_insert_self .., hstands⟩
  · rw [SortedMap.get?_insert_ne cache hkey] at hentry
    exact .inl hentry

/-- A walk along a row is the beginning of one along a longer row. -/
theorem longer {row' : List String} (h : Walked site ns row cache cache' notes)
    (hbegins : row <+: row') : Walked site ns row' cache cache' notes := by
  refine ⟨h.keeps, fun key entry hentry => ?_, ?_⟩
  · rcases h.records key entry hentry with hold | ⟨part, hpart, hnew⟩
    · exact .inl hold
    · exact .inr ⟨part, hpart.trans hbegins, hnew⟩
  · rcases h.loads with hnone | ⟨part, hpart, hloads⟩
    · exact .inl hnone
    · exact .inr ⟨part, hpart.trans hbegins, hloads⟩

/-- A walk that goes on after what was reported and recorded. -/
theorem trans (h : Walked site ns row cache cache' notes) (hloads : Note.loads notes = [])
    (h' : Walked site ns row cache' cache'' notes') :
    Walked site ns row cache cache'' (notes ++ notes') := by
  have hnotes : Note.loads (notes ++ notes') = Note.loads notes' := by
    rw [Note.loads_append, hloads, List.nil_append]
  refine ⟨h.keeps.trans h'.keeps, fun key entry hentry => ?_, ?_⟩
  · rcases h'.records key entry hentry with hentry | hnew
    · rcases h.records key entry hentry with hentry | ⟨part, hbegins, hkey, hrecords⟩
      · exact .inl hentry
      · exact .inr ⟨part, hbegins, hkey, hrecords.mono h'.keeps⟩
    · exact .inr hnew
  · rcases h'.loads with hnone | ⟨part, hbegins, hpart⟩
    · exact .inl (hnotes.trans hnone)
    · exact .inr ⟨part, hbegins, hpart.toReaches, hnotes.trans hpart.loads,
        h.keeps.get?_eq_none hpart.missing, hpart.kept⟩

end Walked

/-- **What asking for one row leaves behind**, if directories lead to it. -/
theorem walked_entry (hreaches : (∀ s ∈ row, Path.isPlainName s) → cache.Reaches row) :
    Walked site ns row cache (site.entry ns row cache).cache (site.entry ns row cache).notes := by
  cases hcached : cache.get? (Text.joinDots row) with
  | some entry =>
      rw [entry_of_cached hcached]
      exact .still site ns row cache rfl
  | none =>
      have hprobed := probed_probe site ns row
      generalize hprobe : site.probe ns row = found at hprobed
      cases hprobed with
      | directory hplain hloads =>
          rw [entry_of_missing_ok hcached hprobe]
          exact .insert (hreaches hplain) hcached (.inl rfl) (.inl hloads)
      | @made content notes hplain hload hloads =>
          rw [entry_of_missing_ok hcached hprobe]
          refine .insert (hreaches hplain) hcached (.inr ⟨content, rfl⟩) (.inr ?_)
          refine ⟨(hreaches hplain).mono (.insert hcached _), hloads, hcached, fun content' h => ?_⟩
          obtain rfl : content = content' := Except.ok.inj (hload.symm.trans h)
          exact SortedMap.get?_insert_self ..
      | refused hplain hload hloads =>
          rw [entry_of_missing_error hcached hprobe]
          refine ⟨.refl cache, fun _ _ hentry => .inl hentry, .inr ⟨row, List.prefix_refl row, ?_⟩⟩
          refine ⟨hreaches hplain, hloads, hcached, fun content h => ?_⟩
          rw [hload] at h
          cases h
      | nothing hloads =>
          rw [entry_of_missing_error hcached hprobe]
          exact .still site ns row cache hloads

/-- For a directory the loader is not asked. -/
theorem loads_entry_of_directory {path : String}
    (h : site.view ns cache row = .ok (.directory path)) :
    Note.loads (site.entry ns row cache).notes = [] := by
  cases hcached : cache.get? (Text.joinDots row) with
  | some entry =>
      rw [entry_of_cached hcached]
      rfl
  | none =>
      rw [view_of_missing hcached] at h
      have hprobed := probed_probe site ns row
      generalize hprobe : site.probe ns row = found at h hprobed
      cases hprobed with
      | directory hplain hloads =>
          rw [entry_of_missing_ok hcached hprobe]
          exact hloads
      | made hplain hload hloads => cases h
      | refused hplain hload hloads => cases h
      | nothing hloads => cases h

/-- **What a walk leaves behind.**  It goes on as long as directories lead on. -/
theorem walked_locateFrom {rest before : List String} {cache : Cache}
    (hall : ∀ s ∈ before ++ rest, IsSegment s) (hleads : cache.Leads before) :
    Walked site ns (before ++ rest) cache (site.locateFrom ns before rest cache).cache
      (site.locateFrom ns before rest cache).notes := by
  induction rest generalizing before cache with
  | nil => exact .still site ns _ cache rfl
  | cons part rest ih =>
      have hsplit : before ++ part :: rest = (before ++ [part]) ++ rest := by simp
      rw [hsplit] at hall ⊢
      have hentry : Walked site ns (before ++ [part]) cache _ _ :=
        walked_entry fun hplain => hleads.reaches fun s hs =>
          Path.isName_of_isSegment (hall s (List.mem_append_left _ hs)) (hplain s hs)
      have hentry := hentry.longer (List.prefix_append _ rest)
      rw [locateFrom]
      cases hview : site.view ns cache (before ++ [part]) with
      | error f =>
          rw [Reply.cache_andThen_error hview, Reply.notes_andThen_error hview]
          exact hentry
      | ok entry =>
          rw [Reply.cache_andThen_ok hview, Reply.notes_andThen_ok hview]
          cases entry with
          | file file content =>
              show Walked site ns _ cache _ (_ ++ [])
              rw [List.append_nil]
              exact hentry
          | directory path =>
              have hleads' := (hleads.mono hentry.keeps).append_singleton (get?_entry_self hview)
              exact hentry.trans (loads_entry_of_directory hview) (ih hall hleads')

end Site

/-! ### Asking a tree -/

namespace Tree

/-- Locating a path is a walk along its row, if it has one. -/
theorem walked_locate (tree : Tree) (disk : Disk) (path : String) (ns : Namespace) :
    ∃ row, (row = [] ∨ segments path ns = .ok row) ∧
      (tree.site disk).Walked ns row tree.cache (tree.locate disk path ns).cache
        (tree.locate disk path ns).notes := by
  cases hrow : segments path ns with
  | error f =>
      refine ⟨[], .inl rfl, ?_⟩
      rw [locate_of_segments_error hrow]
      exact .still _ _ _ _ rfl
  | ok row =>
      refine ⟨row, .inr rfl, ?_⟩
      rw [locate_of_segments_ok hrow, Reply.cache_andThen_ofExcept, Reply.notes_andThen_ofExcept]
      exact Site.walked_locateFrom (segments_isRow hrow).segments (Cache.leads_nil _)

/-- **Asking a tree is a walk along the row of the path, if it has one.** -/
theorem walked_ask (tree : Tree) (disk : Disk) (question : Question) :
    ∃ row, (row = [] ∨ segments question.path tree.names = .ok row) ∧
      (tree.site disk).Walked tree.names row tree.cache (tree.ask disk question).tree.cache
        (tree.ask disk question).notes := by
  rw [ask_tree, ask_notes]
  exact tree.walked_locate disk question.path tree.names

end Tree

end DottedConfig
