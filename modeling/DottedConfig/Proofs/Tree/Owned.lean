/-
A recorded owner answers for all that is below it.

Where a file is recorded for a row, and directories for all that is above it, every walk
along this row or a longer one goes through these directories by the cache and stops at the
file.  It asks neither the disk nor the loader, so it comes to the same whatever these are,
and a question is answered from the file and its content alone.

Such rows come about by lookups: one that finds an owner leaves it recorded like that.  And
they last, because an event that does not empty the cache takes nothing out of it.  That
holds of `loadPrefix` too, whatever it is called with: it only ever adds what is missing.
-/
import DottedConfig.Proofs.Tree.History
import DottedConfig.Proofs.Tree.Recording

namespace DottedConfig

open DottedConfig.Tree (IsSegment Question isRow_append_singleton not_append_singleton_isPrefix
  segments segments_isRow)

/-! ### Recorded owners -/

/-- A file is recorded for a row, and a directory for every shorter one that begins it. -/
structure Cache.Owns (cache : Cache) (row : List String) (file : String) (content : Value) :
    Prop where
  nonempty : row ≠ []
  above : ∀ above, above ≠ [] → above <+: row → above ≠ row →
    ∃ path, cache.get? (Text.joinDots above) = some (.directory path)
  recorded : cache.get? (Text.joinDots row) = some (.file file content)

namespace Cache

variable {cache cache' : Cache} {row : List String} {file : String} {content : Value}

theorem Owns.mono (h : cache.Owns row file content) (hkeeps : cache.Keeps cache') :
    cache'.Owns row file content := by
  refine ⟨h.nonempty, fun above hne hbegins hproper => ?_, hkeeps _ _ h.recorded⟩
  obtain ⟨path, hpath⟩ := h.above above hne hbegins hproper
  exact ⟨path, hkeeps _ _ hpath⟩

theorem Records.owns {base : String} (h : cache.Records base row (.file file content)) :
    cache.Owns row file content :=
  ⟨h.nonempty, h.above, h.recorded⟩

end Cache

/-! ### Walks that stop at a recorded owner -/

namespace Site

variable {site : Site} {ns : Namespace} {cache : Cache} {before row : List String}
  {part file : String} {content : Value}

theorem locateFrom_of_recorded_file
    (h : cache.get? (Text.joinDots (before ++ [part])) = some (.file file content))
    (rest : List String) :
    site.locateFrom ns before (part :: rest) cache =
      ⟨.ok (before.length + 1), cache, [.log (.hit (Text.joinDots (before ++ [part])))]⟩ := by
  rw [locateFrom, entry_of_cached h]
  rfl

theorem locateFrom_of_recorded_directory {path : String}
    (h : cache.get? (Text.joinDots (before ++ [part])) = some (.directory path))
    (rest : List String) :
    site.locateFrom ns before (part :: rest) cache =
      ⟨(site.locateFrom ns (before ++ [part]) rest cache).result,
        (site.locateFrom ns (before ++ [part]) rest cache).cache,
        .log (.hit (Text.joinDots (before ++ [part]))) ::
          (site.locateFrom ns (before ++ [part]) rest cache).notes⟩ := by
  rw [locateFrom, entry_of_cached h]
  rfl

/-- A recorded owner owns every row that begins with its own. -/
theorem ownerFrom_of_owns (h : cache.Owns row file content) (rest : List String) :
    ownerFrom (site.view ns cache) [] (row ++ rest) = .ok ⟨row.length, file, content⟩ := by
  obtain ⟨before, part, rfl⟩ : ∃ before part, row = before ++ [part] :=
    ⟨_, _, (List.dropLast_concat_getLast h.nonempty).symm⟩
  have hleads : Leads (site.view ns cache) before := by
    intro above hne hbegins
    have hproper : above ≠ before ++ [part] := by
      rintro rfl
      exact not_append_singleton_isPrefix before part hbegins
    obtain ⟨path, hpath⟩ := h.above above hne (hbegins.trans (List.prefix_append _ _)) hproper
    exact ⟨path, view_of_cached hpath⟩
  rw [List.append_assoc, List.singleton_append, ownerFrom_of_leads hleads,
    ownerFrom_of_file (view_of_cached h.recorded), List.length_append, List.length_singleton]

/-- **A walk past a recorded owner stops there**, on every disk and with every loader. -/
theorem locateFrom_of_owns (h : cache.Owns row file content) (rest : List String) :
    ∀ (middle before : List String), middle ≠ [] → row = before ++ middle →
      ∃ notes, Note.loads notes = [] ∧ ∀ (site : Site) (ns : Namespace),
        site.locateFrom ns before (middle ++ rest) cache = ⟨.ok row.length, cache, notes⟩ := by
  intro middle
  induction middle with
  | nil => intro before hne _; exact absurd rfl hne
  | cons part middle ih =>
      intro before _ hrow
      by_cases hmiddle : middle = []
      · subst hmiddle
        have hlength : row.length = before.length + 1 := by simp [hrow]
        refine ⟨[.log (.hit (Text.joinDots (before ++ [part])))], rfl, fun site ns => ?_⟩
        rw [List.singleton_append, locateFrom_of_recorded_file (hrow ▸ h.recorded), hlength]
      · have hproper : before ++ [part] ≠ row := by
          intro heq
          rw [hrow] at heq
          simp [hmiddle] at heq
        obtain ⟨path, hdirectory⟩ :=
          h.above (before ++ [part]) (by simp) ⟨middle, by simp [hrow]⟩ hproper
        obtain ⟨notes, hloads, hlater⟩ := ih (before ++ [part]) hmiddle (by simp [hrow])
        refine ⟨.log (.hit (Text.joinDots (before ++ [part]))) :: notes, hloads, fun site ns => ?_⟩
        rw [List.cons_append, locateFrom_of_recorded_directory hdirectory, hlater]

/-- **A walk that comes to an owner leaves it recorded.** -/
theorem owns_locateFrom {rest before : List String} {cache : Cache} {owner : OwnerFile}
    (hall : ∀ s ∈ before ++ rest, IsSegment s) (hleads : cache.Leads before)
    (h : ownerFrom (site.view ns cache) before rest = .ok owner) :
    (site.locateFrom ns before rest cache).cache.Owns ((before ++ rest).take owner.taken)
      owner.file owner.content := by
  induction rest generalizing before cache with
  | nil => cases h
  | cons part rest ih =>
      have hkeeps := keeps_entry site ns (before ++ [part]) cache
      cases hview : site.view ns cache (before ++ [part]) with
      | error f =>
          rw [ownerFrom_of_error hview] at h
          cases h
      | ok entry =>
          cases entry with
          | file file content =>
              rw [ownerFrom_of_file hview] at h
              cases h
              have htake : (before ++ part :: rest).take (before.length + 1) = before ++ [part] := by
                rw [List.take_length_add_append]
                rfl
              rw [(locateFrom_of_file hview).2, htake]
              refine ⟨by simp, fun above hne hbegins hproper => ?_, get?_entry_self hview⟩
              rcases List.prefix_concat_iff.mp hbegins with rfl | hbegins
              · exact absurd rfl hproper
              · exact hleads.mono hkeeps above hne hbegins
          | directory path =>
              have hall' : ∀ s ∈ (before ++ [part]) ++ rest, IsSegment s := by simpa using hall
              have hsplit : before ++ part :: rest = (before ++ [part]) ++ rest := by simp
              rw [ownerFrom_of_directory hview] at h
              rw [(locateFrom_of_directory hview).2, hsplit]
              refine ih hall' ((hleads.mono hkeeps).append_singleton (get?_entry_self hview)) ?_
              rw [ownerFrom_eq_of_view_eq
                (fun row hrow => view_entry (isRow_append_singleton hall) hrow) hall']
              exact h

end Site

/-! ### Questions below a recorded owner -/

namespace Tree

variable {tree : Tree} {disk : Disk}

theorem segments_of_owner {path : String} {ns : Namespace} {row : List String}
    {owner : Site.OwnerFile} (h : tree.owner disk path ns = .ok (row, owner)) :
    segments path ns = .ok row := by
  obtain ⟨row', hrow, h⟩ := eq_ok_of_bind h
  obtain ⟨owner', -, h⟩ := eq_ok_of_bind h
  cases h
  exact hrow

/-- Locating a path leaves its owner recorded. -/
theorem owns_locate {path : String} {ns : Namespace} {row : List String} {owner : Site.OwnerFile}
    (h : tree.owner disk path ns = .ok (row, owner)) :
    (tree.locate disk path ns).cache.Owns (row.take owner.taken) owner.file owner.content := by
  cases hrow : segments path ns with
  | error f =>
      rw [Tree.owner, hrow] at h
      cases h
  | ok row' =>
      rw [owner_of_segments_ok hrow] at h
      obtain ⟨owner', howner, heq⟩ := eq_ok_of_map h
      cases heq
      rw [locate_of_segments_ok hrow, Reply.cache_andThen_ofExcept]
      exact Site.owns_locateFrom (segments_isRow hrow).segments (Cache.leads_nil _)
        (eq_ok_of_mapError howner)

/-- **Below a recorded owner a question is answered by it alone**, and the tree stays as it
is. -/
theorem ask_of_owns (question : Question) {row rest : List String} {file : String}
    {content : Value} (h : tree.cache.Owns row file content)
    (hparts : segments question.path tree.names = .ok (row ++ rest)) :
    ∃ notes, Note.loads notes = [] ∧ ∀ disk,
      tree.ask disk question = ⟨question.answeredBy file content rest, tree, notes⟩ := by
  obtain ⟨notes, hloads, hwalk⟩ := Site.locateFrom_of_owns h rest row [] h.nonempty rfl
  refine ⟨notes, hloads, fun disk => ?_⟩
  have hlocate : tree.locate disk question.path tree.names =
      ⟨.ok (row ++ rest, row.length), tree.cache, notes⟩ := by
    rw [locate_of_segments_ok hparts, Site.locate, hwalk]
    simp [Reply.orPath, Reply.andThen, Reply.ofExcept, Except.mapError]
  have howner : tree.owner disk question.path tree.names =
      .ok (row ++ rest, ⟨row.length, file, content⟩) := by
    rw [owner_of_segments_ok hparts, view, Site.ownerFrom_of_owns h]
    rfl
  refine Answer.ext ?_ ?_ ?_
  · rw [ask_result, howner]
    exact congrArg (question.answeredBy file content) List.drop_left
  · rw [ask_tree, hlocate]
  · rw [ask_notes, hlocate]

end Tree

/-! ### As long as the cache is not emptied -/

namespace World

/-- An event that does not empty the cache adds to it and leaves all else of the tree alone. -/
theorem tree_step_of_not_empties {e : Event} (h : ¬e.Empties) (w : World) :
    ∃ cache, w.tree.cache.Keeps cache ∧ (w.step e).tree = { w.tree with cache := cache } := by
  cases e with
  | ask question =>
      obtain ⟨row, -, hwalked⟩ := w.tree.walked_ask w.disk question
      refine ⟨_, hwalked.keeps, ?_⟩
      show (w.tree.ask w.disk question).tree = _
      rw [Tree.ask_tree]
  | raw path => exact ⟨w.tree.cache, .refl _, Tree.raw_tree w.tree w.disk path⟩
  | loadPrefix parts ns =>
      exact ⟨_, Site.keeps_entry _ ns parts _, Tree.loadPrefix_tree w.tree w.disk parts ns⟩
  | write disk => exact ⟨w.tree.cache, .refl _, rfl⟩
  | getWith path extra => exact absurd trivial h
  | setNames names => exact absurd trivial h
  | setLoader loader => exact absurd trivial h
  | flush => exact absurd trivial h

/-- And so does a history of such events. -/
theorem tree_run_of_not_empties {events : List Event} (h : ∀ e ∈ events, ¬e.Empties) (w : World) :
    ∃ cache, w.tree.cache.Keeps cache ∧ (w.run events).tree = { w.tree with cache := cache } := by
  induction events generalizing w with
  | nil => exact ⟨w.tree.cache, .refl _, rfl⟩
  | cons e rest ih =>
      obtain ⟨cache, hkeeps, htree⟩ := tree_step_of_not_empties (h e List.mem_cons_self) w
      obtain ⟨cache', hkeeps', htree'⟩ :=
        ih (fun e' he' => h e' (List.mem_cons_of_mem _ he')) (w.step e)
      rw [htree] at hkeeps' htree'
      exact ⟨cache', hkeeps.trans hkeeps', htree'⟩

end World

end DottedConfig
