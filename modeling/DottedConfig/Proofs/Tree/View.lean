/-
What a lookup sees, and which file it comes to.

A lookup asks for the prefixes of a row one after the other.  What it is told of each,
by the cache or else by the disk, is the *view* of the site and the cache.  Asking
records what was found, so the cache changes on the way; the point of this file is that
the view does not.  A prefix that was missing is recorded with what the disk says of it,
and a row goes under a key of its own, so every row stands for what it stood for before.

With a view that stays put, the walk along a row is a plain recursion: `ownerFrom` goes
on through directories and stops at the first file.  `locateFrom` counts the segments
that this file takes and leaves the file in the cache.
-/
import DottedConfig.Proofs.Cache
import DottedConfig.Proofs.Except
import DottedConfig.Proofs.Tree.Row
import DottedConfig.Tree.Site

namespace DottedConfig

namespace Reply

variable {α β : Type} {reply : Reply α} {next : α → Cache → Reply β}

theorem result_andThen_ok {a : α} (h : reply.result = .ok a) :
    (reply.andThen next).result = (next a reply.cache).result := by
  rw [andThen, h]

theorem cache_andThen_ok {a : α} (h : reply.result = .ok a) :
    (reply.andThen next).cache = (next a reply.cache).cache := by
  rw [andThen, h]

theorem notes_andThen_ok {a : α} (h : reply.result = .ok a) :
    (reply.andThen next).notes = reply.notes ++ (next a reply.cache).notes := by
  rw [andThen, h]

theorem result_andThen_error {f : Failure} (h : reply.result = .error f) :
    (reply.andThen next).result = .error f := by
  rw [andThen, h]

theorem cache_andThen_error {f : Failure} (h : reply.result = .error f) :
    (reply.andThen next).cache = reply.cache := by
  rw [andThen, h]

theorem notes_andThen_error {f : Failure} (h : reply.result = .error f) :
    (reply.andThen next).notes = reply.notes := by
  rw [andThen, h]

/-- A conclusion drawn from an answer and the cache leaves the cache as it is. -/
theorem cache_andThen_ofExcept (reply : Reply α) (g : α → Cache → Except Failure β) :
    (reply.andThen fun a cache => .ofExcept cache (g a cache)).cache = reply.cache := by
  cases h : reply.result with
  | error f => exact cache_andThen_error h
  | ok a => exact cache_andThen_ok h

/-- And it reports nothing more. -/
theorem notes_andThen_ofExcept (reply : Reply α) (g : α → Cache → Except Failure β) :
    (reply.andThen fun a cache => .ofExcept cache (g a cache)).notes = reply.notes := by
  cases h : reply.result with
  | error f => exact notes_andThen_error h
  | ok a => exact (notes_andThen_ok h).trans (List.append_nil reply.notes)

theorem result_andThen_ofExcept (reply : Reply α) (g : α → Cache → Except Failure β) :
    (reply.andThen fun a cache => .ofExcept cache (g a cache)).result =
      reply.result >>= fun a => g a reply.cache := by
  cases h : reply.result with
  | error f => exact result_andThen_error h
  | ok a => exact result_andThen_ok h

end Reply

/-- What a lookup takes from an entry: a file with its content, and nothing from a directory. -/
def Cache.Entry.held? : Cache.Entry → Option (String × Value)
  | .directory _ => none
  | .file path content => some (path, content)

namespace Cache.Entry

theorem held?_eq_none {entry : Cache.Entry} (h : entry.held? = none) :
    ∃ path, entry = .directory path := by
  cases entry with
  | directory path => exact ⟨path, rfl⟩
  | file path content => cases h

theorem held?_eq_some {entry : Cache.Entry} {path : String} {content : Value}
    (h : entry.held? = some (path, content)) : entry = .file path content := by
  cases entry with
  | directory path' => cases h
  | file path' content' => cases h; rfl

end Cache.Entry

namespace Site

open DottedConfig.Tree (IsRow IsSegment isRow_append_singleton)

variable {site : Site} {ns : Namespace} {cache : Cache}

/-- What a row stands for: by the cache, or else by the disk. -/
def view (site : Site) (ns : Namespace) (cache : Cache) (row : List String) :
    Except Failure Cache.Entry :=
  (site.entry ns row cache).result

/-! ### The view of one row -/

theorem view_of_cached {row : List String} {entry : Cache.Entry}
    (h : cache.get? (Text.joinDots row) = some entry) : site.view ns cache row = .ok entry := by
  rw [view, Site.entry, Cache.fetch_of_present h]

theorem view_of_missing {row : List String} (h : cache.get? (Text.joinDots row) = none) :
    site.view ns cache row = (site.probe ns row).1 := by
  rw [view, Site.entry, Cache.fetch_of_missing h]

theorem view_empty (site : Site) (ns : Namespace) (row : List String) :
    site.view ns .empty row = (site.probe ns row).1 :=
  view_of_missing rfl

/-! ### What asking records -/

theorem entry_cache_of_error {row : List String} {f : Failure}
    (h : site.view ns cache row = .error f) : (site.entry ns row cache).cache = cache :=
  Cache.cache_fetch_of_error (Cache.fetch_eq_error_iff.mp h).2

theorem get?_entry_self {row : List String} {entry : Cache.Entry}
    (h : site.view ns cache row = .ok entry) :
    (site.entry ns row cache).cache.get? (Text.joinDots row) = some entry :=
  Cache.get?_fetch_self h

theorem get?_entry_ne {row : List String} {key : String} (h : key ≠ Text.joinDots row) :
    (site.entry ns row cache).cache.get? key = cache.get? key := by
  rw [Site.entry, Cache.get?_fetch, if_neg (Ne.symm h), Option.or_none]

/-- What a row stands for is a matter of its own entry. -/
theorem view_congr {cache' : Cache} {row : List String}
    (h : cache'.get? (Text.joinDots row) = cache.get? (Text.joinDots row)) :
    site.view ns cache' row = site.view ns cache row := by
  cases hcached : cache.get? (Text.joinDots row) with
  | some entry => rw [view_of_cached hcached, view_of_cached (h.trans hcached)]
  | none => rw [view_of_missing hcached, view_of_missing (h.trans hcached)]

/-- Asking for one row, under any namespace, leaves the rows of other keys alone. -/
theorem view_entry_ne {row row' : List String} (h : Text.joinDots row' ≠ Text.joinDots row)
    (ns' : Namespace) :
    site.view ns' (site.entry ns row cache).cache row' = site.view ns' cache row' :=
  view_congr (get?_entry_ne h)

/-- **Asking for a row does not change what any row stands for.** -/
theorem view_entry {row row' : List String} (h : IsRow row) (h' : IsRow row') :
    site.view ns (site.entry ns row cache).cache row' = site.view ns cache row' := by
  by_cases hkey : Text.joinDots row' = Text.joinDots row
  · obtain rfl := h'.eq_of_joinDots h hkey
    cases hview : site.view ns cache row' with
    | error f => rw [entry_cache_of_error hview, hview]
    | ok entry => exact view_of_cached (get?_entry_self hview)
  · exact view_entry_ne hkey ns

/-! ### The owner of a row -/

/-- The first file on the way along a row. -/
structure OwnerFile where
  /-- How many segments lead to it. -/
  taken : Nat
  /-- Its path. -/
  file : String
  /-- Its content. -/
  content : Value

/-- Goes on from the segments `before`, all of them directories, to the first file. -/
def ownerFrom (view : List String → Except Failure Cache.Entry) (before : List String) :
    List String → Except Failure OwnerFile
  | [] => .error (onlyDirectories before)
  | part :: rest =>
    match view (before ++ [part]) with
    | .error f => .error f
    | .ok (.file file content) => .ok ⟨before.length + 1, file, content⟩
    | .ok (.directory _) => ownerFrom view (before ++ [part]) rest

section

variable {view : List String → Except Failure Cache.Entry} {before rest : List String}
  {part : String}

theorem ownerFrom_of_error {f : Failure} (h : view (before ++ [part]) = .error f) :
    ownerFrom view before (part :: rest) = .error f := by
  rw [ownerFrom, h]

theorem ownerFrom_of_file {file : String} {content : Value}
    (h : view (before ++ [part]) = .ok (.file file content)) :
    ownerFrom view before (part :: rest) = .ok ⟨before.length + 1, file, content⟩ := by
  rw [ownerFrom, h]

theorem ownerFrom_of_directory {path : String}
    (h : view (before ++ [part]) = .ok (.directory path)) :
    ownerFrom view before (part :: rest) = ownerFrom view (before ++ [part]) rest := by
  rw [ownerFrom, h]

end

/-- Every prefix of a row is a directory, the row itself included. -/
def Leads (view : List String → Except Failure Cache.Entry) (row : List String) : Prop :=
  ∀ before, before ≠ [] → before <+: row → ∃ path, view before = .ok (.directory path)

theorem leads_nil (view : List String → Except Failure Cache.Entry) : Leads view [] := by
  intro before hne hbegins
  exact absurd (List.prefix_nil.mp hbegins) hne

theorem Leads.append_singleton {view : List String → Except Failure Cache.Entry}
    {before : List String} {part path : String} (h : Leads view before)
    (hpart : view (before ++ [part]) = .ok (.directory path)) : Leads view (before ++ [part]) := by
  intro row hne hbegins
  rcases List.prefix_concat_iff.mp hbegins with rfl | hbegins
  · exact ⟨path, hpart⟩
  · exact h row hne hbegins

/-- Through directories the walk goes on. -/
theorem ownerFrom_append_of_leads {view : List String → Except Failure Cache.Entry}
    {middle before rest : List String} (h : Leads view (before ++ middle)) :
    ownerFrom view before (middle ++ rest) = ownerFrom view (before ++ middle) rest := by
  induction middle generalizing before with
  | nil => rw [List.append_nil, List.nil_append]
  | cons part middle ih =>
      have hsplit : before ++ part :: middle = before ++ [part] ++ middle := by simp
      rw [hsplit] at h ⊢
      obtain ⟨path, hpart⟩ := h (before ++ [part]) (by simp) (List.prefix_append _ _)
      rw [List.cons_append, ownerFrom_of_directory hpart]
      exact ih h

/-- So it comes to where they lead. -/
theorem ownerFrom_of_leads {view : List String → Except Failure Cache.Entry}
    {before rest : List String} (h : Leads view before) :
    ownerFrom view [] (before ++ rest) = ownerFrom view before rest :=
  ownerFrom_append_of_leads h

/--
Two views lead to the same owners if they tell the same of every row that a walk can
come to.  The walk comes to a row through directories only, and the path of a directory
never matters to it.
-/
theorem ownerFrom_congr {view view' : List String → Except Failure Cache.Entry}
    (h : ∀ before part, IsRow (before ++ [part]) → Leads view before →
      (view' (before ++ [part])).map Cache.Entry.held? =
        (view (before ++ [part])).map Cache.Entry.held?) :
    ∀ (rest before : List String), (∀ s ∈ before ++ rest, IsSegment s) → Leads view before →
      ownerFrom view' before rest = ownerFrom view before rest := by
  intro rest
  induction rest with
  | nil => intro before _ _; rfl
  | cons part rest ih =>
      intro before hall hleads
      have hsame := h before part (isRow_append_singleton hall) hleads
      have hall' : ∀ s ∈ (before ++ [part]) ++ rest, IsSegment s := by simpa using hall
      cases hview : view (before ++ [part]) with
      | error f =>
          rw [hview] at hsame
          rw [ownerFrom_of_error hview, ownerFrom_of_error (map_eq_error_iff.mp hsame)]
      | ok entry =>
          rw [hview] at hsame
          obtain ⟨entry', hview', hheld⟩ := eq_ok_of_map hsame
          cases entry with
          | directory path =>
              obtain ⟨path', rfl⟩ := Cache.Entry.held?_eq_none hheld
              rw [ownerFrom_of_directory hview, ownerFrom_of_directory hview']
              exact ih _ hall' (hleads.append_singleton hview)
          | file file content =>
              obtain rfl := Cache.Entry.held?_eq_some hheld
              rw [ownerFrom_of_file hview, ownerFrom_of_file hview']

/-- Views that tell the same of every row lead to the same owners. -/
theorem ownerFrom_eq_of_view_eq {view view' : List String → Except Failure Cache.Entry}
    (h : ∀ row, IsRow row → view' row = view row) {rest before : List String}
    (hall : ∀ s ∈ before ++ rest, IsSegment s) :
    ownerFrom view' before rest = ownerFrom view before rest := by
  induction rest generalizing before with
  | nil => rfl
  | cons part rest ih =>
      rw [ownerFrom, ownerFrom, h _ (isRow_append_singleton hall), ih (by simpa using hall)]

/-! ### Locating the owner -/

theorem locateFrom_of_error {before rest : List String} {part : String} {f : Failure}
    (h : site.view ns cache (before ++ [part]) = .error f) :
    (site.locateFrom ns before (part :: rest) cache).result = .error f ∧
      (site.locateFrom ns before (part :: rest) cache).cache = cache := by
  rw [locateFrom]
  refine ⟨Reply.result_andThen_error h, ?_⟩
  rw [Reply.cache_andThen_error h, entry_cache_of_error h]

theorem locateFrom_of_file {before rest : List String} {part file : String} {content : Value}
    (h : site.view ns cache (before ++ [part]) = .ok (.file file content)) :
    (site.locateFrom ns before (part :: rest) cache).result = .ok (before.length + 1) ∧
      (site.locateFrom ns before (part :: rest) cache).cache =
        (site.entry ns (before ++ [part]) cache).cache := by
  rw [locateFrom]
  exact ⟨Reply.result_andThen_ok h, Reply.cache_andThen_ok h⟩

theorem locateFrom_of_directory {before rest : List String} {part path : String}
    (h : site.view ns cache (before ++ [part]) = .ok (.directory path)) :
    (site.locateFrom ns before (part :: rest) cache).result =
        (site.locateFrom ns (before ++ [part]) rest
          (site.entry ns (before ++ [part]) cache).cache).result ∧
      (site.locateFrom ns before (part :: rest) cache).cache =
        (site.locateFrom ns (before ++ [part]) rest
          (site.entry ns (before ++ [part]) cache).cache).cache := by
  rw [locateFrom]
  exact ⟨Reply.result_andThen_ok h, Reply.cache_andThen_ok h⟩

/-- **Locating an owner does not change what any row stands for.** -/
theorem view_locateFrom {rest before : List String} {cache : Cache}
    (hall : ∀ s ∈ before ++ rest, IsSegment s) {row : List String} (hrow : IsRow row) :
    site.view ns (site.locateFrom ns before rest cache).cache row = site.view ns cache row := by
  induction rest generalizing before cache with
  | nil => rfl
  | cons part rest ih =>
      have hpart := isRow_append_singleton hall
      cases hview : site.view ns cache (before ++ [part]) with
      | error f => rw [(locateFrom_of_error hview).2]
      | ok entry =>
          cases entry with
          | file file content => rw [(locateFrom_of_file hview).2, view_entry hpart hrow]
          | directory path =>
              rw [(locateFrom_of_directory hview).2, ih (by simpa using hall),
                view_entry hpart hrow]

/-- What `locateFrom` counts is what the first file takes. -/
theorem locateFrom_result {rest before : List String} {cache : Cache}
    (hall : ∀ s ∈ before ++ rest, IsSegment s) :
    (site.locateFrom ns before rest cache).result =
      (ownerFrom (site.view ns cache) before rest).map OwnerFile.taken := by
  induction rest generalizing before cache with
  | nil => rfl
  | cons part rest ih =>
      cases hview : site.view ns cache (before ++ [part]) with
      | error f => rw [(locateFrom_of_error hview).1, ownerFrom_of_error hview]; rfl
      | ok entry =>
          cases entry with
          | file file content => rw [(locateFrom_of_file hview).1, ownerFrom_of_file hview]; rfl
          | directory path =>
              have hall' : ∀ s ∈ (before ++ [part]) ++ rest, IsSegment s := by simpa using hall
              rw [(locateFrom_of_directory hview).1, ownerFrom_of_directory hview, ih hall',
                ownerFrom_eq_of_view_eq
                  (fun row hrow => view_entry (isRow_append_singleton hall) hrow) hall']

/-- And it leaves that file in the cache, under the segments that it takes. -/
theorem get?_locateFrom {rest before : List String} {cache : Cache} {owner : OwnerFile}
    (hall : ∀ s ∈ before ++ rest, IsSegment s)
    (h : ownerFrom (site.view ns cache) before rest = .ok owner) :
    (site.locateFrom ns before rest cache).cache.get?
      (Text.joinDots ((before ++ rest).take owner.taken)) =
        some (.file owner.file owner.content) := by
  induction rest generalizing before cache with
  | nil => cases h
  | cons part rest ih =>
      cases hview : site.view ns cache (before ++ [part]) with
      | error f => rw [ownerFrom_of_error hview] at h; cases h
      | ok entry =>
          cases entry with
          | file file content =>
              rw [ownerFrom_of_file hview] at h
              cases h
              have htake : (before ++ part :: rest).take (before.length + 1) = before ++ [part] := by
                rw [List.take_length_add_append]
                rfl
              rw [(locateFrom_of_file hview).2, htake]
              exact get?_entry_self hview
          | directory path =>
              have hall' : ∀ s ∈ (before ++ [part]) ++ rest, IsSegment s := by simpa using hall
              have happend : before ++ part :: rest = (before ++ [part]) ++ rest := by simp
              rw [ownerFrom_of_directory hview] at h
              rw [(locateFrom_of_directory hview).2, happend]
              refine ih hall' ?_
              rw [ownerFrom_eq_of_view_eq
                (fun row hrow => view_entry (isRow_append_singleton hall) hrow) hall']
              exact h

end Site

end DottedConfig
