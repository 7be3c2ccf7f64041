/-
Directories and the contents of files are one address space.

A value can be reached through a directory `q` with a file `k` in it that holds the value, or
through a file `q` that holds a mapping with the value under `k`.  A path that begins with
`q.k` cannot tell.  In the first case the walk takes `k` along and the keys that are left are
looked up in the value; in the second it stops one segment earlier and `k` is the first key.
What comes after `q.k` is split before any of this, and alike in both cases, so it may hold
placeholders, and may be at fault.
-/
import DottedConfig.Proofs.Path
import DottedConfig.Proofs.Tree.Probe
import DottedConfig.Proofs.Tree.Question
import DottedConfig.Proofs.Value.Descent

namespace DottedConfig

open DottedConfig.Tree (Means segments)

/-- A row of directories below a base, none of them with a file of its name beside it. -/
def Disk.Opens (disk : Disk) (base : String) (row : List String) : Prop :=
  ∀ above, above ≠ [] → above <+: row →
    disk.isDirectory (Path.joinAll base above) ∧ ¬disk.isFile (Path.fileAt base above)

/-- A name in a path that stands for itself under every namespace. -/
structure Path.IsPlain (s : String) : Prop extends Path.IsName s where
  dollar : '$' ∉ s.toList

namespace Site

variable {site : Site} {ns : Namespace} {row : List String}

theorem place_of_isName (h : ∀ s ∈ row, Path.IsName s) (directory : String) :
    place directory row = .ok (Path.joinAll directory row) :=
  place_of_plain (fun s hs => (h s hs).isPlainName) directory

/-- The walk on an untouched cache goes through such directories. -/
theorem leads_of_opens (hnames : ∀ s ∈ row, Path.IsName s) (h : site.disk.Opens site.base row) :
    Leads (site.view ns .empty) row := by
  intro above hne hbegins
  obtain ⟨hdirectory, hfile⟩ := h above hne hbegins
  have hplace := place_of_isName (fun s hs => hnames s (hbegins.subset hs)) site.base
  refine ⟨Path.joinAll site.base above, ?_⟩
  rw [view_empty, probe_of_place hplace]
  have hfile : site.disk.isFile (Path.yaml (Path.joinAll site.base above)) = false :=
    Bool.eq_false_iff.mpr hfile
  simp [hfile, hdirectory]

/-- A row of names that directories lead along, and at its end a file with this content. -/
structure Serves (site : Site) (ns : Namespace) (row : List String) (content : Value) :
    Prop where
  nonempty : row ≠ []
  names : ∀ s ∈ row, Path.IsName s
  opens : site.disk.Opens site.base row.dropLast
  isFile : site.disk.isFile (Path.fileAt site.base row)
  loads : site.loader site.disk (Path.fileAt site.base row) ns = .ok content

/-- The walk stops at this file, whatever comes after it. -/
theorem ownerFrom_of_serves {content : Value} (h : site.Serves ns row content)
    (rest : List String) :
    ownerFrom (site.view ns .empty) [] (row ++ rest) =
      .ok ⟨row.length, Path.fileAt site.base row, content⟩ := by
  obtain ⟨before, part, rfl⟩ : ∃ before part, row = before ++ [part] :=
    ⟨_, _, (List.dropLast_concat_getLast h.nonempty).symm⟩
  have hopens : site.disk.Opens site.base before := by simpa using h.opens
  have hleads : Leads (site.view ns .empty) before :=
    leads_of_opens (fun s hs => h.names s (List.mem_append_left _ hs)) hopens
  have hview : site.view ns .empty (before ++ [part]) =
      .ok (.file (Path.fileAt site.base (before ++ [part])) content) := by
    have hfile := h.isFile
    have hload := h.loads
    rw [Path.fileAt] at hfile hload ⊢
    rw [view_empty, probe_of_place (place_of_isName h.names site.base)]
    simp only [hfile, hload, Bool.true_or, if_true, Except.map]
  rw [List.append_assoc, List.singleton_append, ownerFrom_of_leads hleads,
    ownerFrom_of_file hview, List.length_append, List.length_singleton]

end Site

namespace Tree

/-! ### The beginning of a path -/

theorem means_self {s : String} (h : Path.IsPlain s) (ns : Namespace) : Means ns s s := by
  refine ⟨?_, h.nonempty, h.dot⟩
  rw [Template.substitute, if_neg h.dollar]

/-- Names that stand for themselves begin the row of every path that they begin. -/
theorem exists_segments_append {ns : Namespace} {row rest row' : List String} (hne : row ≠ [])
    (hplain : ∀ s ∈ row, Path.IsPlain s)
    (h : segments (Text.joinDots (row ++ rest)) ns = .ok row') : ∃ texts, row' = row ++ texts := by
  have hdots : ∀ s ∈ row, '.' ∉ s.toList := fun s hs => (hplain s hs).dot
  obtain ⟨written, hwritten⟩ : ∃ written, Text.cutDots (Text.joinDots (row ++ rest)) =
      row ++ written := by
    by_cases hrest : rest = []
    · exact ⟨[], by simpa [hrest] using Text.cutDots_joinDots hne hdots⟩
    · exact ⟨_, by rw [Text.joinDots_append hne hrest, Text.cutDots_joinDots_append hne hdots]⟩
  have hsame : List.Forall₂ (Means ns) row row :=
    List.forall₂_same.mpr fun s hs => means_self (hplain s hs) ns
  have hsegments : segmentsOf "" ns (row ++ written) = .ok row' :=
    segmentsOf_eq_ok_iff.mpr (hwritten ▸ segments_eq_ok_iff.mp h)
  rw [segmentsOf_append hsame] at hsegments
  obtain ⟨texts, -, htexts⟩ := eq_ok_of_map hsegments
  exact ⟨texts, htexts.symm⟩

/-! ### What a new tree finds -/

theorem get_of_segments_error {tree : Tree} {disk : Disk} {path : String} {f : Failure}
    (h : segments path tree.names = .error f) : (tree.get disk path).result = .error f := by
  rw [get, answer, lookup_result, owner, h]
  rfl

/-- Directories lead to a file, and the rest of the path is looked up in it. -/
theorem get_of_serves {tree : Tree} {disk : Disk} {path : String} {row rest : List String}
    {content : Value} (hempty : tree.cache = .empty)
    (hserves : (tree.site disk).Serves tree.names row content)
    (hrow : segments path tree.names = .ok (row ++ rest)) :
    (tree.get disk path).result = content.atKeys rest path := by
  have howner : tree.owner disk path tree.names =
      .ok (row ++ rest, ⟨row.length, Path.fileAt tree.base row, content⟩) := by
    rw [owner_of_segments_ok hrow, view, hempty, Site.ownerFrom_of_serves hserves]
    rfl
  rw [get, answer, lookup_result, howner]
  show content.atKeys ((row ++ rest).drop row.length) path = _
  rw [List.drop_left]

/--
**Directories and the contents of files are one address space.**  On one disk the row `q` is
one of directories, and in the last a file `k` holds a value; on the other all but the last
of `q` are directories, and in the last a file of the last name holds a mapping with this value
under `k`.  Then a new tree finds the same for each path that begins with `q.k`: what the rest
of the path leads to in the value, or the failure of the path, of its placeholders or keys.
-/
theorem get_eq_get_of_moved (root : String) (topLevel : Option String) (names : Namespace)
    (loader : Loader) (disk disk' : Disk) (q : List String) (k : String)
    (hplain : ∀ s ∈ q ++ [k], Path.IsPlain s) (value : Value) (entries : List (String × Value))
    (happart : ((new root topLevel names loader).site disk).Serves names (q ++ [k]) value)
    (htogether : ((new root topLevel names loader).site disk').Serves names q (.mapping entries))
    (hentry : Value.find? k entries = some value) (rest : List String) :
    let tree := new root topLevel names loader
    let path := Text.joinDots (q ++ k :: rest)
    (tree.get disk path).result = (tree.get disk' path).result ∧
      (∀ f, segments path names = .error f → (tree.get disk path).result = .error f) ∧
      ∀ row, segments path names = .ok row → ∃ texts, row = q ++ k :: texts ∧
        (tree.get disk path).result = value.atKeys texts path := by
  intro tree path
  have hboth : ∀ texts, segments path names = .ok (q ++ k :: texts) →
      (tree.get disk path).result = value.atKeys texts path ∧
        (tree.get disk' path).result = value.atKeys texts path := by
    intro texts hrow
    have hrow' : segments path names = .ok ((q ++ [k]) ++ texts) := by simpa using hrow
    have hchild : (Value.mapping entries).child? k = some value := hentry
    have hfound : (tree.get disk' path).result = (Value.mapping entries).atKeys (k :: texts) path :=
      get_of_serves rfl htogether hrow
    rw [Value.atKeys_cons, Value.atKey_of_child hchild] at hfound
    exact ⟨get_of_serves rfl happart hrow', hfound⟩
  cases hsegments : segments path names with
  | error f =>
      have hfails : ∀ disk, (tree.get disk path).result = .error f :=
        fun disk => get_of_segments_error hsegments
      refine ⟨(hfails disk).trans (hfails disk').symm, fun f' hf' => ?_, nofun⟩
      cases hf'
      exact hfails disk
  | ok row =>
      have hpath : path = Text.joinDots ((q ++ [k]) ++ rest) := by simp [path]
      obtain ⟨texts, rfl⟩ := exists_segments_append (by simp) hplain (hpath ▸ hsegments)
      have hsplit : (q ++ [k]) ++ texts = q ++ k :: texts := by simp
      obtain ⟨hget, hget'⟩ := hboth texts (hsplit ▸ hsegments)
      refine ⟨hget.trans hget'.symm, nofun, fun row' hrow' => ?_⟩
      cases hrow'
      exact ⟨texts, hsplit, hget⟩

/-- A greeting in a directory of its own, and one in a file with other greetings. -/
theorem get_eq_get_of_moved_greeting :
    let apart : Disk := fun place =>
      if place = "cfg/en" then some .directory
      else if place = "cfg/en/greet.yaml" then some (.text "hello ${who}\n") else none
    let together : Disk := fun place =>
      if place = "cfg/en.yaml" then some (.text "part: bye\ngreet: hello ${who}\n") else none
    let tree := Tree.new "cfg" none (.ofList [("who", "world")]) .yaml
    (∀ s ∈ ["en", "greet"], Path.IsPlain s) ∧
      (tree.site apart).Serves tree.names ["en", "greet"] (.string "hello world") ∧
      (∃ entries, (tree.site together).Serves tree.names ["en"] (.mapping entries)) ∧
      (tree.get apart "en.greet").result = (tree.get together "en.greet").result ∧
      (tree.get apart "en.greet").result = .ok (.string "hello world") := by
  intro apart together tree
  have hplain : ∀ s ∈ ["en", "greet"], Path.IsPlain s := by
    intro s hs
    rcases List.mem_pair.mp hs with rfl | rfl
    · exact ⟨⟨by decide, by decide, by decide, by decide⟩, by decide⟩
    · exact ⟨⟨by decide, by decide, by decide, by decide⟩, by decide⟩
  have hopens : apart.Opens tree.base ["en"] := by
    intro above hne hbegins
    obtain rfl : above = ["en"] := by
      rcases List.prefix_cons_iff.mp hbegins with rfl | ⟨rest, rfl, hrest⟩
      · exact absurd rfl hne
      · rw [List.prefix_nil.mp hrest]
    decide +kernel
  have hopens' : together.Opens tree.base [] :=
    fun above hne hbegins => absurd (List.prefix_nil.mp hbegins) hne
  let here := tree.site apart
  let there := tree.site together
  have htext : (here.loader here.disk (Path.fileAt here.base ["en", "greet"])
      tree.names).toOption.bind Value.asString? = some "hello world" := by decide +kernel
  obtain ⟨text, hload, hstring⟩ := Option.bind_eq_some_iff.mp htext
  obtain rfl := Value.eq_string_of_asString? hstring
  have hfound : (((there.loader there.disk (Path.fileAt there.base ["en"])
      tree.names).toOption.bind Value.asMapping?).bind (Value.find? "greet")).bind Value.asString? =
        some "hello world" := by decide +kernel
  obtain ⟨value, hvalue, hstring⟩ := Option.bind_eq_some_iff.mp hfound
  obtain rfl := Value.eq_string_of_asString? hstring
  obtain ⟨entries, hentries, hentry⟩ := Option.bind_eq_some_iff.mp hvalue
  obtain ⟨whole, hload', hmapping⟩ := Option.bind_eq_some_iff.mp hentries
  obtain rfl := Value.eq_mapping_of_asMapping? hmapping
  have happart : here.Serves tree.names ["en", "greet"] (.string "hello world") :=
    ⟨by simp, fun s hs => (hplain s hs).toIsName, hopens, by decide +kernel,
      eq_ok_of_toOption hload⟩
  have htogether : there.Serves tree.names ["en"] (.mapping entries) :=
    ⟨by simp, fun s hs => (hplain s (List.mem_append_left ["greet"] hs)).toIsName, hopens',
      by decide +kernel, eq_ok_of_toOption hload'⟩
  have hsegments : segments "en.greet" tree.names = .ok ["en", "greet"] :=
    eq_ok_of_toOption (by decide +kernel)
  have hpath : Text.joinDots ["en", "greet"] = "en.greet" := by decide +kernel
  obtain ⟨hsame, -, hall⟩ := get_eq_get_of_moved "cfg" none tree.names tree.loader apart together
    ["en"] "greet" hplain (.string "hello world") entries happart htogether hentry []
  obtain ⟨texts, hrow, hget⟩ := hall ["en", "greet"] (hpath ▸ hsegments)
  obtain rfl : texts = [] := by simpa using hrow
  exact ⟨hplain, happart, ⟨entries, htogether⟩, hpath ▸ hsame, hpath ▸ hget⟩

end Tree

end DottedConfig
