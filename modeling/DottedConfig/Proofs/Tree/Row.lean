/-
Rows of segments, and the dotted paths that bring them about.

Splitting a path yields a row: at least one segment, none empty and none with a dot in
it.  Such a row and its dotted text determine each other, so what the cache holds under
the text of a row can only have come from a row of the same segments.

Conversely every row is that of some path under every namespace: its segments with each
`$` doubled, joined by dots.  This is what turns a statement about rows into one about
the paths that a user can write.
-/
import DottedConfig.Proofs.Except
import DottedConfig.Proofs.Template.Escape
import DottedConfig.Proofs.Text.Dotted
import DottedConfig.Tree.Segments
import Mathlib.Data.List.Forall2

namespace DottedConfig.Tree

/-- What a segment of a path can be. -/
def IsSegment (s : String) : Prop := s ≠ "" ∧ '.' ∉ s.toList

/-- What the segments of a path can be. -/
structure IsRow (row : List String) : Prop where
  /-- There is a first segment. -/
  nonempty : row ≠ []
  /-- No segment is empty or holds a dot. -/
  segments : ∀ s ∈ row, IsSegment s

instance (s : String) : Decidable (IsSegment s) :=
  inferInstanceAs (Decidable (_ ∧ _))

instance (row : List String) : Decidable (IsRow row) :=
  decidable_of_iff (row ≠ [] ∧ ∀ s ∈ row, IsSegment s)
    ⟨fun h => ⟨h.1, h.2⟩, fun h => ⟨h.nonempty, h.segments⟩⟩

/-! ### Rows as keys -/

/-- A row goes under a dotted text of its own. -/
theorem IsRow.eq_of_joinDots {row row' : List String} (h : IsRow row) (h' : IsRow row')
    (heq : Text.joinDots row = Text.joinDots row') : row = row' :=
  Text.joinDots_injective h.nonempty h'.nonempty (fun s hs => (h.segments s hs).2)
    (fun s hs => (h'.segments s hs).2) heq

theorem not_append_singleton_isPrefix (before : List String) (part : String) :
    ¬before ++ [part] <+: before := by
  intro hbegins
  have hlength := hbegins.length_le
  rw [List.length_append, List.length_singleton] at hlength
  omega

/-- A segment more than some of a row's first segments make a row. -/
theorem isRow_append_singleton {before rest : List String} {part : String}
    (h : ∀ s ∈ before ++ part :: rest, IsSegment s) : IsRow (before ++ [part]) := by
  refine ⟨by simp, ?_⟩
  intro s hs
  refine h s ?_
  rcases List.mem_append.mp hs with hs | hs
  · exact List.mem_append_left _ hs
  · rw [List.mem_singleton.mp hs]
    simp

theorem IsRow.append_singleton {row : List String} {s : String} (h : IsRow row)
    (hs : IsSegment s) : IsRow (row ++ [s]) := by
  refine ⟨by simp, fun t ht => ?_⟩
  rcases List.mem_append.mp ht with ht | ht
  · exact h.segments t ht
  · rw [List.mem_singleton.mp ht]
    exact hs

theorem IsRow.of_prefix {row before : List String} (h : IsRow row) (hne : before ≠ [])
    (hbegins : before <+: row) : IsRow before :=
  ⟨hne, fun s hs => h.segments s (hbegins.subset hs)⟩

/-! ### The row of a path -/

/-- The text that a written segment is filled to, if it can be one. -/
def Means (ns : Namespace) (written text : String) : Prop :=
  Template.substitute written ns = .ok text ∧ IsSegment text

/-- What a segment comes to does not depend on the path that it is in. -/
theorem segment_eq_ok_iff {path : String} {ns : Namespace} {written text : String} :
    segment path ns written = .ok text ↔ Means ns written text := by
  constructor
  · intro h
    unfold segment at h
    split at h
    · cases h
    · split at h
      · cases h
      · rename_i filled hfilled
        split at h
        · cases h
        · rename_i hempty
          split at h
          · cases h
          · rename_i hdot
            cases h
            exact ⟨hfilled, fun hc => hempty (by rw [hc]; rfl), hdot⟩
  · rintro ⟨hfilled, hne, hdot⟩
    have hwritten : ¬written.isEmpty := by
      intro hempty
      rw [String.isEmpty_iff.mp hempty] at hfilled
      exact hne (Except.ok.inj hfilled).symm
    rw [segment, if_neg hwritten, hfilled]
    show (if text.isEmpty then _ else if '.' ∈ text.toList then _ else _) = _
    rw [if_neg (fun hc => hne (String.isEmpty_iff.mp hc)), if_neg hdot]

theorem segmentsOf_cons_of_ok {path : String} {ns : Namespace} {written text : String}
    (h : segment path ns written = .ok text) (rest : List String) :
    segmentsOf path ns (written :: rest) = (segmentsOf path ns rest).map (text :: ·) := by
  rw [segmentsOf, h]
  show (do return text :: (← segmentsOf path ns rest)) = _
  cases segmentsOf path ns rest <;> rfl

/-- After segments that come to something, the others decide. -/
theorem segmentsOf_append {path : String} {ns : Namespace} {before texts : List String}
    (h : List.Forall₂ (Means ns) before texts) (rest : List String) :
    segmentsOf path ns (before ++ rest) = (segmentsOf path ns rest).map (texts ++ ·) := by
  induction h with
  | nil => cases h : segmentsOf path ns rest <;> simp [h, Except.map]
  | cons hsegment _ ih =>
      rw [List.cons_append, segmentsOf_cons_of_ok (segment_eq_ok_iff.mpr hsegment), ih]
      cases segmentsOf path ns rest <;> rfl

theorem segmentsOf_eq_ok_iff {path : String} {ns : Namespace} {writtens row : List String} :
    segmentsOf path ns writtens = .ok row ↔ List.Forall₂ (Means ns) writtens row := by
  constructor
  · intro h
    induction writtens generalizing row with
    | nil =>
        cases h
        exact .nil
    | cons written writtens ih =>
        obtain ⟨text, htext, h⟩ := eq_ok_of_bind h
        obtain ⟨texts, htexts, h⟩ := eq_ok_of_bind h
        cases h
        exact .cons (segment_eq_ok_iff.mp htext) (ih htexts)
  · intro h
    have happend : segmentsOf path ns (writtens ++ []) = _ := segmentsOf_append h []
    rw [List.append_nil] at happend
    rw [happend]
    simp [segmentsOf, Except.map]

/-- **A path comes to a row just if each segment of it comes to one of the row.** -/
theorem segments_eq_ok_iff {path : String} {ns : Namespace} {row : List String} :
    segments path ns = .ok row ↔ List.Forall₂ (Means ns) (Text.cutDots path) row := by
  rw [segments]
  split
  · rename_i hempty
    rw [String.isEmpty_iff.mp hempty]
    refine ⟨nofun, fun h => ?_⟩
    obtain ⟨text, texts, ⟨hfilled, hsegment⟩, -, -⟩ := List.forall₂_cons_left_iff.mp h
    exact absurd (Except.ok.inj hfilled).symm hsegment.1
  · exact segmentsOf_eq_ok_iff

theorem isSegment_of_means {ns : Namespace} {writtens row : List String}
    (h : List.Forall₂ (Means ns) writtens row) : ∀ s ∈ row, IsSegment s := by
  induction h with
  | nil => exact fun s hs => absurd hs List.not_mem_nil
  | cons hmeans _ ih => exact List.forall_mem_cons.mpr ⟨hmeans.2, ih⟩

/-- **What a path is split into is a row.** -/
theorem segments_isRow {path : String} {ns : Namespace} {row : List String}
    (h : segments path ns = .ok row) : IsRow row := by
  have hmeans := segments_eq_ok_iff.mp h
  refine ⟨?_, isSegment_of_means hmeans⟩
  rintro rfl
  exact Text.cutDots_ne_nil path (List.forall₂_nil_right_iff.mp hmeans)

/-! ### A path of a row -/

/-- A path whose segments are those of a row, whatever the namespace. -/
def pathOf (row : List String) : String := Text.joinDots (row.map Template.escape)

theorem IsSegment.escape {s : String} (h : IsSegment s) : IsSegment (Template.escape s) :=
  ⟨fun hc => h.1 (Template.escape_eq_empty.mp hc), fun hc => h.2 (Template.mem_toList_escape.mp hc)⟩

theorem means_escape {s : String} (h : IsSegment s) (ns : Namespace) :
    Means ns (Template.escape s) s :=
  ⟨Template.substitute_escape s ns, h⟩

/-- **Every row is the row of some path.** -/
theorem segments_pathOf {row : List String} (h : IsRow row) (ns : Namespace) :
    segments (pathOf row) ns = .ok row := by
  have hcut : Text.cutDots (pathOf row) = row.map Template.escape := by
    refine Text.cutDots_joinDots (fun hc => h.nonempty (List.map_eq_nil_iff.mp hc)) ?_
    intro s hs
    obtain ⟨t, ht, rfl⟩ := List.mem_map.mp hs
    exact (h.segments t ht).escape.2
  rw [segments_eq_ok_iff, hcut, List.forall₂_map_left_iff, List.forall₂_same]
  intro s hs
  exact means_escape (h.segments s hs) ns

end DottedConfig.Tree
