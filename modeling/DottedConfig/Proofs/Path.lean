/-
Rows of names below a directory, and the paths that spell them.

A name here is not empty and holds neither a dot nor a slash of either kind.  Joined to a
directory, a row of such names comes to the directory, a slash if it does not end in one,
and the names with a slash between each two.  So the path gives the row back, because no
name holds a slash; and the path of the file that stands for a row is never the path of a
row itself, because no name holds a dot.
-/
import DottedConfig.Path

namespace DottedConfig.Path

/-- A text that stands for one entry of a directory, and is not the name of a file in it. -/
structure IsName (s : String) : Prop where
  /-- There is something to it. -/
  nonempty : s ≠ ""
  /-- It holds no dot. -/
  dot : '.' ∉ s.toList
  /-- It holds no slash. -/
  slash : '/' ∉ s.toList
  /-- Nor one the other way. -/
  backslash : '\\' ∉ s.toList

theorem isPlainName_iff {s : String} :
    isPlainName s ↔ s ≠ "." ∧ s ≠ ".." ∧ '/' ∉ s.toList ∧ '\\' ∉ s.toList := by
  simp only [isPlainName, Bool.and_eq_true, bne_iff_ne, Bool.not_eq_true', List.any_eq_false,
    Bool.or_eq_true, beq_iff_eq, and_assoc]
  refine and_congr_right fun _ => and_congr_right fun _ => ⟨fun h => ?_, fun h c hc => ?_⟩
  · exact ⟨fun hc => h _ hc (.inl rfl), fun hc => h _ hc (.inr rfl)⟩
  · rintro (rfl | rfl)
    · exact h.1 hc
    · exact h.2 hc

theorem IsName.isPlainName {s : String} (h : IsName s) : isPlainName s := by
  refine isPlainName_iff.mpr ⟨?_, ?_, h.slash, h.backslash⟩
  · rintro rfl
    exact h.dot (by decide)
  · rintro rfl
    exact h.dot (by decide)

/-- The file that stands for a row of names below a directory. -/
def fileAt (directory : String) (row : List String) : String := yaml (joinAll directory row)

theorem joinAll_append_singleton (directory : String) (row : List String) (name : String) :
    joinAll directory (row ++ [name]) = join (joinAll directory row) name := by
  simp [joinAll]

/-! ### The text of a path -/

/-- A directory, up to where the names below it begin. -/
def opened (directory : String) : String :=
  if directory.isEmpty || directory.toList.getLast? = some '/' then directory
  else directory ++ "/"

theorem join_eq {name : String} (h : '/' ∉ name.toList) (directory : String) :
    join directory name = opened directory ++ name := by
  have hhead : name.toList.head? ≠ some '/' := fun hc => h (List.mem_of_mem_head? hc)
  rw [join, if_neg hhead, opened]
  split <;> rfl

/-- A path that ends in a name is opened by a slash. -/
theorem opened_append {name : String} (hne : name ≠ "") (h : '/' ∉ name.toList)
    (before : String) : opened (before ++ name) = before ++ name ++ "/" := by
  have hlist : name.toList ≠ [] := fun hc => hne (String.toList_eq_nil_iff.mp hc)
  have hempty : (before ++ name).isEmpty = false := by
    refine Bool.eq_false_iff.mpr fun hc => hlist ?_
    have := congrArg String.toList (String.isEmpty_iff.mp hc)
    rw [String.toList_append] at this
    exact (List.append_eq_nil_iff.mp this).2
  have hlast : (before ++ name).toList.getLast? ≠ some '/' := by
    rw [String.toList_append, List.getLast?_append, List.getLast?_eq_some_getLast hlist]
    exact fun hc => h (List.mem_of_getLast? ((List.getLast?_eq_some_getLast hlist).trans hc))
  rw [opened, hempty, if_neg (by simpa using hlast)]

theorem joinAll_eq {row : List String} (hne : row ≠ [])
    (h : ∀ s ∈ row, s ≠ "" ∧ '/' ∉ s.toList) (directory : String) :
    joinAll directory row = opened directory ++ "/".intercalate row := by
  induction row generalizing directory with
  | nil => exact absurd rfl hne
  | cons s rest ih =>
      obtain ⟨hs, hslash⟩ := h s (by simp)
      show joinAll (join directory s) rest = _
      rw [join_eq hslash]
      by_cases hrest : rest = []
      · subst hrest
        simp [joinAll]
      · rw [ih hrest (fun t ht => h t (by simp [ht])), opened_append hs hslash,
          String.intercalate_cons_of_ne_nil hrest]
        simp only [String.append_assoc]

/-! ### Rows are told apart -/

theorem notMem_intercalate {c : Char} {row : List String} (hc : c ≠ '/')
    (h : ∀ s ∈ row, c ∉ s.toList) : c ∉ ("/".intercalate row).toList := by
  induction row with
  | nil => simp
  | cons s rest ih =>
      have hs : c ∉ s.toList := h s (by simp)
      have hall := ih fun t ht => h t (by simp [ht])
      by_cases hrest : rest = []
      · subst hrest
        rwa [String.intercalate_singleton]
      · rw [String.intercalate_cons_of_ne_nil hrest, String.toList_append, String.toList_append,
          List.mem_append, List.mem_append]
        rintro ((hmem | hmem) | hmem)
        · exact hs hmem
        · exact hc (List.mem_singleton.mp hmem)
        · exact hall hmem

theorem intercalate_injective {row row' : List String} (hne : row ≠ []) (hne' : row' ≠ [])
    (h : ∀ s ∈ row, '/' ∉ s.toList) (h' : ∀ s ∈ row', '/' ∉ s.toList)
    (heq : "/".intercalate row = "/".intercalate row') : row = row' := by
  have hsplit : ∀ {row : List String}, row ≠ [] → (∀ s ∈ row, '/' ∉ s.toList) →
      ("/".intercalate row).toList.splitOn '/' = row.map String.toList := by
    intro row hne h
    rw [String.toList_intercalate]
    refine List.splitOn_intercalate '/' ?_ (fun hc => hne (List.map_eq_nil_iff.mp hc))
    intro l hl
    obtain ⟨s, hs, rfl⟩ := List.mem_map.mp hl
    exact h s hs
  have hmap : row.map String.toList = row'.map String.toList := by
    rw [← hsplit hne h, ← hsplit hne' h', heq]
  exact (List.map_inj_right fun _ _ => String.toList_inj.mp).mp hmap

section

variable {directory : String} {row row' : List String} (hne : row ≠ []) (hne' : row' ≠ [])
  (h : ∀ s ∈ row, IsName s) (h' : ∀ s ∈ row', IsName s)

include hne hne' h h'

/-- **A row of names is told by its place.** -/
theorem joinAll_injective (heq : joinAll directory row = joinAll directory row') : row = row' := by
  rw [joinAll_eq hne fun s hs => ⟨(h s hs).nonempty, (h s hs).slash⟩,
    joinAll_eq hne' fun s hs => ⟨(h' s hs).nonempty, (h' s hs).slash⟩] at heq
  exact intercalate_injective hne hne' (fun s hs => (h s hs).slash)
    (fun s hs => (h' s hs).slash) ((String.append_right_inj _).mp heq)

/-- **And by its file.** -/
theorem fileAt_injective (heq : fileAt directory row = fileAt directory row') : row = row' :=
  joinAll_injective hne hne' h h' ((String.append_left_inj _).mp heq)

/-- **The file of a row is no place of a row.** -/
theorem fileAt_ne_joinAll : fileAt directory row ≠ joinAll directory row' := by
  intro heq
  rw [fileAt, yaml, joinAll_eq hne fun s hs => ⟨(h s hs).nonempty, (h s hs).slash⟩,
    joinAll_eq hne' fun s hs => ⟨(h' s hs).nonempty, (h' s hs).slash⟩, String.append_assoc,
    String.append_right_inj] at heq
  have hdot : '.' ∈ ("/".intercalate row').toList := by
    rw [← heq]
    simp
  exact notMem_intercalate (by decide) (fun s hs => (h' s hs).dot) hdot

end

end DottedConfig.Path
