/-
Cutting a text at its dots undoes joining segments with dots.

It gives the segments back only if none of them holds a dot, and it never gives the
empty row, whose text is also that of one empty segment.  So among rows without dots
in their segments the joined text is as good as the row, which is what makes it fit
to be a key.
-/
import DottedConfig.Text.Dotted

namespace DottedConfig.Text

/-! ### Cutting characters -/

theorem cutChars_ne_nil (sep : Char) (cs : List Char) : cutChars sep cs ≠ [] := by
  cases cs with
  | nil => simp [cutChars]
  | cons c rest =>
      rw [cutChars]
      split
      · simp
      · split <;> simp

theorem cutChars_of_notMem {sep : Char} {cs : List Char} (h : sep ∉ cs) :
    cutChars sep cs = [cs] := by
  induction cs with
  | nil => rfl
  | cons c rest ih =>
      obtain ⟨hc, hrest⟩ := not_or.mp (fun hmem => h (List.mem_cons.mpr hmem))
      rw [cutChars, if_neg (fun heq => hc heq.symm), ih hrest]

/-- What stands before a separator and what stands after it are cut on their own. -/
theorem cutChars_append (sep : Char) (cs rest : List Char) :
    cutChars sep (cs ++ sep :: rest) = cutChars sep cs ++ cutChars sep rest := by
  induction cs with
  | nil => simp [cutChars]
  | cons c cs ih =>
      rw [List.cons_append, cutChars, cutChars, ih]
      by_cases hc : c = sep
      · rw [if_pos hc, if_pos hc, List.cons_append]
      · obtain ⟨run, runs, hrun⟩ := List.exists_cons_of_ne_nil (cutChars_ne_nil sep cs)
        rw [if_neg hc, if_neg hc, hrun]
        rfl

theorem cutDots_append (before after : String) :
    cutDots (before ++ "." ++ after) = cutDots before ++ cutDots after := by
  have hlist : (before ++ "." ++ after).toList = before.toList ++ '.' :: after.toList := by simp
  rw [cutDots, hlist, cutChars_append, List.map_append, cutDots, cutDots]

theorem cutDots_of_notMem {s : String} (h : '.' ∉ s.toList) : cutDots s = [s] := by
  rw [cutDots, cutChars_of_notMem h, List.map_singleton, String.ofList_toList]

/-! ### Joined segments -/

theorem joinDots_cons {rest : List String} (h : rest ≠ []) (s : String) :
    joinDots (s :: rest) = s ++ "." ++ joinDots rest := by
  cases rest with
  | nil => exact absurd rfl h
  | cons t rest => rfl

/-- A joined text is at least as long as its last segment. -/
theorem length_le_joinDots (before : List String) (s : String) :
    s.length ≤ (joinDots (before ++ [s])).length := by
  induction before with
  | nil => exact Nat.le_refl _
  | cons t rest ih =>
      rw [List.cons_append, joinDots_cons (by simp), String.length_append]
      omega

/-- Joined rows go into one, a dot between them. -/
theorem joinDots_append {row row' : List String} (h : row ≠ []) (h' : row' ≠ []) :
    joinDots (row ++ row') = joinDots row ++ "." ++ joinDots row' := by
  induction row with
  | nil => exact absurd rfl h
  | cons s rest ih =>
      by_cases hrest : rest = []
      · subst hrest
        exact joinDots_cons h' s
      · rw [List.cons_append, joinDots_cons (by simp [hrest]), joinDots_cons hrest, ih hrest]
        simp only [String.append_assoc]

/-- **Cutting undoes joining where no segment holds a dot.** -/
theorem cutDots_joinDots {row : List String} (hne : row ≠ [])
    (h : ∀ s ∈ row, '.' ∉ s.toList) : cutDots (joinDots row) = row := by
  induction row with
  | nil => exact absurd rfl hne
  | cons s rest ih =>
      have hs : cutDots s = [s] := cutDots_of_notMem (h s (by simp))
      by_cases hrest : rest = []
      · subst hrest
        exact hs
      · rw [joinDots_cons hrest, cutDots_append, hs, ih hrest (fun t ht => h t (by simp [ht]))]
        rfl

/-- Where more text follows after a dot, its segments follow those of the row. -/
theorem cutDots_joinDots_append {row : List String} (hne : row ≠ [])
    (h : ∀ s ∈ row, '.' ∉ s.toList) (rest : String) :
    cutDots (joinDots row ++ "." ++ rest) = row ++ cutDots rest := by
  rw [cutDots_append, cutDots_joinDots hne h]

/-- Rows without dots in their segments are told apart by their joined texts. -/
theorem joinDots_injective {row row' : List String} (hne : row ≠ []) (hne' : row' ≠ [])
    (h : ∀ s ∈ row, '.' ∉ s.toList) (h' : ∀ s ∈ row', '.' ∉ s.toList)
    (heq : joinDots row = joinDots row') : row = row' := by
  rw [← cutDots_joinDots hne h, ← cutDots_joinDots hne' h', heq]

theorem cutDots_ne_nil (text : String) : cutDots text ≠ [] := by
  rw [cutDots]
  exact fun h => cutChars_ne_nil '.' text.toList (List.map_eq_nil_iff.mp h)

end DottedConfig.Text
