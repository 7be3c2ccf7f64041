/-
The names that placeholders can have.

A name is an ASCII letter or `_`, followed by ASCII letters, digits and `_`.
-/

namespace DottedConfig

/-- A character that a name may begin with. -/
def isNameStart (c : Char) : Bool := c.isAlpha || c == '_'

/-- A character that a name may go on with. -/
def isNameChar (c : Char) : Bool := c.isAlphanum || c == '_'

/-- Whether these characters spell a name. -/
def spellsName : List Char → Bool
  | [] => false
  | c :: rest => isNameStart c && rest.all isNameChar

/-- Whether a text is a name. -/
def isName (s : String) : Bool := spellsName s.toList

theorem isNameChar_of_isNameStart {c : Char} (h : isNameStart c = true) : isNameChar c = true := by
  simp only [isNameStart, isNameChar, Char.isAlphanum, Bool.or_eq_true] at h ⊢
  exact h.imp_left .inl

theorem spellsName_all {cs : List Char} (h : spellsName cs = true) : cs.all isNameChar = true := by
  cases cs with
  | nil => rfl
  | cons c rest =>
    simp only [spellsName, Bool.and_eq_true] at h
    simp only [List.all_cons, Bool.and_eq_true]
    exact ⟨isNameChar_of_isNameStart h.1, h.2⟩

/-- What a name could go on with spells one just if it begins as a name does. -/
theorem spellsName_takeWhile (cs : List Char) :
    spellsName (cs.takeWhile isNameChar) = cs.head?.any isNameStart := by
  cases cs with
  | nil => rfl
  | cons c rest =>
    rw [List.head?_cons, Option.any_some]
    by_cases hc : isNameChar c = true
    · rw [List.takeWhile_cons_of_pos hc, spellsName, List.all_takeWhile, Bool.and_true]
    · rw [List.takeWhile_cons_of_neg hc, spellsName]
      exact (Bool.eq_false_iff.mpr fun hstart => hc (isNameChar_of_isNameStart hstart)).symm

end DottedConfig
