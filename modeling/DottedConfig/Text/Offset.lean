/-
Where in the bytes of a text something stands.

A text is looked at through slices that begin or end at an offset into its bytes.  There is such
a slice only if the offset is within the text and between two of its characters; at any other
offset there is none, and nothing comes of looking there.  An offset moves on over one character,
by as many bytes as the character has.

`Between` says which characters are before an offset, and which after it.  Those after it are
all that can be seen from it, and moving on puts the first of them before it.
-/

namespace DottedConfig.Text

/-! ### Looking at a text -/

/-- The text from an offset on. -/
def sliceFrom? (text : String) (pos : String.Pos.Raw) : Option String.Slice :=
  if h : pos.IsValid text then some (text.sliceFrom (text.pos pos h)) else none

/-- The text up to an offset. -/
def sliceTo? (text : String) (pos : String.Pos.Raw) : Option String.Slice :=
  if h : pos.IsValid text then some (text.sliceTo (text.pos pos h)) else none

/-- The character after an offset; none at the end of the text. -/
def current (text : String) (pos : String.Pos.Raw) : Option (Option Char) :=
  (sliceFrom? text pos).map fun rest => rest.front?

/-- The character after the next one. -/
def peek (text : String) (pos : String.Pos.Raw) : Option (Option Char) :=
  (sliceFrom? text pos).map fun rest => (rest.drop 1).front?

/-- The offset after the next character. -/
def advance (text : String) (pos : String.Pos.Raw) : Option String.Pos.Raw := do
  match ← current text pos with
  | some c => return pos + c
  | none => return pos

/-! ### Before and after an offset -/

/-- An offset is between these characters of a text. -/
structure Between (text : String) (pos : String.Pos.Raw) (before after : List Char) : Prop where
  cut : text.toList = before ++ after
  bytes : pos = (String.ofList before).rawEndPos

section

variable {text : String} {pos pos' : String.Pos.Raw} {before after rest cs : List Char} {c : Char}

theorem isValid_iff : pos.IsValid text ↔ ∃ before after, Between text pos before after := by
  rw [String.Pos.Raw.isValid_iff_exists_append]
  constructor
  · rintro ⟨s, t, rfl, rfl⟩
    exact ⟨s.toList, t.toList, String.toList_append, by rw [String.ofList_toList]⟩
  · rintro ⟨before, after, hcut, hbytes⟩
    refine ⟨String.ofList before, String.ofList after, ?_, hbytes⟩
    rw [← String.ofList_append, ← hcut, String.ofList_toList]

theorem isValid_of_current {c? : Option Char} (h : current text pos = some c?) :
    pos.IsValid text := by
  by_cases hvalid : pos.IsValid text
  · exact hvalid
  · rw [current, sliceFrom?, dif_neg hvalid] at h
    cases h

theorem between_zero (text : String) : Between text 0 [] text.toList := ⟨rfl, rfl⟩

namespace Between

theorem isValid (h : Between text pos before after) : pos.IsValid text :=
  isValid_iff.mpr ⟨before, after, h⟩

theorem splits (h : Between text pos before after) :
    (text.pos pos h.isValid).Splits (String.ofList before) (String.ofList after) := by
  refine ⟨?_, h.bytes⟩
  rw [← String.ofList_append, ← h.cut, String.ofList_toList]

theorem copy_sliceTo (h : Between text pos before after) :
    (text.sliceTo (text.pos pos h.isValid)).copy = String.ofList before :=
  String.copy_sliceTo_eq_iff_exists_splits.mpr ⟨_, h.splits⟩

theorem copy_sliceFrom (h : Between text pos before after) :
    (text.sliceFrom (text.pos pos h.isValid)).copy = String.ofList after :=
  String.copy_sliceFrom_eq_iff_exists_splits.mpr ⟨_, h.splits⟩

theorem current (h : Between text pos before after) : current text pos = some after.head? := by
  rw [Text.current, sliceFrom?, dif_pos h.isValid, Option.map_some, String.Slice.front?_eq,
    h.copy_sliceFrom, String.toList_ofList]

theorem peek (h : Between text pos before after) : peek text pos = some after.tail.head? := by
  rw [Text.peek, sliceFrom?, dif_pos h.isValid, Option.map_some, String.Slice.front?_eq,
    String.Slice.toList_copy_drop, h.copy_sliceFrom, String.toList_ofList, List.drop_one]

/-- Going over a whole character keeps the offset between characters. -/
theorem next (h : Between text pos before (c :: rest)) :
    Between text (pos + c) (before ++ [c]) rest := by
  constructor
  · rw [h.cut, List.append_assoc, List.singleton_append]
  · rw [h.bytes, String.ofList_append, ← String.singleton_eq_ofList, String.append_singleton,
      String.rawEndPos_push]

theorem advance (h : Between text pos before (c :: rest)) :
    advance text pos = some (pos + c) := by
  rw [Text.advance, h.current]
  rfl

/-- The offset grows with every character that comes to be before it. -/
theorem lt (h : Between text pos before after) (h' : Between text pos' (before ++ c :: cs) rest) :
    pos < pos' := by
  have hc := c.utf8Size_pos
  rw [String.Pos.Raw.lt_iff, h.bytes, h'.bytes, String.byteIdx_rawEndPos, String.byteIdx_rawEndPos,
    String.ofList_append, String.utf8ByteSize_append, String.ofList_cons,
    String.utf8ByteSize_append, String.utf8ByteSize_singleton]
  omega

end Between

theorem lt_of_advance (hc : current text pos = some (some c)) (h : advance text pos = some pos') :
    pos.byteIdx < pos'.byteIdx ∧ pos'.byteIdx ≤ text.utf8ByteSize := by
  obtain ⟨before, after, hbetween⟩ := isValid_iff.mp (isValid_of_current hc)
  cases after with
  | nil =>
      rw [hbetween.current] at hc
      cases hc
  | cons d rest =>
      rw [hbetween.advance] at h
      cases h
      exact ⟨hbetween.lt hbetween.next, hbetween.next.isValid.le_utf8ByteSize⟩

end

end DottedConfig.Text
