/-
The tokens that a template text is a row of, and the pieces that they are put together to.

A token is a character other than `$`, a `$` written twice, or a name after a `$`, bare or in
braces.  The bare form takes the longest name there is.  A template keeps its literal characters
together: no literal is empty and no two stand side by side.
-/
import DottedConfig.Template.Name

namespace DottedConfig

/-! ### Pieces -/

/-- One piece of a template. -/
inductive Template.Segment where
  /-- Text copied as it is. -/
  | literal (text : String)
  /-- A name to be looked up. -/
  | placeholder (name : String)
  deriving DecidableEq, Repr

/-- A text that has been read for its placeholders. -/
structure Template where
  /-- Its pieces in order. -/
  segments : List Template.Segment
  deriving DecidableEq, Repr

namespace Template

/-! ### Tokens -/

/-- The least parts of a template text. -/
inductive Token where
  /-- A character that stands for itself. -/
  | char (c : Char)
  /-- A `$`, written twice. -/
  | dollar
  /-- A name after `$`, in braces or bare. -/
  | name (cs : List Char)
  deriving DecidableEq, Repr

/-- The token that a `$` begins, from the characters after it, and what follows the token. -/
def afterDollar : List Char → Option (Token × List Char)
  | '$' :: rest => some (.dollar, rest)
  | '\x7b' :: rest =>
    match rest.dropWhile isNameChar with
    | '\x7d' :: rest' =>
      if spellsName (rest.takeWhile isNameChar) then
        some (.name (rest.takeWhile isNameChar), rest')
      else none
    | _ => none
  | rest =>
    if spellsName (rest.takeWhile isNameChar) then
      some (.name (rest.takeWhile isNameChar), rest.dropWhile isNameChar)
    else none

theorem length_dropWhile_le (p : Char → Bool) (cs : List Char) :
    (cs.dropWhile p).length ≤ cs.length := (List.dropWhile_suffix p).sublist.length_le

theorem length_of_afterDollar {cs rest : List Char} {token : Token}
    (h : afterDollar cs = some (token, rest)) : rest.length ≤ cs.length := by
  unfold afterDollar at h
  split at h
  · simp only [Option.some.injEq, Prod.mk.injEq] at h
    simp [← h.2]
  · rename_i r
    split at h
    · rename_i r' hr
      split at h
      · simp only [Option.some.injEq, Prod.mk.injEq] at h
        have := length_dropWhile_le isNameChar r
        rw [hr] at this
        simp only [List.length_cons, ← h.2] at this ⊢
        omega
      · simp at h
    · simp at h
  · split at h
    · simp only [Option.some.injEq, Prod.mk.injEq] at h
      rw [← h.2]
      exact length_dropWhile_le isNameChar _
    · simp at h

/-- The tokens of a text; at fault, the part of the text from the faulty `$` on. -/
def tokens : List Char → Except (List Char) (List Token)
  | [] => .ok []
  | c :: rest =>
    if c = '$' then
      match _h : afterDollar rest with
      | some (token, rest') => do return token :: (← tokens rest')
      | none => .error (c :: rest)
    else do return .char c :: (← tokens rest)
  termination_by cs => cs.length
  decreasing_by
    · have := length_of_afterDollar _h
      simp only [List.length_cons]
      omega
    · simp

theorem tokens_char {c : Char} (h : c ≠ '$') (rest : List Char) :
    tokens (c :: rest) = (tokens rest).map (Token.char c :: ·) := by
  rw [tokens, if_neg h]
  cases tokens rest <;> rfl

theorem tokens_of_afterDollar {cs rest : List Char} {token : Token}
    (h : afterDollar cs = some (token, rest)) :
    tokens ('$' :: cs) = (tokens rest).map (token :: ·) := by
  rw [tokens, if_pos rfl]
  split
  · rename_i token' rest' h'
    obtain ⟨rfl, rfl⟩ := Prod.mk.inj (Option.some.inj (h.symm.trans h'))
    cases tokens rest <;> rfl
  · rename_i h'
    rw [h] at h'
    cases h'

theorem tokens_of_afterDollar_none {cs : List Char} (h : afterDollar cs = none) :
    tokens ('$' :: cs) = .error ('$' :: cs) := by
  rw [tokens, if_pos rfl]
  split
  · rename_i h'
    rw [h] at h'
    cases h'
  · rfl

/-! ### Gathering pieces -/

/-- The literal of these characters, of which the last comes first; none if there are none. -/
def literal? : List Char → List Segment
  | [] => []
  | cs => [.literal (String.ofList cs.reverse)]

theorem literal?_reverse (text : String) :
    literal? text.toList.reverse = if text = "" then [] else [.literal text] := by
  split
  · rename_i hempty
    rw [hempty]
    rfl
  · rename_i hne
    have hlist : text.toList.reverse ≠ [] := fun heq =>
      hne (String.toList_eq_nil_iff.mp (List.reverse_eq_nil_iff.mp heq))
    rw [literal?.eq_2 _ hlist, List.reverse_reverse, String.ofList_toList]

/-- Puts the characters between two placeholders together. -/
def gather (pending : List Char) : List Token → List Segment
  | [] => literal? pending
  | .char c :: rest => gather (c :: pending) rest
  | .dollar :: rest => gather ('$' :: pending) rest
  | .name cs :: rest => literal? pending ++ .placeholder (String.ofList cs) :: gather [] rest

end Template

end DottedConfig
