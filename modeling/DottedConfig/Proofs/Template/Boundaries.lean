/-
Where a scanner stands while it reads a text, and what it says of where it stopped.

A scanner begins at the first byte, and its offset moves in one way only, over the character
after it.  From the boundary of a character this leads to the next boundary, so the offset never
comes to any other place: every slice that is asked for is there, and every turn of the loop has
a result.  A turn that does not end the loop goes over one character at least.  There are then
no more turns than bytes, and the last one gives what reading the text gives.

When reading fails, the `$` that it blames is told from the text alone.  The tokens before it
are read the same with the `$` behind them, because no token goes on with a `$`; so whatever
text in the grammar stands before a `$` that begins no token, this `$` is where reading stops.
How far the scanner had looked past it does not matter, because it keeps the offset that the
turn began with.  Its line and its column are then counted in characters.
-/
import DottedConfig.Proofs.Template.Grammar
import Mathlib.Data.List.DropRight
import Mathlib.Logic.Relation

namespace DottedConfig

/-! ### Lines and columns -/

namespace Text.Position

theorem after_append_singleton (before : List Char) (c : Char) :
    after (before ++ [c]) = (after before).next c := by
  rw [after, List.foldl_append]
  rfl

/-- **The line counts the line feeds, and the column the characters after the last one.** -/
theorem after_eq_count (before : List Char) :
    after before = ⟨1 + before.count '\n', 1 + (before.rtakeWhile (· ≠ '\n')).length⟩ := by
  induction before using List.reverseRecOn with
  | nil => rfl
  | append_singleton before c ih =>
      rw [after_append_singleton, ih, next, List.count_append]
      by_cases hc : c = '\n'
      · rw [if_pos hc, hc, List.rtakeWhile_concat_neg _ _ _ (by decide)]
        rfl
      · rw [if_neg hc, List.rtakeWhile_concat_pos _ _ _ (by simpa using hc),
          List.count_singleton, List.length_append]
        simp [hc, Nat.add_assoc]

end Text.Position

/-! ### Offsets -/

namespace Text

variable {text : String} {pos pos' : String.Pos.Raw} {before passed after : List Char}

theorem isSome_sliceFrom?_iff : (sliceFrom? text pos).isSome ↔ pos.IsValid text := by
  rw [sliceFrom?, Option.isSome_dite]

theorem isSome_sliceTo?_iff : (sliceTo? text pos).isSome ↔ pos.IsValid text := by
  rw [sliceTo?, Option.isSome_dite]

/-- From a boundary the offset moves over one whole character, unless it is at the end. -/
theorem advance_of_isValid (h : pos.IsValid text) :
    (pos = text.rawEndPos ∧ advance text pos = some pos) ∨
      ∃ c : Char, advance text pos = some (pos + c) ∧ (pos + c).IsValid text := by
  obtain ⟨before, after, hbetween⟩ := isValid_iff.mp h
  cases after with
  | nil =>
      refine .inl ⟨?_, ?_⟩
      · rw [hbetween.bytes, ← List.append_nil before, ← hbetween.cut, String.ofList_toList]
      · rw [advance, hbetween.current]
        rfl
  | cons c rest => exact .inr ⟨c, hbetween.advance, hbetween.next.isValid⟩

/-- The offset gets from one place to the other by moving on, any number of times. -/
def Moves (text : String) : String.Pos.Raw → String.Pos.Raw → Prop :=
  Relation.ReflTransGen fun pos pos' => advance text pos = some pos'

theorem Between.moves (h : Between text pos before (passed ++ after))
    (h' : Between text pos' (before ++ passed) after) : Moves text pos pos' := by
  induction passed generalizing pos before with
  | nil =>
      have hsame : pos' = pos := by rw [h'.bytes, h.bytes, List.append_nil]
      rw [hsame]
      exact .refl
  | cons c rest ih =>
      refine .head h.advance (ih h.next ?_)
      rwa [List.append_assoc]

end Text

namespace Template

/-! ### Turns -/

namespace Scanner

variable {text : String} {s : Scanner} {n : Nat}

/-- Where a scanner can be after so many turns of the loop. -/
inductive Reaches (text : String) : Nat → Scanner → Prop where
  | start : Reaches text 0 {}
  | turn {n : Nat} {s s' : Scanner} (h : Reaches text n s) (hstep : s.step text = some (.next s')) :
      Reaches text (n + 1) s'

theorem Reaches.isValid (h : Reaches text n s) : s.pos.IsValid text := by
  cases h with
  | start => exact (Text.between_zero text).isValid
  | turn h hstep => exact (lt_of_step hstep).1

/-- Each turn has gone over a byte at least. -/
theorem Reaches.le_byteIdx (h : Reaches text n s) : n ≤ s.pos.byteIdx := by
  induction h with
  | start => exact Nat.zero_le _
  | turn h hstep ih => exact Nat.succ_le_of_lt (Nat.lt_of_le_of_lt ih (lt_of_step hstep).2)

/-- The turn after these has a result, and moves the offset on if it does not end the loop. -/
theorem Reaches.step (h : Reaches text n s) :
    (∃ result, s.step text = some (.over result)) ∨
      ∃ s', s.step text = some (.next s') ∧ s.pos < s'.pos ∧ Text.Moves text s.pos s'.pos := by
  obtain ⟨before, after, hbetween⟩ := Text.isValid_iff.mp h.isValid
  rcases step_of_between hbetween with hover | ⟨s', c, written, rest, hnext, hbetween'⟩
  · exact .inl hover
  · have hafter : after = c :: written ++ rest := by
      have hcut := hbetween.cut.symm.trans hbetween'.cut
      rwa [List.append_assoc, List.append_cancel_left_eq] at hcut
    rw [hafter] at hbetween
    exact .inr ⟨s', hnext, hbetween.lt hbetween', hbetween.moves hbetween'⟩

/-- What a run comes to is the result of its last turn. -/
theorem Reaches.exists_over {result : Except Failure Template} (h : Reaches text n s)
    (hrun : s.run text = some result) :
    ∃ m s', Reaches text m s' ∧ s'.step text = some (.over result) := by
  induction s using run.induct text generalizing n with
  | case1 s hstep =>
      rcases h.step with ⟨result', hover⟩ | ⟨s', hnext, -⟩
      · rw [hstep] at hover
        cases hover
      · rw [hstep] at hnext
        cases hnext
  | case2 s result' hstep =>
      rw [run_of_over hstep] at hrun
      cases hrun
      exact ⟨n, s, h, hstep⟩
  | case3 s s' hstep ih =>
      rw [run_of_next hstep] at hrun
      exact ih (h.turn hstep) hrun

end Scanner

theorem scan_eq_parse (text : String) : Scanner.scan text = some (parse text) :=
  (Option.some_get _).symm

/-! ### The `$` that is blamed -/

section

variable {text : String} {cs before after rest name : List Char} {token : Token} {ts : List Token}

/-- No token goes on with a `$`. -/
theorem Begins.append_dollar (h : Begins cs token rest) (after : List Char) :
    Begins (cs ++ '$' :: after) token (rest ++ '$' :: after) := by
  cases h with
  | char hc => exact .char hc
  | dollar => exact .dollar
  | @braced name _ hname =>
      have hbegins : Begins ('$' :: '\x7b' :: (name ++ '\x7d' :: (rest ++ '$' :: after)))
          (.name name) (rest ++ '$' :: after) := .braced hname
      simpa using hbegins
  | @bare name _ hname hmax =>
      rw [List.cons_append, List.append_assoc]
      refine .bare hname fun c hc => ?_
      cases rest with
      | nil =>
          obtain rfl : '$' = c := Option.some.inj hc
          exact fun hdollar => absurd (isNameChar_iff.mpr hdollar) (by decide)
      | cons d rest => exact hmax c hc

/-- Tokens are read the same with a `$` after them. -/
theorem tokens_append_dollar (h : Splits before ts) (after : List Char) :
    tokens (before ++ '$' :: after) = (tokens ('$' :: after)).map (ts ++ ·) := by
  induction h with
  | nil =>
      rw [List.nil_append]
      cases tokens ('$' :: after) <;> rfl
  | cons first others ih =>
      rw [tokens_of_begins (first.append_dollar after), ih]
      cases tokens ('$' :: after) <;> rfl

theorem afterDollar_of_stuck (h : ∀ token rest, ¬Begins ('$' :: after) token rest) :
    afterDollar after = none := by
  cases htoken : afterDollar after with
  | none => rfl
  | some read => exact absurd (begins_of_afterDollar htoken) (h read.1 read.2)

/-- **The leftmost fault is what reading stops at.** -/
theorem tokens_of_breaks (h : Breaks cs before after) : tokens cs = .error ('$' :: after) := by
  obtain ⟨ts, hsplits⟩ := h.splits
  rw [h.cut, tokens_append_dollar hsplits, tokens_of_afterDollar_none (afterDollar_of_stuck h.stuck)]
  rfl

/-- The failure at the `$` after these characters, with its place counted in characters. -/
def countedFault (before : List Char) (text : String) : Failure :=
  .badPlaceholder (.badPlaceholder text (1 + before.count '\n')
    (1 + (before.rtakeWhile (· ≠ '\n')).length))

theorem faultAfter_eq (before : List Char) (text : String) :
    faultAfter before text = countedFault before text := by
  rw [faultAfter, countedFault, Text.Position.after_eq_count]

theorem parse_of_breaks (h : Breaks text.toList before after) :
    parse text = .error (countedFault before text) := by
  rw [parse_eq, tokens_of_breaks h, ← faultAfter_eq, faultAfter]
  simp only [Scanner.take_of_cut h.cut]

theorem parse_eq_error_iff {f : Failure} :
    parse text = .error f ↔
      ∃ before after, Breaks text.toList before after ∧ f = countedFault before text := by
  constructor
  · intro h
    obtain ⟨before, after, hbreaks, rfl⟩ := parse_eq_error h
    exact ⟨before, after, hbreaks, faultAfter_eq before text⟩
  · rintro ⟨before, after, hbreaks, rfl⟩
    exact parse_of_breaks hbreaks

/-- A `$` and an opening brace begin no token if no name follows, or no brace after the name. -/
theorem stuck_of_brace (hall : ∀ c ∈ name, ContinuesName c)
    (hmax : ∀ c, rest.head? = some c → ¬ContinuesName c)
    (hopen : Identifier name → rest.head? ≠ some '\x7d') (token : Token) (left : List Char) :
    ¬Begins ('$' :: '\x7b' :: (name ++ rest)) token left := by
  intro hbegins
  have hall' : ∀ c ∈ name, isNameChar c = true := fun c hc => isNameChar_iff.mpr (hall c hc)
  have hmax' : ∀ c, rest.head? = some c → isNameChar c = false := fun c hc =>
    Bool.eq_false_iff.mpr fun hchar => hmax c hc (isNameChar_iff.mp hchar)
  have htoken := afterDollar_of_begins hbegins
  rw [afterDollar, takeWhile_append hall' hmax', dropWhile_append hall' hmax'] at htoken
  split at htoken
  · rename_i rest'
    split at htoken
    · rename_i hname
      exact hopen (spellsName_iff.mp hname) rfl
    · cases htoken
  · cases htoken

end

/--
**A scanner stays between the characters of its text, comes to an end, and tells where it failed.**
A slice can be taken just at the boundaries of characters.  From one of them the offset moves to
the next, over a whole character, or it is at the end of the text and stays there.  After any
number of turns it is at such a boundary, within the text and past at least as many bytes as
there were turns.  The next turn has a result: it ends the loop, or it has moved the offset on,
over one character after the other.  Some turn ends the loop, with what reading the text gives.
If that is a failure, its line and column are those of the leftmost `$` that begins no token,
counted in line feeds and characters.  For a `$` and a brace without a name and the other brace
after it, this is where the `$` stands, however many characters follow that a name could have.
-/
theorem scanner_keeps_boundaries (text : String) :
    (∀ pos, ((Text.sliceFrom? text pos).isSome ↔ pos.IsValid text) ∧
        ((Text.sliceTo? text pos).isSome ↔ pos.IsValid text)) ∧
      (∀ pos, pos.IsValid text →
        (pos = text.rawEndPos ∧ Text.advance text pos = some pos) ∨
          ∃ c : Char, Text.advance text pos = some (pos + c) ∧ (pos + c).IsValid text) ∧
      (∀ n s, Scanner.Reaches text n s →
        s.pos.IsValid text ∧ n ≤ s.pos.byteIdx ∧ s.pos.byteIdx ≤ text.utf8ByteSize ∧
          ((∃ result, s.step text = some (.over result)) ∨
            ∃ s', s.step text = some (.next s') ∧ s.pos < s'.pos ∧
              Text.Moves text s.pos s'.pos)) ∧
      (∃ n s, Scanner.Reaches text n s ∧ s.step text = some (.over (parse text))) ∧
      (∀ f, parse text = .error f ↔
        ∃ before after, Breaks text.toList before after ∧ f = countedFault before text) ∧
      ∀ before name rest, (∃ ts, Splits before ts) →
        text.toList = before ++ '$' :: '\x7b' :: (name ++ rest) →
        (∀ c ∈ name, ContinuesName c) → (∀ c, rest.head? = some c → ¬ContinuesName c) →
        (Identifier name → rest.head? ≠ some '\x7d') →
          parse text = .error (countedFault before text) := by
  refine ⟨fun pos => ⟨Text.isSome_sliceFrom?_iff, Text.isSome_sliceTo?_iff⟩,
    fun pos => Text.advance_of_isValid,
    fun n s h => ⟨h.isValid, h.le_byteIdx, h.isValid.le_utf8ByteSize, h.step⟩,
    Scanner.Reaches.start.exists_over (scan_eq_parse text), fun f => parse_eq_error_iff, ?_⟩
  intro before name rest hsplits hcut hall hmax hopen
  exact parse_of_breaks ⟨hcut, hsplits, stuck_of_brace hall hmax hopen⟩

example : parse "é\n ü$\x7bnäme\x7d" =
    .error (.badPlaceholder (.badPlaceholder "é\n ü$\x7bnäme\x7d" 2 3)) := by decide +kernel

end Template

end DottedConfig
