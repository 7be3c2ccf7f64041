/-
Reading a template text, by an offset into its bytes.

One turn of the loop keeps one token of the text, and moves the offset just over it.  The offset
begins at the boundary of a character and moves over whole characters, so it stays at
boundaries, and every slice that a turn takes is there.  What a turn does is then told by the
characters after the offset alone, and the turns go through the tokens of the text one by one.

That is `run_of_between`: a scanner always comes to a result, and the result is what the tokens
after its offset, or the first fault among them, make of what it has kept so far.
-/
import DottedConfig.Failure
import DottedConfig.Template.Token
import DottedConfig.Text.Offset
import DottedConfig.Text.Position

namespace DottedConfig.Template

open Text

/-- How far a text has been read, and what has been kept of it. -/
structure Scanner where
  /-- The bytes that have been read. -/
  pos : String.Pos.Raw := 0
  /-- The characters since the last placeholder. -/
  literal : String := ""
  /-- The pieces up to the last placeholder. -/
  segments : Array Segment := #[]

namespace Scanner

/-! ### Names -/

/-- A name, with all the characters from an offset on that it can go on with. -/
def restOfName (text name : String) (pos : String.Pos.Raw) : Option (String × String.Pos.Raw) :=
  match _hc : (current text pos).map (·.filter isNameChar) with
  | none => none
  | some none => some (name, pos)
  | some (some c) =>
    match _hpos : advance text pos with
    | none => none
    | some pos' => restOfName text (name.push c) pos'
  termination_by text.utf8ByteSize - pos.byteIdx
  decreasing_by
    have hcurrent : current text pos = some (some c) := by
      obtain ⟨c?, hc?, hfilter⟩ := Option.map_eq_some_iff.mp _hc
      rw [hc?, (Option.filter_eq_some_iff.mp hfilter).1]
    have := lt_of_advance hcurrent _hpos
    omega

/-- The name that begins at an offset, empty if there is none, and the offset after it. -/
def nameAt (text : String) (pos : String.Pos.Raw) : Option (String × String.Pos.Raw) := do
  match (← current text pos).filter isNameStart with
  | some c => restOfName text ("".push c) (← advance text pos)
  | none => return ("", pos)

section

variable {text : String} {pos pos' : String.Pos.Raw} {before after : List Char}

theorem restOfName_eq (text name : String) (pos : String.Pos.Raw) :
    restOfName text name pos =
      ((current text pos).map (·.filter isNameChar)).bind fun
        | none => some (name, pos)
        | some c => (advance text pos).bind fun pos' => restOfName text (name.push c) pos' := by
  rw [restOfName]
  split
  · rename_i hc
    rw [hc, Option.bind_none]
  · rename_i hc
    rw [hc, Option.bind_some]
  · rename_i c hc
    rw [hc, Option.bind_some]
    show _ = (advance text pos).bind _
    split
    · rename_i hpos
      rw [hpos, Option.bind_none]
    · rename_i pos' hpos
      rw [hpos, Option.bind_some]

theorem restOfName_of_stop {c? : Option Char} (h : current text pos = some c?)
    (hstop : c?.filter isNameChar = none) (name : String) :
    restOfName text name pos = some (name, pos) := by
  rw [restOfName_eq, h, Option.map_some, hstop, Option.bind_some]

theorem restOfName_of_next {c : Char} (h : current text pos = some (some c))
    (hc : isNameChar c = true) (hpos : advance text pos = some pos') (name : String) :
    restOfName text name pos = restOfName text (name.push c) pos' := by
  rw [restOfName_eq, h, Option.map_some, Option.filter_some, if_pos hc, Option.bind_some]
  show (advance text pos).bind _ = _
  rw [hpos, Option.bind_some]

theorem exists_restOfName (h : Between text pos before after) (name : String) :
    ∃ pos', restOfName text name pos =
        some (name ++ String.ofList (after.takeWhile isNameChar), pos') ∧
      Between text pos' (before ++ after.takeWhile isNameChar) (after.dropWhile isNameChar) := by
  induction after generalizing pos before name with
  | nil => exact ⟨pos, by simp [restOfName_of_stop h.current rfl], by simpa using h⟩
  | cons c rest ih =>
      by_cases hc : isNameChar c = true
      · obtain ⟨pos', hread, hbetween⟩ := ih h.next (name.push c)
        rw [List.takeWhile_cons_of_pos hc, List.dropWhile_cons_of_pos hc]
        refine ⟨pos', ?_, by simpa using hbetween⟩
        rw [restOfName_of_next h.current hc h.advance, hread, String.ofList_cons,
          ← String.append_assoc, String.append_singleton]
      · have hstop : (some c).filter isNameChar = none := by simp [hc]
        rw [List.takeWhile_cons_of_neg hc, List.dropWhile_cons_of_neg hc]
        exact ⟨pos, by simp [restOfName_of_stop h.current hstop], by simpa using h⟩

/-- A name is read to its end, and the offset is moved just over it. -/
theorem exists_nameAt (h : Between text pos before after)
    (hname : spellsName (after.takeWhile isNameChar) = true) :
    ∃ pos', nameAt text pos = some (String.ofList (after.takeWhile isNameChar), pos') ∧
      Between text pos' (before ++ after.takeWhile isNameChar) (after.dropWhile isNameChar) := by
  rw [spellsName_takeWhile] at hname
  cases after with
  | nil => cases hname
  | cons c rest =>
      have hstart : isNameStart c = true := hname
      have hfirst : (some c).filter isNameStart = some c := by
        rw [Option.filter_some, if_pos hstart]
      have hchar : isNameChar c = true := isNameChar_of_isNameStart hstart
      obtain ⟨pos', hread, hbetween⟩ := exists_restOfName h.next ("".push c)
      rw [String.push_empty, ← String.ofList_cons] at hread
      rw [List.takeWhile_cons_of_pos hchar, List.dropWhile_cons_of_pos hchar]
      refine ⟨pos', ?_, by simpa using hbetween⟩
      simp only [nameAt, h.current, h.advance, List.head?_cons, Option.bind_eq_bind,
        Option.bind_some, hfirst, String.push_empty, hread]

theorem nameAt_of_no_name (h : Between text pos before after)
    (hname : spellsName (after.takeWhile isNameChar) = false) :
    nameAt text pos = some ("", pos) := by
  rw [spellsName_takeWhile] at hname
  have hfirst : after.head?.filter isNameStart = none := by
    cases after with
    | nil => rfl
    | cons c rest => simpa using hname
  simp only [nameAt, h.current, Option.bind_eq_bind, Option.bind_some, hfirst]
  rfl

end

/-! ### Turns -/

/-- What one turn of the loop comes to. -/
inductive Turn where
  /-- The loop goes on from here. -/
  | next (scanner : Scanner)
  /-- The loop has ended. -/
  | over (result : Except Failure Template)

/-- The pieces so far, with the characters since the last placeholder as the last one. -/
def flushed (s : Scanner) : Array Segment :=
  if s.literal = "" then s.segments else s.segments.push (.literal s.literal)

/-- Keeps a character. -/
def addChar (s : Scanner) (c : Char) (pos : String.Pos.Raw) : Scanner :=
  { s with pos, literal := s.literal.push c }

/-- Keeps a placeholder. -/
def addName (s : Scanner) (name : String) (pos : String.Pos.Raw) : Scanner :=
  { pos, literal := "", segments := s.flushed.push (.placeholder name) }

/-- The failure of a `$` at an offset. -/
def invalidAt (text : String) (start : String.Pos.Raw) : Option Failure :=
  (sliceTo? text start).map fun before =>
    let place := Position.after before.copy.toList
    .badPlaceholder (.badPlaceholder text place.line place.column)

/-- The turn at a `$` that begins no placeholder. -/
def fail (text : String) (s : Scanner) : Option Turn :=
  (invalidAt text s.pos).map fun failure => .over (.error failure)

/-- The turn at two `$`. -/
def escaped (text : String) (s : Scanner) : Option Turn := do
  return .next (s.addChar '$' (← advance text (← advance text s.pos)))

/-- The turn at a `$` and an opening brace. -/
def braced (text : String) (s : Scanner) : Option Turn := do
  let (name, pos) ← nameAt text (← advance text (← advance text s.pos))
  if name = "" then s.fail text
  else
    let c? ← current text pos
    if c? ≠ some '\x7d' then s.fail text
    else return .next (s.addName name (← advance text pos))

/-- The turn at a `$` and the first character of a name. -/
def bare (text : String) (s : Scanner) : Option Turn := do
  let (name, pos) ← nameAt text (← advance text s.pos)
  return .next (s.addName name pos)

/-- The turn at a `$`. -/
def atDollar (text : String) (s : Scanner) : Option Turn := do
  match ← peek text s.pos with
  | some c =>
    if c = '$' then s.escaped text
    else if c = '\x7b' then s.braced text
    else if isNameStart c then s.bare text
    else s.fail text
  | none => s.fail text

/-- One turn of the loop. -/
def step (text : String) (s : Scanner) : Option Turn := do
  match ← current text s.pos with
  | some c =>
    if c = '$' then s.atDollar text
    else return .next (s.addChar c (← advance text s.pos))
  | none => return .over (.ok ⟨s.flushed.toList⟩)

/-! ### What a turn keeps -/

/-- The pieces that these tokens are put together to, after what has been kept. -/
def pieces (s : Scanner) (ts : List Token) : List Segment :=
  s.segments.toList ++ gather s.literal.toList.reverse ts

theorem toList_flushed (s : Scanner) : s.flushed.toList = s.pieces [] := by
  rw [flushed, pieces, gather, literal?_reverse]
  split
  · rw [List.append_nil]
  · rw [Array.toList_push]

section

variable (s : Scanner) (pos : String.Pos.Raw) (ts : List Token)

theorem pieces_addChar (c : Char) :
    (s.addChar c pos).pieces ts = s.pieces (.char c :: ts) := by
  simp [pieces, addChar, gather]

theorem pieces_addDollar : (s.addChar '$' pos).pieces ts = s.pieces (.dollar :: ts) := by
  simp [pieces, addChar, gather]

theorem pieces_addName (name : List Char) :
    (s.addName (String.ofList name) pos).pieces ts = s.pieces (.name name :: ts) := by
  simp [pieces, addName, gather, toList_flushed]

end

/-! ### What a turn does -/

section

variable {text : String} {s : Scanner} {before after rest rest' : List Char} {c : Char}
  {token : Token}

theorem fail_eq (h : Between text s.pos before after) :
    s.fail text = some (.over (.error (.badPlaceholder (.badPlaceholder text
      (Position.after before).line (Position.after before).column)))) := by
  rw [fail, invalidAt, sliceTo?, dif_pos h.isValid, Option.map_some, Option.map_some,
    h.copy_sliceTo, String.toList_ofList]

theorem step_nil (h : Between text s.pos before []) :
    s.step text = some (.over (.ok ⟨s.pieces []⟩)) := by
  rw [step, h.current, ← toList_flushed]
  rfl

theorem step_char (h : Between text s.pos before (c :: rest)) (hc : c ≠ '$') :
    s.step text = some (.next (s.addChar c (s.pos + c))) := by
  simp [step, h.current, h.advance, hc]

theorem step_dollar (h : Between text s.pos before ('$' :: rest)) :
    s.step text = s.atDollar text := by
  simp [step, h.current]

theorem atDollar_cons (h : Between text s.pos before ('$' :: c :: rest)) :
    s.atDollar text =
      if c = '$' then s.escaped text
      else if c = '\x7b' then s.braced text
      else if isNameStart c then s.bare text
      else s.fail text := by
  simp [atDollar, h.peek]

/-- With neither a second `$` nor a brace after it, a `$` begins a bare name or nothing. -/
theorem atDollar_other (h : Between text s.pos before ('$' :: rest))
    (hdollar : ∀ tail, rest = '$' :: tail → False)
    (hbrace : ∀ tail, rest = '\x7b' :: tail → False) :
    s.atDollar text =
      if spellsName (rest.takeWhile isNameChar) then s.bare text else s.fail text := by
  rw [spellsName_takeWhile]
  cases rest with
  | nil => simp [atDollar, h.peek]
  | cons c rest =>
      have hc : c ≠ '$' := fun hc => hdollar rest (by rw [hc])
      have hc' : c ≠ '\x7b' := fun hc => hbrace rest (by rw [hc])
      rw [atDollar_cons h, if_neg hc, if_neg hc', List.head?_cons, Option.any_some]

theorem escaped_eq (h : Between text s.pos before ('$' :: '$' :: rest)) :
    s.escaped text = some (.next (s.addChar '$' (s.pos + '$' + '$'))) := by
  simp [escaped, h.advance, h.next.advance]

theorem exists_bare (h : Between text s.pos before ('$' :: rest))
    (hname : spellsName (rest.takeWhile isNameChar) = true) :
    ∃ pos, s.bare text =
        some (.next (s.addName (String.ofList (rest.takeWhile isNameChar)) pos)) ∧
      Between text pos (before ++ '$' :: rest.takeWhile isNameChar)
        (rest.dropWhile isNameChar) := by
  obtain ⟨pos, hread, hbetween⟩ := exists_nameAt h.next hname
  exact ⟨pos, by simp [bare, h.advance, hread], by simpa using hbetween⟩

theorem exists_braced (h : Between text s.pos before ('$' :: '\x7b' :: rest))
    (hname : spellsName (rest.takeWhile isNameChar) = true)
    (hclosed : rest.dropWhile isNameChar = '\x7d' :: rest') :
    ∃ pos, s.braced text =
        some (.next (s.addName (String.ofList (rest.takeWhile isNameChar)) pos)) ∧
      Between text pos (before ++ '$' :: '\x7b' :: (rest.takeWhile isNameChar ++ ['\x7d']))
        rest' := by
  obtain ⟨pos, hread, hbetween⟩ := exists_nameAt h.next.next hname
  rw [hclosed] at hbetween
  have hne : rest.takeWhile isNameChar ≠ [] := by
    intro hnil
    rw [hnil] at hname
    cases hname
  refine ⟨pos + '\x7d', ?_, by simpa using hbetween.next⟩
  simp [braced, h.advance, h.next.advance, hread, hbetween.current, hbetween.advance, hne]

theorem braced_of_no_name (h : Between text s.pos before ('$' :: '\x7b' :: rest))
    (hname : spellsName (rest.takeWhile isNameChar) = false) : s.braced text = s.fail text := by
  simp [braced, h.advance, h.next.advance, nameAt_of_no_name h.next.next hname]

theorem braced_of_open (h : Between text s.pos before ('$' :: '\x7b' :: rest))
    (hname : spellsName (rest.takeWhile isNameChar) = true)
    (hopen : (rest.dropWhile isNameChar).head? ≠ some '\x7d') :
    s.braced text = s.fail text := by
  obtain ⟨pos, hread, hbetween⟩ := exists_nameAt h.next.next hname
  simp [braced, h.advance, h.next.advance, hread, hbetween.current, hopen]

/-- **The turn at a `$` keeps the token that it begins, and goes just over it.** -/
theorem step_of_afterDollar (h : Between text s.pos before ('$' :: rest))
    (htoken : afterDollar rest = some (token, rest')) :
    ∃ s' written, s.step text = some (.next s') ∧
      Between text s'.pos (before ++ '$' :: written) rest' ∧
      ∀ ts, s'.pieces ts = s.pieces (token :: ts) := by
  rw [step_dollar h]
  unfold afterDollar at htoken
  split at htoken
  · cases htoken
    have hbetween : Between text (s.pos + '$' + '$') (before ++ ['$', '$']) rest' := by
      simpa using h.next.next
    refine ⟨s.addChar '$' (s.pos + '$' + '$'), ['$'], ?_, hbetween, s.pieces_addDollar _⟩
    rw [atDollar_cons h, if_pos rfl, escaped_eq h]
  · rename_i body
    split at htoken
    · rename_i after hclosed
      split at htoken
      · rename_i hname
        cases htoken
        obtain ⟨pos, hturn, hbetween⟩ := exists_braced h hname hclosed
        refine ⟨_, _, ?_, hbetween, fun ts => s.pieces_addName pos ts _⟩
        rw [atDollar_cons h, if_neg (by decide), if_pos rfl, hturn]
      · cases htoken
    · cases htoken
  · rename_i hdollar hbrace
    split at htoken
    · rename_i hname
      cases htoken
      obtain ⟨pos, hturn, hbetween⟩ := exists_bare h hname
      refine ⟨_, _, ?_, hbetween, fun ts => s.pieces_addName pos ts _⟩
      rw [atDollar_other h hdollar hbrace, if_pos hname, hturn]
    · cases htoken

/-- **The turn at a `$` that begins no token fails.** -/
theorem step_of_afterDollar_none (h : Between text s.pos before ('$' :: rest))
    (htoken : afterDollar rest = none) : s.step text = s.fail text := by
  rw [step_dollar h]
  unfold afterDollar at htoken
  split at htoken
  · cases htoken
  · rename_i body
    rw [atDollar_cons h, if_neg (by decide), if_pos rfl]
    cases hname : spellsName (body.takeWhile isNameChar) with
    | false => exact braced_of_no_name h hname
    | true =>
        refine braced_of_open h hname fun hhead => ?_
        obtain ⟨after, hclosed⟩ := List.head?_eq_some_iff.mp hhead
        rw [hclosed] at htoken
        simp [hname] at htoken
  · rename_i hdollar hbrace
    split at htoken
    · cases htoken
    · rename_i hname
      rw [atDollar_other h hdollar hbrace, if_neg hname]

/-- A turn ends the loop, or goes on after one or more of the characters that are left. -/
theorem step_of_between (h : Between text s.pos before after) :
    (∃ result, s.step text = some (.over result)) ∨
      ∃ s' c written rest, s.step text = some (.next s') ∧
        Between text s'.pos (before ++ c :: written) rest := by
  cases after with
  | nil => exact .inl ⟨_, step_nil h⟩
  | cons c rest =>
      by_cases hc : c = '$'
      · subst hc
        cases htoken : afterDollar rest with
        | none => exact .inl ⟨_, (step_of_afterDollar_none h htoken).trans (fail_eq h)⟩
        | some read =>
            obtain ⟨s', written, hstep, hbetween, -⟩ := step_of_afterDollar h htoken
            exact .inr ⟨s', _, written, _, hstep, hbetween⟩
      · exact .inr ⟨_, c, [], rest, step_char h hc, h.next⟩

theorem isValid_of_step {turn : Turn} (h : s.step text = some turn) : s.pos.IsValid text := by
  rw [step] at h
  obtain ⟨c?, hcurrent, -⟩ := Option.bind_eq_some_iff.mp h
  exact isValid_of_current hcurrent

theorem lt_of_step {s' : Scanner} (h : s.step text = some (.next s')) :
    s'.pos.IsValid text ∧ s.pos < s'.pos := by
  obtain ⟨before, after, hbetween⟩ := isValid_iff.mp (isValid_of_step h)
  rcases step_of_between hbetween with ⟨result, hover⟩ | ⟨s'', c, written, rest, hnext, hbetween'⟩
  · rw [h] at hover
    cases hover
  · rw [h] at hnext
    cases hnext
    exact ⟨hbetween'.isValid, hbetween.lt hbetween'⟩

end

/-! ### The loop -/

/-- Goes on with a text to its end, or to the first fault. -/
def run (text : String) (s : Scanner) : Option (Except Failure Template) :=
  match _h : s.step text with
  | none => none
  | some (.over result) => some result
  | some (.next s') => s'.run text
  termination_by text.utf8ByteSize - s.pos.byteIdx
  decreasing_by
    obtain ⟨hvalid, hlt⟩ := lt_of_step _h
    have hle := hvalid.le_utf8ByteSize
    rw [String.Pos.Raw.lt_iff] at hlt
    omega

/-- Reads a text from its beginning. -/
def scan (text : String) : Option (Except Failure Template) := ({} : Scanner).run text

section

variable {text : String} {s s' : Scanner} {before after : List Char}

theorem run_eq (text : String) (s : Scanner) :
    s.run text = (s.step text).bind fun
      | .over result => some result
      | .next s' => s'.run text := by
  rw [run]
  split
  · rename_i h
    rw [h, Option.bind_none]
  · rename_i h
    rw [h, Option.bind_some]
  · rename_i h
    rw [h, Option.bind_some]

theorem run_of_over {result : Except Failure Template} (h : s.step text = some (.over result)) :
    s.run text = some result := by
  rw [run_eq, h, Option.bind_some]

theorem run_of_next (h : s.step text = some (.next s')) : s.run text = s'.run text := by
  rw [run_eq, h, Option.bind_some]

/-- What comes before the rest of some characters. -/
theorem take_of_cut {cs before rest : List Char} (h : cs = before ++ rest) :
    cs.take (cs.length - rest.length) = before := by
  rw [h, List.length_append, Nat.add_sub_cancel, List.take_left]

/-- What the tokens that are left, or the fault among them, make of what has been kept. -/
def result (text : String) (s : Scanner) :
    Except (List Char) (List Token) → Except Failure Template
  | .ok ts => .ok ⟨s.pieces ts⟩
  | .error rest =>
    let place := Position.after (text.toList.take (text.toList.length - rest.length))
    .error (.badPlaceholder (.badPlaceholder text place.line place.column))

theorem result_of_pieces {token : Token} (h : ∀ ts, s'.pieces ts = s.pieces (token :: ts))
    (left : Except (List Char) (List Token)) :
    s'.result text left = s.result text (left.map (token :: ·)) := by
  cases left with
  | error rest => rfl
  | ok ts => exact congrArg (fun segments => Except.ok (Template.mk segments)) (h ts)

/-- **A scanner comes to what the tokens after its offset make of what it has kept.** -/
theorem run_of_between (h : Between text s.pos before after) :
    s.run text = some (s.result text (tokens after)) := by
  induction after using tokens.induct generalizing s before with
  | case1 =>
      rw [run_of_over (step_nil h), tokens]
      rfl
  | case2 rest token rest' htoken ih =>
      obtain ⟨s', written, hstep, hbetween, hpieces⟩ := step_of_afterDollar h htoken
      rw [run_of_next hstep, ih hbetween, tokens_of_afterDollar htoken, result_of_pieces hpieces]
  | case3 rest htoken =>
      rw [run_of_over ((step_of_afterDollar_none h htoken).trans (fail_eq h)),
        tokens_of_afterDollar_none htoken, result, take_of_cut h.cut]
  | case4 c rest hc ih =>
      rw [run_of_next (step_char h hc), ih h.next, tokens_char hc,
        result_of_pieces fun ts => s.pieces_addChar _ ts c]

end

theorem scan_eq (text : String) :
    scan text = some (({} : Scanner).result text (tokens text.toList)) :=
  run_of_between (between_zero text)

theorem isSome_scan (text : String) : (scan text).isSome = true := by
  rw [scan_eq, Option.isSome_some]

end Scanner

end DottedConfig.Template
