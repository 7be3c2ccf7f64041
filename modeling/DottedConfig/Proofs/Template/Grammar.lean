/-
The grammar of templates, and what filling one in means.

`Splits` is the grammar: a text is a row of tokens, each with its own way of being written.
A bare name has to be as long as it can be, so a text splits in one way at most, and reading
finds this way just if there is one.  Reading then puts the characters between two names
together.  That is the one row of pieces in which no literal is empty and no two stand side
by side, and which spells the same characters and names in the same order, so this property
fixes it and nothing has to be said of how the pieces are gathered.

Filling in goes over the pieces once.  It never looks into what it copies, and stops at the
first name that the namespace lacks.  A text without `$` skips all of this, to the same end.
-/
import DottedConfig.Proofs.Except
import DottedConfig.Proofs.Template.Escape
import Mathlib.Data.List.Chain
import Mathlib.Data.List.Forall2

namespace DottedConfig

/-! ### Names -/

/-- An ASCII letter, or `_`. -/
def OpensName (c : Char) : Prop := ('a' ≤ c ∧ c ≤ 'z') ∨ ('A' ≤ c ∧ c ≤ 'Z') ∨ c = '_'

/-- One of these, or an ASCII digit. -/
def ContinuesName (c : Char) : Prop := OpensName c ∨ ('0' ≤ c ∧ c ≤ '9')

/-- What a placeholder can be called. -/
inductive Identifier : List Char → Prop where
  | intro {c : Char} {cs : List Char} (first : OpensName c) (others : ∀ d ∈ cs, ContinuesName d) :
      Identifier (c :: cs)

theorem isNameStart_iff {c : Char} : isNameStart c = true ↔ OpensName c := by
  have hranges : isNameStart c = ((decide ('A' ≤ c ∧ c ≤ 'Z') ||
      (decide ('a' ≤ c) && decide (c ≤ 'z'))) || c == '_') := rfl
  rw [hranges, OpensName]
  simp only [Bool.or_eq_true, Bool.and_eq_true, decide_eq_true_eq, beq_iff_eq]
  rw [or_assoc, or_left_comm]

theorem isNameChar_iff {c : Char} : isNameChar c = true ↔ ContinuesName c := by
  have hranges : isNameChar c = (c.isAlpha || (decide ('0' ≤ c) && decide (c ≤ '9')) || c == '_') :=
    rfl
  have hstart : isNameStart c = (c.isAlpha || c == '_') := rfl
  rw [ContinuesName, ← isNameStart_iff, hstart, hranges]
  simp only [Bool.or_eq_true, Bool.and_eq_true, decide_eq_true_eq]
  rw [or_right_comm]

theorem spellsName_iff {cs : List Char} : spellsName cs = true ↔ Identifier cs := by
  cases cs with
  | nil => exact ⟨fun h => (Bool.false_ne_true h).elim, fun h => nomatch h⟩
  | cons c rest =>
      rw [spellsName, Bool.and_eq_true, List.all_eq_true, isNameStart_iff]
      constructor
      · rintro ⟨hc, hrest⟩
        exact .intro hc fun d hd => isNameChar_iff.mp (hrest d hd)
      · rintro ⟨hc, hrest⟩
        exact ⟨hc, fun d hd => isNameChar_iff.mpr (hrest d hd)⟩

namespace Template

/-! ### Tokens -/

/-- How a token is written, and what may follow it. -/
inductive Begins : List Char → Token → List Char → Prop where
  | char {c : Char} {rest : List Char} (h : c ≠ '$') : Begins (c :: rest) (.char c) rest
  | dollar {rest : List Char} : Begins ('$' :: '$' :: rest) .dollar rest
  | braced {cs rest : List Char} (h : Identifier cs) :
      Begins ('$' :: '\x7b' :: (cs ++ '\x7d' :: rest)) (.name cs) rest
  -- A bare name is as long as it can be.
  | bare {cs rest : List Char} (h : Identifier cs)
      (hmax : ∀ c, rest.head? = some c → ¬ContinuesName c) : Begins ('$' :: (cs ++ rest)) (.name cs) rest

/-- A text is a row of tokens. -/
inductive Splits : List Char → List Token → Prop where
  | nil : Splits [] []
  | cons {cs rest : List Char} {token : Token} {ts : List Token} (first : Begins cs token rest)
      (others : Splits rest ts) : Splits cs (token :: ts)

/-- The leftmost fault: tokens, and after them a `$` that begins none. -/
structure Breaks (cs before after : List Char) : Prop where
  cut : cs = before ++ '$' :: after
  splits : ∃ ts, Splits before ts
  stuck : ∀ token rest, ¬Begins ('$' :: after) token rest

/-! ### Reading tokens -/

section

variable {p : Char → Bool} {cs rest : List Char}

theorem takeWhile_append (hall : ∀ c ∈ cs, p c = true)
    (hmax : ∀ c, rest.head? = some c → p c = false) : (cs ++ rest).takeWhile p = cs := by
  rw [List.takeWhile_append_of_pos hall]
  cases rest with
  | nil => simp
  | cons c rest => simp [hmax c rfl]

theorem dropWhile_append (hall : ∀ c ∈ cs, p c = true)
    (hmax : ∀ c, rest.head? = some c → p c = false) : (cs ++ rest).dropWhile p = rest := by
  rw [List.dropWhile_append_of_pos hall]
  cases rest with
  | nil => rfl
  | cons c rest => simp [hmax c rfl]

end

theorem Identifier.isNameChar {cs : List Char} (h : Identifier cs) :
    ∀ c ∈ cs, isNameChar c = true :=
  List.all_eq_true.mp (spellsName_all (spellsName_iff.mpr h))

theorem not_continuesName_of_dropWhile {cs : List Char} {c : Char}
    (h : (cs.dropWhile isNameChar).head? = some c) : ¬ContinuesName c := by
  intro hc
  have hnot := List.head?_dropWhile_not isNameChar cs
  rw [h] at hnot
  simp [isNameChar_iff.mpr hc] at hnot

theorem afterDollar_of_begins {cs rest : List Char} {token : Token}
    (h : Begins ('$' :: cs) token rest) : afterDollar cs = some (token, rest) := by
  cases h with
  | char h => exact absurd rfl h
  | dollar => rfl
  | @braced cs _ h =>
      have hbrace : ∀ c, ('\x7d' :: rest).head? = some c → isNameChar c = false := by
        rintro c ⟨⟩
        rfl
      rw [afterDollar, takeWhile_append (Identifier.isNameChar h) hbrace,
        dropWhile_append (Identifier.isNameChar h) hbrace]
      simp only [spellsName_iff.mpr h, if_true]
  | @bare cs _ h hmax =>
      have hmax' : ∀ c, rest.head? = some c → isNameChar c = false := by
        intro c hc
        exact Bool.eq_false_iff.mpr fun hname => hmax c hc (isNameChar_iff.mp hname)
      have hstart : ∀ c tail, cs ++ rest = c :: tail → isNameChar c = true := by
        intro c tail heq
        obtain ⟨hc, -⟩ := h
        rw [List.cons_append] at heq
        obtain ⟨rfl, -⟩ := List.cons.inj heq
        exact isNameChar_iff.mpr (.inl hc)
      rw [afterDollar]
      · rw [takeWhile_append (Identifier.isNameChar h) hmax',
          dropWhile_append (Identifier.isNameChar h) hmax', if_pos (spellsName_iff.mpr h)]
      · intro tail heq
        exact absurd (hstart _ _ heq) (by decide)
      · intro tail heq
        exact absurd (hstart _ _ heq) (by decide)

theorem begins_of_afterDollar {cs rest : List Char} {token : Token}
    (h : afterDollar cs = some (token, rest)) : Begins ('$' :: cs) token rest := by
  unfold afterDollar at h
  split at h
  · cases h
    exact .dollar
  · rename_i body
    split at h
    · rename_i after hafter
      split at h
      · rename_i hname
        cases h
        have hbegins : Begins ('$' :: '\x7b' :: (body.takeWhile isNameChar ++ '\x7d' :: rest)) _ _ :=
          .braced (spellsName_iff.mp hname)
        rwa [← hafter, List.takeWhile_append_dropWhile] at hbegins
      · cases h
    · cases h
  · split at h
    · rename_i hname
      cases h
      have hbegins : Begins ('$' :: (cs.takeWhile isNameChar ++ cs.dropWhile isNameChar)) _ _ :=
        .bare (spellsName_iff.mp hname) fun c hc => not_continuesName_of_dropWhile hc
      rwa [List.takeWhile_append_dropWhile] at hbegins
    · cases h

theorem tokens_of_begins {cs rest : List Char} {token : Token} (h : Begins cs token rest) :
    tokens cs = (tokens rest).map (token :: ·) := by
  cases cs with
  | nil => cases h
  | cons c cs =>
      by_cases hc : c = '$'
      · subst hc
        exact tokens_of_afterDollar (afterDollar_of_begins h)
      · cases h with
        | char h => exact tokens_char h rest
        | dollar => exact absurd rfl hc
        | braced h => exact absurd rfl hc
        | bare h hmax => exact absurd rfl hc

theorem tokens_of_splits {cs : List Char} {ts : List Token} (h : Splits cs ts) :
    tokens cs = .ok ts := by
  induction h with
  | nil => rw [tokens]
  | cons first others ih => rw [tokens_of_begins first, ih]; rfl

theorem splits_of_tokens {cs : List Char} {ts : List Token} (h : tokens cs = .ok ts) :
    Splits cs ts := by
  induction cs using tokens.induct generalizing ts with
  | case1 =>
      rw [tokens] at h
      cases h
      exact .nil
  | case2 rest token rest' hafter ih =>
      rw [tokens_of_afterDollar hafter] at h
      obtain ⟨others, hothers, rfl⟩ := eq_ok_of_map h
      exact .cons (begins_of_afterDollar hafter) (ih hothers)
  | case3 rest hafter =>
      rw [tokens_of_afterDollar_none hafter] at h
      cases h
  | case4 c rest hc ih =>
      rw [tokens_char hc] at h
      obtain ⟨others, hothers, rfl⟩ := eq_ok_of_map h
      exact .cons (.char hc) (ih hothers)

/-- **The tokens that are read are those of the grammar.** -/
theorem tokens_eq_ok_iff {cs : List Char} {ts : List Token} :
    tokens cs = .ok ts ↔ Splits cs ts :=
  ⟨splits_of_tokens, tokens_of_splits⟩

/-- A token is written the same with less of the text after it. -/
theorem Begins.of_append {cs rest tail : List Char} {token : Token}
    (h : Begins cs token (rest ++ tail)) :
    ∃ written, cs = (written ++ rest) ++ tail ∧ Begins (written ++ rest) token rest := by
  generalize hsplit : rest ++ tail = follows at h
  cases h with
  | @char c _ h => exact ⟨[c], by simp [hsplit], .char h⟩
  | dollar => exact ⟨['$', '$'], by simp [hsplit], .dollar⟩
  | @braced name _ h =>
      refine ⟨'$' :: '\x7b' :: (name ++ ['\x7d']), by simp [hsplit], ?_⟩
      have hbegins : Begins ('$' :: '\x7b' :: (name ++ '\x7d' :: rest)) (.name name) rest := .braced h
      simpa using hbegins
  | @bare name _ h hmax =>
      refine ⟨'$' :: name, by simp [hsplit], .bare h fun c hc => hmax c ?_⟩
      rw [← hsplit, List.head?_append, hc]
      rfl

/-- **What reading stops at is the leftmost fault.** -/
theorem breaks_of_tokens {cs fault : List Char} (h : tokens cs = .error fault) :
    ∃ before after, Breaks cs before after ∧ fault = '$' :: after := by
  induction cs using tokens.induct with
  | case1 =>
      rw [tokens] at h
      cases h
  | case2 rest token rest' hafter ih =>
      rw [tokens_of_afterDollar hafter, map_eq_error_iff] at h
      obtain ⟨before, after, ⟨rfl, ⟨ts, hsplits⟩, hstuck⟩, hfault⟩ := ih h
      obtain ⟨written, hwritten, hbegins⟩ := (begins_of_afterDollar hafter).of_append
      exact ⟨written ++ before, after, ⟨hwritten, ⟨_, .cons hbegins hsplits⟩, hstuck⟩, hfault⟩
  | case3 rest hafter =>
      rw [tokens_of_afterDollar_none hafter] at h
      cases h
      refine ⟨[], rest, ⟨rfl, ⟨[], .nil⟩, fun token rest' hbegins => ?_⟩, rfl⟩
      rw [afterDollar_of_begins hbegins] at hafter
      cases hafter
  | case4 c rest hc ih =>
      rw [tokens_char hc, map_eq_error_iff] at h
      obtain ⟨before, after, ⟨rfl, ⟨ts, hsplits⟩, hstuck⟩, hfault⟩ := ih h
      exact ⟨c :: before, after, ⟨rfl, ⟨_, .cons (.char hc) hsplits⟩, hstuck⟩, hfault⟩

/-! ### Gathering pieces -/

/-- A `$` written twice is a `$` like any other character. -/
def Token.plain : Token → Token
  | .dollar => .char '$'
  | token => token

theorem map_plain_escapedToken (cs : List Char) :
    (cs.map escapedToken).map Token.plain = cs.map Token.char := by
  rw [List.map_map]
  refine List.map_congr_left fun c _ => ?_
  by_cases hc : c = '$'
  · simp [escapedToken, Token.plain, hc]
  · simp [escapedToken, Token.plain, hc]

/-- What a piece spells, token by token. -/
def Segment.tokens : Segment → List Token
  | .literal text => text.toList.map .char
  | .placeholder name => [.name name.toList]

/-- The literals are as long as they can be, and only where there is something to copy. -/
structure Gathered (segments : List Segment) : Prop where
  nonempty : ∀ segment ∈ segments, segment ≠ .literal ""
  apart : segments.IsChain fun a b => ∀ s t, a = .literal s → b ≠ .literal t

theorem gather_map_plain (pending : List Char) (ts : List Token) :
    gather pending (ts.map Token.plain) = gather pending ts := by
  induction ts generalizing pending with
  | nil => rfl
  | cons token rest ih =>
      cases token with
      | char c => exact ih _
      | dollar => exact ih _
      | name cs =>
          show _ ++ _ :: gather [] (rest.map Token.plain) = _
          rw [ih]
          rfl

theorem gather_char_append (pending cs : List Char) (ts : List Token) :
    gather pending (cs.map Token.char ++ ts) = gather (cs.reverse ++ pending) ts := by
  rw [← gather_escapedToken_append, ← gather_map_plain _ (cs.map escapedToken ++ ts),
    List.map_append, map_plain_escapedToken, ← gather_map_plain]
  simp [Token.plain, Function.comp_def]

theorem gather_name (pending cs : List Char) (ts : List Token) :
    gather pending (.name cs :: ts) =
      literal? pending ++ .placeholder (String.ofList cs) :: gather [] ts := rfl

theorem tokens_literal? (pending : List Char) :
    (literal? pending).flatMap Segment.tokens = pending.reverse.map Token.char := by
  cases pending with
  | nil => rfl
  | cons c cs => simp [literal?, Segment.tokens]

/-- What the pieces spell is what was gathered. -/
theorem tokens_gather (pending : List Char) (ts : List Token) :
    (gather pending ts).flatMap Segment.tokens =
      pending.reverse.map Token.char ++ ts.map Token.plain := by
  induction ts generalizing pending with
  | nil =>
      rw [gather, tokens_literal?]
      simp
  | cons token rest ih =>
      cases token with
      | char c =>
          rw [gather, ih]
          simp [Token.plain]
      | dollar =>
          rw [gather, ih]
          simp [Token.plain]
      | name cs =>
          rw [gather, List.flatMap_append, List.flatMap_cons, tokens_literal?, ih]
          simp [Segment.tokens, Token.plain]

theorem gathered_nil : Gathered [] := ⟨by simp, .nil⟩

theorem Gathered.placeholder_cons {segments : List Segment} (h : Gathered segments)
    (name : String) : Gathered (.placeholder name :: segments) := by
  refine ⟨?_, List.isChain_cons.mpr ⟨fun _ _ _ _ hs => (nomatch hs), h.apart⟩⟩
  intro segment hmem
  rcases List.mem_cons.mp hmem with rfl | hmem
  · nofun
  · exact h.nonempty segment hmem

theorem Gathered.literal?_append {segments : List Segment} (h : Gathered segments)
    (hhead : ∀ t, segments.head? ≠ some (.literal t)) (pending : List Char) :
    Gathered (literal? pending ++ segments) := by
  cases pending with
  | nil => exact h
  | cons c cs =>
      refine ⟨?_, List.isChain_cons.mpr ⟨fun b hb s t _ hliteral => ?_, h.apart⟩⟩
      · intro segment hmem
        rcases List.mem_cons.mp hmem with rfl | hmem
        · simp
        · exact h.nonempty segment hmem
      · rw [hliteral] at hb
        exact hhead t hb

theorem gathered_gather (pending : List Char) (ts : List Token) :
    Gathered (gather pending ts) := by
  induction ts generalizing pending with
  | nil =>
      have hliteral : Gathered (literal? pending ++ []) := gathered_nil.literal?_append nofun pending
      rwa [List.append_nil] at hliteral
  | cons token rest ih =>
      cases token with
      | char c => exact ih _
      | dollar => exact ih _
      | name cs => exact ((ih []).placeholder_cons _).literal?_append (by simp) pending

/-- **Gathered pieces are told by what they spell.** -/
theorem gather_tokens {segments : List Segment} (h : Gathered segments) :
    gather [] (segments.flatMap Segment.tokens) = segments := by
  induction segments with
  | nil => rfl
  | cons segment rest ih =>
      obtain ⟨hapart, hchain⟩ := List.isChain_cons.mp h.apart
      have hrest := ih ⟨fun s hs => h.nonempty s (List.mem_cons_of_mem _ hs), hchain⟩
      cases segment with
      | placeholder name =>
          rw [List.flatMap_cons, Segment.tokens, List.singleton_append, gather_name, hrest,
            String.ofList_toList]
          rfl
      | literal text =>
          have hliteral : literal? text.toList.reverse = [.literal text] := by
            have hne : text.toList.reverse ≠ [] := by
              intro heq
              refine h.nonempty _ List.mem_cons_self (congrArg _ ?_)
              exact String.toList_eq_nil_iff.mp (List.reverse_eq_nil_iff.mp heq)
            obtain ⟨c, cs, hcs⟩ := List.exists_cons_of_ne_nil hne
            have htext : String.ofList (c :: cs).reverse = text := by
              rw [← hcs, List.reverse_reverse, String.ofList_toList]
            rw [hcs, ← htext]
            rfl
          rw [List.flatMap_cons, Segment.tokens, gather_char_append, List.append_nil]
          -- What follows the literal is no literal, so nothing is added to it.
          cases rest with
          | nil => exact hliteral
          | cons next rest =>
              cases next with
              | literal s => exact absurd rfl (hapart _ rfl text s rfl)
              | placeholder name =>
                  rw [List.flatMap_cons, Segment.tokens, List.singleton_append] at hrest ⊢
                  rw [gather_name] at hrest ⊢
                  rw [hliteral]
                  exact congrArg (Segment.literal text :: ·) hrest

theorem parse_eq_ok_iff {text : String} {template : Template} :
    parse text = .ok template ↔ ∃ ts, Splits text.toList ts ∧ Gathered template.segments ∧
      template.segments.flatMap Segment.tokens = ts.map Token.plain := by
  obtain ⟨segments⟩ := template
  rw [parse_eq]
  constructor
  · intro h
    split at h
    · rename_i ts hts
      cases h
      exact ⟨ts, tokens_eq_ok_iff.mp hts, gathered_gather [] ts, tokens_gather [] ts⟩
    · cases h
  · rintro ⟨ts, hsplits, hgathered, hspelled⟩
    rw [tokens_eq_ok_iff.mpr hsplits]
    show Except.ok (Template.mk (gather [] ts)) = _
    rw [← gather_map_plain, ← hspelled, gather_tokens hgathered]

/-! ### Filling in -/

/-- The text that stands for a piece: the literal itself, or the entry under the name. -/
def Segment.Stands (ns : Namespace) : Segment → String → Prop
  | .literal text, s => s = text
  | .placeholder name, s => ns.get? name = some s

section

variable {ns : Namespace}

theorem fill_eq_ok_iff {segment : Segment} {s : String} :
    segment.fill ns = .ok s ↔ segment.Stands ns s := by
  cases segment with
  | literal text => exact ⟨fun h => (Except.ok.inj h).symm, fun h => congrArg _ h.symm⟩
  | placeholder name =>
      rw [Segment.fill, Segment.Stands]
      cases ns.get? name with
      | none => exact ⟨nofun, nofun⟩
      | some text => simp

theorem fillAll_cons_of_ok {segment : Segment} {s : String} (h : segment.fill ns = .ok s)
    (rest : List Segment) : fillAll ns (segment :: rest) = (fillAll ns rest).map (s ++ ·) := by
  rw [fillAll, h]
  show (do return s ++ (← fillAll ns rest)) = _
  cases fillAll ns rest <;> rfl

/-- **The pieces are put together as they stand for themselves.** -/
theorem fillAll_eq_ok_iff {segments : List Segment} {out : String} :
    fillAll ns segments = .ok out ↔
      ∃ texts, List.Forall₂ (Segment.Stands ns) segments texts ∧ out = String.join texts := by
  induction segments generalizing out with
  | nil =>
      constructor
      · intro h
        cases h
        exact ⟨[], .nil, rfl⟩
      · rintro ⟨texts, hstands, rfl⟩
        cases hstands
        rfl
  | cons segment rest ih =>
      constructor
      · intro h
        rw [fillAll] at h
        obtain ⟨s, hs, h⟩ := eq_ok_of_bind h
        obtain ⟨others, hothers, h⟩ := eq_ok_of_bind h
        obtain ⟨texts, hstands, rfl⟩ := ih.mp hothers
        cases h
        exact ⟨s :: texts, .cons (fill_eq_ok_iff.mp hs) hstands, String.join_cons.symm⟩
      · rintro ⟨texts, hstands, rfl⟩
        cases hstands with
        | @cons _ s _ texts hs hstands =>
            rw [fillAll_cons_of_ok (fill_eq_ok_iff.mpr hs), ih.mpr ⟨texts, hstands, rfl⟩,
              String.join_cons]
            rfl

theorem placeholders_literal_cons (text : String) (rest : List Segment) :
    placeholders ⟨.literal text :: rest⟩ = placeholders ⟨rest⟩ := rfl

theorem placeholders_placeholder_cons (name : String) (rest : List Segment) :
    placeholders ⟨.placeholder name :: rest⟩ = name :: placeholders ⟨rest⟩ := rfl

/-- **What goes wrong is the leftmost name without an entry.** -/
theorem fillAll_eq_error_iff {segments : List Segment} {f : Failure} :
    fillAll ns segments = .error f ↔
      ∃ name, (placeholders ⟨segments⟩).find? (fun n => !ns.contains n) = some name ∧
        f = .missingEntry name := by
  induction segments with
  | nil => exact ⟨nofun, fun ⟨_, h, _⟩ => nomatch h⟩
  | cons segment rest ih =>
      cases segment with
      | literal text =>
          rw [fillAll_cons_of_ok rfl, map_eq_error_iff, ih, placeholders_literal_cons]
      | placeholder name =>
          rw [placeholders_placeholder_cons, List.find?_cons]
          cases hentry : ns.get? name with
          | some s =>
              have hfill : (Segment.placeholder name).fill ns = .ok s := fill_eq_ok_iff.mpr hentry
              rw [fillAll_cons_of_ok hfill, map_eq_error_iff, ih]
              simp [SortedMap.contains, hentry]
          | none =>
              have hfill : (Segment.placeholder name).fill ns = .error (.missingEntry name) := by
                rw [Segment.fill, hentry]
              have hfault : fillAll ns (.placeholder name :: rest) = .error (.missingEntry name) := by
                rw [fillAll, hfill]
                rfl
              rw [hfault]
              simp [SortedMap.contains, hentry, eq_comm]

theorem exists_fillAll_iff {segments : List Segment} :
    (∃ out, fillAll ns segments = .ok out) ↔ ∀ name ∈ placeholders ⟨segments⟩, ns.contains name := by
  have hnone := List.find?_eq_none (l := placeholders ⟨segments⟩) (p := fun n => !ns.contains n)
  simp only [Bool.not_eq_true', Bool.not_eq_false] at hnone
  rw [← hnone]
  cases h : fillAll ns segments with
  | ok out =>
      refine ⟨fun _ => ?_, fun _ => ⟨out, rfl⟩⟩
      refine Option.eq_none_iff_forall_ne_some.mpr fun name hname => ?_
      have herror := fillAll_eq_error_iff.mpr ⟨name, hname, rfl⟩
      rw [h] at herror
      cases herror
  | error f =>
      obtain ⟨name, hname, -⟩ := fillAll_eq_error_iff.mp h
      rw [hname]
      exact ⟨nofun, nofun⟩

end

/-- A text without `$` is a template that stands for itself. -/
theorem substitute_eq_fill (text : String) (ns : Namespace) :
    substitute text ns = parse text >>= fun template => template.fill ns := by
  rw [substitute]
  by_cases h : '$' ∈ text.toList
  · rw [if_pos h]
  · have hescape : escape text = text := by
      rw [escape, escapeChars_of_notMem h, String.ofList_toList]
    have hparse := parse_escape text
    rw [hescape] at hparse
    rw [if_neg h, hparse]
    show _ = fillAll ns (literal? text.toList.reverse)
    rw [fillAll_literal?, List.reverse_reverse, String.ofList_toList]

/-- A fault of the text at a `$`, which comes after these characters. -/
def faultAfter (before : List Char) (text : String) : Failure :=
  .badPlaceholder (.badPlaceholder text (Text.Position.after before).line
    (Text.Position.after before).column)

theorem parse_eq_error {text : String} {f : Failure} (h : parse text = .error f) :
    ∃ before after, Breaks text.toList before after ∧ f = faultAfter before text := by
  rw [parse_eq] at h
  split at h
  · cases h
  · rename_i fault hfault
    obtain ⟨before, after, hbreaks, rfl⟩ := breaks_of_tokens hfault
    cases h
    exact ⟨before, after, hbreaks, by rw [Scanner.take_of_cut hbreaks.cut, faultAfter]⟩

/-- A text fails at a `$` that begins no placeholder, or at a name without an entry. -/
theorem substitute_eq_error {text : String} {ns : Namespace} {f : Failure}
    (h : substitute text ns = .error f) :
    (∃ before, f = faultAfter before text) ∨ ∃ name, f = .missingEntry name := by
  rw [substitute_eq_fill] at h
  cases hparse : parse text with
  | error f' =>
      rw [hparse] at h
      cases h
      obtain ⟨before, after, -, hf⟩ := parse_eq_error hparse
      exact .inl ⟨before, hf⟩
  | ok template =>
      rw [hparse] at h
      obtain ⟨name, -, hf⟩ := fillAll_eq_error_iff.mp h
      exact .inr ⟨name, hf⟩

/--
**What a text stands for.**  It can be read just if it is a row of tokens, and it is read as
the gathered pieces that spell these tokens, with `$$` for `$`.  What it stands for is what
reading and then filling in give, for a text without `$` as well: the literals and the entries
one after the other, each as it is.  It fails if and only if it is no row of tokens, and then
with its leftmost fault whatever the namespace, or else if the namespace lacks a name, and
then with the leftmost such name.
-/
theorem substitute_by_grammar (text : String) (ns : Namespace) :
    ((∃ template, parse text = .ok template) ↔ ∃ ts, Splits text.toList ts) ∧
      (∀ template, parse text = .ok template ↔ ∃ ts, Splits text.toList ts ∧
        Gathered template.segments ∧
          template.segments.flatMap Segment.tokens = ts.map Token.plain) ∧
      (substitute text ns = parse text >>= fun template => template.fill ns) ∧
      (∀ template, parse text = .ok template →
        ((∃ out, substitute text ns = .ok out) ↔
          ∀ name ∈ template.placeholders, ns.contains name) ∧
        (∀ out, substitute text ns = .ok out ↔
          ∃ texts, List.Forall₂ (Segment.Stands ns) template.segments texts ∧
            out = String.join texts) ∧
        ∀ f, substitute text ns = .error f ↔
          ∃ name, template.placeholders.find? (fun n => !ns.contains n) = some name ∧
            f = .missingEntry name) ∧
      ((¬∃ ts, Splits text.toList ts) → ∃ before after, Breaks text.toList before after ∧
        substitute text ns = .error (faultAfter before text)) := by
  have hreads : (∃ template, parse text = .ok template) ↔ ∃ ts, Splits text.toList ts := by
    constructor
    · rintro ⟨template, h⟩
      obtain ⟨ts, hsplits, -⟩ := parse_eq_ok_iff.mp h
      exact ⟨ts, hsplits⟩
    · rintro ⟨ts, hsplits⟩
      exact ⟨⟨gather [] ts⟩, parse_eq_ok_iff.mpr
        ⟨ts, hsplits, gathered_gather [] ts, tokens_gather [] ts⟩⟩
  refine ⟨hreads, fun template => parse_eq_ok_iff, substitute_eq_fill text ns,
    fun template h => ?_, fun h => ?_⟩
  · have hfill : substitute text ns = fillAll ns template.segments := by
      rw [substitute_eq_fill, h]
      rfl
    rw [hfill]
    exact ⟨exists_fillAll_iff, fun out => fillAll_eq_ok_iff, fun f => fillAll_eq_error_iff⟩
  · cases hparse : parse text with
    | ok template => exact absurd (hreads.mp ⟨template, hparse⟩) h
    | error f =>
        obtain ⟨before, after, hbreaks, rfl⟩ := parse_eq_error hparse
        rw [substitute_eq_fill, hparse]
        exact ⟨before, after, hbreaks, rfl⟩

example : (substitute "$$$a-${b}" (.ofList [("a", "1"), ("b", "$x")])).toOption =
    some "$1-$x" := by decide +kernel

end Template

end DottedConfig
