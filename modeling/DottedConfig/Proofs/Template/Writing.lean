/-
Writing a template, and reading it back.

A literal is written with every `$` doubled, a placeholder with its name in braces.  Each piece
then ends where its own text ends, whatever stands beside it: no character of a literal can be
read into a name before it, because the brace has closed the name, and no `$` of a literal can
begin one, because it is the first or the second of two.  So the text of some pieces in a row
is read as the tokens of each piece in a row.

What reading adds is that it gathers: literals that stand side by side come back as one, and
an empty one does not come back.  `joined` does the same to the pieces themselves, and leaves
pieces that were read from a text as they are.  A text that can be read can therefore be put
in this form, and stands for the same as before.
-/
import DottedConfig.Proofs.Template.Names

namespace DottedConfig.Template

/-! ### Writing -/

/-- A piece as it is written. -/
def Segment.written : Segment → List Char
  | .literal text => escapeChars text.toList
  | .placeholder name => '$' :: '\x7b' :: (name.toList ++ ['\x7d'])

/-- The text that some pieces in a row are written as. -/
def write (pieces : List Segment) : String := String.ofList (pieces.flatMap Segment.written)

/-- Every placeholder among these pieces has a name that can be read. -/
def Named (pieces : List Segment) : Prop :=
  ∀ name, .placeholder name ∈ pieces → Identifier name.toList

/-- The literal of a text, unless there is nothing in it. -/
def alone (text : String) : List Segment := if text = "" then [] else [.literal text]

/-- Some pieces with a text before them, as part of the literal there if they begin with one. -/
def putBefore (text : String) : List Segment → List Segment
  | [] => alone text
  | .literal next :: rest => .literal (text ++ next) :: rest
  | .placeholder name :: rest => alone text ++ .placeholder name :: rest

/-- These pieces with literals that stand side by side put together, and empty ones left out. -/
def joined : List Segment → List Segment
  | [] => []
  | .literal text :: rest => putBefore text (joined rest)
  | .placeholder name :: rest => .placeholder name :: joined rest

example : joined [.literal "", .literal "a", .literal "$", .placeholder "b", .literal ""] =
    [.literal "a$", .placeholder "b"] := by decide

/-! ### Joined pieces -/

theorem alone_eq (text : String) : alone text = literal? text.toList.reverse := by
  rw [alone, literal?_reverse]

theorem tokens_alone (text : String) :
    (alone text).flatMap Segment.tokens = text.toList.map Token.char := by
  rw [alone_eq, tokens_literal?, List.reverse_reverse]

/-- A text before some pieces puts its characters before what they spell. -/
theorem tokens_putBefore (text : String) (pieces : List Segment) :
    (putBefore text pieces).flatMap Segment.tokens =
      text.toList.map Token.char ++ pieces.flatMap Segment.tokens := by
  cases pieces with
  | nil => rw [putBefore, tokens_alone, List.flatMap_nil, List.append_nil]
  | cons piece rest =>
      cases piece with
      | literal next => simp [putBefore, Segment.tokens]
      | placeholder name => rw [putBefore, List.flatMap_append, tokens_alone]

theorem tokens_joined (pieces : List Segment) :
    (joined pieces).flatMap Segment.tokens = pieces.flatMap Segment.tokens := by
  induction pieces with
  | nil => rfl
  | cons piece rest ih =>
      cases piece with
      | literal text => rw [joined, tokens_putBefore, ih, List.flatMap_cons, Segment.tokens]
      | placeholder name => rw [joined, List.flatMap_cons, List.flatMap_cons, ih]

theorem Gathered.putBefore {pieces : List Segment} (h : Gathered pieces) (text : String) :
    Gathered (putBefore text pieces) := by
  cases pieces with
  | nil =>
      have halone := gathered_nil.literal?_append nofun text.toList.reverse
      rwa [List.append_nil, ← alone_eq] at halone
  | cons piece rest =>
      obtain ⟨hapart, hchain⟩ := List.isChain_cons.mp h.apart
      cases piece with
      | literal next =>
          -- The literal only grows, and nothing comes to stand beside it.
          refine ⟨fun s hs => ?_, List.isChain_cons.mpr ⟨fun b hb _ t _ => ?_, hchain⟩⟩
          · rcases List.mem_cons.mp hs with rfl | hs
            · intro heq
              have hnext : next = "" := (String.append_eq_empty_iff.mp (Segment.literal.inj heq)).2
              exact h.nonempty _ List.mem_cons_self (congrArg _ hnext)
            · exact h.nonempty s (List.mem_cons_of_mem _ hs)
          · exact hapart b hb next t rfl
      | placeholder name =>
          have halone := h.literal?_append (by simp) text.toList.reverse
          rwa [← alone_eq] at halone

theorem gathered_joined (pieces : List Segment) : Gathered (joined pieces) := by
  induction pieces with
  | nil => exact gathered_nil
  | cons piece rest ih =>
      cases piece with
      | literal text => exact ih.putBefore text
      | placeholder name => exact ih.placeholder_cons name

/-- Pieces that are gathered are joined already. -/
theorem joined_of_gathered {pieces : List Segment} (h : Gathered pieces) :
    joined pieces = pieces := by
  rw [← gather_tokens (gathered_joined pieces), tokens_joined, gather_tokens h]

/-! ### Reading what is written -/

/-- The tokens that a piece is written as. -/
def Segment.spelled : Segment → List Token
  | .literal text => text.toList.map escapedToken
  | .placeholder name => [.name name.toList]

theorem plain_spelled (pieces : List Segment) :
    (pieces.flatMap Segment.spelled).map Token.plain = pieces.flatMap Segment.tokens := by
  induction pieces with
  | nil => rfl
  | cons piece rest ih =>
      rw [List.flatMap_cons, List.flatMap_cons, List.map_append, ih]
      congr 1
      cases piece with
      | literal text => exact map_plain_escapedToken text.toList
      | placeholder name => rfl

/-- **Each piece is read as its own tokens, whatever follows it.** -/
theorem tokens_written {pieces : List Segment} (h : Named pieces) :
    tokens (pieces.flatMap Segment.written) = .ok (pieces.flatMap Segment.spelled) := by
  induction pieces with
  | nil => rw [List.flatMap_nil, tokens, List.flatMap_nil]
  | cons piece rest ih =>
      have hrest := ih fun name hname => h name (List.mem_cons_of_mem _ hname)
      rw [List.flatMap_cons, List.flatMap_cons]
      cases piece with
      | literal text =>
          rw [Segment.written, tokens_escapeChars_append, hrest]
          rfl
      | placeholder name =>
          have hbegins : Begins (Segment.written (.placeholder name) ++
              rest.flatMap Segment.written) (.name name.toList) (rest.flatMap Segment.written) := by
            rw [Segment.written, List.cons_append, List.cons_append, List.append_assoc]
            exact .braced (h name List.mem_cons_self)
          rw [tokens_of_begins hbegins, hrest]
          rfl

theorem parse_write {pieces : List Segment} (h : Named pieces) :
    parse (write pieces) = .ok ⟨joined pieces⟩ := by
  refine parse_eq_ok_iff.mpr ⟨pieces.flatMap Segment.spelled, ?_, gathered_joined pieces, ?_⟩
  · rw [write, String.toList_ofList]
    exact tokens_eq_ok_iff.mp (tokens_written h)
  · rw [tokens_joined, plain_spelled]

theorem named_of_parse {text : String} {template : Template} (h : parse text = .ok template) :
    Named template.segments := by
  intro name hname
  have hmentioned : name ∈ mentioned text := by
    rw [mentioned, h]
    exact mem_placeholders.mpr hname
  exact identifier_of_mentioned hmentioned

theorem gathered_of_parse {text : String} {template : Template} (h : parse text = .ok template) :
    Gathered template.segments := by
  obtain ⟨ts, -, hgathered, -⟩ := parse_eq_ok_iff.mp h
  exact hgathered

/--
**Writing and reading are inverse.**  Pieces with names that can be read are read back from what
they are written as, joined.  Pieces that were read from a text are read back as they are, so
the text that they are written as stands for the same as that text, under every namespace.  And
a text with every `$` doubled stands for the text.
-/
theorem parse_write_joined :
    (∀ pieces, Named pieces → parse (write pieces) = .ok ⟨joined pieces⟩) ∧
      (∀ text template, parse text = .ok template →
        parse (write template.segments) = .ok template ∧
          ∀ ns, substitute (write template.segments) ns = substitute text ns) ∧
      ∀ text ns, substitute (escape text) ns = .ok text := by
  refine ⟨fun pieces h => parse_write h, fun text template h => ?_, substitute_escape⟩
  have hback : parse (write template.segments) = .ok template := by
    rw [parse_write (named_of_parse h), joined_of_gathered (gathered_of_parse h)]
  refine ⟨hback, fun ns => ?_⟩
  rw [substitute_eq_fill, substitute_eq_fill, hback, h]

/-- A literal that ends in `$` before a placeholder, and one that could go on with its name. -/
theorem parse_write_joined_of_price :
    let pieces : List Segment :=
      [.literal "$", .literal "", .placeholder "price", .literal "s\x7d", .literal "$\x7b"]
    Named pieces ∧ write pieces = "$$$\x7bprice\x7ds\x7d$$\x7b" ∧
      parse (write pieces) = .ok ⟨[.literal "$", .placeholder "price", .literal "s\x7d$\x7b"]⟩ ∧
      parse "$$$price-" = .ok ⟨[.literal "$", .placeholder "price", .literal "-"]⟩ ∧
      substitute "$$$\x7bprice\x7d-" (.ofList [("price", "$5")]) =
        substitute "$$$price-" (.ofList [("price", "$5")]) := by
  intro pieces
  have hnamed : Named pieces := by
    intro name hname
    have hprice : name = "price" := by simpa [pieces] using hname
    subst hprice
    exact spellsName_iff.mp (by decide)
  obtain ⟨hwritten, hread, -⟩ := parse_write_joined
  have hparse : parse "$$$price-" =
      .ok ⟨[.literal "$", .placeholder "price", .literal "-"]⟩ := by decide +kernel
  refine ⟨hnamed, by decide +kernel, hwritten pieces hnamed, hparse, ?_⟩
  exact (hread _ _ hparse).2 _

end DottedConfig.Template
