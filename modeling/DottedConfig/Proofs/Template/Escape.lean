/-
Every text can be written as a template that stands for it.

Doubling each `$` is enough, under every namespace: read as a template, the doubled
text is a row of single characters and doubled dollars, and filling it in gives the
text back.  The facts about tokens and pieces are stated in front of whatever follows,
so that a text may be escaped as part of a longer template.
-/
import DottedConfig.Template

namespace DottedConfig.Template

/-- The characters of a text with every `$` written twice. -/
def escapeChars : List Char → List Char
  | [] => []
  | c :: rest => if c = '$' then '$' :: '$' :: escapeChars rest else c :: escapeChars rest

/-- A template that stands for a text as it is. -/
def escape (text : String) : String := String.ofList (escapeChars text.toList)

/-- The token that an escaped character is read as. -/
def escapedToken (c : Char) : Token := if c = '$' then .dollar else .char c

/-! ### Characters of an escaped text -/

theorem mem_escapeChars {c : Char} {cs : List Char} : c ∈ escapeChars cs ↔ c ∈ cs := by
  induction cs with
  | nil => rfl
  | cons d rest ih =>
      rw [escapeChars]
      by_cases hd : d = '$'
      · rw [if_pos hd, hd]
        simp [ih]
      · rw [if_neg hd]
        simp [ih]

theorem escapeChars_of_notMem {cs : List Char} (h : '$' ∉ cs) : escapeChars cs = cs := by
  induction cs with
  | nil => rfl
  | cons c rest ih =>
      obtain ⟨hc, hrest⟩ := not_or.mp (fun hmem => h (List.mem_cons.mpr hmem))
      rw [escapeChars, if_neg (fun heq => hc heq.symm), ih hrest]

theorem mem_toList_escape {c : Char} {text : String} :
    c ∈ (escape text).toList ↔ c ∈ text.toList := by
  rw [escape, String.toList_ofList]
  exact mem_escapeChars

theorem escape_eq_empty {text : String} : escape text = "" ↔ text = "" := by
  rw [← String.toList_eq_nil_iff, ← String.toList_eq_nil_iff,
    List.eq_nil_iff_forall_not_mem, List.eq_nil_iff_forall_not_mem]
  exact forall_congr' fun c => not_congr mem_toList_escape

/-! ### Reading an escaped text -/

theorem tokens_dollars (rest : List Char) :
    tokens ('$' :: '$' :: rest) = (tokens rest).map (Token.dollar :: ·) :=
  tokens_of_afterDollar rfl

theorem tokens_escapeChars_append (cs rest : List Char) :
    tokens (escapeChars cs ++ rest) = (tokens rest).map (cs.map escapedToken ++ ·) := by
  induction cs with
  | nil =>
      rw [escapeChars]
      cases h : tokens rest <;> simp [h, Except.map]
  | cons c cs ih =>
      rw [escapeChars]
      by_cases hc : c = '$'
      · rw [if_pos hc, List.cons_append, List.cons_append, tokens_dollars, ih, hc]
        cases tokens rest <;> rfl
      · rw [if_neg hc, List.cons_append, tokens_char hc, ih]
        simp only [List.map_cons, escapedToken, if_neg hc]
        cases tokens rest <;> rfl

theorem gather_escapedToken_append (pending cs : List Char) (ts : List Token) :
    gather pending (cs.map escapedToken ++ ts) = gather (cs.reverse ++ pending) ts := by
  induction cs generalizing pending with
  | nil => rfl
  | cons c cs ih =>
      rw [List.map_cons, List.cons_append, escapedToken, List.reverse_cons, List.append_assoc]
      by_cases hc : c = '$'
      · rw [if_pos hc, gather, ih, hc]
        rfl
      · rw [if_neg hc, gather, ih]
        rfl

theorem parse_escape (text : String) :
    parse (escape text) = .ok ⟨literal? text.toList.reverse⟩ := by
  have htokens : tokens (escape text).toList = .ok (text.toList.map escapedToken) := by
    have h := tokens_escapeChars_append text.toList []
    rw [List.append_nil] at h
    rw [escape, String.toList_ofList, h, tokens]
    simp [Except.map]
  have hgather : gather [] (text.toList.map escapedToken) = literal? text.toList.reverse := by
    have h := gather_escapedToken_append [] text.toList []
    rw [List.append_nil, List.append_nil] at h
    rw [h, gather]
  rw [parse_eq, htokens]
  show Except.ok (Template.mk (gather [] (text.toList.map escapedToken))) = _
  rw [hgather]

/-! ### Filling it in -/

theorem fillAll_literal? (ns : Namespace) (cs : List Char) :
    fillAll ns (literal? cs) = .ok (String.ofList cs.reverse) := by
  cases cs with
  | nil => rfl
  | cons c cs =>
      show Except.ok (String.ofList (c :: cs).reverse ++ "") = _
      rw [String.append_empty]

/-- **An escaped text stands for the text, whatever the namespace.** -/
theorem substitute_escape (text : String) (ns : Namespace) :
    substitute (escape text) ns = .ok text := by
  rw [substitute]
  by_cases h : '$' ∈ (escape text).toList
  · rw [if_pos h, parse_escape]
    show fillAll ns (literal? text.toList.reverse) = _
    rw [fillAll_literal?, List.reverse_reverse, String.ofList_toList]
  · rw [if_neg h, escape, escapeChars_of_notMem (fun hmem => h (mem_toList_escape.mpr hmem)),
      String.ofList_toList]

end DottedConfig.Template
