/-
Reading bindings, and writing them.

A text is cut at its first `=`.  What counts as the name is what stands before it without the
blanks at both ends, and the value is all that stands after it, which nobody looks into: neither
another `=` nor a blank in it can be taken for something else.  `Cut` says this of a text and
its two parts, without saying how they are found.

A name holds neither an `=` nor a blank.  So a binding that is written down is cut right behind
its name, and nothing is cut off the name.
-/
import DottedConfig.Proofs.Template.Grammar
import DottedConfig.Template.Binding
import Mathlib.Data.List.TakeWhile

namespace DottedConfig

/-! ### Blanks at the ends of a text -/

namespace Text

/-- What is left of a text when the blanks at both ends are cut off. -/
structure Stripped (s inner : String) : Prop where
  /-- There are only blanks around it. -/
  around : ∃ left right, s = left ++ inner ++ right ∧ allBlank left ∧ allBlank right
  /-- It does not begin with one. -/
  first : ∀ c, inner.toList.head? = some c → isBlank c = false
  /-- It does not end with one. -/
  last : ∀ c, inner.toList.getLast? = some c → isBlank c = false

theorem allBlank_iff {s : String} : allBlank s ↔ ∀ c ∈ s.toList, isBlank c := List.all_eq_true

theorem isBlank_of_head?_dropWhile {cs : List Char} {c : Char}
    (h : (cs.dropWhile isBlank).head? = some c) : isBlank c = false := by
  have hnot := List.head?_dropWhile_not isBlank cs
  rw [h] at hnot
  exact hnot

theorem trimChars_append {left inner right : List Char} (hleft : ∀ c ∈ left, isBlank c)
    (hright : ∀ c ∈ right, isBlank c) (hfirst : ∀ c, inner.head? = some c → isBlank c = false)
    (hlast : ∀ c, inner.getLast? = some c → isBlank c = false) :
    trimChars (left ++ inner ++ right) = inner := by
  by_cases hinner : inner = []
  · -- Everything is blank, so nothing is left on the way from the left.
    have hall : ∀ c ∈ left ++ right, isBlank c := by
      intro c hc
      rcases List.mem_append.mp hc with hc | hc
      · exact hleft c hc
      · exact hright c hc
    rw [trimChars, hinner, List.append_nil, List.dropWhile_eq_nil_iff.mpr hall]
    rfl
  · have hfront : (left ++ (inner ++ right)).dropWhile isBlank = inner ++ right := by
      refine Template.dropWhile_append hleft fun c hc => hfirst c ?_
      rwa [List.head?_append_of_ne_nil inner hinner] at hc
    have hback : (right.reverse ++ inner.reverse).dropWhile isBlank = inner.reverse := by
      refine Template.dropWhile_append (fun c hc => hright c (List.mem_reverse.mp hc)) ?_
      intro c hc
      exact hlast c (List.head?_reverse ▸ hc)
    rw [trimChars, List.append_assoc, hfront, List.reverse_append, hback, List.reverse_reverse]

/-- What is cut off at the end is what follows what is left. -/
theorem dropWhile_isBlank_eq (cs : List Char) : ∃ right, (∀ c ∈ right, isBlank c) ∧
    cs.dropWhile isBlank = trimChars cs ++ right := by
  refine ⟨((cs.dropWhile isBlank).reverse.takeWhile isBlank).reverse, fun c hc => ?_, ?_⟩
  · exact List.mem_takeWhile_imp (List.mem_reverse.mp hc)
  · rw [trimChars, ← List.reverse_append, List.takeWhile_append_dropWhile, List.reverse_reverse]

theorem stripped_trim (s : String) : Stripped s (trim s) := by
  obtain ⟨right, hright, hrest⟩ := dropWhile_isBlank_eq s.toList
  have hinner : (trim s).toList = trimChars s.toList := String.toList_ofList
  refine ⟨⟨.ofList (s.toList.takeWhile isBlank), .ofList right, ?_, ?_, ?_⟩, ?_, ?_⟩
  · rw [trim, ← String.ofList_append, ← String.ofList_append, List.append_assoc, ← hrest,
      List.takeWhile_append_dropWhile, String.ofList_toList]
  · rw [allBlank_iff, String.toList_ofList]
    exact fun c hc => List.mem_takeWhile_imp hc
  · rw [allBlank_iff, String.toList_ofList]
    exact hright
  · intro c hc
    have hhead : (s.toList.dropWhile isBlank).head? = some c := by
      rw [hrest, List.head?_append, ← hinner, hc, Option.some_or]
    exact isBlank_of_head?_dropWhile hhead
  · intro c hc
    rw [hinner, trimChars, List.getLast?_reverse] at hc
    exact isBlank_of_head?_dropWhile hc

/-- **Cutting the blanks off leaves this and nothing else.** -/
theorem stripped_iff {s inner : String} : Stripped s inner ↔ trim s = inner := by
  constructor
  · rintro ⟨⟨left, right, rfl, hleft, hright⟩, hfirst, hlast⟩
    rw [trim, String.toList_append, String.toList_append,
      trimChars_append (allBlank_iff.mp hleft) (allBlank_iff.mp hright) hfirst hlast,
      String.ofList_toList]
  · rintro rfl
    exact stripped_trim s

end Text

namespace Binding

/-! ### Reading -/

/-- A text has this name before its first `=`, but for blanks around it, and this value after. -/
def Cut (text name value : String) : Prop :=
  ∃ before, text = before ++ "=" ++ value ∧ '=' ∉ before.toList ∧ Text.Stripped before name

section

variable {text name value : String}

theorem ne_equals_of_notMem {cs : List Char} (h : '=' ∉ cs) : ∀ c ∈ cs, (c != '=') = true := by
  intro c hc
  exact bne_iff_ne.mpr fun heq => h (heq ▸ hc)

theorem parse_of_notMem (h : '=' ∉ text.toList) : parse text = .error (.missingEquals text) := by
  rw [parse, List.dropWhile_eq_nil_iff.mpr (ne_equals_of_notMem h)]

theorem parse_of_cut (h : Cut text name value) : parse text =
    if spellsName name.toList then .ok ⟨name, value⟩ else .error (.invalidName name) := by
  obtain ⟨before, rfl, hbefore, hname⟩ := h
  have hall := ne_equals_of_notMem hbefore
  have hequals : ∀ c, ('=' :: value.toList).head? = some c → (c != '=') = false := by
    rintro _ ⟨⟩
    rfl
  have htext : (before ++ "=" ++ value).toList = before.toList ++ '=' :: value.toList := by simp
  have htrim : Text.trimChars before.toList = name.toList := by
    rw [← Text.stripped_iff.mp hname, Text.trim, String.toList_ofList]
  rw [parse, htext, Template.dropWhile_append hall hequals, Template.takeWhile_append hall hequals]
  simp only [htrim, String.ofList_toList]

theorem exists_cut_iff : (∃ name value, Cut text name value) ↔ '=' ∈ text.toList := by
  constructor
  · rintro ⟨name, value, before, rfl, -, -⟩
    simp
  · intro h
    obtain ⟨before, value, htext, hbefore⟩ := List.eq_append_cons_of_mem h
    refine ⟨Text.trim (.ofList before), .ofList value, .ofList before, ?_, ?_,
      Text.stripped_trim _⟩
    · rw [String.ext_iff, htext]
      simp
    · rwa [String.toList_ofList]

theorem parse_eq_missingEquals_iff {t : String} :
    parse text = .error (.missingEquals t) ↔ t = text ∧ '=' ∉ text.toList := by
  by_cases h : '=' ∈ text.toList
  · obtain ⟨name, value, hcut⟩ := exists_cut_iff.mpr h
    rw [parse_of_cut hcut]
    split <;> simp [h]
  · rw [parse_of_notMem h]
    simp [h, eq_comm]

theorem parse_eq_invalidName_iff (h : Cut text name value) {n : String} :
    parse text = .error (.invalidName n) ↔ n = name ∧ ¬Identifier name.toList := by
  rw [parse_of_cut h, ← spellsName_iff]
  split
  · rename_i hname
    simp [hname]
  · rename_i hname
    simp [hname, eq_comm]

theorem parse_eq_ok_iff (h : Cut text name value) {binding : Binding} :
    parse text = .ok binding ↔ binding = ⟨name, value⟩ ∧ Identifier name.toList := by
  rw [parse_of_cut h, ← spellsName_iff]
  split
  · rename_i hname
    simp [hname, eq_comm]
  · rename_i hname
    simp [hname]

/-- What is read is what the text is cut into. -/
theorem cut_of_parse {binding : Binding} (h : parse text = .ok binding) :
    Cut text binding.name binding.value ∧ Identifier binding.name.toList := by
  by_cases hmem : '=' ∈ text.toList
  · obtain ⟨name, value, hcut⟩ := exists_cut_iff.mpr hmem
    obtain ⟨rfl, hname⟩ := (parse_eq_ok_iff hcut).mp h
    exact ⟨hcut, hname⟩
  · rw [parse_of_notMem hmem] at h
    cases h

/-! ### Writing -/

theorem isBlank_of_continuesName {c : Char} (h : ContinuesName c) : Text.isBlank c = false := by
  have hbetween : ∀ low high : Char, low ≤ c ∧ c ≤ high → 0x30 ≤ low.toNat → high.toNat ≤ 0x7A →
      0x30 ≤ c.toNat ∧ c.toNat ≤ 0x7A :=
    fun _ _ hc hlow hhigh => ⟨Nat.le_trans hlow hc.1, Nat.le_trans hc.2 hhigh⟩
  have hrange : 0x30 ≤ c.toNat ∧ c.toNat ≤ 0x7A := by
    rcases h with (hlower | hupper | rfl) | hdigit
    · exact hbetween 'a' 'z' hlower (by decide) (by decide)
    · exact hbetween 'A' 'Z' hupper (by decide) (by decide)
    · decide
    · exact hbetween '0' '9' hdigit (by decide) (by decide)
  simp only [Text.isBlank, Bool.or_eq_false_iff, Bool.and_eq_false_iff, decide_eq_false_iff_not,
    beq_eq_false_iff_ne]
  omega

theorem isBlank_of_identifier {name : List Char} (h : Identifier name) :
    ∀ c ∈ name, Text.isBlank c = false :=
  fun c hc => isBlank_of_continuesName (isNameChar_iff.mp (Template.Identifier.isNameChar h c hc))

theorem equals_notMem_of_identifier {name : List Char} (h : Identifier name) : '=' ∉ name := by
  intro hmem
  exact absurd (Template.Identifier.isNameChar h _ hmem) (by decide)

/-- A name is cut off right behind its last character. -/
theorem cut_of_identifier (h : Identifier name.toList) (value : String) :
    Cut (name ++ "=" ++ value) name value := by
  refine ⟨name, rfl, equals_notMem_of_identifier h, ⟨"", "", by simp, rfl, rfl⟩, fun c hc => ?_,
    fun c hc => ?_⟩
  · exact isBlank_of_identifier h c (List.mem_of_mem_head? hc)
  · exact isBlank_of_identifier h c (List.mem_of_mem_getLast? hc)

theorem parse_of_identifier (h : Identifier name.toList) (value : String) :
    parse (name ++ "=" ++ value) = .ok ⟨name, value⟩ :=
  (parse_eq_ok_iff (cut_of_identifier h value)).mpr ⟨rfl, h⟩

theorem parse_text {binding : Binding} (h : Identifier binding.name.toList) :
    parse binding.text = .ok binding := parse_of_identifier h binding.value

end

/--
**What reads as a binding, and what it reads as.**  A text without `=` is refused as such and no
other text is.  A text with one is cut into a name and a value, at the first one and with the
blanks around the name cut off: it is refused for that name just if this is not an identifier,
and otherwise read as just these two.  A binding with an identifier for its name is read back
from what it is written as.  What is read from a text is written as the text without the
blanks around the name, and read back from that as well.
-/
theorem parse_by_first_equals (text : String) :
    (∀ t, parse text = .error (.missingEquals t) ↔ t = text ∧ '=' ∉ text.toList) ∧
      ((∃ name value, Cut text name value) ↔ '=' ∈ text.toList) ∧
      (∀ name value, Cut text name value →
        (∀ n, parse text = .error (.invalidName n) ↔ n = name ∧ ¬Identifier name.toList) ∧
        ∀ binding, parse text = .ok binding ↔
          binding = ⟨name, value⟩ ∧ Identifier name.toList) ∧
      (∀ binding : Binding, Identifier binding.name.toList →
        parse binding.text = .ok binding) ∧
      ∀ binding, parse text = .ok binding →
        (∃ left right, Text.allBlank left ∧ Text.allBlank right ∧
          text = left ++ binding.name ++ right ++ "=" ++ binding.value) ∧
        binding.text = binding.name ++ "=" ++ binding.value ∧
        parse binding.text = .ok binding := by
  refine ⟨fun t => parse_eq_missingEquals_iff, exists_cut_iff, fun name value hcut => ?_,
    fun binding => parse_text, fun binding h => ?_⟩
  · exact ⟨fun n => parse_eq_invalidName_iff hcut, fun binding => parse_eq_ok_iff hcut⟩
  · obtain ⟨⟨before, htext, -, hstripped⟩, hname⟩ := cut_of_parse h
    obtain ⟨left, right, rfl, hleft, hright⟩ := hstripped.around
    exact ⟨⟨left, right, hleft, hright, htext⟩, rfl, parse_text hname⟩

/-- Blanks beyond ASCII around the name, and a value that holds all that could be cut at or off. -/
theorem parse_by_first_equals_of_price :
    let text := "\u00a0price\u2003=  $5 = 5\n"
    Cut text "price" "  $5 = 5\n" ∧ Identifier "price".toList ∧
      parse text = .ok ⟨"price", "  $5 = 5\n"⟩ ∧
      parse "price=  $5 = 5\n" = .ok ⟨"price", "  $5 = 5\n"⟩ := by
  intro text
  have hname : Identifier "price".toList := spellsName_iff.mp (by decide)
  have hstripped : Text.Stripped "\u00a0price\u2003" "price" :=
    Text.stripped_iff.mpr (by decide +kernel)
  have hcut : Cut text "price" "  $5 = 5\n" :=
    ⟨"\u00a0price\u2003", by decide +kernel, by decide, hstripped⟩
  obtain ⟨-, -, hread, -, hwritten⟩ := parse_by_first_equals text
  have hparse : parse text = .ok ⟨"price", "  $5 = 5\n"⟩ := ((hread _ _ hcut).2 _).mpr ⟨rfl, hname⟩
  exact ⟨hcut, hname, hparse, (hwritten _ hparse).2.2⟩

end Binding

end DottedConfig
