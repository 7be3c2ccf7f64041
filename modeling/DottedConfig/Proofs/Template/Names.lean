/-
The names that a text mentions.

A text mentions the names of the placeholders that it is read with; one that cannot be read
mentions none, because it fails before any name is looked up.  Filling a text in looks these
names up and no others, so namespaces that agree on them give the same text or the same failure.

Every name that a text mentions is an identifier.  An entry of a namespace under anything else
can never be asked for.
-/
import DottedConfig.Proofs.Template.Grammar

namespace DottedConfig.Template

/-- The names that are looked up when a text is filled in. -/
def mentioned (text : String) : List String :=
  match parse text with
  | .ok template => template.placeholders
  | .error _ => []

/-! ### Only these names matter -/

section

variable {ns ns' : Namespace}

theorem fill_congr {segment : Segment}
    (h : ∀ name, segment = .placeholder name → ns'.get? name = ns.get? name) :
    segment.fill ns' = segment.fill ns := by
  cases segment with
  | literal text => rfl
  | placeholder name => rw [Segment.fill, Segment.fill, h name rfl]

theorem mem_placeholders {segments : List Segment} {name : String} :
    name ∈ placeholders ⟨segments⟩ ↔ .placeholder name ∈ segments := by
  induction segments with
  | nil => exact ⟨nofun, nofun⟩
  | cons segment rest ih =>
      cases segment with
      | literal text => rw [placeholders_literal_cons, ih]; simp
      | placeholder other => rw [placeholders_placeholder_cons, List.mem_cons, ih]; simp

theorem fillAll_congr {segments : List Segment}
    (h : ∀ name ∈ placeholders ⟨segments⟩, ns'.get? name = ns.get? name) :
    fillAll ns' segments = fillAll ns segments := by
  induction segments with
  | nil => rfl
  | cons segment rest ih =>
      have hsegment : segment.fill ns' = segment.fill ns := fill_congr fun name hname =>
        h name (mem_placeholders.mpr (hname ▸ List.mem_cons_self))
      have hrest : fillAll ns' rest = fillAll ns rest := ih fun name hname =>
        h name (mem_placeholders.mpr (List.mem_cons_of_mem _ (mem_placeholders.mp hname)))
      rw [fillAll, fillAll, hsegment, hrest]

/-- **Filling a text in looks up the names that it mentions and no others.** -/
theorem substitute_congr {text : String}
    (h : ∀ name ∈ mentioned text, ns'.get? name = ns.get? name) :
    substitute text ns' = substitute text ns := by
  rw [mentioned] at h
  rw [substitute_eq_fill, substitute_eq_fill]
  cases hparse : parse text with
  | error f => rfl
  | ok template =>
      rw [hparse] at h
      exact fillAll_congr h

end

/-! ### They are identifiers -/

theorem identifier_of_begins {cs cs' rest : List Char} (h : Begins cs (.name cs') rest) :
    Identifier cs' := by
  cases h with
  | braced h => exact h
  | bare h => exact h

theorem identifier_of_splits {cs cs' : List Char} {ts : List Token} (h : Splits cs ts)
    (hmem : .name cs' ∈ ts) : Identifier cs' := by
  induction h with
  | nil => exact absurd hmem List.not_mem_nil
  | cons first others ih =>
      rcases List.mem_cons.mp hmem with rfl | hmem
      · exact identifier_of_begins first
      · exact ih hmem

/-- **A name that a text mentions is an identifier.** -/
theorem identifier_of_mentioned {text name : String} (h : name ∈ mentioned text) :
    Identifier name.toList := by
  rw [mentioned] at h
  cases hparse : parse text with
  | error f =>
      rw [hparse] at h
      exact absurd h List.not_mem_nil
  | ok template =>
      rw [hparse] at h
      obtain ⟨ts, hsplits, -, hspelled⟩ := parse_eq_ok_iff.mp hparse
      have hmem : Token.name name.toList ∈ ts.map Token.plain := by
        rw [← hspelled, List.mem_flatMap]
        exact ⟨.placeholder name, mem_placeholders.mp h, List.mem_singleton.mpr rfl⟩
      obtain ⟨token, htoken, hplain⟩ := List.mem_map.mp hmem
      cases token with
      | char c => cases hplain
      | dollar => cases hplain
      | name cs =>
          cases hplain
          exact identifier_of_splits hsplits htoken

end DottedConfig.Template
