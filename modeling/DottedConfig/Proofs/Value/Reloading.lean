/-
A value that is written as a document is read back as it is.

A value has a document of the same shape: its texts become texts, its keys become keys that
are texts, and its numbers keep their type.  Read as it stands, that document would have its
texts taken for templates.  With every `$` in it doubled, each text stands for itself under
every namespace, so that nothing is left to go wrong but two keys of a mapping that come to
one text, and the keys come to what they were in the value.  A value that has no key twice is
thus read back, whatever the namespace, and no other value is.

A document knows one NaN only, so that a NaN can come back with other bits than it had.
`Alike` allows for this and for nothing else.
-/
import DottedConfig.Proofs.Template.Escape
import DottedConfig.Proofs.Value.Conversion

namespace DottedConfig

/-! ### The document of a value -/

/-- A floating-point number as a document holds it: there is one NaN only. -/
def Binary64.oneNaN (x : Binary64) : Binary64 := if x.isNaN then nan else x

namespace Value

mutual

/-- The document that a value is written as. -/
def document : Value → Yaml.Document
  | null => .null
  | bool b => .bool b
  | integer i => .number (.integer i.toInt)
  | float x => .number (.float x.oneNaN)
  | string s => .string s
  | sequence items => .sequence (documents items)
  | mapping entries => .mapping (entryDocuments entries)

/-- The documents of some values. -/
def documents : List Value → List Yaml.Document
  | [] => []
  | v :: rest => v.document :: documents rest

/-- The entries that some entries of a mapping are written as. -/
def entryDocuments : List (String × Value) → List (Yaml.Document × Yaml.Document)
  | [] => []
  | (k, v) :: rest => (.string k, v.document) :: entryDocuments rest

end

mutual

/-- Two values are the same, except that a NaN may have other bits. -/
def Alike : Value → Value → Prop
  | null, null => True
  | bool a, bool b => a = b
  | integer i, integer j => i = j
  | float x, float y => x = y ∨ (x.isNaN ∧ y.isNaN)
  | string s, string t => s = t
  | sequence items, sequence items' => ItemsAlike items items'
  | mapping entries, mapping entries' => EntriesAlike entries entries'
  | _, _ => False

/-- As many values, each like the one at its place. -/
def ItemsAlike : List Value → List Value → Prop
  | [], [] => True
  | v :: rest, w :: rest' => v.Alike w ∧ ItemsAlike rest rest'
  | _, _ => False

/-- As many entries, each under the same key as the one at its place and with a value like it. -/
def EntriesAlike : List (String × Value) → List (String × Value) → Prop
  | [], [] => True
  | (k, v) :: rest, (l, w) :: rest' => k = l ∧ v.Alike w ∧ EntriesAlike rest rest'
  | _, _ => False

end

end Value

namespace Yaml.Document

mutual

/-- A document with every `$` in its texts and keys doubled. -/
def escaped : Document → Document
  | null => .null
  | bool b => .bool b
  | number n => .number n
  | string s => .string (Template.escape s)
  | sequence items => .sequence (itemsEscaped items)
  | mapping entries => .mapping (entriesEscaped entries)
  | tagged tag inner => .tagged tag inner.escaped

/-- Some documents with every `$` doubled. -/
def itemsEscaped : List Document → List Document
  | [] => []
  | item :: rest => item.escaped :: itemsEscaped rest

/-- Some entries with every `$` doubled, in keys and in what is under them. -/
def entriesEscaped : List (Document × Document) → List (Document × Document)
  | [] => []
  | (k, v) :: rest => (k.escaped, v.escaped) :: entriesEscaped rest

end

end Yaml.Document

/-! ### Texts and numbers -/

variable {ns : Namespace}

theorem Template.fills_escape (text : String) : Fills ns (escape text) :=
  ⟨text, substitute_escape text ns⟩

theorem Template.filled_escape (text : String) : filled ns (escape text) = text := by
  rw [filled, substitute_escape]

theorem Binary64.isNaN_nan : nan.isNaN := by decide +kernel

namespace Value

open Yaml.Document

/-- Every integer of 64 bits is read as an integer. -/
theorem ofNumber_toInt (i : Int64) : ofNumber (.integer i.toInt) = integer i := by
  have hrange : -Int.pow 2 63 ≤ i.toInt ∧ i.toInt < Int.pow 2 63 :=
    ⟨Int64.le_toInt i, Int64.toInt_lt i⟩
  rw [ofNumber, if_pos hrange, Int64.ofInt_toInt]

theorem alike_oneNaN (x : Binary64) : (float x).Alike (float x.oneNaN) := by
  rw [Alike, Binary64.oneNaN]
  by_cases hx : x.isNaN
  · rw [if_pos hx]
    exact .inr ⟨hx, Binary64.isNaN_nan⟩
  · rw [if_neg hx]
    exact .inl rfl

/-! ### What is read back -/

-- By recursion over the value, with a statement for each kind of row in it.
mutual

theorem alike_asValue : ∀ v : Value, v.Alike (v.document.escaped.asValue ns)
  | null => by rw [document, escaped, asValue, Alike]; trivial
  | bool b => by rw [document, escaped, asValue, Alike]
  | integer i => by rw [document, escaped, asValue, ofNumber_toInt, Alike]
  | float x => alike_oneNaN x
  | string s => by rw [document, escaped, asValue, Template.filled_escape, Alike]
  | sequence items => by
      rw [document, escaped, asValue, Alike]
      exact itemsAlike_asItems items
  | mapping entries => by
      rw [document, escaped, asValue, Alike]
      exact entriesAlike_asEntries entries

theorem itemsAlike_asItems : ∀ items : List Value,
    ItemsAlike items (asItems ns (itemsEscaped (documents items)))
  | [] => trivial
  | v :: rest => by
      rw [documents, itemsEscaped, asItems, ItemsAlike]
      exact ⟨alike_asValue v, itemsAlike_asItems rest⟩

theorem entriesAlike_asEntries : ∀ entries : List (String × Value),
    EntriesAlike entries (asEntries ns (entriesEscaped (entryDocuments entries)))
  | [] => trivial
  | (k, v) :: rest => by
      rw [entryDocuments, entriesEscaped, asEntries, EntriesAlike]
      exact ⟨(Template.filled_escape k).symm, alike_asValue v, entriesAlike_asEntries rest⟩

end

theorem readableKey_escape (k : String) : ReadableKey ns (.string (Template.escape k)) := by
  refine ⟨nofun, ?_⟩
  rintro _ ⟨⟩
  exact Template.fills_escape k

theorem forall_notMem_cons {k : String} {seen : List String} {entries : List (String × Value)} :
    (∀ e ∈ entries, e.1 ∉ k :: seen) ↔ k ∉ entries.map (·.1) ∧ ∀ e ∈ entries, e.1 ∉ seen := by
  have hne : (∀ e ∈ entries, e.1 ≠ k) ↔ k ∉ entries.map (·.1) := by
    rw [List.mem_map]
    exact ⟨fun h ⟨e, he, heq⟩ => h e he heq, fun h e he heq => h ⟨e, he, heq⟩⟩
  simp only [List.mem_cons, not_or, forall_and, hne]

mutual

theorem readable_document : ∀ v : Value, Readable ns v.document.escaped ↔ v.KeysDistinct
  | null => iff_of_true readable_null trivial
  | bool _ => iff_of_true readable_bool trivial
  | integer _ => iff_of_true readable_number trivial
  | float _ => iff_of_true readable_number trivial
  | string s => iff_of_true (readable_string.mpr (Template.fills_escape s)) trivial
  | sequence items => by
      rw [document, escaped, readable_sequence, KeysDistinct]
      exact readable_documents items
  | mapping entries => by
      rw [document, escaped, readable_mapping, KeysDistinct, readable_entryDocuments [] entries]
      exact and_iff_left fun _ _ => List.not_mem_nil

theorem readable_documents : ∀ items : List Value,
    (∀ item ∈ itemsEscaped (documents items), Readable ns item) ↔ ItemsDistinct items
  | [] => iff_of_true nofun trivial
  | v :: rest => by
      rw [documents, itemsEscaped, List.forall_mem_cons, ItemsDistinct, readable_document v,
        readable_documents rest]

theorem readable_entryDocuments (seen : List String) : ∀ entries : List (String × Value),
    ReadableEntries ns seen (entriesEscaped (entryDocuments entries)) ↔
      EntriesDistinct entries ∧ ∀ e ∈ entries, e.1 ∉ seen
  | [] => iff_of_true readableEntries_nil ⟨trivial, nofun⟩
  | (k, v) :: rest => by
      have hname : keyName ns (.string (Template.escape k)) = k := Template.filled_escape k
      rw [entryDocuments, entriesEscaped, escaped, readableEntries_cons, hname,
        readable_document v, readable_entryDocuments (k :: seen) rest, EntriesDistinct,
        List.forall_mem_cons, forall_notMem_cons, and_iff_right (readableKey_escape k)]
      constructor
      · rintro ⟨hk, hv, hrest, hnew, hseen⟩
        exact ⟨⟨hnew, hv, hrest⟩, hk, hseen⟩
      · rintro ⟨⟨hnew, hv, hrest⟩, hk, hseen⟩
        exact ⟨hk, hv, hrest, hnew, hseen⟩

end

/--
**What is written is read back.**  The document of a value, with every `$` in it doubled, is read
as a value like it under every namespace, just if no mapping in it has a key twice: with values
of the same kinds and keys in the same places, each text, integer and floating-point number being
what it was, unless it is a NaN, which is a NaN again.
-/
theorem ofDocument_document_iff (v : Value) (ns : Namespace) (trail : List String) :
    (∃ w, ofDocument ns trail v.document.escaped = .ok w ∧ v.Alike w) ↔ v.KeysDistinct := by
  have hdocument : Readable ns v.document.escaped ↔ v.KeysDistinct := readable_document v
  rw [← hdocument]
  constructor
  · rintro ⟨w, hread, -⟩
    exact ((gives_ofDocument trail _ w).mp hread).1
  · intro hreadable
    exact ⟨_, (gives_ofDocument trail _ _).mpr ⟨hreadable, rfl⟩, alike_asValue v⟩

end Value

end DottedConfig
