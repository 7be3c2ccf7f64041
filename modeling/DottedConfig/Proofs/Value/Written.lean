/-
Documents as they are written, before any placeholder is filled.

A document becomes a value by filling in the texts in it: the scalars, and the keys.  `texts` tells
which these are.  What becomes of a document under a namespace depends on what these texts
come to and on nothing else, and that covers its failures: which text is the first at fault, and
whether two keys come to be the same.

`Under` follows the keys of nested mappings as they are written.  In a readable document such keys
lead to the same place after filling in: no two keys of a mapping come to the same text, so the
filled keys find in the value what the written ones found in the document.

A file that is read as YAML holds a document, or it fails alike under every namespace.
-/
import DottedConfig.Loader
import DottedConfig.Proofs.Value.Conversion
import DottedConfig.Proofs.Value.Descent

namespace DottedConfig

namespace Yaml.Document

/-- The document that the value of a text is made of.  A text of blanks alone is not read. -/
def ofText? (text : String) : Option Document :=
  if Text.allBlank text then some .null else (read text).toOption

/-- The text of a key, if it is one, whatever its tags. -/
def keyText? (key : Document) : Option String :=
  match key.bare with
  | string s => some s
  | _ => none

mutual

/-- The texts in a document that are filled in: scalars, and keys of mappings. -/
def texts : Document → List String
  | string s => [s]
  | sequence items => itemTexts items
  | mapping entries => entryTexts entries
  | tagged _ inner => texts inner
  | _ => []

def itemTexts : List Document → List String
  | [] => []
  | item :: rest => texts item ++ itemTexts rest

def entryTexts : List (Document × Document) → List String
  | [] => []
  | (k, v) :: rest => k.keyText?.toList ++ texts v ++ entryTexts rest

end

/-- A document that stands under a key with this text in a mapping, whatever the tags around
the mapping and the key. -/
inductive Under (document : Document) (key : String) : Document → Prop where
  | intro {entries : List (Document × Document)} {entry : Document × Document}
      (hmapping : document.bare = .mapping entries) (hmem : entry ∈ entries)
      (hkey : entry.1.keyText? = some key) : Under document key entry.2

/-- The document that keys lead to from mapping to mapping. -/
inductive LeadsTo : Document → List String → Document → Prop where
  | here (document : Document) : LeadsTo document [] document
  | down {document inner final : Document} {key : String} {keys : List String}
      (hunder : Under document key inner) (h : LeadsTo inner keys final) :
      LeadsTo document (key :: keys) final

/-- The document under the first key with this text. -/
def child? (document : Document) (key : String) : Option Document :=
  match document.bare with
  | mapping entries => (entries.find? fun entry => entry.1.keyText? = some key).map (·.2)
  | _ => none

theorem under_of_child? {document inner : Document} {key : String}
    (h : document.child? key = some inner) : Under document key inner := by
  rw [child?] at h
  split at h
  · rename_i entries hmapping
    obtain ⟨entry, hentry, rfl⟩ := Option.map_eq_some_iff.mp h
    have hkey := List.find?_some hentry
    exact .intro hmapping (List.mem_of_find?_eq_some hentry) (of_decide_eq_true hkey)
  · cases h

/-- Following first keys is one way to be led. -/
theorem leadsTo_of_child? {document final : Document} {keys : List String}
    (h : keys.foldlM child? document = some final) : LeadsTo document keys final := by
  induction keys generalizing document with
  | nil =>
      cases h
      exact .here final
  | cons key rest ih =>
      rw [List.foldlM_cons] at h
      obtain ⟨inner, hchild, hrest⟩ := Option.bind_eq_some_iff.mp h
      exact .down (under_of_child? hchild) (ih hrest)

end Yaml.Document

namespace Value

open Yaml (Document)
open Yaml.Document

variable {ns ns' : Namespace}

theorem ofText_of_some {text : String} {document : Document}
    (h : Document.ofText? text = some document) (ns : Namespace) :
    ofText text ns = ofDocument ns [] document := by
  rw [Document.ofText?] at h
  rw [ofText]
  split at h
  · rename_i hblank
    cases h
    rw [if_pos hblank]
    rfl
  · rename_i hblank
    rw [if_neg hblank, eq_ok_of_toOption h]

/-- A text that is not the YAML of any document fails in the same way under every namespace. -/
theorem ofText_of_none {text : String} (h : Document.ofText? text = none) (ns ns' : Namespace) :
    ofText text ns' = ofText text ns := by
  rw [Document.ofText?] at h
  rw [ofText, ofText]
  split at h
  · cases h
  · rename_i hblank
    rw [if_neg hblank, if_neg hblank]
    cases hread : Document.read text with
    | error fault => rfl
    | ok document =>
        rw [hread] at h
        cases h

/-! ### Only what a document says matters -/

theorem substituteAt_congr {s : String} (h : Template.substitute s ns' = Template.substitute s ns)
    (trail : List String) : substituteAt ns' trail s = substituteAt ns trail s := by
  rw [substituteAt, substituteAt, h]

theorem keyText_congr {key : Document}
    (h : ∀ s ∈ key.keyText?, Template.substitute s ns' = Template.substitute s ns)
    (trail : List String) : keyText ns' trail key = keyText ns trail key := by
  induction key using keyText.induct with
  | case1 s => exact substituteAt_congr (h s rfl) trail
  | case2 n => rfl
  | case3 b => rfl
  | case4 => rfl
  | case5 tag inner ih => exact ih h
  | case6 items => rfl
  | case7 entries => rfl

-- By recursion over the document, with a statement for each of the three walks.
mutual

theorem ofDocument_congr (trail : List String) : ∀ document : Document,
    (∀ s ∈ document.texts, Template.substitute s ns' = Template.substitute s ns) →
      ofDocument ns' trail document = ofDocument ns trail document
  | .null, _ | .bool _, _ | .number _, _ => rfl
  | .string s, h => by
      rw [ofDocument, ofDocument, substituteAt_congr (h s (List.mem_singleton.mpr rfl))]
  | .sequence items, h => by
      rw [ofDocument, ofDocument, ofItems_congr trail 0 items h]
  | .mapping entries, h => by
      rw [ofDocument, ofDocument, ofPairs_congr trail [] entries h]
  | .tagged _ inner, h => ofDocument_congr trail inner h

theorem ofItems_congr (trail : List String) (position : Nat) : ∀ items : List Document,
    (∀ s ∈ itemTexts items, Template.substitute s ns' = Template.substitute s ns) →
      ofItems ns' trail position items = ofItems ns trail position items
  | [], _ => rfl
  | item :: rest, h => by
      obtain ⟨hitem, hrest⟩ := List.forall_mem_append.mp h
      rw [ofItems, ofItems, ofDocument_congr _ item hitem, ofItems_congr trail _ rest hrest]

theorem ofPairs_congr (trail seen : List String) : ∀ entries : List (Document × Document),
    (∀ s ∈ entryTexts entries, Template.substitute s ns' = Template.substitute s ns) →
      ofPairs ns' trail seen entries = ofPairs ns trail seen entries
  | [], _ => rfl
  | (k, v) :: rest, h => by
      obtain ⟨hentry, hrest⟩ := List.forall_mem_append.mp h
      obtain ⟨hkey, hvalue⟩ := List.forall_mem_append.mp hentry
      have hkey : keyText ns' trail k = keyText ns trail k :=
        keyText_congr (fun s hs => hkey s (Option.mem_toList.mpr hs)) trail
      have hvalue : ∀ key, ofDocument ns' (trail ++ [key]) v = ofDocument ns (trail ++ [key]) v :=
        fun key => ofDocument_congr _ v hvalue
      have hrest : ∀ key,
          ofPairs ns' trail (key :: seen) rest = ofPairs ns trail (key :: seen) rest :=
        fun key => ofPairs_congr trail _ rest hrest
      rw [ofPairs, ofPairs, hkey]
      simp only [hvalue, hrest]

end

/-! ### Written keys and filled ones -/

theorem eq_string_of_keyText? {key : Document} {s : String} (h : key.keyText? = some s) :
    key.bare = .string s := by
  rw [keyText?] at h
  split at h
  · rename_i hbare
    cases h
    exact hbare
  · cases h

theorem asValue_bare (document : Document) : document.bare.asValue ns = document.asValue ns := by
  induction document using bare.induct with
  | case1 tag inner ih => exact ih
  | case2 document h => rw [bare]; exact h

theorem readable_bare {document : Document} : Readable ns document.bare ↔ Readable ns document := by
  induction document using bare.induct with
  | case1 tag inner ih => exact ih.trans readable_tagged.symm
  | case2 document h => rw [bare]; exact h

theorem find?_of_mem {key : String} {value : Value} {entries : List (String × Value)}
    (hdistinct : (entries.map (·.1)).Nodup) (hmem : (key, value) ∈ entries) :
    find? key entries = some value := by
  induction entries with
  | nil => exact absurd hmem List.not_mem_nil
  | cons entry rest ih =>
      obtain ⟨k, v⟩ := entry
      obtain ⟨hnew, hdistinct⟩ := List.nodup_cons.mp hdistinct
      rw [find?]
      rcases List.mem_cons.mp hmem with heq | hmem
      · cases heq
        rw [if_pos rfl]
      · have hne : k ≠ key := by
          rintro rfl
          exact hnew (List.mem_map.mpr ⟨_, hmem, rfl⟩)
        rw [if_neg hne]
        exact ih hdistinct hmem

/-- **A written key of a readable document finds its value once it is filled.** -/
theorem child?_of_under {document inner : Document} {key : String}
    (h : Under document key inner) (hread : Readable ns document) :
    (document.asValue ns).child? (Template.filled ns key) = some (inner.asValue ns) ∧
      Readable ns inner := by
  obtain ⟨hmapping, hmem, hkey⟩ := h
  rename_i entries entry
  have hvalue : document.asValue ns = .mapping (asEntries ns entries) := by
    rw [← asValue_bare, hmapping, asValue]
  have hentries : ReadableEntries ns [] entries := by
    rw [← readable_mapping, ← hmapping]
    exact readable_bare.mpr hread
  have hname : entry.1.keyName ns = Template.filled ns key := by
    rw [keyName, eq_string_of_keyText? hkey]
  refine ⟨?_, (hentries.parts entry hmem).2⟩
  rw [hvalue, asEntries_eq_map]
  refine find?_of_mem ?_ ?_
  · rw [List.map_map]
    exact hentries.distinct
  · exact List.mem_map.mpr ⟨entry, hmem, by rw [hname]⟩

/-- And so do written keys in a row. -/
theorem below?_of_leadsTo {document final : Document} {keys : List String}
    (h : LeadsTo document keys final) (hread : Readable ns document) :
    (document.asValue ns).below? (keys.map (Template.filled ns)) = some (final.asValue ns) ∧
      Readable ns final := by
  induction h with
  | here document => exact ⟨rfl, hread⟩
  | down hunder _ ih =>
      obtain ⟨hchild, hinner⟩ := child?_of_under hunder hread
      obtain ⟨hbelow, hfinal⟩ := ih hinner
      refine ⟨?_, hfinal⟩
      rw [List.map_cons, below?_cons, hchild]
      exact hbelow

end Value

/-! ### Files -/

/-- The document that a file holds, if there is a file with the text of one. -/
def Disk.document? (disk : Disk) (file : String) : Option Yaml.Document :=
  match disk file with
  | some (.text s) => Yaml.Document.ofText? s
  | _ => none

theorem Disk.exists_text_of_document {disk : Disk} {file : String} {document : Yaml.Document}
    (h : disk.document? file = some document) :
    ∃ text, disk file = some (.text text) ∧ Yaml.Document.ofText? text = some document := by
  rw [Disk.document?] at h
  split at h
  · rename_i text hfile
    exact ⟨text, hfile, h⟩
  · cases h

namespace Loader

variable {disk : Disk} {file : String}

/-- A file is read as YAML by filling in the document that it holds. -/
theorem yaml_of_document {document : Yaml.Document} (h : disk.document? file = some document)
    (ns : Namespace) :
    yaml disk file ns = (Value.ofDocument ns [] document).mapError (·.inFile file) := by
  obtain ⟨text, hfile, hread⟩ := Disk.exists_text_of_document h
  rw [yaml, hfile]
  dsimp only
  rw [Value.ofText_of_some hread]
  cases Value.ofDocument ns [] document <;> rfl

/-- One that holds none fails in the same way under every namespace. -/
theorem yaml_of_no_document (h : disk.document? file = none) (ns ns' : Namespace) :
    yaml disk file ns' = yaml disk file ns := by
  rw [Disk.document?] at h
  rw [yaml, yaml]
  split
  · rename_i text hfile
    rw [hfile] at h
    rw [Value.ofText_of_none h]
  · rfl
  · rfl
  · rfl

end Loader

end DottedConfig
