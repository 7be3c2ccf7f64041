/-
What is wrong with a file that is read as YAML.

There are four ways: it is no regular file, it cannot be read as a text, its text is not YAML, or
the document in it has a fault.  `FileFault` has the failure of each, and the loader fails in these
ways only.  All of them are located in the file as a whole, except that a text that is not YAML
can be at fault at a certain place.  The reader of YAML counts from zero there, and the failure
from one.
-/
import DottedConfig.Proofs.Value.Failures
import DottedConfig.Proofs.Value.FirstFault
import DottedConfig.Proofs.Value.Written

namespace DottedConfig

open Yaml (Document)
open Yaml.Document (Earliest)

/-- Where the text of a file stops being YAML, if it does and the reader can tell. -/
def Disk.faultMark? (disk : Disk) (file : String) : Option Yaml.Mark :=
  match disk file with
  | some (.text s) =>
    if Text.allBlank s then none
    else
      match Document.read s with
      | .ok _ => none
      | .error fault => fault.mark
  | _ => none

/-- What can be wrong with a file, and how that is reported. -/
inductive FileFault (disk : Disk) (file : String) (ns : Namespace) : Failure → Prop where
  /-- It is no regular file. -/
  | notAFile (h : ¬disk.isFile file) : FileFault disk file ns (.notAFile file)
  /-- It does not give a text. -/
  | unreadable {refusal : Disk.Refusal} (h : disk file = some (.unreadable refusal)) :
      FileFault disk file ns (.io file (.unreadable refusal))
  /-- Its text is not YAML. -/
  | notYaml {text : String} {fault : Yaml.Error} (h : disk file = some (.text text))
      (hblank : ¬Text.allBlank text) (hread : Document.read text = .error fault) :
      FileFault disk file ns ((Value.badYaml fault).inFile file)
  /-- The document in it does not become a value. -/
  | unconverted {document : Document} {trail : List String} {fault : Document.Fault}
      (h : disk.document? file = some document) (hfault : Earliest ns document trail fault) :
      FileFault disk file ns ((fault.report trail).inFile file)

namespace Value

variable {ns : Namespace} {text : String} {f : Failure}

theorem ofText_of_not_read (hblank : ¬Text.allBlank text) {fault : Yaml.Error}
    (hread : Document.read text = .error fault) : ofText text ns = .error (badYaml fault) := by
  rw [ofText, if_neg hblank, hread]

/-- A text fails because it is not YAML, or with the document that it holds. -/
theorem ofText_eq_error (h : ofText text ns = .error f) :
    (¬Text.allBlank text ∧ ∃ fault, Document.read text = .error fault ∧ f = badYaml fault) ∨
      ∃ document, Document.ofText? text = some document ∧ ofDocument ns [] document = .error f := by
  by_cases hblank : Text.allBlank text
  · rw [ofText, if_pos hblank] at h
    cases h
  · cases hread : Document.read text with
    | error fault =>
        rw [ofText_of_not_read hblank hread] at h
        cases h
        exact .inl ⟨hblank, fault, rfl, rfl⟩
    | ok document =>
        have hdocument : Document.ofText? text = some document := by
          rw [Document.ofText?, if_neg hblank, hread]
          rfl
        rw [ofText_of_some hdocument] at h
        exact .inr ⟨document, hdocument, h⟩

end Value

variable {disk : Disk} {file : String} {ns : Namespace} {f : Failure}

/-- **The loader fails in these ways only.** -/
theorem fileFault_of_yaml (h : Loader.yaml disk file ns = .error f) : FileFault disk file ns f := by
  rw [Loader.yaml] at h
  split at h
  · rename_i text hfile
    split at h
    · cases h
    · rename_i f' hvalue
      cases h
      rcases Value.ofText_eq_error hvalue with ⟨hblank, fault, hread, rfl⟩ | ⟨document, hread, hf⟩
      · exact .notYaml hfile hblank hread
      · obtain ⟨trail, fault, hfault, rfl⟩ := (Value.reports_ofDocument [] document f').mp hf
        exact .unconverted (by rw [Disk.document?, hfile]; exact hread) hfault
  · rename_i hfile
    cases h
    exact .unreadable hfile
  · rename_i hfile
    cases h
    exact .notAFile (by rw [Disk.isFile, hfile]; exact Bool.false_ne_true)
  · rename_i hfile
    cases h
    exact .notAFile (by rw [Disk.isFile, hfile]; exact Bool.false_ne_true)

/-! ### What the failure says -/

theorem ofContent_report {document : Document} {trail : List String} {fault : Document.Fault}
    (h : Earliest ns document trail fault) : (fault.report trail).OfContent :=
  Value.sound_ofDocument [] document _
    ((Value.reports_ofDocument [] document _).mpr ⟨trail, fault, h, rfl⟩)

/-- A fault of a document is reported with its trail and without a location. -/
theorem location_report {document : Document} {trail : List String} {fault : Document.Fault}
    (h : Earliest ns document trail fault) : (fault.report trail).location = none := by
  cases fault with
  | unfilled f =>
      obtain ⟨s, hs⟩ := h.substitute_eq_error
      rw [Document.Fault.report, Failure.within]
      rcases Template.substitute_eq_error hs with ⟨before, rfl⟩ | ⟨name, rfl⟩
      · split <;> rfl
      · split <;> rfl
  | compound => rfl
  | repeated key => rfl

theorem location_badYaml (fault : Yaml.Error) :
    (Value.badYaml fault).location =
      fault.mark.map fun mark => ⟨"<input>", some (mark.line + 1), some (mark.column + 1)⟩ := by
  rw [Value.badYaml]
  cases fault.mark <;> rfl

theorem faultMark?_of_not_isFile (h : ¬disk.isFile file) : disk.faultMark? file = none := by
  rw [Disk.isFile] at h
  rw [Disk.faultMark?]
  cases hfile : disk file with
  | none => rfl
  | some entry =>
      rw [hfile] at h
      cases entry with
      | directory => rfl
      | text s => exact absurd rfl h
      | unreadable refusal => exact absurd rfl h

theorem faultMark?_of_document {document : Document} (h : disk.document? file = some document) :
    disk.faultMark? file = none := by
  obtain ⟨text, hfile, hread⟩ := Disk.exists_text_of_document h
  rw [Document.ofText?] at hread
  rw [Disk.faultMark?, hfile]
  dsimp only
  split at hread
  · rename_i hblank
    rw [if_pos hblank]
  · rename_i hblank
    rw [if_neg hblank, eq_ok_of_toOption hread]

namespace FileFault

/-- No dotted path is named: whoever asks for the file puts it in. -/
theorem path (h : FileFault disk file ns f) : f.path = none := by
  cases h with
  | notAFile h => rfl
  | unreadable h => rfl
  | @notYaml _ fault h hblank hread => exact (Value.ofContent_badYaml fault).path
  | unconverted h hfault => exact (ofContent_report hfault).path

/-- The kinds that are only about what a path leads to do not occur. -/
theorem kind (h : FileFault disk file ns f) :
    f.kind = .invalidPath ∨ f.kind = .io ∨ f.kind = .parse ∨ f.kind = .interpolation := by
  cases h with
  | notAFile h => exact .inl rfl
  | unreadable h => exact .inr (.inl rfl)
  | @notYaml _ fault h hblank hread => exact .inr (.inr (Value.ofContent_badYaml fault).kind)
  | unconverted h hfault => exact .inr (.inr (ofContent_report hfault).kind)

/-- **The failure is located in the file**, at a line and a column if the reader knows them. -/
theorem location (h : FileFault disk file ns f) :
    f.location = some ⟨file, (disk.faultMark? file).map (·.line + 1),
      (disk.faultMark? file).map (·.column + 1)⟩ := by
  cases h with
  | notAFile h =>
      rw [faultMark?_of_not_isFile h]
      rfl
  | unreadable h =>
      rw [Disk.faultMark?, h]
      rfl
  | @notYaml text fault h hblank hread =>
      have hmark : disk.faultMark? file = fault.mark := by
        rw [Disk.faultMark?, h]
        dsimp only
        rw [if_neg hblank, hread]
      rw [hmark, Failure.inFile, location_badYaml]
      cases fault.mark <;> rfl
  | unconverted h hfault =>
      rw [faultMark?_of_document h, Failure.inFile, location_report hfault]
      rfl

end FileFault

end DottedConfig
