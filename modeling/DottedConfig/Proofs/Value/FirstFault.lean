/-
What is wrong with a document first, and where.

A document that does not become a value has a fault in it: a text that cannot be filled, a key
that is a collection, or a key that comes to the text of an earlier one of its mapping.  `Earliest`
says which fault comes first in reading order.  All items or entries before it are readable.  In
its own entry the key comes first, then the comparison of its text with those before, then what
is under the key.  And it says where the fault is: the trail has a step for each sequence and each
mapping on the way, the position of the item or the text of the key, and since this key is
readable, the text is the one that it comes to.

The conversion fails just if there is such a fault, and what it reports is this fault with this
trail.  It passes the trail down, a step longer for each level.  Keeping one trail for the whole
document, with a step put on it on the way down and taken off on the way up, comes to the same,
because every part that succeeds leaves the trail as it was.
-/
import DottedConfig.Proofs.Except
import DottedConfig.Proofs.Template.Grammar
import DottedConfig.Proofs.Value.Conversion
import DottedConfig.Proofs.Value.Trail

namespace DottedConfig

open Template (substitute)

/-- What a text fails with always has a cause. -/
theorem Template.exists_cause {s : String} {ns : Namespace} {f : Failure}
    (h : substitute s ns = .error f) : ∃ cause, f.cause = some cause := by
  rcases substitute_eq_error h with ⟨before, rfl⟩ | ⟨name, rfl⟩
  · exact ⟨_, rfl⟩
  · exact ⟨_, rfl⟩

namespace Yaml.Document

/-! ### The earliest fault -/

/-- What can be wrong in a document. -/
inductive Fault where
  /-- A text cannot be filled, for this reason. -/
  | unfilled (f : Failure)
  /-- A key is a collection. -/
  | compound
  /-- A key comes to this text, and so does an earlier key of its mapping. -/
  | repeated (key : String)

/-- The failure that reports a fault at a trail.  A key is at the trail of its mapping; only a
repeated one is named besides. -/
def Fault.report (trail : List String) : Fault → Failure
  | unfilled f => f.within trail
  | compound => .parse (.compoundKey trail)
  | repeated key => .parse (.repeatedKey (trail ++ [key]))

/-- What is wrong with a key by itself. -/
inductive KeyFault (ns : Namespace) (key : Document) : Fault → Prop where
  | unfilled {s : String} {f : Failure} (hkey : key.bare = .string s)
      (h : substitute s ns = .error f) : KeyFault ns key (.unfilled f)
  | compound (h : key.bare.IsCollection) : KeyFault ns key .compound

mutual

/-- The first fault of a document, and the trail that leads to it. -/
inductive Earliest (ns : Namespace) : Document → List String → Fault → Prop where
  /-- The document is a text that cannot be filled. -/
  | text {s : String} {f : Failure} (h : substitute s ns = .error f) :
      Earliest ns (.string s) [] (.unfilled f)
  /-- An item has it, and the items before are readable. -/
  | item {before after : List Document} {item : Document} {trail : List String} {fault : Fault}
      (hbefore : ∀ earlier ∈ before, Readable ns earlier) (h : Earliest ns item trail fault) :
      Earliest ns (.sequence (before ++ item :: after)) (toString before.length :: trail) fault
  /-- An entry has it, and the entries before are readable. -/
  | entry {before after : List (Document × Document)} {k v : Document} {trail : List String}
      {fault : Fault} (hbefore : Readable ns (.mapping before))
      (h : EarliestOfEntry ns (before.map fun entry => entry.1.keyName ns) k v trail fault) :
      Earliest ns (.mapping (before ++ (k, v) :: after)) trail fault
  /-- What is under a tag has it. -/
  | inner {tag : String} {inner : Document} {trail : List String} {fault : Fault}
      (h : Earliest ns inner trail fault) : Earliest ns (.tagged tag inner) trail fault

/-- The first fault of an entry that comes after others with the keys `seen`, and the trail that
leads to it from the mapping. -/
inductive EarliestOfEntry (ns : Namespace) :
    List String → Document → Document → List String → Fault → Prop where
  /-- The key has it. -/
  | key {seen : List String} {k v : Document} {fault : Fault} (h : KeyFault ns k fault) :
      EarliestOfEntry ns seen k v [] fault
  /-- The key can become a text, but one that an earlier key has come to. -/
  | repeated {seen : List String} {k v : Document} (hkey : ReadableKey ns k)
      (h : k.keyName ns ∈ seen) : EarliestOfEntry ns seen k v [] (.repeated (k.keyName ns))
  /-- The key is a new one, and what is under it has the fault. -/
  | value {seen : List String} {k v : Document} {trail : List String} {fault : Fault}
      (hkey : ReadableKey ns k) (hnew : k.keyName ns ∉ seen) (h : Earliest ns v trail fault) :
      EarliestOfEntry ns seen k v (k.keyName ns :: trail) fault

end

/-- The first fault of some items, counted from a position on. -/
def EarliestOfItems (ns : Namespace) (position : Nat) (items : List Document)
    (trail : List String) (fault : Fault) : Prop :=
  ∃ before item after rest, items = before ++ item :: after ∧
    (∀ earlier ∈ before, Readable ns earlier) ∧ Earliest ns item rest fault ∧
      trail = toString (position + before.length) :: rest

/-- The first fault of some entries that come after others with the keys `seen`. -/
def EarliestOfEntries (ns : Namespace) (seen : List String)
    (entries : List (Document × Document)) (trail : List String) (fault : Fault) : Prop :=
  ∃ before k v after, entries = before ++ (k, v) :: after ∧ ReadableEntries ns seen before ∧
    EarliestOfEntry ns ((before.map fun entry => entry.1.keyName ns).reverse ++ seen) k v trail
      fault

variable {ns : Namespace} {trail : List String} {fault : Fault}

-- By recursion over the way to the fault, for documents and for entries.
mutual

/-- A failure that is passed on is that of filling a text. -/
theorem Earliest.substitute_eq_error {f : Failure} {document : Document} {trail : List String} :
    Earliest ns document trail (.unfilled f) → ∃ s, substitute s ns = .error f
  | .text h => ⟨_, h⟩
  | .item _ h => h.substitute_eq_error
  | .entry _ h => h.substitute_eq_error
  | .inner h => h.substitute_eq_error

theorem EarliestOfEntry.substitute_eq_error {f : Failure} {seen : List String} {k v : Document}
    {trail : List String} :
    EarliestOfEntry ns seen k v trail (.unfilled f) → ∃ s, substitute s ns = .error f
  | .key (.unfilled _ h) => ⟨_, h⟩
  | .value _ _ h => h.substitute_eq_error

end

/-! ### By the shape of a document -/

theorem not_earliest_null : ¬Earliest ns .null trail fault := by
  intro h
  cases h

theorem not_earliest_bool {b : Bool} : ¬Earliest ns (.bool b) trail fault := by
  intro h
  cases h

theorem not_earliest_number {n : Number} : ¬Earliest ns (.number n) trail fault := by
  intro h
  cases h

theorem earliest_string {s : String} :
    Earliest ns (.string s) trail fault ↔
      trail = [] ∧ ∃ f, substitute s ns = .error f ∧ fault = .unfilled f := by
  constructor
  · intro h
    cases h with
    | text h => exact ⟨rfl, _, h, rfl⟩
  · rintro ⟨rfl, f, h, rfl⟩
    exact .text h

theorem earliest_tagged {tag : String} {inner : Document} :
    Earliest ns (.tagged tag inner) trail fault ↔ Earliest ns inner trail fault := by
  refine ⟨fun h => ?_, .inner⟩
  cases h with
  | inner h => exact h

theorem keyFault_string {s : String} :
    KeyFault ns (.string s) fault ↔ ∃ f, substitute s ns = .error f ∧ fault = .unfilled f := by
  constructor
  · intro hfault
    cases hfault with
    | unfilled hkey h =>
        cases hkey
        exact ⟨_, h, rfl⟩
    | compound h => exact h.elim
  · rintro ⟨f, h, rfl⟩
    exact .unfilled rfl h

theorem keyFault_tagged {tag : String} {inner : Document} :
    KeyFault ns (.tagged tag inner) fault ↔ KeyFault ns inner fault := by
  constructor
  · rintro (⟨hkey, h⟩ | h)
    · exact .unfilled hkey h
    · exact .compound h
  · rintro (⟨hkey, h⟩ | h)
    · exact .unfilled hkey h
    · exact .compound h

theorem keyFault_of_isCollection {key : Document} (hkey : key.bare.IsCollection) :
    KeyFault ns key fault ↔ fault = .compound := by
  constructor
  · intro hfault
    cases hfault with
    | unfilled hstring h =>
        rw [hstring] at hkey
        exact hkey.elim
    | compound h => rfl
  · rintro rfl
    exact .compound hkey

/-- Any other key has its text by itself. -/
theorem not_keyFault {key : Document} (hstring : ∀ s, key.bare ≠ .string s)
    (hcollection : ¬key.bare.IsCollection) : ¬KeyFault ns key fault := by
  intro hfault
  cases hfault with
  | unfilled hkey h => exact hstring _ hkey
  | compound h => exact hcollection h

theorem earliest_sequence {items : List Document} :
    Earliest ns (.sequence items) trail fault ↔ EarliestOfItems ns 0 items trail fault := by
  constructor
  · intro h
    cases h with
    | item hbefore h => exact ⟨_, _, _, _, rfl, hbefore, h, by rw [Nat.zero_add]⟩
  · rintro ⟨before, item, after, rest, rfl, hbefore, h, rfl⟩
    rw [Nat.zero_add]
    exact .item hbefore h

/-- Of the keys before an entry it only matters which there are. -/
theorem earliestOfEntry_congr {seen seen' : List String} {k v : Document}
    (h : ∀ key, key ∈ seen' ↔ key ∈ seen) :
    EarliestOfEntry ns seen' k v trail fault ↔ EarliestOfEntry ns seen k v trail fault := by
  constructor
  · intro hentry
    cases hentry with
    | key hfault => exact .key hfault
    | repeated hkey hmem => exact .repeated hkey ((h _).mp hmem)
    | value hkey hnew hvalue => exact .value hkey (fun hmem => hnew ((h _).mpr hmem)) hvalue
  · intro hentry
    cases hentry with
    | key hfault => exact .key hfault
    | repeated hkey hmem => exact .repeated hkey ((h _).mpr hmem)
    | value hkey hnew hvalue => exact .value hkey (fun hmem => hnew ((h _).mp hmem)) hvalue

theorem earliest_mapping {entries : List (Document × Document)} :
    Earliest ns (.mapping entries) trail fault ↔ EarliestOfEntries ns [] entries trail fault := by
  constructor
  · intro h
    cases h with
    | entry hbefore h =>
        refine ⟨_, _, _, _, rfl, readable_mapping.mp hbefore, ?_⟩
        exact (earliestOfEntry_congr (by simp)).mpr h
  · rintro ⟨before, k, v, after, rfl, hbefore, h⟩
    exact .entry (readable_mapping.mpr hbefore) ((earliestOfEntry_congr (by simp)).mp h)

theorem not_earliestOfItems_nil {position : Nat} :
    ¬EarliestOfItems ns position [] trail fault := by
  rintro ⟨before, item, after, rest, h, -⟩
  simp at h

theorem not_earliestOfEntries_nil {seen : List String} :
    ¬EarliestOfEntries ns seen [] trail fault := by
  rintro ⟨before, k, v, after, h, -⟩
  simp at h

/-- The first item has the fault, or it is readable and one of the others has it. -/
theorem earliestOfItems_cons {position : Nat} {item : Document} {items : List Document} :
    EarliestOfItems ns position (item :: items) trail fault ↔
      (∃ rest, trail = toString position :: rest ∧ Earliest ns item rest fault) ∨
        Readable ns item ∧ EarliestOfItems ns (position + 1) items trail fault := by
  constructor
  · rintro ⟨before, item', after, rest, hitems, hbefore, h, rfl⟩
    cases before with
    | nil =>
        obtain ⟨rfl, rfl⟩ := List.cons.inj hitems
        exact .inl ⟨rest, rfl, h⟩
    | cons first before =>
        obtain ⟨rfl, rfl⟩ := List.cons.inj hitems
        obtain ⟨hfirst, hbefore⟩ := List.forall_mem_cons.mp hbefore
        refine .inr ⟨hfirst, before, item', after, rest, rfl, hbefore, h, ?_⟩
        rw [List.length_cons, Nat.add_right_comm, Nat.add_assoc]
  · rintro (⟨rest, rfl, h⟩ | ⟨hfirst, before, item', after, rest, rfl, hbefore, h, rfl⟩)
    · have hnone : ∀ earlier ∈ [], Readable ns earlier := fun _ hmem =>
        absurd hmem List.not_mem_nil
      exact ⟨[], item, items, rest, rfl, hnone, h, rfl⟩
    · refine ⟨item :: before, item', after, rest, rfl, ?_, h, ?_⟩
      · exact List.forall_mem_cons.mpr ⟨hfirst, hbefore⟩
      · rw [List.length_cons, Nat.add_right_comm, Nat.add_assoc]

/-- The first entry has the fault, or it is readable, with a new key, and one of the others
has it. -/
theorem earliestOfEntries_cons {seen : List String} {k v : Document}
    {entries : List (Document × Document)} :
    EarliestOfEntries ns seen ((k, v) :: entries) trail fault ↔
      EarliestOfEntry ns seen k v trail fault ∨
        ReadableKey ns k ∧ k.keyName ns ∉ seen ∧ Readable ns v ∧
          EarliestOfEntries ns (k.keyName ns :: seen) entries trail fault := by
  have hseen : ∀ before : List (Document × Document),
      (((k, v) :: before).map fun entry => entry.1.keyName ns).reverse ++ seen =
        (before.map fun entry => entry.1.keyName ns).reverse ++ k.keyName ns :: seen := by
    simp
  constructor
  · rintro ⟨before, k', v', after, hentries, hbefore, h⟩
    cases before with
    | nil =>
        obtain ⟨hentry, rfl⟩ := List.cons.inj hentries
        obtain ⟨rfl, rfl⟩ := Prod.mk.inj hentry
        exact .inl h
    | cons first before =>
        obtain ⟨rfl, rfl⟩ := List.cons.inj hentries
        obtain ⟨hkey, hnew, hvalue, hbefore⟩ := readableEntries_cons.mp hbefore
        rw [hseen] at h
        exact .inr ⟨hkey, hnew, hvalue, before, k', v', after, rfl, hbefore, h⟩
  · rintro (h | ⟨hkey, hnew, hvalue, before, k', v', after, rfl, hbefore, h⟩)
    · exact ⟨[], k, v, entries, rfl, readableEntries_nil, h⟩
    · refine ⟨(k, v) :: before, k', v', after, rfl, ?_, ?_⟩
      · exact readableEntries_cons.mpr ⟨hkey, hnew, hvalue, hbefore⟩
      · rw [hseen]
        exact h

/-- The order within an entry. -/
theorem earliestOfEntry_iff {seen : List String} {k v : Document} :
    EarliestOfEntry ns seen k v trail fault ↔
      trail = [] ∧ KeyFault ns k fault ∨ ReadableKey ns k ∧
        (k.keyName ns ∈ seen ∧ trail = [] ∧ fault = .repeated (k.keyName ns) ∨
          k.keyName ns ∉ seen ∧
            ∃ rest, trail = k.keyName ns :: rest ∧ Earliest ns v rest fault) := by
  constructor
  · intro h
    cases h with
    | key hfault => exact .inl ⟨rfl, hfault⟩
    | repeated hkey hmem => exact .inr ⟨hkey, .inl ⟨hmem, rfl, rfl⟩⟩
    | value hkey hnew hvalue => exact .inr ⟨hkey, .inr ⟨hnew, _, rfl, hvalue⟩⟩
  · rintro (⟨rfl, hfault⟩ | ⟨hkey, ⟨hmem, rfl, rfl⟩ | ⟨hnew, rest, rfl, hvalue⟩⟩)
    · exact .key hfault
    · exact .repeated hkey hmem
    · exact .value hkey hnew hvalue

end Yaml.Document

/-! ### Steps that report a fault -/

open Yaml.Document (Fault)

/-- This fails exactly with the faults for which `P` holds, each reported at the trail that leads
to it on from here. -/
def Reports {α : Type} (x : Except Failure α) (trail : List String)
    (P : List String → Fault → Prop) : Prop :=
  ∀ f, x = .error f ↔ ∃ below fault, P below fault ∧ f = fault.report (trail ++ below)

namespace Reports

variable {α β : Type} {x : Except Failure α} {trail : List String}
  {P Q : List String → Fault → Prop}

theorem ok {a : α} (h : ∀ below fault, ¬P below fault) : Reports (.ok a) trail P := by
  intro f
  refine ⟨nofun, ?_⟩
  rintro ⟨below, fault, hfault, -⟩
  exact absurd hfault (h below fault)

theorem error (fault : Fault) (h : ∀ below fault', P below fault' ↔ below = [] ∧ fault' = fault) :
    Reports (.error (fault.report trail) : Except Failure α) trail P := by
  intro f
  constructor
  · intro hf
    cases hf
    exact ⟨[], fault, (h _ _).mpr ⟨rfl, rfl⟩, by rw [List.append_nil]⟩
  · rintro ⟨below, fault', hfault, rfl⟩
    obtain ⟨rfl, rfl⟩ := (h _ _).mp hfault
    rw [List.append_nil]

theorem congr (h : Reports x trail P) (hPQ : ∀ below fault, P below fault ↔ Q below fault) :
    Reports x trail Q := by
  intro f
  rw [h f]
  exact exists_congr fun below => exists_congr fun fault => and_congr_left fun _ => hPQ below fault

/-- A first part fails, or it succeeds and a second one fails. -/
theorem bind {next : α → Except Failure β} {p : Prop} {a : α} (hgives : Gives x p a)
    (h : Reports x trail P) (hnext : Reports (next a) trail Q) :
    Reports (x >>= next) trail fun below fault => P below fault ∨ p ∧ Q below fault := by
  intro f
  cases x with
  | error f' =>
      have hp : ¬p := fun hp => nomatch (hgives a).mpr ⟨hp, rfl⟩
      have hf := h f
      rw [Except.error.injEq] at hf
      show (Except.error f' : Except Failure β) = .error f ↔ _
      rw [Except.error.injEq, hf]
      simp only [hp, false_and, or_false]
  | ok a' =>
      obtain ⟨hp, rfl⟩ := (hgives a').mp rfl
      have hP : ∀ below fault, ¬P below fault := fun below fault hfault =>
        nomatch (h _).mpr ⟨below, fault, hfault, rfl⟩
      show next a' = .error f ↔ _
      rw [hnext f]
      simp only [hP, hp, false_or, true_and]

theorem map (make : α → β) (h : Reports x trail P) :
    Reports (x >>= fun a => .ok (make a)) trail P := by
  intro f
  rw [← h f]
  cases x with
  | error f' => exact ⟨fun hf => congrArg _ (Except.error.inj hf), fun hf => by rw [hf]; rfl⟩
  | ok a => exact ⟨nofun, nofun⟩

/-- What fails one level down fails with a longer trail. -/
theorem down {step : String} (h : Reports x (trail ++ [step]) P) :
    Reports x trail fun below fault => ∃ rest, below = step :: rest ∧ P rest fault := by
  intro f
  rw [h f]
  constructor
  · rintro ⟨rest, fault, hP, rfl⟩
    exact ⟨step :: rest, fault, ⟨rest, rfl, hP⟩, by rw [List.append_assoc, List.singleton_append]⟩
  · rintro ⟨-, fault, ⟨rest, rfl, hP⟩, rfl⟩
    exact ⟨rest, fault, hP, by rw [List.append_assoc, List.singleton_append]⟩

/-- A test fails, or it does not and the rest does. -/
theorem guard {c : Prop} [Decidable c] (fault : Fault) (h : Reports x trail P) :
    Reports (if c then .error (fault.report trail) else x) trail fun below fault' =>
      c ∧ below = [] ∧ fault' = fault ∨ ¬c ∧ P below fault' := by
  split
  · rename_i hc
    exact .error fault fun below fault' => by simp [hc]
  · rename_i hc
    exact h.congr fun below fault' => by simp [hc]

end Reports

namespace Value

open Yaml (Document)
open Yaml.Document

variable {ns : Namespace}

theorem reports_substituteAt (trail : List String) (s : String) :
    Reports (substituteAt ns trail s) trail fun below fault =>
      below = [] ∧ ∃ f, substitute s ns = .error f ∧ fault = .unfilled f := by
  unfold substituteAt
  cases h : substitute s ns with
  | ok text => exact .ok (by simp)
  | error f => exact .error (.unfilled f) (by simp)

theorem reports_keyText (trail : List String) (key : Document) :
    Reports (keyText ns trail key) trail fun below fault => below = [] ∧ KeyFault ns key fault := by
  have hscalar : ∀ {a : String} {key : Document}, (∀ s, key.bare ≠ .string s) →
      ¬key.bare.IsCollection →
      Reports (.ok a) trail fun below fault => below = [] ∧ KeyFault ns key fault :=
    fun hstring hcollection => .ok fun _ _ hfault => not_keyFault hstring hcollection hfault.2
  have hcollection : ∀ {key : Document}, key.bare.IsCollection →
      Reports (.error (.parse (.compoundKey trail)) : Except Failure String) trail
        fun below fault => below = [] ∧ KeyFault ns key fault :=
    fun hkey => .error .compound fun _ _ => and_congr_right fun _ => keyFault_of_isCollection hkey
  induction key using keyText.induct with
  | case1 s =>
      exact (reports_substituteAt trail s).congr fun _ _ => and_congr_right fun _ =>
        keyFault_string.symm
  | case2 n => exact hscalar (fun s hs => by cases hs) id
  | case3 b => exact hscalar (fun s hs => by cases hs) id
  | case4 => exact hscalar (fun s hs => by cases hs) id
  | case5 tag inner ih =>
      exact ih.congr fun _ _ => and_congr_right fun _ => keyFault_tagged.symm
  | case6 items => exact hcollection trivial
  | case7 entries => exact hcollection trivial

-- By recursion over the document, with a statement for each of the three walks.
mutual

theorem reports_ofDocument (trail : List String) : ∀ document : Document,
    Reports (ofDocument ns trail document) trail (Earliest ns document)
  | .null => .ok fun _ _ => not_earliest_null
  | .bool _ => .ok fun _ _ => not_earliest_bool
  | .number _ => .ok fun _ _ => not_earliest_number
  | .string s => ((reports_substituteAt trail s).map string).congr fun _ _ => earliest_string.symm
  | .sequence items =>
      ((reports_ofItems trail 0 items).map sequence).congr fun _ _ => earliest_sequence.symm
  | .mapping entries =>
      ((reports_ofPairs trail [] entries).map mapping).congr fun _ _ => earliest_mapping.symm
  | .tagged _ inner => (reports_ofDocument trail inner).congr fun _ _ => earliest_tagged.symm

theorem reports_ofItems (trail : List String) (position : Nat) : ∀ items : List Document,
    Reports (ofItems ns trail position items) trail (EarliestOfItems ns position items)
  | [] => .ok fun _ _ => not_earliestOfItems_nil
  | item :: rest => by
      have hitem := (reports_ofDocument (trail ++ [toString position]) item).down
      refine Reports.congr (.bind (gives_ofDocument _ item) hitem ?_)
        fun _ _ => earliestOfItems_cons.symm
      exact (reports_ofItems trail (position + 1) rest).map (item.asValue ns :: ·)

theorem reports_ofPairs (trail seen : List String) : ∀ entries : List (Document × Document),
    Reports (ofPairs ns trail seen entries) trail (EarliestOfEntries ns seen entries)
  | [] => .ok fun _ _ => not_earliestOfEntries_nil
  | (k, v) :: rest => by
      have hvalue := (reports_ofDocument (trail ++ [k.keyName ns]) v).down
      have hrest := reports_ofPairs trail (k.keyName ns :: seen) rest
      rw [ofPairs_cons]
      refine Reports.congr (Reports.bind (gives_keyText trail k) (reports_keyText trail k)
        (.guard (.repeated (k.keyName ns)) (.bind (gives_ofDocument _ v) hvalue (hrest.map _)))) ?_
      intro below fault
      rw [earliestOfEntries_cons, earliestOfEntry_iff]
      simp only [and_or_left, or_assoc]

end

/-! ### What is reported -/

theorem message_within (cause : Cause) (trail : List String) :
    (Cause.within cause trail).message = cause.message ++ " (at '" ++ showTrail trail ++ "')" := rfl

theorem message_repeatedKey (trail : List String) :
    (Cause.repeatedKey trail).message =
      "Duplicate mapping key after substitution (at '" ++ showTrail trail ++ "')" := rfl

theorem message_compoundKey (trail : List String) :
    (Cause.compoundKey trail).message =
      "Mapping keys must be scalars (under '" ++ showTrail trail ++ "')" := rfl

/-- Nothing is said of the place of a text that is a whole document, or of a key at its top. -/
theorem report_unfilled_nil (f : Failure) : (Fault.unfilled f).report [] = f := rfl

theorem report_unfilled {f : Failure} {cause : Cause} (hcause : f.cause = some cause)
    {trail : List String} (h : trail ≠ []) :
    (Fault.unfilled f).report trail = { f with cause := some (.within cause trail) } := by
  rw [Fault.report, Failure.within, if_neg (by simpa using h), hcause]
  rfl

theorem showTrail_of_ne_nil {trail : List String} (h : trail ≠ []) :
    showTrail trail = ".".intercalate trail := by
  cases trail with
  | nil => exact absurd rfl h
  | cons step rest => rfl

theorem showTrail_eq (trail : List String) :
    showTrail trail = if trail = [] then "<root>" else ".".intercalate trail := by
  split
  · rename_i h
    rw [h]
    rfl
  · rename_i h
    exact showTrail_of_ne_nil h

/--
**A document that does not become a value is refused for its earliest fault, at its place.**
There is a fault just if the conversion fails, and what is reported is the earliest one with the
trail that leads to it.  A text that cannot be filled is reported with the failure of filling it,
and after the wording of that with the place of the text, or with the place of the mapping for a
key, unless this is the whole document.  A repeated key is named at the end of its trail, and a
collection that is a key by the mapping that it is in.  A conversion with a single trail, carried
along and changed on the way, comes to the same, and wherever it succeeds this trail is again
what it was.
-/
theorem ofDocument_reports_earliest (ns : Namespace) :
    (∀ trail document f, ofDocument ns trail document = .error f ↔
      ∃ below fault, Earliest ns document below fault ∧ f = fault.report (trail ++ below)) ∧
    (∀ s f, substitute s ns = .error f → ∃ cause, f.cause = some cause ∧
      (Fault.unfilled f).report [] = f ∧
      ∀ trail, trail ≠ [] →
        (Fault.unfilled f).report trail = { f with cause := some (.within cause trail) } ∧
          (Cause.within cause trail).message =
            cause.message ++ " (at '" ++ ".".intercalate trail ++ "')") ∧
    (∀ key trail, ∃ cause, (Fault.repeated key).report trail = .parse cause ∧
      cause.message = "Duplicate mapping key after substitution (at '" ++
        ".".intercalate (trail ++ [key]) ++ "')") ∧
    (∀ trail, ∃ cause, Fault.compound.report trail = .parse cause ∧
      cause.message = "Mapping keys must be scalars (under '" ++
        (if trail = [] then "<root>" else ".".intercalate trail) ++ "')") ∧
    (∀ document trail, (walkDocument ns document).run trail =
      (ofDocument ns trail document).map fun value => (value, trail)) := by
  refine ⟨fun trail document => reports_ofDocument trail document, fun s f h => ?_,
    fun key trail => ⟨_, rfl, ?_⟩, fun trail => ⟨_, rfl, ?_⟩, handsBack_walkDocument ns⟩
  · obtain ⟨cause, hcause⟩ := Template.exists_cause h
    refine ⟨cause, hcause, report_unfilled_nil f, fun trail htrail => ?_⟩
    refine ⟨report_unfilled hcause htrail, ?_⟩
    rw [message_within, showTrail_of_ne_nil htrail]
  · rw [message_repeatedKey, showTrail_of_ne_nil (by simp)]
  · rw [message_compoundKey, showTrail_eq]

example : ((ofDocument ∅ [] (.mapping [(.string "lens",
    .sequence [.null, .sequence [.bool true], .string "$x"])])).mapError fun f =>
      f.cause.map Cause.message) matches
    .error (some "No namespace entry for 'x' (at 'lens.2')") := by decide +kernel

end Value

end DottedConfig
