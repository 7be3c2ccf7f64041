/-
What a document becomes, and when it becomes anything.

A document becomes a value of the same shape: tags are left out, texts are filled in, keys
become their texts, and every item and every entry stays where it is.  `asValue` says so
without ever failing, by leaving a text that cannot be filled as it is.  `Readable` says when
that does not arise: every text can be filled, keys included, no key is a collection, and no
two keys of one mapping come to the same text.  It looks at all parts of a document at once
and does not care for the order in which a walk comes to them.

The walk succeeds exactly on readable documents and then comes to `asValue`.  It carries the
keys seen so far along; that these suffice to find every repetition is what the statement
about entries adds to the one about documents.
-/
import DottedConfig.Value.OfDocument

namespace DottedConfig

/-- This succeeds exactly under a condition, and then with this result. -/
def Gives {α : Type} (x : Except Failure α) (condition : Prop) (result : α) : Prop :=
  ∀ a, x = .ok a ↔ condition ∧ a = result

namespace Gives

variable {α β : Type} {p q : Prop} {a : α} {b : β} {x : Except Failure α}

theorem ok (hp : p) : Gives (.ok a) p a := by
  intro a'
  rw [Except.ok.injEq, and_iff_right hp, eq_comm]

theorem error {f : Failure} (hp : ¬p) : Gives (.error f) p a := by
  intro a'
  exact ⟨nofun, fun h => absurd h.1 hp⟩

theorem congr (h : Gives x p a) (hpq : p ↔ q) : Gives x q a := by
  intro a'
  rw [h a', hpq]

theorem bind {next : α → Except Failure β} (h : Gives x p a) (hnext : Gives (next a) q b) :
    Gives (x >>= next) (p ∧ q) b := by
  intro b'
  cases x with
  | error f => exact ⟨nofun, fun hpq => nomatch (h a).2 ⟨hpq.1.1, rfl⟩⟩
  | ok a' =>
      obtain ⟨hp, rfl⟩ := (h a').1 rfl
      rw [and_assoc, and_iff_right hp]
      exact hnext b'

theorem map (make : α → β) (h : Gives x p a) :
    Gives (x >>= fun a => .ok (make a)) p (make a) :=
  Gives.congr (.bind h (.ok trivial)) (and_iff_left trivial)

theorem guard {c : Prop} [Decidable c] {f : Failure} (h : Gives x p a) :
    Gives (if c then .error f else x) (¬c ∧ p) a := by
  split
  · rename_i hc
    exact .error fun hp => hp.1 hc
  · rename_i hc
    exact h.congr (and_iff_right hc).symm

end Gives

/-! ### What a document stands for -/

/-- All placeholders of a text can be filled. -/
def Template.Fills (ns : Namespace) (text : String) : Prop :=
  ∃ filled, substitute text ns = .ok filled

/-- A text with its placeholders filled; it stays as it is if that cannot be done. -/
def Template.filled (ns : Namespace) (text : String) : String :=
  match substitute text ns with
  | .ok filled => filled
  | .error _ => text

namespace Yaml.Document

/-- The document under all the tags around it. -/
def bare : Document → Document
  | tagged _ inner => inner.bare
  | document => document

/-- Whether a document is a sequence or a mapping. -/
def IsCollection : Document → Prop
  | sequence _ | mapping _ => True
  | _ => False

/-- The text that a scalar document comes to as a key, whatever its tags. -/
def keyName (ns : Namespace) (key : Document) : String :=
  match key.bare with
  | string s => Template.filled ns s
  | number n => n.text
  | bool b => toString b
  | null => "null"
  | _ => ""

mutual

/-- The value of the same shape as a document. -/
def asValue (ns : Namespace) : Document → Value
  | null => .null
  | bool b => .bool b
  | number n => .ofNumber n
  | string s => .string (Template.filled ns s)
  | sequence items => .sequence (asItems ns items)
  | mapping entries => .mapping (asEntries ns entries)
  | tagged _ inner => inner.asValue ns

/-- The values of the same shape as some documents. -/
def asItems (ns : Namespace) : List Document → List Value
  | [] => []
  | item :: rest => item.asValue ns :: asItems ns rest

/-- The entries of the same shape as those of a mapping. -/
def asEntries (ns : Namespace) : List (Document × Document) → List (String × Value)
  | [] => []
  | (k, v) :: rest => (k.keyName ns, v.asValue ns) :: asEntries ns rest

end

/-- A document that stands in another one as a value: an item or what is under a key, however
deep, or the whole. -/
inductive Part : Document → Document → Prop where
  /-- The whole. -/
  | whole (document : Document) : Part document document
  /-- In an item of a sequence. -/
  | item {part item : Document} {items : List Document} (hmem : item ∈ items)
      (h : Part part item) : Part part (.sequence items)
  /-- Under a key of a mapping. -/
  | value {part : Document} {entry : Document × Document} {entries : List (Document × Document)}
      (hmem : entry ∈ entries) (h : Part part entry.2) : Part part (.mapping entries)
  /-- Under a tag. -/
  | inner {part inner : Document} {tag : String} (h : Part part inner) : Part part (.tagged tag inner)

/-- A key that can become a text. -/
structure ReadableKey (ns : Namespace) (key : Document) : Prop where
  /-- It is no collection. -/
  scalar : ¬key.bare.IsCollection
  /-- If it is a text, that can be filled. -/
  text : ∀ s, key.bare = .string s → Template.Fills ns s

/-- What it takes for a document to become a value besides what is in it. -/
def Fits (ns : Namespace) : Document → Prop
  | string s => Template.Fills ns s
  | mapping entries =>
    (∀ entry ∈ entries, ReadableKey ns entry.1) ∧
      (entries.map fun entry => entry.1.keyName ns).Nodup
  | _ => True

/-- A document that can become a value: every text in it can be filled, every key in it can
become a text, and in every mapping the keys come to different texts. -/
def Readable (ns : Namespace) (document : Document) : Prop :=
  ∀ part, Part part document → part.Fits ns

/-- Entries that can become those of a mapping after others with the keys `seen`. -/
structure ReadableEntries (ns : Namespace) (seen : List String)
    (entries : List (Document × Document)) : Prop where
  /-- Each key can become a text, and what is under it a value. -/
  parts : ∀ entry ∈ entries, ReadableKey ns entry.1 ∧ Readable ns entry.2
  /-- The keys come to different texts. -/
  distinct : (entries.map fun entry => entry.1.keyName ns).Nodup
  /-- None of them is one of the keys before. -/
  new : ∀ entry ∈ entries, entry.1.keyName ns ∉ seen

variable {ns : Namespace}

theorem asItems_eq_map (items : List Document) : asItems ns items = items.map (asValue ns) := by
  induction items with
  | nil => rfl
  | cons item rest ih => rw [asItems, ih, List.map_cons]

theorem asEntries_eq_map (entries : List (Document × Document)) :
    asEntries ns entries = entries.map fun entry => (entry.1.keyName ns, entry.2.asValue ns) := by
  induction entries with
  | nil => rfl
  | cons entry rest ih =>
      obtain ⟨k, v⟩ := entry
      rw [asEntries, ih, List.map_cons]

/-! ### Readable documents, by their shape -/

theorem readable_null : Readable ns .null := by
  rintro part ⟨⟩
  trivial

theorem readable_bool {b : Bool} : Readable ns (.bool b) := by
  rintro part ⟨⟩
  trivial

theorem readable_number {n : Number} : Readable ns (.number n) := by
  rintro part ⟨⟩
  trivial

theorem readable_string {s : String} : Readable ns (.string s) ↔ Template.Fills ns s := by
  refine ⟨fun h => h _ (.whole _), fun h part hpart => ?_⟩
  cases hpart with
  | whole => exact h

theorem readable_sequence {items : List Document} :
    Readable ns (.sequence items) ↔ ∀ item ∈ items, Readable ns item := by
  refine ⟨fun h item hitem part hpart => h part (.item hitem hpart), fun h part hpart => ?_⟩
  cases hpart with
  | whole => trivial
  | item hitem hpart => exact h _ hitem part hpart

theorem readable_mapping {entries : List (Document × Document)} :
    Readable ns (.mapping entries) ↔ ReadableEntries ns [] entries := by
  constructor
  · intro h
    obtain ⟨hkeys, hdistinct⟩ := h _ (.whole _)
    refine ⟨fun entry hentry => ⟨hkeys entry hentry, ?_⟩, hdistinct, fun _ _ => List.not_mem_nil⟩
    exact fun part hpart => h part (.value hentry hpart)
  · intro h part hpart
    cases hpart with
    | whole => exact ⟨fun entry hentry => (h.parts entry hentry).1, h.distinct⟩
    | value hentry hpart => exact (h.parts _ hentry).2 part hpart

theorem readable_tagged {tag : String} {inner : Document} :
    Readable ns (.tagged tag inner) ↔ Readable ns inner := by
  refine ⟨fun h part hpart => h part (.inner hpart), fun h part hpart => ?_⟩
  cases hpart with
  | whole => trivial
  | inner hpart => exact h part hpart

theorem readableEntries_nil {seen : List String} : ReadableEntries ns seen [] :=
  ⟨nofun, List.nodup_nil, nofun⟩

-- A key is compared with those before it: with the `seen` ones here, and with those of
-- `entries` once they have been seen.
theorem readableEntries_cons {seen : List String} {k v : Document}
    {rest : List (Document × Document)} :
    ReadableEntries ns seen ((k, v) :: rest) ↔
      ReadableKey ns k ∧ k.keyName ns ∉ seen ∧ Readable ns v ∧
        ReadableEntries ns (k.keyName ns :: seen) rest := by
  constructor
  · rintro ⟨hparts, hdistinct, hnew⟩
    obtain ⟨hfirst, hparts⟩ := List.forall_mem_cons.1 hparts
    obtain ⟨hk, hnew⟩ := List.forall_mem_cons.1 hnew
    obtain ⟨hother, hdistinct⟩ := List.nodup_cons.1 hdistinct
    refine ⟨hfirst.1, hk, hfirst.2, hparts, hdistinct, fun entry hentry => ?_⟩
    have hne : entry.1.keyName ns ≠ k.keyName ns := fun h =>
      hother (List.mem_map.2 ⟨entry, hentry, h⟩)
    exact fun h => (List.mem_cons.1 h).elim hne (hnew entry hentry)
  · rintro ⟨hkey, hk, hvalue, hparts, hdistinct, hnew⟩
    have hother : k.keyName ns ∉ rest.map fun entry => entry.1.keyName ns := by
      rintro h
      obtain ⟨entry, hentry, h⟩ := List.mem_map.1 h
      exact hnew entry hentry (h ▸ List.mem_cons_self)
    refine ⟨List.forall_mem_cons.2 ⟨⟨hkey, hvalue⟩, hparts⟩, List.nodup_cons.2 ⟨hother, hdistinct⟩,
      List.forall_mem_cons.2 ⟨hk, fun entry hentry h => ?_⟩⟩
    exact hnew entry hentry (List.mem_cons_of_mem _ h)

end Yaml.Document

namespace Value

open Yaml (Document)
open Yaml.Document

variable {ns : Namespace}

/-! ### Texts and keys -/

theorem gives_substituteAt (trail : List String) (s : String) :
    Gives (substituteAt ns trail s) (Template.Fills ns s) (Template.filled ns s) := by
  rw [substituteAt, Template.Fills, Template.filled]
  cases Template.substitute s ns with
  | error f => exact .error nofun
  | ok filled => exact .ok ⟨filled, rfl⟩

theorem gives_keyText (trail : List String) (key : Document) :
    Gives (keyText ns trail key) (ReadableKey ns key) (key.keyName ns) := by
  induction key using keyText.induct with
  | case1 s =>
      refine (gives_substituteAt trail s).congr ⟨fun h => ⟨nofun, ?_⟩, fun h => h.text s rfl⟩
      rintro _ ⟨⟩
      exact h
  | case2 n => exact .ok ⟨nofun, nofun⟩
  | case3 b => exact .ok ⟨nofun, nofun⟩
  | case4 => exact .ok ⟨nofun, nofun⟩
  | case5 tag inner ih => exact ih.congr ⟨fun h => ⟨h.scalar, h.text⟩, fun h => ⟨h.scalar, h.text⟩⟩
  | case6 items => exact .error fun h => h.scalar trivial
  | case7 entries => exact .error fun h => h.scalar trivial

/-! ### Values -/

-- By recursion over the document, with a statement for each of the three walks.
mutual

theorem gives_ofDocument (trail : List String) : ∀ document : Document,
    Gives (ofDocument ns trail document) (Readable ns document) (document.asValue ns)
  | .null => .ok readable_null
  | .bool _ => .ok readable_bool
  | .number _ => .ok readable_number
  | .string s => ((gives_substituteAt trail s).map string).congr readable_string.symm
  | .sequence items => ((gives_ofItems trail 0 items).map sequence).congr readable_sequence.symm
  | .mapping entries => ((gives_ofPairs trail [] entries).map mapping).congr readable_mapping.symm
  | .tagged _ inner => (gives_ofDocument trail inner).congr readable_tagged.symm

theorem gives_ofItems (trail : List String) (position : Nat) : ∀ items : List Document,
    Gives (ofItems ns trail position items) (∀ item ∈ items, Readable ns item) (asItems ns items)
  | [] => .ok nofun
  | item :: rest => by
      refine Gives.congr (.bind (gives_ofDocument (trail ++ [toString position]) item) ?_)
        List.forall_mem_cons.symm
      exact (gives_ofItems trail (position + 1) rest).map (item.asValue ns :: ·)

theorem gives_ofPairs (trail seen : List String) : ∀ entries : List (Document × Document),
    Gives (ofPairs ns trail seen entries) (ReadableEntries ns seen entries) (asEntries ns entries)
  | [] => .ok readableEntries_nil
  | (k, v) :: rest => by
      refine Gives.congr (.bind (gives_keyText trail k) (.guard ?_)) readableEntries_cons.symm
      refine .bind (gives_ofDocument (trail ++ [k.keyName ns]) v) ?_
      exact (gives_ofPairs trail (k.keyName ns :: seen) rest).map ((k.keyName ns, v.asValue ns) :: ·)

end

-- Again one statement for each kind of row that the recursion goes through.
mutual

theorem keysDistinct_asValue :
    ∀ document : Document, Readable ns document → (document.asValue ns).KeysDistinct
  | .null, _ | .bool _, _ | .number (.float _), _ | .string _, _ => trivial
  | .number (.integer i), _ => by
      rw [asValue, ofNumber]
      split
      · trivial
      · trivial
  | .sequence items, h => itemsDistinct_asItems items (readable_sequence.1 h)
  | .mapping entries, h => entriesDistinct_asEntries [] entries (readable_mapping.1 h)
  | .tagged _ inner, h => keysDistinct_asValue inner (readable_tagged.1 h)

theorem itemsDistinct_asItems :
    ∀ items : List Document, (∀ item ∈ items, Readable ns item) → ItemsDistinct (asItems ns items)
  | [], _ => trivial
  | item :: rest, h => by
      obtain ⟨hitem, hrest⟩ := List.forall_mem_cons.1 h
      exact ⟨keysDistinct_asValue item hitem, itemsDistinct_asItems rest hrest⟩

theorem entriesDistinct_asEntries (seen : List String) :
    ∀ entries : List (Document × Document), ReadableEntries ns seen entries →
      EntriesDistinct (asEntries ns entries)
  | [], _ => trivial
  | (k, v) :: rest, h => by
      obtain ⟨-, -, hvalue, hrest⟩ := readableEntries_cons.1 h
      refine ⟨?_, keysDistinct_asValue v hvalue, entriesDistinct_asEntries _ rest hrest⟩
      rw [asEntries_eq_map, List.map_map]
      exact (List.nodup_cons.1 h.distinct).1

end

theorem ofNumber_integer {i : Int} (h : -Int.pow 2 63 ≤ i ∧ i < Int.pow 2 63) :
    ∃ word, ofNumber (.integer i) = .integer word ∧ word.toInt = i := by
  refine ⟨.ofInt i, if_pos h, Int64.toInt_ofInt_of_le ?_ ?_⟩
  · exact h.1
  · exact h.2

/-- Two entries whose keys come to one text are never both kept: there is no value at all. -/
theorem ofDocument_of_repeated {trail : List String} {document : Document}
    {before between after : List (Document × Document)} {entry entry' : Document × Document}
    (hpart : Part (.mapping (before ++ entry :: (between ++ entry' :: after))) document)
    (hkey : entry.1.keyName ns = entry'.1.keyName ns) :
    ∃ f, ofDocument ns trail document = .error f := by
  cases h : ofDocument ns trail document with
  | error f => exact ⟨f, rfl⟩
  | ok value =>
      have hread : Readable ns document := ((gives_ofDocument trail document value).1 h).1
      obtain ⟨-, hdistinct⟩ := hread _ hpart
      rw [List.map_append, List.map_cons] at hdistinct
      have hother := (List.nodup_cons.1 (List.nodup_append.1 hdistinct).2.1).1
      exact absurd (List.mem_map.2 ⟨entry', by simp, hkey.symm⟩) hother

/-- **Conversion keeps everything.**  A document becomes a value just if it is readable, and
then it becomes the value of its shape, in which no mapping has a key twice.  Texts are filled
in, items and entries stay as many as they are and in their order, integers that a word holds
stay what they are and all other numbers become floating-point ones.  Keys that come to the
same text, whatever their types and tags, stop the conversion wherever they are. -/
theorem ofDocument_keeps_everything (ns : Namespace) :
    (∀ trail document value, ofDocument ns trail document = .ok value ↔
      Readable ns document ∧ value = document.asValue ns) ∧
    (∀ document, Readable ns document → (document.asValue ns).KeysDistinct) ∧
    (∀ s text, Template.substitute s ns = .ok text →
      asValue ns (.string s) = .string text ∧ keyName ns (.string s) = text) ∧
    (∀ items, asValue ns (.sequence items) = .sequence (items.map (asValue ns))) ∧
    (∀ entries, asValue ns (.mapping entries) =
      .mapping (entries.map fun entry => (entry.1.keyName ns, entry.2.asValue ns))) ∧
    (∀ tag inner, asValue ns (.tagged tag inner) = inner.asValue ns) ∧
    (∀ i : Int, -Int.pow 2 63 ≤ i ∧ i < Int.pow 2 63 →
      ∃ word, asValue ns (.number (.integer i)) = .integer word ∧ word.toInt = i) ∧
    (∀ i : Int, ¬(-Int.pow 2 63 ≤ i ∧ i < Int.pow 2 63) →
      asValue ns (.number (.integer i)) = .float (.ofInt i)) ∧
    (∀ x, asValue ns (.number (.float x)) = .float x) ∧
    (∀ trail document before entry between entry' after,
      Part (.mapping (before ++ entry :: (between ++ entry' :: after))) document →
        entry.1.keyName ns = entry'.1.keyName ns →
          ∃ f, ofDocument ns trail document = .error f) := by
  refine ⟨gives_ofDocument, keysDistinct_asValue, fun s text h => ?_, fun items => ?_,
    fun entries => ?_, fun _ _ => rfl, fun _ => ofNumber_integer, fun _ h => if_neg h,
    fun _ => rfl, ?_⟩
  · have hfilled : Template.filled ns s = text := by rw [Template.filled, h]
    exact ⟨congrArg Value.string hfilled, hfilled⟩
  · rw [asValue, asItems_eq_map]
  · rw [asValue, asEntries_eq_map]
  · exact fun _ _ _ _ _ _ _ => ofDocument_of_repeated

example : (ofDocument .empty [] (.mapping [(.number (.integer 1), .null),
    (.tagged "!t" (.string "1"), .bool true)])).isOk = false := by decide +kernel

end Value

end DottedConfig
