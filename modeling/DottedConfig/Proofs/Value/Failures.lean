/-
What a file that was read can fail with.

Once the text of a file is there, only two things can go wrong with it: it is not the
YAML of a value, or one of its placeholders cannot be filled.  Neither failure names the
dotted path that was looked up, because a value is made without knowing of one; the
path is put in by whoever asked.

A value is made by a walk over a document in which any step can fail, and the first that
does ends the walk.  So it is enough to look at the steps one by one: `Sound` is said of
each, and `Sound.bind` puts them together.
-/
import DottedConfig.Loader

namespace DottedConfig

/-- The failures that the content of a file can bring about. -/
structure Failure.OfContent (f : Failure) : Prop where
  /-- The text is at fault, or a name in it. -/
  kind : f.kind = .parse ∨ f.kind = .interpolation
  /-- No dotted path is named. -/
  path : f.path = none

/-- If this fails, then by the content of a file. -/
def Sound {α : Type} (x : Except Failure α) : Prop := ∀ f, x = .error f → f.OfContent

namespace Sound

variable {α β : Type}

theorem ok (a : α) : Sound (.ok a : Except Failure α) := by
  intro f h
  cases h

theorem error {f : Failure} (h : f.OfContent) : Sound (.error f : Except Failure α) := by
  intro f' h'
  cases h'
  exact h

theorem bind {x : Except Failure α} {next : α → Except Failure β} (h : Sound x)
    (hnext : ∀ a, Sound (next a)) : Sound (x >>= next) := by
  cases x with
  | error f => exact error (h f rfl)
  | ok a => exact hnext a

end Sound

/-! ### Placeholders -/

namespace Template

theorem sound_fill (ns : Namespace) (segment : Segment) : Sound (segment.fill ns) := by
  cases segment with
  | literal text => exact .ok text
  | placeholder name =>
      rw [Segment.fill]
      split
      · exact .ok _
      · exact .error ⟨.inr rfl, rfl⟩

theorem sound_fillAll (ns : Namespace) (segments : List Segment) :
    Sound (fillAll ns segments) := by
  induction segments with
  | nil => exact .ok ""
  | cons segment rest ih =>
      refine (sound_fill ns segment).bind fun text => ?_
      exact ih.bind fun texts => .ok (text ++ texts)

theorem sound_parse (text : String) : Sound (parse text) := by
  rw [parse_eq]
  split
  · exact .ok _
  · exact .error ⟨.inr rfl, rfl⟩

theorem sound_substitute (text : String) (ns : Namespace) : Sound (substitute text ns) := by
  rw [substitute]
  split
  · exact (sound_parse text).bind fun template => sound_fillAll ns template.segments
  · exact .ok text

end Template

/-! ### Documents -/

/-- Naming the place within a file keeps all else. -/
theorem Failure.OfContent.within {f : Failure} (h : f.OfContent) (trail : List String) :
    (f.within trail).OfContent := by
  rw [Failure.within]
  split
  · exact h
  · exact ⟨h.kind, h.path⟩

namespace Value

variable {ns : Namespace}

theorem sound_substituteAt (trail : List String) (s : String) :
    Sound (substituteAt ns trail s) := by
  rw [substituteAt]
  split
  · exact .ok _
  · rename_i f hf
    exact .error ((Template.sound_substitute s ns f hf).within trail)

theorem sound_keyText (trail : List String) (key : Yaml.Document) :
    Sound (keyText ns trail key) := by
  induction key using keyText.induct with
  | case1 s => exact sound_substituteAt trail s
  | case2 n => exact .ok n.text
  | case3 b => exact .ok (toString b)
  | case4 => exact .ok "null"
  | case5 tag inner ih => exact ih
  | case6 items => exact .error ⟨.inl rfl, rfl⟩
  | case7 entries => exact .error ⟨.inl rfl, rfl⟩

-- By recursion over the document, with a statement for each of the three walks.
mutual

theorem sound_ofDocument (trail : List String) : ∀ document, Sound (ofDocument ns trail document)
  | .null => .ok null
  | .bool b => .ok (bool b)
  | .number n => .ok (ofNumber n)
  | .string s => (sound_substituteAt trail s).bind fun text => .ok (string text)
  | .sequence items => (sound_ofItems trail 0 items).bind fun values => .ok (sequence values)
  | .mapping entries => (sound_ofPairs trail [] entries).bind fun pairs => .ok (mapping pairs)
  | .tagged _ inner => sound_ofDocument trail inner

theorem sound_ofItems (trail : List String) (position : Nat) :
    ∀ items, Sound (ofItems ns trail position items)
  | [] => .ok []
  | item :: rest => by
      refine (sound_ofDocument (trail ++ [toString position]) item).bind fun value => ?_
      exact (sound_ofItems trail (position + 1) rest).bind fun values => .ok (value :: values)

theorem sound_ofPairs (trail seen : List String) :
    ∀ entries, Sound (ofPairs ns trail seen entries)
  | [] => .ok []
  | (k, v) :: rest => by
      refine (sound_keyText trail k).bind fun key => ?_
      split
      · exact .error ⟨.inl rfl, rfl⟩
      · refine (sound_ofDocument (trail ++ [key]) v).bind fun value => ?_
        exact (sound_ofPairs trail (key :: seen) rest).bind fun pairs => .ok ((key, value) :: pairs)

end

theorem ofContent_badYaml (fault : Yaml.Error) : (badYaml fault).OfContent := by
  rw [badYaml]
  split
  · exact ⟨.inl rfl, rfl⟩
  · exact ⟨.inl rfl, rfl⟩

/-- **Only its content makes a text fail.** -/
theorem sound_ofText (text : String) : Sound (ofText text ns) := by
  rw [ofText]
  split
  · exact .ok null
  · split
    · exact sound_ofDocument [] _
    · exact .error (ofContent_badYaml _)

end Value

/-! ### Files -/

/-- **Once its text is there, only its content makes a file fail.** -/
theorem Loader.sound_yaml {disk : Disk} {file text : String} (h : disk file = some (.text text))
    (ns : Namespace) : Sound (yaml disk file ns) := by
  have htext : Sound (Value.ofText text ns) := Value.sound_ofText text
  rw [yaml, h]
  cases hvalue : Value.ofText text ns with
  | ok value => simp only [hvalue]; exact .ok value
  | error f =>
      simp only [hvalue]
      exact .error ⟨(htext f hvalue).kind, (htext f hvalue).path⟩

end DottedConfig
