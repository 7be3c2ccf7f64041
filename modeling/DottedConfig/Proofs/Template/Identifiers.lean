/-
One notion of a name: the test for names, templates and bindings.

Whether a text is a name can be asked in four ways: it can be tested, put into braces after a
`$`, put right after a `$`, or put before an `=`.  Each way has rules of its own for where a
name ends, so each could take more or less than the others for one.  They all take just the
identifiers, because of what is left over in each case.  A template that is nothing but the
placeholder has a name that was read, and only identifiers are.  A binding has a name that is
an identifier, and it has just the text for its name only if nothing was cut off it.

So whatever is bound can be asked for: an entry that comes from a binding is under a name that
both forms of a placeholder spell, and it is that of the last binding of the name.
-/
import DottedConfig.Proofs.SortedMap
import DottedConfig.Proofs.Template.Binding
import DottedConfig.Proofs.Template.Writing

namespace DottedConfig

theorem isName_iff {name : String} : isName name ↔ Identifier name.toList := spellsName_iff

namespace Template

variable {name : String}

/-! ### A placeholder and nothing else -/

/-- The name in braces. -/
def braced (name : String) : String := "$\x7b" ++ name ++ "\x7d"

/-- The name as it is. -/
def bare (name : String) : String := "$" ++ name

theorem identifier_of_parse {text : String} (h : parse text = .ok ⟨[.placeholder name]⟩) :
    Identifier name.toList := named_of_parse h name List.mem_cons_self

/-- What begins with a placeholder and ends with it is this placeholder. -/
theorem parse_of_begins {text : String} (h : Begins text.toList (.name name.toList) []) :
    parse text = .ok ⟨[.placeholder name]⟩ :=
  parse_eq_ok_iff.mpr ⟨_, .cons h .nil, gathered_nil.placeholder_cons name, rfl⟩

theorem parse_braced_iff :
    parse (braced name) = .ok ⟨[.placeholder name]⟩ ↔ Identifier name.toList := by
  refine ⟨identifier_of_parse, fun h => parse_of_begins ?_⟩
  have hbegins : Begins ('$' :: '\x7b' :: (name.toList ++ ['\x7d'])) (.name name.toList) [] :=
    .braced h
  simpa [braced] using hbegins

theorem parse_bare_iff :
    parse (bare name) = .ok ⟨[.placeholder name]⟩ ↔ Identifier name.toList := by
  refine ⟨identifier_of_parse, fun h => parse_of_begins ?_⟩
  have hbegins : Begins ('$' :: (name.toList ++ [])) (.name name.toList) [] := .bare h nofun
  simpa [bare] using hbegins

/-- A placeholder and nothing else stands for the entry of its name. -/
theorem substitute_of_parse {text : String} (h : parse text = .ok ⟨[.placeholder name]⟩)
    {ns : Namespace} {value : String} (hvalue : ns.get? name = some value) :
    substitute text ns = .ok value := by
  have hfill : (Segment.placeholder name).fill ns = .ok value := fill_eq_ok_iff.mpr hvalue
  rw [substitute_eq_fill, h]
  show fillAll ns [.placeholder name] = .ok value
  rw [fillAll_cons_of_ok hfill]
  show Except.ok (value ++ "") = _
  rw [String.append_empty]

end Template

namespace Binding

/-! ### Collecting bindings -/

/-- Before an `=`, a text is the name of a binding only if it is an identifier. -/
theorem parse_named_iff {name value : String} :
    (∃ binding, parse (name ++ "=" ++ value) = .ok binding ∧ binding.name = name) ↔
      Identifier name.toList := by
  constructor
  · rintro ⟨binding, hparse, rfl⟩
    exact (cut_of_parse hparse).2
  · intro h
    exact ⟨_, parse_of_identifier h value, rfl⟩

/-- The bindings among some texts. -/
def among (texts : List String) : List Binding := texts.filterMap fun text => (parse text).toOption

theorem identifier_of_mem_among {texts : List String} {binding : Binding}
    (h : binding ∈ among texts) : Identifier binding.name.toList := by
  obtain ⟨text, -, hparse⟩ := List.mem_filterMap.mp h
  exact (cut_of_parse (eq_ok_of_toOption hparse)).2

/-- A namespace of bindings has no entries but theirs. -/
theorem identifier_of_get?_ofBindings {texts : List String} {name value : String}
    (h : (SortedMap.ofBindings (among texts)).get? name = some value) :
    Identifier name.toList := by
  rw [SortedMap.ofBindings, SortedMap.get?_ofList_eq_some_iff] at h
  obtain ⟨before, after, hrow, -⟩ := h
  have hmem : (name, value) ∈ (among texts).map fun b => (b.name, b.value) := by
    rw [hrow]
    exact List.mem_append_right before List.mem_cons_self
  obtain ⟨binding, hbinding, heq⟩ := List.mem_map.mp hmem
  obtain ⟨rfl, rfl⟩ := Prod.mk.inj heq
  exact identifier_of_mem_among hbinding

end Binding

/--
**The test for names, templates and bindings take the same texts for names.**  A text passes the
test, makes a template of just one placeholder of its name in braces, or bare, or is the name
of the binding with it before an `=` and any text behind that, all in the same cases.  Every
placeholder that is read from a text has such a name.  And whatever namespace is collected from
the bindings among some texts, each entry of it is the last binding of its name, each last
binding is an entry, and the entry is what both forms of the placeholder stand for.
-/
theorem names_agree :
    (∀ name value : String,
        (Template.parse (Template.braced name) = .ok ⟨[.placeholder name]⟩ ↔ isName name) ∧
        (Template.parse (Template.bare name) = .ok ⟨[.placeholder name]⟩ ↔ isName name) ∧
        ((∃ binding, Binding.parse (name ++ "=" ++ value) = .ok binding ∧ binding.name = name) ↔
          isName name)) ∧
      (∀ text template, Template.parse text = .ok template →
        ∀ name ∈ template.placeholders, isName name) ∧
      ∀ texts name value,
        let ns := SortedMap.ofBindings (Binding.among texts)
        (ns.get? name = some value ↔ Entries.IsLast name value
          ((Binding.among texts).map fun binding => (binding.name, binding.value))) ∧
        (ns.get? name = some value →
          Template.substitute (Template.braced name) ns = .ok value ∧
          Template.substitute (Template.bare name) ns = .ok value) := by
  refine ⟨fun name value => ?_, fun text template hparse name hname => ?_,
    fun texts name value => ⟨SortedMap.get?_ofList_eq_some_iff, fun h => ?_⟩⟩
  · rw [isName_iff]
    exact ⟨Template.parse_braced_iff, Template.parse_bare_iff, Binding.parse_named_iff⟩
  · exact isName_iff.mpr (Template.named_of_parse hparse name (Template.mem_placeholders.mp hname))
  · have hname : Identifier name.toList := Binding.identifier_of_get?_ofBindings h
    exact ⟨Template.substitute_of_parse (Template.parse_braced_iff.mpr hname) h,
      Template.substitute_of_parse (Template.parse_bare_iff.mpr hname) h⟩

/-- Blanks around a name in a binding are not part of it; next to a `$` they are no part of a
placeholder. -/
theorem names_agree_of_arm :
    let texts := [" arm = b", "arm", "1=x", "arm\u00a0=$2", "é=3"]
    let ns := SortedMap.ofBindings (Binding.among texts)
    isName "arm" ∧ ¬isName "arm\u00a0" ∧ ns.size = 1 ∧ ns.get? "arm" = some "$2" ∧
      Template.substitute (Template.braced "arm") ns = .ok "$2" ∧
      Template.substitute (Template.bare "arm") ns = .ok "$2" ∧
      Template.parse (Template.bare "arm\u00a0") ≠ .ok ⟨[.placeholder "arm\u00a0"]⟩ := by
  intro texts ns
  obtain ⟨hnames, -, hentries⟩ := names_agree
  have hblank : ¬isName "arm\u00a0" := by decide
  have hlast : ns.get? "arm" = some "$2" := by decide +kernel
  obtain ⟨hbraced, hbare⟩ := (hentries texts "arm" "$2").2 hlast
  exact ⟨by decide, hblank, by decide +kernel, hlast, hbraced, hbare,
    fun h => hblank ((hnames "arm\u00a0" "").2.1.mp h)⟩

end DottedConfig
