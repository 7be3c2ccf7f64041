/-
Templates: texts with placeholders in them.

A text is read as a row of tokens: a character other than `$` stands for itself,
`$$` for one `$`, and `$name` and `$`-name in braces for what the namespace has
under that name.  The bare form takes the longest name there is.  Any other `$`
makes the text unreadable; the fault is then the leftmost such `$`.

A template keeps its literal characters together: no literal is empty and no two
stand side by side.  What a placeholder is replaced by is copied as it is, never
read as a template again.
-/
import DottedConfig.SortedMap
import DottedConfig.Template.Scanner

namespace DottedConfig.Template

/-! ### Reading -/

/-- Reads a text as a template. -/
def parse (text : String) : Except Failure Template :=
  (Scanner.scan text).get (Scanner.isSome_scan text)

/-- What is read is the tokens of the text, with the characters between two names together. -/
theorem parse_eq (text : String) :
    parse text =
      match tokens text.toList with
      | .ok ts => .ok ⟨gather [] ts⟩
      | .error rest =>
        let place := Text.Position.after (text.toList.take (text.toList.length - rest.length))
        .error (.badPlaceholder (.badPlaceholder text place.line place.column)) := by
  have hparse : some (parse text) = Scanner.scan text := Option.some_get _
  rw [Scanner.scan_eq] at hparse
  rw [Option.some.inj hparse]
  cases tokens text.toList <;> rfl

/-- The names in a template, in order. -/
def placeholders (template : Template) : List String :=
  template.segments.filterMap fun
    | .literal _ => none
    | .placeholder name => some name

/-! ### Filling in -/

/-- The text of one piece. -/
def Segment.fill (ns : Namespace) : Segment → Except Failure String
  | .literal text => .ok text
  | .placeholder name =>
    match ns.get? name with
    | some text => .ok text
    | none => .error (.missingEntry name)

/-- The text of the pieces in a row; at fault, that of the leftmost name without an entry. -/
def fillAll (ns : Namespace) : List Segment → Except Failure String
  | [] => .ok ""
  | segment :: rest => do
    let text ← segment.fill ns
    return text ++ (← fillAll ns rest)

/-- The template with every name replaced by its entry. -/
def fill (template : Template) (ns : Namespace) : Except Failure String :=
  fillAll ns template.segments

/-- A text with its placeholders replaced by their entries. -/
def substitute (text : String) (ns : Namespace) : Except Failure String :=
  if '$' ∈ text.toList then do (← parse text).fill ns
  else .ok text

end DottedConfig.Template
