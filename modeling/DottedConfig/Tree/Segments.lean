/-
From a dotted path to its segments.

The path is cut at its dots, and then the placeholders of each segment are replaced.
What they bring is never cut again: a segment that ends up empty or with a dot in it
is refused, so that a row of segments and its dotted text determine each other.  The
leftmost segment at fault is the one that is reported.
-/
import DottedConfig.Template
import DottedConfig.Text.Dotted

namespace DottedConfig.Tree

/-- A segment of a path as it is meant, from the way it is written. -/
def segment (path : String) (ns : Namespace) (written : String) : Except Failure String :=
  if written.isEmpty then .error (.malformedPath path .emptySegment)
  else
    match Template.substitute written ns with
    | .error f => .error (f.orPath path)
    | .ok text =>
      if text.isEmpty then .error (.malformedPath path (.vanishingSegment written))
      else if '.' ∈ text.toList then
        .error (.malformedPath path (.dottedSegment written text))
      else .ok text

/-- The segments of a row, up to the first at fault. -/
def segmentsOf (path : String) (ns : Namespace) : List String → Except Failure (List String)
  | [] => .ok []
  | written :: rest => do
    let text ← segment path ns written
    return text :: (← segmentsOf path ns rest)

/-- The segments of a dotted path. -/
def segments (path : String) (ns : Namespace) : Except Failure (List String) :=
  if path.isEmpty then .error (.malformedPath path .emptyPath)
  else segmentsOf path ns (Text.cutDots path)

end DottedConfig.Tree
