/-!
# Logs

A log keeps lines for the caller and remembers whether one of them was a warning. Every
line written is also an event; lines copied from another log are not.

## Main definitions

* `Level`, `Event`.
* `Log.write`, `Log.append`: a new line, and the lines of another log.
* `Event.ofLine`: the event of a line, none for an empty one.
-/
namespace Dispatch

/-- The severity of an event. -/
inductive Level where
  | debug
  | warning
  deriving DecidableEq, Repr

/-- Something that was reported while it happened. -/
structure Event where
  level : Level
  text : String
  deriving DecidableEq, Repr

/-- The event that goes with a line. An empty line makes none. -/
def Event.ofLine (level : Level) (line : String) : List Event :=
  if line = "" then [] else [⟨level, line⟩]

/-- The lines written so far, and whether one of them was a warning. -/
structure Log where
  lines : List String
  warned : Bool
  deriving DecidableEq, Repr, Inhabited

namespace Log

/-- A log without lines. -/
def empty : Log := ⟨[], false⟩

/-- Adds a line; an empty one is left out. -/
def write (l : Log) (level : Level) (line : String) : Log :=
  if line = "" then l else ⟨l.lines ++ [line], l.warned || level = .warning⟩

/-- Adds the lines of another log. -/
def append (l other : Log) : Log := ⟨l.lines ++ other.lines, l.warned || other.warned⟩

/-- Whether the log has no lines. -/
def isEmpty (l : Log) : Bool := l.lines.isEmpty

/-- The lines with line breaks between them. -/
def text (l : Log) : String := "\n".intercalate l.lines

@[simp] theorem append_empty (l : Log) : l.append empty = l := by simp [append, empty]

@[simp] theorem empty_append (l : Log) : empty.append l = l := by simp [append, empty]

theorem append_assoc (a b c : Log) : (a.append b).append c = a.append (b.append c) := by
  simp [append, Bool.or_assoc]

end Log

end Dispatch
