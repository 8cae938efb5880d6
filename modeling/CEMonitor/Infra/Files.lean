import Mathlib.Data.List.Basic
import Mathlib.Logic.Function.Basic

/-!
# Files written one after the other

A program opens a file, writes a text to it and closes it again. Opened for writing, the file
holds the text afterwards; opened for appending, the text stands behind what it held. The state
of the files is a function, so that a write to one file leaves the others alone; what a file
holds in the end depends on the texts that were written to it and on nothing else.
-/

namespace Infra

/-- The content of every file; `none` when it is not there. -/
abbrev Files (π : Type) := π → Option String

namespace Files

variable {π : Type} [DecidableEq π]

/-- `fopen` with `"a"` or `"w"`, the writing of a text, and `fclose`. -/
def write (append : Bool) (fs : Files π) (w : π × String) : Files π :=
  Function.update fs w.1 (some ((if append then (fs w.1).getD "" else "") ++ w.2))

/-- The same, when there is something to write at all. -/
def write? (append : Bool) (fs : Files π) (w : Option (π × String)) : Files π :=
  w.elim fs (write append fs)

/-- A file that held `old`, with the texts added at its end. -/
def appended (old : Option String) (texts : List String) : Option String :=
  if texts = [] then old else some (old.getD "" ++ String.join texts)

variable {append : Bool} {fs : Files π} {w : π × String} {path : π}

@[simp] theorem appended_nil (old : Option String) : appended old [] = old := if_pos rfl

end Files

end Infra
