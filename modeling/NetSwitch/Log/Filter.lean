import NetSwitch.Log

/-! Which events are shown.

A filter is written as directives with commas between them.  A directive is a
level for everything, the beginning of a part's name with a level, or such a
beginning alone, in which case everything is shown of the parts that it means.
Of the directives that mean an event's part the longest decides; where none
does, nothing is shown.
-/

namespace NetSwitch.Log

/-- How much is shown of the parts whose names begin in some way. -/
structure Directive where
  beginning : String
  verbosity : Nat
deriving DecidableEq, Repr

namespace Directive

/-- The verbosity that a word stands for: a level by its name or its number, or
nothing at all. -/
def verbosity? (word : String) : Option Nat :=
  match word.toLower with
  | "off" | "0" => some 0
  | "error" | "1" => some 1
  | "warn" | "2" => some 2
  | "info" | "3" => some 3
  | "debug" | "4" => some 4
  | "trace" | "5" => some 5
  | _ => none

def parse? (text : String) : Option Directive :=
  match text.splitOn "=" with
  | [word] =>
      match verbosity? word with
      | some verbosity => some ⟨"", verbosity⟩
      | none => some ⟨word, Level.trace.verbosity⟩
  | [beginning, word] => (verbosity? word).map (⟨beginning, ·⟩)
  | _ => none

def means (directive : Directive) (part : Part) : Bool :=
  directive.beginning.toList.isPrefixOf part.name.toList

/-- The longer of two directives, or the later of two that are equally long. -/
def prevailing (directive : Directive) : Option Directive → Directive
  | none => directive
  | some other =>
      if other.beginning.length ≤ directive.beginning.length then directive else other

end Directive

/-- The directives of a filter, in order. -/
abbrev Filter := List Directive

namespace Filter

/-- Reads a filter; nothing between two commas is no directive. -/
def parse? (text : String) : Option Filter :=
  ((text.splitOn ",").filter (· ≠ "")).mapM Directive.parse?

def deciding? (filter : Filter) (part : Part) : Option Directive :=
  (filter.filter (·.means part)).foldl (fun best directive => directive.prevailing best) none

def shows (filter : Filter) (event : Event) : Bool :=
  match filter.deciding? event.part with
  | some directive => event.level.verbosity ≤ directive.verbosity
  | none => false

end Filter

end NetSwitch.Log
