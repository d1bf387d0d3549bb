/-! Text without the controls of a terminal.

What a program writes for a reader may quote what it was given, and that may hold
control characters.  In plain text they are left out, all but those that are white
space, and so are the sequences that an escape character begins.
-/

namespace NetSwitch.Text

/-- Where a reader stands with regard to escape sequences. -/
inductive Site where
  | ground
  /-- After an escape character. -/
  | escape
  /-- Within a sequence whose last character is still to come. -/
  | intermediate
  /-- Within a control sequence, which may have parameters. -/
  | control
  /-- Within a string that only another escape character ends. -/
  | string
  /-- Within a string that a bell ends, too. -/
  | title
deriving DecidableEq, Repr

def isLayout (c : Char) : Bool :=
  c = '\t' || c = '\n' || c = '\x0C' || c = '\r'

def Site.afterEscape (c : Char) : Site :=
  if c = '[' then .control
  else if c = ']' then .title
  else if c = 'P' ∨ c = 'X' ∨ c = '^' ∨ c = '_' then .string
  else if ' ' ≤ c ∧ c ≤ '/' then .intermediate
  else if '0' ≤ c ∧ c ≤ '~' then .ground
  else .escape

/-- Reads a character: whether it stands in plain text, and where it leads.
White space cuts a sequence short, and the characters cancel and substitute end
whatever was begun. -/
def Site.step (site : Site) (c : Char) : Bool × Site :=
  if c = '\x1B' then (false, .escape)
  else if c = '\x18' ∨ c = '\x1A' then (false, .ground)
  else match site with
    | .ground => ((' ' ≤ c && c ≠ '\x7F') || isLayout c, .ground)
    | .escape => if isLayout c then (true, .ground) else (false, .afterEscape c)
    | .intermediate =>
        if isLayout c then (true, .ground)
        else (false, if '0' ≤ c ∧ c ≤ '~' then .ground else .intermediate)
    | .control =>
        if isLayout c then (true, .ground)
        else (false, if '@' ≤ c ∧ c ≤ '~' then .ground else .control)
    | .string => (false, .string)
    | .title => (false, if c = '\x07' then .ground else .title)

def plainChars : Site → List Char → List Char
  | _, [] => []
  | site, c :: rest =>
      let (stands, next) := site.step c
      if stands then c :: plainChars next rest else plainChars next rest

def plain (text : String) : String :=
  String.ofList (plainChars .ground text.toList)

end NetSwitch.Text
