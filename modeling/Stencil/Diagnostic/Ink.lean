/-!
Texts with colours for a terminal.
-/

namespace Stencil

/-- What a piece of a coloured text is. -/
inductive Ink where
  | plain
  /-- The word for the severity of a report. -/
  | severity
  | message
  /-- Frames, and the numbers of lines. -/
  | frame
  /-- What a report points at. -/
  | mark
  /-- The outcome of what went well. -/
  | good
  /-- The outcome of what did not. -/
  | bad
  | heading
deriving DecidableEq, Repr

namespace Ink

/-- The sequence after which nothing is coloured. -/
def reset : String := "\x1b[0m"

/-- The sequence that turns a colour on. -/
def opening : Ink → String
  | plain => ""
  | severity => reset ++ "\x1b[1m\x1b[38;5;9m"
  | message => reset ++ "\x1b[1m"
  | frame => reset ++ "\x1b[36m"
  | mark => reset ++ "\x1b[31m"
  | good => "\x1b[32m"
  | bad => "\x1b[31m"
  | heading => "\x1b[1m"

/-- The sequence that turns it off. The word for the severity leaves that to the message. -/
def closing : Ink → String
  | plain => ""
  | severity => ""
  | _ => reset

end Ink

/-- A piece of a coloured text. -/
structure Stroke where
  ink : Ink
  text : String
deriving DecidableEq, Repr

/-- The piece with its colours, if there are to be any. -/
def Stroke.paint (colours : Bool) (s : Stroke) : String :=
  if colours then s.ink.opening ++ s.text ++ s.ink.closing else s.text

/-- The pieces of a line with their colours, and the end of the line. -/
def paintLine (colours : Bool) (line : List Stroke) : String :=
  String.join (line.map (Stroke.paint colours)) ++ "\n"

end Stencil
