import ChannelGateway.Regex.Dialect
import ChannelGateway.Regex.Extended.Reader
import ChannelGateway.Regex.Machine
/-!
# Regular expressions

A pattern of the dialect of schemas becomes a regular expression.  An expression that automata can
match is searched for by one; any other is searched for by a program.
-/

namespace ChannelGateway

inductive Regex where
  | automaton (automaton : Regex.Automaton)
  | program (program : Regex.Program)

namespace Regex

/-- Whether a text is a pattern of the dialect.  Patterns that look around or refer
back always are. -/
def isPattern (text : String) : Bool := (adapt? text).isSome

def ofPattern? (pattern : String) : Option Regex := do
  let (e, referenced) ← Extended.ofPattern? (← adapt? pattern)
  if e.isHard referenced then return program (← Program.ofExtended? e referenced)
  else return automaton (.ofCore (← coreOfText? (e.plainText 0)))

/-- Whether an expression matches some part of a text, unless the search is given up. -/
def isMatch (r : Regex) (text : String) : Except SearchLimit Bool :=
  let chars := text.toList.toArray
  match r with
  | automaton a => .ok (a.finds chars)
  | program p => p.finds chars

end Regex

end ChannelGateway
