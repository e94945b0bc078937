import Handheld.Log.Filter

/-! Logged lines. -/

namespace Handheld

namespace Log

/-- A line of the log; its target is the part of the program that it comes from. -/
structure Line where
  level : Level
  target : String
  message : String
  deriving DecidableEq, Inhabited

/-- Tells whether a filter lets a line pass. -/
def Filter.passes (filter : Filter) (line : Line) : Bool :=
  filter.allows line.target line.level
    && filter.pattern.all (·.occursIn line.message.toList)

end Log

end Handheld
