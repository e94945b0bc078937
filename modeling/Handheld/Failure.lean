import Handheld.IoFailure

/-! Failures that end the task that meets them, with their wording. -/

namespace Handheld

/-- Why the server, or a part of it, cannot go on. -/
inductive Failure
  | io (failure : IoFailure)
  /-- A settings document that cannot be read. -/
  | unreadableSettings (reason : String)
  /-- Settings that have no document. -/
  | unwritableSettings (reason : String)
  | invalidSettings (rule : String)
  | bind (address : String) (failure : IoFailure)
  | poll (failure : IoFailure)
  | unknownSource (source : String)
  | spawn (thread : String) (failure : IoFailure)
  | other (text : String)
  deriving DecidableEq, Inhabited

namespace Failure

def message : Failure → String
  | io failure => "I/O error: " ++ failure.message
  | unreadableSettings reason => "Config parse error: " ++ reason
  | unwritableSettings reason => "Config serialize error: " ++ reason
  | invalidSettings rule => "Invalid config: " ++ rule
  | bind address failure => "Failed to bind " ++ address ++ ": " ++ failure.message
  | poll failure => "Poll error: " ++ failure.message
  | unknownSource source => "Unknown source: " ++ source
  | spawn thread failure => "Failed to spawn " ++ thread ++ " thread: " ++ failure.message
  | other text => text

end Failure

end Handheld
