/-! Records of what a run has to say besides its result. -/

namespace RestRoutes.Log

inductive Level
  | debug
  | warning
  | error
deriving DecidableEq, Repr

def Level.name : Level → String
  | .debug => "DEBUG"
  | .warning => "WARNING"
  | .error => "ERROR"

structure Record where
  level : Level
  text : String
deriving DecidableEq, Repr

end RestRoutes.Log
