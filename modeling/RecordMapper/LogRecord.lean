/-
What a run reports of itself: the scopes it enters and the events within them, in order.
-/

namespace RecordMapper

/-- How grave an event is. -/
inductive LogLevel where
  | debug
  | warn
  deriving DecidableEq, Repr

/-- The value of a named field of a log record. -/
inductive LogValue where
  | number (n : Nat)
  | text (s : String)
  deriving DecidableEq, Repr

/-- A scope that is entered, or an event. -/
inductive LogRecord where
  | scope (name : String) (fields : List (String × LogValue))
  | event (level : LogLevel) (message : String) (fields : List (String × LogValue))
  deriving DecidableEq, Repr

end RecordMapper
