/-
**Log levels and filters.**

A line in the log asks for more or less attention. The filter of a log level lets the aggregator
itself log at that level and keeps the HTTP layer at `info`.
-/

namespace Aggregation

/-- How much attention a line in the log asks for. -/
inductive LogLevel where
  | debug
  | info
deriving DecidableEq

/-- The filter used at a log level. -/
def defaultFilter (level : String) : String :=
  level ++ ",api_aggregator=" ++ level ++ ",tower_http=info"

end Aggregation
