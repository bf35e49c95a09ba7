import Preflight.Json.Basic

/-!
# Log events

An event is a message with a level, the component it comes from and named
fields. Components form a tree by their target names, whose parts are divided by
double colons; a filter selects events by target and level.
-/

namespace Preflight

/-- The weight of an event, the gravest first. -/
inductive LogLevel where
  | error
  | warn
  | info
  | debug
  | trace
  deriving DecidableEq, Repr

namespace LogLevel

/-- The place of a level in the order from the gravest on. -/
def rank : LogLevel → Nat
  | error => 1
  | warn => 2
  | info => 3
  | debug => 4
  | trace => 5

/-- The name of a level in log lines. -/
def label : LogLevel → String
  | error => "ERROR"
  | warn => "WARN"
  | info => "INFO"
  | debug => "DEBUG"
  | trace => "TRACE"

end LogLevel

/-- The part of the program that an event comes from. -/
inductive Component where
  | command
  | connection
  | graph
  | runner
  | delivery
  | fileStore
  | catalog
  deriving DecidableEq, Repr

/-- The target name of a component. -/
def Component.target : Component → String
  | command => "test_connection"
  | connection => "connectors_rs::connection"
  | graph => "connectors_rs::connection::neo4j"
  | runner => "connectors_rs::diagnostics::runner"
  | delivery => "connectors_rs::sink"
  | fileStore => "connectors_rs::sink::file"
  | catalog => "connectors_rs::sink::http"

/-- Something worth noting. -/
structure Event where
  level : LogLevel
  source : Component
  message : String
  fields : List (String × Json) := []

namespace Event

/-- The document of an event, without the point in time at which it is written. -/
def toJson (event : Event) : Json :=
  .object
    [("level", .string event.level.label),
     ("fields", .object (("message", .string event.message) :: event.fields)),
     ("target", .string event.source.target)]

end Event

end Preflight
