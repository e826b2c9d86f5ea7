import GatewayDirectory.Event
import GatewayDirectory.Instant
import GatewayDirectory.Json.Writer

/-!
# The log of a command

A command prints each event as a line that holds a JSON object: the time, the level, and what the
event says.
-/

namespace GatewayDirectory.Cli

/-- A field's value in JSON. -/
def fieldJson : FieldValue → Json
  | .text s => .string s
  | .count n => .number (.int n)
  | .flag b => .bool b

/-- What an event says: its message, if it has one, and its fields. -/
def eventJson (e : Event) : Json :=
  .object ((e.message.toList.map fun m => ("message", .string m)) ++
    e.fields.map fun (name, value) => (name, fieldJson value))

/-- The line of an event. -/
def logLine (now : Instant) (e : Event) : String :=
  Json.compact (.object [("timestamp", .string now.text), ("level", .string e.level.text),
    ("fields", eventJson e)])

end GatewayDirectory.Cli
