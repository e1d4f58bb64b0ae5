/-
AssetPipeline/Event.lean

What is written to the log.

An event says what happened; its severity, its channel and its message are
functions of it.  The failure of a render carries the fault that caused it.
-/
import AssetPipeline.Clock
import AssetPipeline.Fault

namespace AssetPipeline

/-- How serious an event is. -/
inductive Severity where
  | debug
  | warning
  | error
  deriving DecidableEq

namespace Severity

/-- The name of the severity. -/
def name : Severity → String
  | .debug => "DEBUG"
  | .warning => "WARNING"
  | .error => "ERROR"

end Severity

/-- Something worth writing down. -/
inductive Event where
  /-- A library was stored under a name that had none, or the same one. -/
  | libraryRegistered (name : String)
  /-- A library was stored under a name that had another one. -/
  | libraryReplaced (name : String)
  | dependencyLoaded (name : String) (file : Option File)
  | dependencyMissing (severity : Severity) (what : MissingDependency)
  | engineRegistered (cls name : String)
  | rendered (engine location : String) (elapsed : Duration)
  | renderFailed (engine location : String) (elapsed : Duration) (fault : Fault)
  deriving DecidableEq

namespace Event

/-- How serious the event is. -/
def severity : Event → Severity
  | .dependencyMissing severity _ => severity
  | .renderFailed .. => .error
  | _ => .debug

/-- The part of the library that writes the event. -/
def channel : Event → String
  | .libraryRegistered _ | .libraryReplaced _ => "asset_templates.libs"
  | .dependencyLoaded .. | .dependencyMissing .. => "asset_templates.loader"
  | .engineRegistered .. | .rendered .. | .renderFailed .. => "asset_templates.registry"

/-- What is said about the event. -/
def message : Event → String
  | .libraryRegistered name => "Registered library " ++ Text.quoted name
  | .libraryReplaced name => "Replacing library " ++ Text.quoted name
  | .dependencyLoaded name file =>
    "Loaded dependency " ++ Text.quoted name ++ " for " ++ File.displayOptional file
  | .dependencyMissing _ what => what.message
  | .engineRegistered cls name => "Registered engine " ++ cls ++ " as " ++ Text.quoted name
  | .rendered engine location elapsed =>
    engine ++ " rendered " ++ location ++ " in " ++ elapsed.text ++ "ms"
  | .renderFailed engine location elapsed _ =>
    engine ++ " failed on " ++ location ++ " after " ++ elapsed.text ++ "ms"

/-- The kind of the fault that the event carries. -/
def faultKind? : Event → Option String
  | .renderFailed _ _ _ fault => some fault.kind
  | _ => none

/-- The event as plain data. -/
def toJson (e : Event) : Json :=
  Json.strings ([e.severity.name, e.channel, e.message] ++ e.faultKind?.toList)

end Event

end AssetPipeline
