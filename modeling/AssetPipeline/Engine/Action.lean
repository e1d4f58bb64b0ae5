/-
AssetPipeline/Engine/Action.lean

What an engine does to evaluate its payload: a list of actions, done in order.

Most actions put a text behind the payload: a fixed one, a variable of the render,
or the bracketed form of something that was asked for.
-/
import AssetPipeline.Fault
import AssetPipeline.Payload

namespace AssetPipeline

/-- A library as it is written down, before it is looked up or made. -/
inductive LibraryValue where
  | plain (data : Traced Json)
  /-- The library object of this name. -/
  | token (name : String)
  /-- What is bound to a handle. -/
  | handle (name : String)
  deriving DecidableEq

/-- One thing that an engine does. -/
inductive Action where
  | append (text : Traced String)
  | setData (data : PayloadValue)
  /-- Put a variable, as text. -/
  | putVariable (key : String)
  /-- Put the names of the variables. -/
  | putVariables
  | putContext
  | putFile
  | require (name : String)
  | loadLibrary (name : String)
  /-- Try to import a dependency, and put whether that went well. -/
  | tryRequire (name : String)
  | getLibrary (name : String)
  | setLibrary (name : String) (library : LibraryValue)
  | raise (fault : Fault)
  /-- Evaluate as the base class does, and put the result. -/
  | callBase
  /-- Render other data for the same file, and put the result. -/
  | render (engines engine : String) (data : PayloadValue)
  /-- End here, with this result. -/
  | finish (data : PayloadValue)
  deriving DecidableEq

end AssetPipeline
