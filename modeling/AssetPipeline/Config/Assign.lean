/-
AssetPipeline/Config/Assign.lean

Assigning to a name of a configuration.

The fields of a configuration are frozen, so that an assignment to one is a violation.
Names that begin with an underscore are no fields, and most of them take any value
without a trace.  A few are an exception: some can only be read, one stands for all
fields at once, and one for what writes a configuration out as plain data.
-/
import AssetPipeline.Config
import AssetPipeline.Json.Inspect

namespace AssetPipeline.Config

/-! ### What may go wrong -/

/-- What keeps a name from being assigned that is no field. -/
inductive Obstacle where
  /-- What the name stands for is fixed when a configuration is made. -/
  | fixed
  /-- What the name stands for is computed. -/
  | computed
  /-- The name stands for the class of a configuration, and a value of this kind is none. -/
  | notAClass (kind : String)
  /-- The name stands for all fields, and a value of this kind has none. -/
  | notFields (kind : String)
  /-- The configuration cannot be written out by a value of this kind. -/
  | noWriter (kind : String)
  /-- A configuration cannot be asked to be written out where a value of this kind is in the way. -/
  | notCallable (kind : String)
  deriving DecidableEq

namespace Obstacle

/-- The kind of fault that the obstacle is. -/
def kind : Obstacle → String
  | .fixed | .computed | .noWriter _ => "AttributeError"
  | .notAClass _ | .notFields _ | .notCallable _ => "TypeError"

/-- What is said about the obstacle in the way of an assignment to `name`. -/
def message (name : String) : Obstacle → String
  | .fixed => "attribute '" ++ name ++ "' of 'LoaderConfig' objects is not writable"
  | .computed => "property '" ++ name ++ "' of 'LoaderConfig' object has no setter"
  | .notAClass kind => name ++ " must be set to a class, not '" ++ kind ++ "' object"
  | .notFields kind => name ++ " must be set to a dictionary, not a '" ++ kind ++ "'"
  | .noWriter kind => "'" ++ kind ++ "' object has no attribute 'to_python'"
  | .notCallable kind => "'" ++ kind ++ "' object is not callable"

end Obstacle

/-- Why nothing was assigned. -/
inductive AssignError where
  | violation (what : Violation)
  | obstacle (name : String) (why : Obstacle)
  deriving DecidableEq

/-! ### Names -/

/-- Whether a name is one of a field, known or not: all are that do not begin with an
underscore. -/
def isFieldName (name : String) : Bool := name.toList.head? != some '_'

/-- The name of what writes a configuration out. -/
def writerName : String := "__pydantic_serializer__"

/-- The name by which a configuration is asked to be written out. -/
def dumpName : String := "model_dump"

/-! ### Assigning -/

/-- The known ones among new fields, which nobody checks, as plain data.  A field may get in the way
of writing them out. -/
def writeFields (fields : List (String × Json)) : Except Obstacle Json :=
  match fields.lookup dumpName, fields.lookup writerName with
  | some value, _ => .error (.notCallable value.kindName)
  | none, some value => .error (.noWriter value.kindName)
  | none, none => .ok (.object (fields.filter fun field => isKnownField field.1))

/-- Assign a value to a name that is no field. -/
def assignHidden (c : Config) (name : String) (value : Json) : Except Obstacle Json :=
  if name = "__class__" then .error (.notAClass value.kindName)
  else if name = "__weakref__" then .error .fixed
  else if name = "__fields__" ∨ name = "__fields_set__" then .error .computed
  else if name = writerName then .error (.noWriter value.kindName)
  else if name = "__dict__" then
    match value with
    | .object fields => writeFields fields
    | _ => .error (.notFields value.kindName)
  else .ok c.toJson

/-- Assign a value to a name.  The result is the configuration afterwards, as plain data. -/
def assign (c : Config) (name : String) (value : Json) : Except AssignError Json :=
  if isFieldName name then .error (.violation (.frozen name))
  else (c.assignHidden name value).mapError (.obstacle name)

end AssetPipeline.Config
