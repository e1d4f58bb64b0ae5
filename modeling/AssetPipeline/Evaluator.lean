/-
AssetPipeline/Evaluator.lean

The evaluator interface: anything with a file, data and a way to evaluate it.

An object belongs to the interface when it declares so, or when it has the three
members.  The file and the data may be null; the evaluation may not, but nobody
checks that it can be called.
-/
import AssetPipeline.Json

namespace AssetPipeline.Evaluator

/-- The members an object has, by name; null stands for a member without a value. -/
abbrev Members := List (String × Json)

/-- Whether the object has a member of this name. -/
def has (members : Members) (name : String) : Bool := (members.lookup name).isSome

/-- Whether the object has a member of this name that is not null. -/
def hasValue (members : Members) (name : String) : Bool :=
  match members.lookup name with
  | some .null | none => false
  | some _ => true

/-- Whether the members are those of an evaluator. -/
def conforms (members : Members) : Bool :=
  has members "file" && has members "data" && hasValue members "evaluate"

/-- Whether an object is taken for an evaluator; `declared` if it says that it is one. -/
def isEvaluator (declared : Bool) (members : Members) : Bool := declared || conforms members

/-- The file of an evaluator that declares itself one and says nothing about its file. -/
def defaultFile : Json := .null

/-- What an evaluator gives that declares itself one and does not say how to evaluate. -/
def defaultResult : Json := .null

end AssetPipeline.Evaluator
