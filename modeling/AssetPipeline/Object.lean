/-
AssetPipeline/Object.lean

The objects that a session deals with: what a handle can be bound to, what a
library store can hold, and what a step can answer.

An object is its identity together with what never changes about it; what does
change is kept by the session under the identity.  The identity of data is its origin.
-/
import AssetPipeline.Json.Equality
import AssetPipeline.Template

namespace AssetPipeline

/-- An object of a session. -/
inductive Object where
  | plain (data : Traced Json)
  | bytes (data : Traced (List UInt8))
  | file (data : Traced File)
  /-- A library that is known only by its name. -/
  | token (name : String)
  | module (module : Module)
  | cls (cls : EngineClass)
  | template (template : Template)
  /-- The `id`-th result, with what it holds; null stands for no value. -/
  | result (id : Nat) (value : Object) (fault : Option Fault)
  /-- The `id`-th report on filling a name: what the name has, and how often its factory was
  asked. -/
  | filled (id : Nat) (value : Object) (calls : Nat)
  | engines (id : Nat)
  | libraries (ref : LibrariesRef)
  | loader (id : Nat) (loader : Loader)
  deriving DecidableEq

namespace Object

/-! ### Making objects -/

/-- The object that stands for nothing. -/
def null : Object := .plain ⟨.null, .shared⟩

/-- A truth value. -/
def ofBool (b : Bool) : Object := .plain ⟨.bool b, .shared⟩

/-- Plain data, made as the object with the number `id`. -/
def ofJson (value : Json) (id : Nat) : Object := .plain (.ofJson value (.made id))

/-- An object, or nothing. -/
def ofOption : Option Object → Object
  | some o => o
  | none => .null

/-- A file as an object: a text is plain data. -/
def ofFile (file : Traced File) : Object :=
  match file.value with
  | .text s => .plain ⟨.str s, file.origin⟩
  | _ => .file file

/-- A payload as an object: a text is plain data. -/
def ofPayload : Payload → Object
  | .text t => .plain ⟨.str t.value, t.origin⟩
  | .bytes b => .bytes b

/-! ### Showing objects -/

/-- The object as plain data. -/
def toJson : Object → Json
  | .plain data => data.value
  | .bytes data => (Payload.bytes data).toJson
  | .file data => data.value.toJson
  | .token name => .object [("obj", .str name)]
  | .module m => m.toJson
  | .cls c => .object [("class", .str c.name)]
  | .template t => .object [("template", .str t.inspect)]
  | .result _ value fault =>
    .object [("ok", .bool fault.isNone), ("bool", .bool fault.isNone), ("module", value.toJson),
      ("error", (fault.map Fault.report).getD .null)]
  | .filled _ value calls => .object [("value", value.toJson), ("calls", .int calls)]
  | .engines _ => .str "EngineRegistry"
  | .libraries ref => .str ref.title
  | .loader .. => .str "DependencyLoader"

/-- The object as it is shown in messages; what has no written form shows its kind only.  `store`
shows a store of libraries. -/
def inspect (store : LibrariesRef → String) : Object → String
  | .plain data => data.value.inspect
  | .bytes data => Text.quotedBytes data.value
  | .file data => data.value.inspect
  | .token name => "<" ++ name ++ ">"
  | .module m => "<module " ++ Text.quoted m.name ++ ">"
  | .cls c => c.inspect
  | .template t => t.inspect
  | .result _ value fault =>
    "LoadResult(module=" ++ value.inspect store ++ ", error=" ++
      (fault.map Fault.inspect).getD "None" ++ ")"
  | .filled _ value calls =>
    "\x7b'value': " ++ value.inspect store ++ ", 'calls': " ++ toString calls ++ "\x7d"
  | .engines _ => "<engines>"
  | .libraries ref => store ref
  | .loader .. => "<loader>"

/-! ### Identity -/

/-- Whether two objects are the same one. -/
def same : Object → Object → Bool
  | .plain a, .plain b => decide (a = b)
  | .bytes a, .bytes b => decide (a = b)
  | .file a, .file b => decide (a = b)
  | .token a, .token b => decide (a = b)
  | .module a, .module b => decide (a = b)
  | .cls a, .cls b => a.same b
  | .template a, .template b => decide (a.id = b.id)
  | .result a _ _, .result b _ _ => decide (a = b)
  | .filled a _ _, .filled b _ _ => decide (a = b)
  | .engines a, .engines b => decide (a = b)
  | .libraries a, .libraries b => decide (a.id = b.id)
  | .loader a _, .loader b _ => decide (a = b)
  | _, _ => false

@[simp] theorem same_self (o : Object) : o.same o = true := by
  cases o <;> simp [same]

/-! ### Equality -/

/-- Whether two files are equal: paths by value, path-like objects by identity. -/
def equalFiles (a b : Traced File) : Bool :=
  match a.value, b.value with
  | .path p, .path q => decide (p = q)
  | _, _ => decide (a = b)

/-- Whether an object has the value of plain data. -/
def equalsJson : Object → Json → Bool
  | .plain data, json => data.value.equals json
  | .filled _ value calls, .object [(k, v), (l, w)] =>
    if k = "value" ∧ l = "calls" then value.equalsJson v && (Json.int calls).equals w
    else if k = "calls" ∧ l = "value" then value.equalsJson w && (Json.int calls).equals v
    else false
  | _, _ => false

/-- Whether two objects are equal: data, results and reports by what they hold, all else by
identity.  Two faults are equal only as parts of the same result. -/
def equals : Object → Object → Bool
  | .bytes a, .bytes b => decide (a.value = b.value)
  | .file a, .file b => equalFiles a b
  | .result a v f, .result b w g =>
    decide (a = b) || v.equals w && f.isNone && g.isNone
  | .filled a v m, .filled b w n => decide (a = b) || v.equals w && decide (m = n)
  | .plain data, o | o, .plain data => o.equalsJson data.value
  | a, b => a.same b

end Object

end AssetPipeline
