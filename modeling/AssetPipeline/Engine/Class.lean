/-
AssetPipeline/Engine/Class.lean

Classes of engines.

A class is one of the two roots or derived from another class.  Only what derives
from the template class is an engine.  A derived class has its own traits, and
every trait that it lacks is that of the nearest class above which has it.  Two
classes are the same if they were declared by the same declaration; equal names
do not make them so.
-/
import AssetPipeline.Engine.Action

namespace AssetPipeline

/-- A store of libraries: its identity and the name of its kind. -/
structure LibrariesRef where
  id : Nat
  title : String
  deriving DecidableEq

namespace LibrariesRef

/-- The kind of a store that is not made to be of another. -/
def defaultTitle : String := "LibraryRegistry"

/-- The store that is shared by every engine without one of its own. -/
def shared : LibrariesRef := ⟨0, defaultTitle⟩

end LibrariesRef

/-- What a class brings itself. -/
structure Traits where
  /-- The number of the declaration. -/
  tag : Nat
  name : String
  /-- The media type of the output, null if it varies. -/
  mime : Option (Traced Json)
  libraries : Option LibrariesRef
  /-- How to evaluate. -/
  body : Option (List Action)
  deriving DecidableEq

/-- A class. -/
inductive EngineClass where
  /-- The root of all classes; no engine. -/
  | root
  /-- The root of all engines: it has every trait, but does not say how to evaluate. -/
  | template
  | derived (own : Traits) (base : EngineClass)
  deriving DecidableEq

namespace EngineClass

/-- The name of the class. -/
def name : EngineClass → String
  | .root => "object"
  | .template => "Template"
  | .derived own _ => own.name

/-- The class as it is shown in messages. -/
def inspect : EngineClass → String
  | .root => "<class 'object'>"
  | .template => "<class 'asset_templates.template.Template'>"
  | .derived own _ => "<class 'engines." ++ own.name ++ "'>"

/-- Whether two classes come from the same declaration. -/
def same : EngineClass → EngineClass → Bool
  | .root, .root | .template, .template => true
  | .derived a _, .derived b _ => a.tag == b.tag
  | _, _ => false

/-- Whether the class derives from the template class. -/
def isEngine : EngineClass → Bool
  | .root => false
  | .template => true
  | .derived _ base => base.isEngine

/-- The media type of the class or the nearest one above that has one. -/
def mime? : EngineClass → Option (Traced Json)
  | .root => none
  | .template => some ⟨.null, .shared⟩
  | .derived own base => own.mime <|> base.mime?

/-- The libraries of the class or the nearest one above that has some. -/
def libraries? : EngineClass → Option LibrariesRef
  | .root => none
  | .template => some .shared
  | .derived own base => own.libraries <|> base.libraries?

/-! ### Small facts -/

@[simp] theorem same_self (c : EngineClass) : c.same c = true := by
  cases c <;> simp [same]

/-- Every engine has libraries. -/
theorem libraries?_isSome_of_isEngine {c : EngineClass} (h : c.isEngine = true) :
    c.libraries?.isSome = true := by
  induction c with
  | root => cases h
  | template => rfl
  | derived own base ih =>
    cases hl : own.libraries with
    | none => simpa [libraries?, hl] using ih h
    | some _ => simp [libraries?, hl]

end EngineClass

end AssetPipeline
