/-
AssetPipeline/Fault.lean

Everything that can go wrong, by its cause.

A `Fault` says what happened; its kind, its message and its report are functions
of it.  The faults of the engine contract itself have a report with fields of
their own and belong to several kinds at once, so that a caller may ask for the
general one.
-/
import AssetPipeline.Config.Assign
import AssetPipeline.File
import AssetPipeline.Json.Inspect
import AssetPipeline.Module.Missing
import AssetPipeline.Similarity
import AssetPipeline.SystemError
import AssetPipeline.Text.Cut

namespace AssetPipeline

/-! ### Causes -/

/-- A dependency that is not installed, and the file that needed it. -/
structure MissingDependency where
  /-- The dependency as it was asked for. -/
  dependency : String
  /-- The location of the file that needed it. -/
  file : Option String
  /-- What to install. -/
  hint : Option String
  /-- The failed import, when there was one. -/
  cause : Option ModuleMissing
  deriving DecidableEq

/-- Why an engine was not registered. -/
inductive EngineRefusal where
  /-- The candidate, shown by its second argument, is no engine class. -/
  | notAnEngine (name candidate : String)
  /-- Another class is registered under the name. -/
  | nameTaken (name existing refused : String)
  deriving DecidableEq

/-- The kinds of faults that outside code may raise in its own words. -/
inductive RaisedKind where
  | attributeError
  | engineRegistrationError
  | keyError
  | keyboardInterrupt
  | lookupError
  | notImplementedError
  | osError
  | runtimeError
  | systemExit
  | templateError
  | typeError
  | valueError
  | zeroDivisionError
  deriving DecidableEq

/-- Something that went wrong. -/
inductive Fault where
  /-- An engine was evaluated that never says how. -/
  | evaluateMissing (engine : String)
  | dependencyMissing (what : MissingDependency)
  /-- No engine goes by `key`; `known` lists what there is. -/
  | engineUnknown (key : String) (known : List String)
  | engineRefused (why : EngineRefusal)
  | moduleMissing (why : ModuleMissing)
  /-- An import failed for another reason than a missing module. -/
  | importFailed (message : String) (name : Option String)
  /-- A relative name has more dots than its anchor has parts. -/
  | beyondAnchor
  | emptyModuleName
  /-- A relative name was imported without an anchor. -/
  | relativeImport (name : String)
  | emptyDependency (file : Option File)
  /-- A relative dependency was asked for where no anchor is configured. -/
  | unanchoredDependency (name : String) (file : Option File)
  /-- A key was looked up where it is absent. -/
  | absentKey (key : String)
  /-- A result with neither a module nor a fault was opened. -/
  | emptyResult
  | frozenField (field : String)
  /-- The file of an instance of `cls` was assigned. -/
  | fixedFile (cls : String)
  /-- A class that is no engine was given a file and a payload. -/
  | noArguments (cls : String)
  /-- A class was asked for a trait that neither it nor a class above it has. -/
  | absentTrait (cls trait : String)
  /-- A handle names an object of another kind than `wanted`. -/
  | wrongObject (handle wanted : String)
  | invalidConfig (violations : List Config.Violation)
  /-- A name of a configuration was assigned that is no field and cannot be. -/
  | unassignable (name : String) (why : Config.Obstacle)
  /-- A file was needed where there is none. -/
  | noFile
  /-- Bytes were written down with something else than digits at a position. -/
  | notHexadecimal (position : Nat)
  /-- Outside code raised a fault of its own. -/
  | raised (kind : RaisedKind) (args : List Json)
  /-- Outside code could not raise a fault of its own for a wrong count among the arguments. -/
  | wrongCount (why : SystemError.CountError)
  deriving DecidableEq

namespace RaisedKind

/-- The name of the kind. -/
def name : RaisedKind → String
  | .attributeError => "AttributeError"
  | .engineRegistrationError => "EngineRegistrationError"
  | .keyError => "KeyError"
  | .keyboardInterrupt => "KeyboardInterrupt"
  | .lookupError => "LookupError"
  | .notImplementedError => "NotImplementedError"
  | .osError => "OSError"
  | .runtimeError => "RuntimeError"
  | .systemExit => "SystemExit"
  | .templateError => "TemplateError"
  | .typeError => "TypeError"
  | .valueError => "ValueError"
  | .zeroDivisionError => "ZeroDivisionError"

/-- What the operating system reports by a fault of this kind that was raised with these
arguments. -/
def systemError? : RaisedKind → List Json → Option SystemError
  | .osError, args => SystemError.ofArgs? args
  | _, _ => none

/-- What keeps a fault of this kind from being raised with these arguments. -/
def argsError? : RaisedKind → List Json → Option SystemError.CountError
  | .osError, args => SystemError.argsError? args
  | _, _ => none

/-- The name of the kind of a fault that was raised with these arguments. -/
def nameFor (kind : RaisedKind) (args : List Json) : String :=
  ((kind.systemError? args).map SystemError.kind).getD kind.name

/-- The text of several arguments, none of which has a meaning of its own. -/
def plainMessage (kind : RaisedKind) : List Json → String
  | [] => ""
  | [arg] => if kind = .keyError then arg.inspect else arg.display
  | args => Json.inspectTuple args

/-- The text of a fault that was raised with these arguments. -/
def message (kind : RaisedKind) (args : List Json) : String :=
  ((kind.systemError? args).map SystemError.message).getD (kind.plainMessage args)

/-- The arguments that such a fault is shown with. -/
def shownArgs : RaisedKind → List Json → List Json
  | .osError, args => SystemError.remaining args
  | _, args => args

end RaisedKind

/-! ### Wordings -/

namespace MissingDependency

/-- What is missing where, and how to get it. -/
def message (m : MissingDependency) : String :=
  let missing :=
    "Cannot find module \x60" ++ m.dependency ++ "\x60 required for file '" ++
      m.file.getD "None" ++ "'"
  match m.hint with
  | none | some "" => missing
  | some hint => missing ++ ". Install with: pip install " ++ hint

end MissingDependency

namespace EngineRefusal

/-- Why the registration was refused. -/
def message : EngineRefusal → String
  | .notAnEngine name candidate =>
    "Engine '" ++ name ++ "' must be a Template subclass, got " ++ candidate
  | .nameTaken name existing refused =>
    "Duplicate engine '" ++ name ++ "': " ++ existing ++ " is already registered, refusing " ++
      refused

end EngineRefusal

/-- Texts in rising order. -/
def sortTexts (texts : List String) : List String :=
  texts.mergeSort fun a b => decide (a ≤ b)

/-- What is said about an unknown engine: close names, and the first ten of those there are. -/
def unknownEngineMessage (key : String) (known : List String) : String :=
  let close :=
    match Similarity.closeNames key known with
    | [] => ""
    | names => " Did you mean: " ++ ", ".intercalate names ++ "?"
  let registered :=
    match known with
    | [] => ""
    | _ => " Registered: " ++ ", ".intercalate ((sortTexts known).take 10)
  let more := if known.length > 10 then ", ..." else ""
  "Unknown engine: '" ++ key ++ "'." ++ close ++ registered ++ more

namespace Fault

/-! ### Raising -/

/-- A fault of this kind with these arguments, or the fault that there is no such one. -/
def make (kind : RaisedKind) (args : List Json) : Except Fault Fault :=
  match kind.argsError? args with
  | some why => .error (.wrongCount why)
  | none => .ok (.raised kind args)

/-- What raising a fault comes to: the failure to make it is a fault as well. -/
def settle : Except Fault Fault → Fault
  | .ok fault | .error fault => fault

/-! ### Kinds and messages -/

/-- The name of the kind of fault. -/
def kind : Fault → String
  | .evaluateMissing _ => "EvaluateNotImplementedError"
  | .dependencyMissing _ => "DependencyMissingError"
  | .engineUnknown .. => "EngineNotFoundError"
  | .engineRefused _ => "EngineRegistrationError"
  | .moduleMissing _ => "ModuleNotFoundError"
  | .importFailed .. | .beyondAnchor => "ImportError"
  | .relativeImport _ | .noArguments _ | .wrongObject .. | .noFile => "TypeError"
  | .emptyModuleName | .emptyDependency _ | .unanchoredDependency .. | .notHexadecimal _ =>
    "ValueError"
  | .absentKey _ => "KeyError"
  | .emptyResult => "AssertionError"
  | .frozenField _ => "FrozenInstanceError"
  | .fixedFile _ | .absentTrait .. => "AttributeError"
  | .invalidConfig _ => "ValidationError"
  | .unassignable _ why => why.kind
  | .raised kind args => kind.nameFor args
  | .wrongCount why => why.kind

/-- What is said about the fault. -/
def message : Fault → String
  | .evaluateMissing engine => engine ++ "#evaluate() is not implemented."
  | .dependencyMissing what => what.message
  | .engineUnknown key known => unknownEngineMessage key known
  | .engineRefused why => why.message
  | .moduleMissing why => why.message
  | .importFailed message _ => message
  | .beyondAnchor => "attempted relative import beyond top-level package"
  | .emptyModuleName => "Empty module name"
  | .relativeImport name =>
    "the 'package' argument is required to perform a relative import for " ++ Text.quoted name
  | .emptyDependency file =>
    "Empty dependency name required for file '" ++ File.displayOptional file ++ "'"
  | .unanchoredDependency name file =>
    "Relative dependency name " ++ Text.quoted name ++ " required for file '" ++
      File.displayOptional file ++ "' needs LoaderConfig.package to be set"
  | .absentKey key => Text.quoted key
  | .emptyResult => ""
  | .frozenField field => "cannot assign to field " ++ Text.quoted field
  | .fixedFile cls => "property 'file' of " ++ Text.quoted cls ++ " object has no setter"
  | .noArguments cls => Text.firstBytes 200 cls ++ "() takes no arguments"
  | .absentTrait cls trait =>
    "type object '" ++ Text.firstBytes 50 cls ++ "' has no attribute '" ++ trait ++ "'"
  | .wrongObject handle wanted => Text.quoted handle ++ " is no " ++ wanted
  | .invalidConfig _ => ""
  | .unassignable name why => why.message name
  | .noFile => "expected str, bytes or os.PathLike object, not NoneType"
  | .notHexadecimal position =>
    "non-hexadecimal number found in fromhex() arg at position " ++ toString position
  | .raised kind args => kind.message args
  | .wrongCount why => why.message

/-- The arguments that the fault is shown with. -/
def shownArgs : Fault → List Json
  | .emptyResult => []
  | .absentKey key => [.str key]
  | .raised kind args => kind.shownArgs args
  | fault => [.str fault.message]

/-- The fault as an object of its own kind. -/
def inspect (fault : Fault) : String :=
  match fault.shownArgs with
  | [arg] => fault.kind ++ "(" ++ arg.inspect ++ ")"
  | args => fault.kind ++ Json.inspectTuple args

/-- Whether the fault ends the program instead of failing one job: nobody reports these. -/
def isInterruption : Fault → Bool
  | .raised .keyboardInterrupt _ | .raised .systemExit _ => true
  | _ => false

/-! ### Reports -/

/-- The general kinds to which a fault of the engine contract belongs. -/
def generalKinds : Fault → List String
  | .evaluateMissing _ => ["TemplateError", "NotImplementedError", "RuntimeError"]
  | .dependencyMissing _ => ["TemplateError", "ImportError"]
  | .engineUnknown .. => ["TemplateError", "LookupError"]
  | .engineRefused _ | .raised .engineRegistrationError _ | .raised .templateError _ =>
    ["TemplateError"]
  | _ => []

/-- What a fault of the engine contract tells a caller in fields. -/
def contract? : Fault → Option Json
  | .evaluateMissing engine => some <| .object
      [("error", .str "EVALUATE_NOT_IMPLEMENTED"), ("engine", .str engine),
        ("message", .str (evaluateMissing engine).message)]
  | .dependencyMissing what => some <| .object
      [("error", .str "DEPENDENCY_MISSING"), ("dependency", .str what.dependency),
        ("file", Json.ofText? what.file), ("hint", Json.ofText? what.hint)]
  | .engineUnknown key known => some <| .object
      [("error", .str "ENGINE_NOT_FOUND"), ("engine", .str key),
        ("suggestions", Json.strings (Similarity.closeNames key known)),
        ("registered", Json.strings (sortTexts known))]
  | .engineRefused why => some <| .object
      [("error", .str "EngineRegistrationError"), ("message", .str why.message)]
  | .raised .engineRegistrationError args => some <| .object
      [("error", .str "EngineRegistrationError"),
        ("message", .str (RaisedKind.message .engineRegistrationError args))]
  | .raised .templateError args => some <| .object
      [("error", .str "TemplateError"),
        ("message", .str (RaisedKind.message .templateError args))]
  | _ => none

/-- The fields that a report has for faults of the engine contract only. -/
def contractFields (fault : Fault) : List (String × Json) :=
  match fault.contract? with
  | some fields => [("dict", fields), ("isa", Json.strings fault.generalKinds)]
  | none => []

/-- The fields that a report has for some causes only. -/
def causeFields : Fault → List (String × Json)
  | .engineUnknown _ known => [("known", Json.strings known)]
  | .dependencyMissing what =>
    ("name", .str what.dependency) ::
      match what.cause with
      | some why => [("cause", Json.strings ["ModuleNotFoundError", why.message])]
      | none => []
  | .moduleMissing why => [("name", Json.ofText? why.name?)]
  | .importFailed _ name => [("name", Json.ofText? name)]
  | .beyondAnchor => [("name", .null)]
  | _ => []

/-- The fields of the report of a fault. -/
def reportFields : Fault → List (String × Json)
  | .invalidConfig violations =>
    [("error", .str "ValidationError"),
      ("errors", .array (violations.map Config.Violation.toJson))]
  | fault =>
    [("error", .str fault.kind), ("message", .str fault.message)] ++ fault.contractFields ++
      fault.causeFields

/-- The report of a fault. -/
def report (fault : Fault) : Json := .object fault.reportFields

end Fault

end AssetPipeline
