/-
AssetPipeline/Module/Missing.lean

Why a module was not found.
-/
import AssetPipeline.Text.Quoted

namespace AssetPipeline

/-- The ways in which a module can be missing. -/
inductive ModuleMissing where
  /-- Nothing of that name is installed. -/
  | undeclared (name : String)
  /-- What should contain the module cannot contain modules. -/
  | notPackage (name parent : String)
  /-- The name is barred from being imported. -/
  | blocked (name : String)
  /-- The code of a module says so in its own words. -/
  | reported (message : String) (name : Option String)
  deriving DecidableEq

namespace ModuleMissing

/-- What is said about it. -/
def message : ModuleMissing → String
  | .undeclared name => "No module named " ++ Text.quoted name
  | .notPackage name parent =>
    "No module named " ++ Text.quoted name ++ "; " ++ Text.quoted parent ++ " is not a package"
  | .blocked name => "import of " ++ name ++ " halted; None in sys.modules"
  | .reported message _ => message

/-- The name of the missing module, if it is known. -/
def name? : ModuleMissing → Option String
  | .undeclared name | .notPackage name _ | .blocked name => some name
  | .reported _ name => name

end ModuleMissing

end AssetPipeline
