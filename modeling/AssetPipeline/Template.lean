/-
AssetPipeline/Template.lean

Templates: one payload with the engine that turns it into output.

What never changes about a template is here: its engine class, its file, its
libraries and its loader.  The payload may be replaced at any time and is kept by
the session, under the number of the template.
-/
import AssetPipeline.Engine.Class
import AssetPipeline.Loader

namespace AssetPipeline

/-- One instance of an engine. -/
structure Template where
  id : Nat
  cls : EngineClass
  /-- The file that the payload came from, if it came from one. -/
  file : Option (Traced File)
  libraries : LibrariesRef
  loader : Loader
  deriving DecidableEq

namespace Template

/-- What the file is, whichever object it is. -/
def fileValue (t : Template) : Option File := t.file.map Traced.value

/-- The template as it is shown. -/
def inspect (t : Template) : String :=
  "<" ++ t.cls.name ++ " file=" ++ File.inspectOptional t.fileValue ++ ">"

/-- The libraries of an instance: those it was given, or else those of its class. -/
def chooseLibraries (cls : EngineClass) (given : Option LibrariesRef) : LibrariesRef :=
  (given <|> cls.libraries?).getD .shared

end Template

end AssetPipeline
