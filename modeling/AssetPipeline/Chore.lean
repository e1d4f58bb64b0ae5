/-
AssetPipeline/Chore.lean

The chores of developing the library: which commands each of them issues.

A chore installs what it needs and runs its tools, in a fixed order.  Two of them
pass the caller's arguments on.  A command that fails ends its chore; the
commands up to and with the failed one have been issued.
-/
import AssetPipeline.Fault

namespace AssetPipeline

/-- A command that a chore issues. -/
inductive Command where
  | install (args : List String)
  | run (args : List String)
  deriving DecidableEq

namespace Command

/-- The command as plain data: its kind, then its arguments. -/
def toJson : Command → Json
  | .install args => Json.strings ("install" :: args)
  | .run args => Json.strings ("run" :: args)

end Command

/-- A named sequence of commands. -/
structure Chore where
  name : String
  /-- The interpreter versions it is done with. -/
  versions : List String
  purpose : String
  /-- The commands, given the caller's arguments. -/
  commands : List String → List Command

namespace Chore

/-- The places where code lies. -/
def locations : List String := ["src", "tests"]

/-- The interpreter versions of every chore. -/
def supported : List String := ["3.10", "3.11", "3.12"]

/-- All chores. -/
def all : List Chore :=
  [{ name := "tests"
     versions := supported
     purpose := "Run the complete test suite with coverage."
     commands := fun extra =>
       [.install ["-e", ".[dev]"], .run ("pytest" :: extra)] },
   { name := "autoformat"
     versions := supported
     purpose := "Fix linting issues and format code."
     commands := fun _ =>
       [.install ["ruff"], .run ["ruff", "check", "--fix", "."], .run ["ruff", "format", "."]] },
   { name := "lint"
     versions := supported
     purpose := "Run ruff linter and formatter checks."
     commands := fun _ =>
       [.install ["ruff"], .run ["ruff", "check", "."],
        .run ["ruff", "format", "--check", "."]] },
   { name := "type_check"
     versions := supported
     purpose := "Run mypy static type analysis."
     commands := fun _ =>
       [.install ["-e", "."], .install ["mypy", "pydantic", "pytest"], .run ["mypy"]] },
   { name := "arch_check"
     versions := supported
     purpose := "Verify module boundaries using pytest-archon."
     commands := fun extra =>
       [.install ["-e", ".[dev]"],
        .run (["pytest", "--no-cov", "tests/architecture"] ++ extra)] },
   { name := "dead_code"
     versions := supported
     purpose := "Scan for unused code using vulture."
     commands := fun _ => [.install ["vulture"], .run ("vulture" :: locations)] }]

/-- The chore of this name. -/
def find? (name : String) : Option Chore := all.find? (·.name == name)

/-- The chore as plain data. -/
def toJson (c : Chore) : Json :=
  .array [.str c.name, Json.strings c.versions, .str c.purpose]

/-- The commands that a chore gets to issue when its `failing`-th command fails, and the fault. -/
def perform (c : Chore) (extra : List String) (failing : Option Nat) :
    List Command × Option Fault :=
  let commands := c.commands extra
  match failing with
  | some n =>
    if 0 < n ∧ n ≤ commands.length then
      (commands.take n,
        some (.raised .runtimeError [.str ("call " ++ toString n ++ " failed")]))
    else (commands, none)
  | none => (commands, none)

end Chore

end AssetPipeline
