/-
AssetPipeline/SystemError.lean

Faults that the operating system reports: a number, a text, and the files concerned.

The number decides the kind of fault, and each file is shown behind the text.  A fault
that was raised with a single argument, or with more than five, has no such parts.  Where
a call would block, a number in the place of the file counts what was done, and has to be
a count.
-/
import AssetPipeline.Json.Inspect

namespace AssetPipeline

/-- A fault as the operating system reports it. -/
structure SystemError where
  number : Json
  text : Json
  /-- The file concerned. -/
  file : Option Json
  /-- The other file, where there are two. -/
  other : Option Json

namespace SystemError

/-! ### Kinds -/

/-- The kind of fault that a number stands for. -/
def kindOf : Int → String
  | 1 | 13 => "PermissionError"
  | 2 => "FileNotFoundError"
  | 3 => "ProcessLookupError"
  | 4 => "InterruptedError"
  | 10 => "ChildProcessError"
  | 11 | 114 | 115 => "BlockingIOError"
  | 17 => "FileExistsError"
  | 20 => "NotADirectoryError"
  | 21 => "IsADirectoryError"
  | 32 | 108 => "BrokenPipeError"
  | 103 => "ConnectionAbortedError"
  | 104 => "ConnectionResetError"
  | 110 => "TimeoutError"
  | 111 => "ConnectionRefusedError"
  | _ => "OSError"

/-- The kind of fault that a value stands for where a number is expected; a truth value counts as
zero or one. -/
def kindOfValue : Json → String
  | .int n => kindOf n
  | .bool b => kindOf b.toInt
  | _ => "OSError"

/-- The kind of the fault. -/
def kind (e : SystemError) : String := kindOfValue e.number

/-- Whether a number stands for a call that would block. -/
def wouldBlock (number : Json) : Bool := kindOfValue number == "BlockingIOError"

/-! ### Counts -/

/-- Why a number does not count what was done. -/
inductive CountError where
  /-- It is no whole number by its form. -/
  | fractional
  /-- It does not fit into a signed word of 64 bits. -/
  | tooLarge
  deriving DecidableEq

namespace CountError

/-- The kind of fault that a wrong count is. -/
def kind : CountError → String
  | .fractional => "TypeError"
  | .tooLarge => "ValueError"

/-- What is said about a wrong count. -/
def message : CountError → String
  | .fractional => "'float' object cannot be interpreted as an integer"
  | .tooLarge => "cannot fit 'int' into an index-sized integer"

end CountError

/-- Whether a value is a number: what blocks may tell how much was done, in place of a file. -/
def isCount : Json → Bool
  | .bool _ | .int _ | .double _ => true
  | _ => false

/-- What is wrong with a value as a count; what is no number at all is no count, hence right. -/
def countError? : Json → Option CountError
  | .double _ => some .fractional
  | .int n =>
    if -9223372036854775808 ≤ n ∧ n ≤ 9223372036854775807 then none else some .tooLarge
  | _ => none

/-- What is wrong with arguments, so that no fault can be raised with them. -/
def argsError? : List Json → Option CountError
  | [number, _, count] | [number, _, count, _] | [number, _, count, _, _] =>
    if wouldBlock number then countError? count else none
  | _ => none

/-! ### Parts -/

/-- The file that a value stands for, if it stands for one. -/
def file? (number value : Json) : Option Json :=
  if value = .null ∨ wouldBlock number ∧ isCount value then none else some value

/-- The parts of a fault that was raised with these arguments. -/
def ofArgs? : List Json → Option SystemError
  | [number, text] => some ⟨number, text, none, none⟩
  | [number, text, file] | [number, text, file, _] => some ⟨number, text, file? number file, none⟩
  | [number, text, file, _, other] =>
    match file? number file with
    | some file => some ⟨number, text, some file, if other = .null then none else some other⟩
    | none => some ⟨number, text, none, none⟩
  | _ => none

/-! ### Messages -/

/-- What is said about the files. -/
def fileText (e : SystemError) : String :=
  match e.file, e.other with
  | some file, some other => ": " ++ file.inspect ++ " -> " ++ other.inspect
  | some file, none => ": " ++ file.inspect
  | none, _ => ""

/-- What is said about the fault. -/
def message (e : SystemError) : String :=
  "[Errno " ++ e.number.display ++ "] " ++ e.text.display ++ e.fileText

/-- The arguments that are left when the files have been taken out of them. -/
def remaining (args : List Json) : List Json :=
  match (ofArgs? args).bind file with
  | some _ => args.take 2
  | none => args

end SystemError

end AssetPipeline
