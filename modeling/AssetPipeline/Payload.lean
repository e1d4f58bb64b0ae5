/-
AssetPipeline/Payload.lean

What engines consume and produce: text or bytes.

A payload knows where it comes from.  As it is written down, a text is the object at its
place, while bytes stand in hexadecimal and become a new object each time they are read.
-/
import AssetPipeline.Json.Compact
import AssetPipeline.Origin

namespace AssetPipeline

/-- A piece of source or output. -/
inductive Payload where
  | text (data : Traced String)
  | bytes (data : Traced (List UInt8))
  deriving DecidableEq

namespace Payload

/-- The payload without content. -/
def empty : Payload := .text .emptyText

/-- Put a text at the end; bytes take it in UTF-8.  What has to be made is the object with the
number `id`. -/
def append (p : Payload) (s : Traced String) (id : Nat) : Payload :=
  match p with
  | .text t => .text (t.appendText s id)
  | .bytes b => .bytes (b.appendBytes (.ofBytes s.value.toUTF8.toList (.made id)) id)

/-- The payload as plain data. -/
def toJson : Payload → Json
  | .text t => .str t.value
  | .bytes b => .object [("bytes", .str (Text.hexBytes b.value))]

/-- The payload as text to be put at the end of another: bytes are put as they are shown, in a text
made as the object with the number `id`. -/
def inlined (p : Payload) (id : Nat) : Traced String :=
  match p with
  | .text t => t
  | .bytes _ => ⟨p.toJson.bracketed, .made id⟩

end Payload

/-- A payload as it is written down. -/
inductive PayloadValue where
  | text (data : Traced String)
  /-- Bytes in hexadecimal. -/
  | bytes (digits : String)
  deriving DecidableEq

end AssetPipeline
