/-
AssetPipeline/Origin.lean

Where data comes from, which tells objects with the same content from each other.

What was written down is an object of its own at the place where it was written; what
was made while a session ran is the object with its number.  Some small values are an
exception: there is a single object for each of them, wherever it comes from.  To put
nothing in front of a text or behind it leaves the very same text
(`appendText_empty`, `empty_appendText`).
-/
import AssetPipeline.File
import AssetPipeline.Json.Inspect

namespace AssetPipeline

/-- Where an object comes from. -/
inductive Origin where
  /-- There is a single object with this content. -/
  | shared
  /-- Written at the place with this number. -/
  | written (place : Nat)
  /-- Made as the object with this number. -/
  | made (id : Nat)
  deriving DecidableEq

/-- Data, and where it comes from.  Data is the same object when both agree. -/
structure Traced (α : Type) where
  value : α
  origin : Origin
  deriving DecidableEq

/-! ### Values with a single object -/

/-- Whether there is a single object for this text: it has at most one character, one of the first
two hundred and fifty-six. -/
def isSingularText (s : String) : Bool :=
  match s.toList with
  | [] => true
  | [c] => decide (c.toNat < 256)
  | _ => false

/-- Whether there is a single object for this plain value: null, truth values, small integers,
numbers that are not finite, and short texts. -/
def Json.isSingular : Json → Bool
  | .null | .bool _ => true
  | .int n => decide (-5 ≤ n ∧ n ≤ 256)
  | .double x => !x.isFinite
  | .str s => isSingularText s
  | .array _ | .object _ => false

/-- Whether there is a single object for these bytes: there is at most one. -/
def isSingularBytes (bytes : List UInt8) : Bool := decide (bytes.length ≤ 1)

/-- Whether there is a single object for this file: it is a short text. -/
def File.isSingular : File → Bool
  | .text s => isSingularText s
  | .path _ | .pathLike _ => false

namespace Traced

/-! ### Tracing data -/

/-- Plain data that comes from `own`, unless there is a single object for it. -/
def ofJson (value : Json) (own : Origin) : Traced Json :=
  ⟨value, if value.isSingular then .shared else own⟩

/-- A text that comes from `own`, unless there is a single object for it. -/
def ofText (value : String) (own : Origin) : Traced String :=
  ⟨value, if isSingularText value then .shared else own⟩

/-- Bytes that come from `own`, unless there is a single object for them. -/
def ofBytes (value : List UInt8) (own : Origin) : Traced (List UInt8) :=
  ⟨value, if isSingularBytes value then .shared else own⟩

/-- A file that comes from `own`, unless there is a single object for it. -/
def ofFile (value : File) (own : Origin) : Traced File :=
  ⟨value, if value.isSingular then .shared else own⟩

/-- The text without characters. -/
def emptyText : Traced String := ⟨"", .shared⟩

/-! ### Texts and bytes from others -/

/-- The value as text: a text is left as it is, and the text of anything else is made, as the object
with the number `id`.  The texts of the two truth values have a single object each. -/
def display (data : Traced Json) (id : Nat) : Traced String :=
  match data.value with
  | .str s => ⟨s, data.origin⟩
  | .bool _ => ⟨data.value.display, .shared⟩
  | other => ⟨other.display, .made id⟩

/-- One text behind another, made as the object with the number `id` unless one of them is empty. -/
def appendText (t s : Traced String) (id : Nat) : Traced String :=
  if t.value = "" then s
  else if s.value = "" then t
  else ⟨t.value ++ s.value, .made id⟩

/-- Some bytes behind others, made as the object with the number `id` unless there are none on one
side. -/
def appendBytes (a b : Traced (List UInt8)) (id : Nat) : Traced (List UInt8) :=
  if a.value = [] then b
  else if b.value = [] then a
  else ⟨a.value ++ b.value, .made id⟩

/-! ### Small facts -/

@[simp] theorem value_display (data : Traced Json) (id : Nat) :
    (data.display id).value = data.value.display := by
  obtain ⟨value, origin⟩ := data
  cases value <;> rfl

@[simp] theorem value_appendText (t s : Traced String) (id : Nat) :
    (t.appendText s id).value = t.value ++ s.value := by
  unfold appendText
  split
  · next h => simp [h]
  · split
    · next h => simp [h]
    · rfl

@[simp] theorem value_appendBytes (a b : Traced (List UInt8)) (id : Nat) :
    (a.appendBytes b id).value = a.value ++ b.value := by
  unfold appendBytes
  split
  · next h => simp [h]
  · split
    · next h => simp [h]
    · rfl

theorem empty_appendText (s : Traced String) (id : Nat) : emptyText.appendText s id = s := rfl

theorem appendText_empty {t s : Traced String} (ht : t.value ≠ "") (hs : s.value = "") (id : Nat) :
    t.appendText s id = t := by
  simp [appendText, ht, hs]

end Traced

end AssetPipeline
