/-
AssetPipeline/Proofs/Session/RenderTree.lean

Renders that start other renders, as trees.

A render is either refused before anything is read off the clock, or it starts with a
reading, lets other renders happen, and ends.  How it ends decides whether the clock is
read again and what is written down (`Ending`).  Readings are given by their numbers.
The readings of a tree are in the order in which the renders start and end (`readings`);
what is written down follows the ends alone, inner renders first (`renders`).

A tree is lawful if each of its renders is known where it starts, and ends as the last of
its inner renders does if that one did not return (`Lawful`, `Unwinds`).

Main statements: `filter_failed_renders` says that in a lawful tree the failed renders are
those that the fault has crossed, from the inside out; `failedWith_of_mem_crossed` that all
of them failed with the one fault; `readings_within` that the readings of an inner render
lie together within those of an outer one.
-/
import AssetPipeline.Session.Evaluate

namespace AssetPipeline

/-- The failure of a render. -/
def Event.isFailure : Event → Bool
  | .renderFailed .. => true
  | _ => false

/-- How a render has ended that had started. -/
inductive Ending where
  | returned (stop : Nat) (result : Payload)
  | failed (stop : Nat) (fault : Fault)
  /-- Something has passed that nobody reports. -/
  | passed (halt : Halt)
  deriving DecidableEq

namespace Ending

/-- The ending of a render whose evaluation has ended, the next reading being `stop`. -/
def of (stop : Nat) : Except Halt Payload → Ending
  | .ok result => .returned stop result
  | .error (.fault f) => if f.isInterruption then .passed (.fault f) else .failed stop f
  | .error .tooDeep => .passed .tooDeep

/-- What comes out of the render. -/
def outcome : Ending → Except Halt Payload
  | .returned _ result => .ok result
  | .failed _ fault => .error (.fault fault)
  | .passed halt => .error halt

/-- The second reading, if there is one. -/
def stop? : Ending → Option Nat
  | .returned stop _ | .failed stop _ => some stop
  | .passed _ => none

/-- What is written down, the clock showing `shown`. -/
def record? (shown : Nat → Float) (engine location : String) (start : Nat) : Ending → Option Event
  | .returned stop _ => some (.rendered engine location (.between (shown start) (shown stop)))
  | .failed stop fault =>
    some (.renderFailed engine location (.between (shown start) (shown stop)) fault)
  | .passed _ => none

/-- Only interruptions and too deep a nesting pass without a record. -/
inductive Fitting : Ending → Prop
  | returned (stop : Nat) (result : Payload) : Fitting (.returned stop result)
  | failed (stop : Nat) {fault : Fault} :
      fault.isInterruption = false → Fitting (.failed stop fault)
  | interrupted {fault : Fault} : fault.isInterruption = true → Fitting (.passed (.fault fault))
  | tooDeep : Fitting (.passed .tooDeep)

@[simp] theorem outcome_of (stop : Nat) (out : Except Halt Payload) :
    (of stop out).outcome = out := by
  rcases out with (fault | _) | result
  · cases h : fault.isInterruption <;> simp [of, outcome, h]
  · rfl
  · rfl

theorem eq_of_stop?_of {stop stop' : Nat} {out : Except Halt Payload}
    (h : (of stop out).stop? = some stop') : stop' = stop := by
  rcases out with (fault | _) | result
  · rcases hf : fault.isInterruption with _ | _
    · simpa [of, hf, stop?, eq_comm] using h
    · simp [of, hf, stop?] at h
  · cases h
  · cases h
    rfl

theorem fitting_of (stop : Nat) (out : Except Halt Payload) : (of stop out).Fitting := by
  rcases out with (fault | _) | result
  · cases h : fault.isInterruption
    · simpa [of, h] using Fitting.failed stop h
    · simpa [of, h] using Fitting.interrupted h
  · exact .tooDeep
  · exact .returned stop result

end Ending

/-- A render with the renders that it has started. -/
inductive RenderTree where
  | refused (engines : Nat) (engine : String) (halt : Halt)
  | started (engines : Nat) (engine location : String) (start : Nat) (inner : List RenderTree)
    (ending : Ending)

namespace RenderTree

/-- What comes out of the render. -/
def outcome : RenderTree → Except Halt Payload
  | .refused _ _ halt => .error halt
  | .started _ _ _ _ _ ending => ending.outcome

/-- Whether the render returned a result. -/
def returned : RenderTree → Bool
  | .started _ _ _ _ _ (.returned ..) => true
  | _ => false

/-- Whether the render failed after its start, by something that is reported. -/
def failed : RenderTree → Bool
  | .started _ _ _ _ _ (.failed ..) => true
  | _ => false

/-- The render failed with this fault, after its start. -/
def FailedWith (fault : Fault) : RenderTree → Prop
  | .started _ _ _ _ _ (.failed _ f) => f = fault
  | _ => False

/-- What the render itself writes down. -/
def record? (shown : Nat → Float) : RenderTree → Option Event
  | .refused .. => none
  | .started _ engine location start _ ending => ending.record? shown engine location start

mutual
/-- All renders of a tree, each after those that it has started. -/
def renders : RenderTree → List RenderTree
  | .refused engines engine halt => [.refused engines engine halt]
  | .started engines engine location start inner ending =>
    rendersAll inner ++ [.started engines engine location start inner ending]
/-- All renders of several trees. -/
def rendersAll : List RenderTree → List RenderTree
  | [] => []
  | t :: rest => t.renders ++ rendersAll rest
end

mutual
/-- The readings of the clock, in order: the start, those of the inner renders, the end. -/
def readings : RenderTree → List Nat
  | .refused .. => []
  | .started _ _ _ start inner ending => start :: (readingsAll inner ++ ending.stop?.toList)
/-- The readings of several trees, in order. -/
def readingsAll : List RenderTree → List Nat
  | [] => []
  | t :: rest => t.readings ++ readingsAll rest
end

mutual
/-- The renders that a fault has crossed on its way out, the innermost first. -/
def crossed : RenderTree → List RenderTree
  | .started engines engine location start inner (.failed stop fault) =>
    crossedLast inner ++ [.started engines engine location start inner (.failed stop fault)]
  | _ => []
/-- The renders that a fault has crossed in the last of several trees. -/
def crossedLast : List RenderTree → List RenderTree
  | [] => []
  | [t] => t.crossed
  | _ :: t :: rest => crossedLast (t :: rest)
end

/-- All that a row of trees writes down. -/
def records (shown : Nat → Float) (trees : List RenderTree) : List Event :=
  (rendersAll trees).filterMap (record? shown)

/-! ### Laws -/

/-- The trees of an evaluation that has come to `out`: all of them returned, or the last one did not
and that is how the evaluation ended. -/
def Unwinds {α : Type} (trees : List RenderTree) (out : Except Halt α) : Prop :=
  (∀ t ∈ trees, t.returned = true) ∨
    ∃ done last halt, trees = done ++ [last] ∧ (∀ t ∈ done, t.returned = true) ∧
      last.outcome = .error halt ∧ out = .error halt

/-- What holds of one render of a tree, where `known` are the engines of each registry. -/
inductive Lawful (known : Nat → String → Prop) : RenderTree → Prop
  | tooDeep (engines : Nat) (engine : String) : Lawful known (.refused engines engine .tooDeep)
  | refused {engines : Nat} {engine : String} {fault : Fault} :
    ¬ known engines engine → Lawful known (.refused engines engine (.fault fault))
  | started {engines : Nat} {engine location : String} {start : Nat} {inner : List RenderTree}
    {ending : Ending} :
    known engines engine → Unwinds inner ending.outcome → ending.Fitting →
      Lawful known (.started engines engine location start inner ending)

/-! ### Induction -/

/-- What holds of a render if it holds of those that it has started holds of every render. -/
theorem inner_induction {P : RenderTree → Prop}
    (refused : ∀ engines engine halt, P (.refused engines engine halt))
    (started : ∀ engines engine location start inner ending,
      (∀ t ∈ inner, P t) → P (.started engines engine location start inner ending)) :
    ∀ t, P t
  | .refused engines engine halt => refused engines engine halt
  | .started engines engine location start inner ending =>
    started engines engine location start inner ending fun t _ =>
      inner_induction refused started t

/-! ### Several trees -/

variable {trees trees' : List RenderTree} {t : RenderTree}

theorem rendersAll_eq (trees : List RenderTree) : rendersAll trees = trees.flatMap renders := by
  induction trees with
  | nil => rfl
  | cons t rest ih => rw [rendersAll, ih, List.flatMap_cons]

theorem readingsAll_eq (trees : List RenderTree) : readingsAll trees = trees.flatMap readings := by
  induction trees with
  | nil => rfl
  | cons t rest ih => rw [readingsAll, ih, List.flatMap_cons]

theorem crossedLast_concat (trees : List RenderTree) (t : RenderTree) :
    crossedLast (trees ++ [t]) = t.crossed := by
  induction trees with
  | nil => rfl
  | cons u rest ih =>
    rcases hrest : rest ++ [t] with _ | ⟨v, rest'⟩
    · simp at hrest
    · rw [List.cons_append, hrest, crossedLast, ← hrest, ih]

@[simp] theorem rendersAll_singleton (t : RenderTree) : rendersAll [t] = t.renders := by
  rw [rendersAll, rendersAll, List.append_nil]

@[simp] theorem readingsAll_singleton (t : RenderTree) : readingsAll [t] = t.readings := by
  rw [readingsAll, readingsAll, List.append_nil]

theorem rendersAll_append :
    rendersAll (trees ++ trees') = rendersAll trees ++ rendersAll trees' := by
  simp [rendersAll_eq]

theorem readingsAll_append :
    readingsAll (trees ++ trees') = readingsAll trees ++ readingsAll trees' := by
  simp [readingsAll_eq]

theorem records_append (shown : Nat → Float) :
    records shown (trees ++ trees') = records shown trees ++ records shown trees' := by
  rw [records, rendersAll_append, List.filterMap_append]
  rfl

/-- A render is written down after those that it has started. -/
theorem records_started (shown : Nat → Float) (engines : Nat) (engine location : String)
    (start : Nat) (inner : List RenderTree) (ending : Ending) :
    records shown [.started engines engine location start inner ending] =
      records shown inner ++ (ending.record? shown engine location start).toList := by
  rw [records, rendersAll_singleton, renders, List.filterMap_append]
  rfl

theorem mem_rendersAll : t ∈ rendersAll trees ↔ ∃ tree ∈ trees, t ∈ tree.renders := by
  rw [rendersAll_eq, List.mem_flatMap]

theorem mem_renders_self (t : RenderTree) : t ∈ t.renders := by
  cases t <;> simp [renders]

/-- The renders of an inner tree are renders of the outer one. -/
theorem mem_renders_of_inner {engines : Nat} {engine location : String} {start : Nat}
    {inner : List RenderTree} {ending : Ending} {tree : RenderTree} (htree : tree ∈ inner)
    (ht : t ∈ tree.renders) :
    t ∈ (started engines engine location start inner ending).renders := by
  rw [renders, List.mem_append, mem_rendersAll]
  exact Or.inl ⟨tree, htree, ht⟩

/-! ### Evaluations one after another -/

section
variable {α β : Type}

/-- A render returned if it has a result. -/
theorem returned_iff : t.returned = true ↔ ∃ result, t.outcome = .ok result := by
  rcases t with _ | ⟨_, _, _, _, _, _ | _ | _⟩ <;> simp [returned, outcome, Ending.outcome]

/-- If an evaluation has gone well, all its trees returned. -/
theorem Unwinds.returned {a : α} (h : Unwinds trees (.ok a : Except Halt α)) :
    ∀ t ∈ trees, t.returned = true := by
  rcases h with h | ⟨_, _, _, _, _, _, h⟩
  · exact h
  · cases h

/-- What an evaluation ended with ends what it was part of. -/
theorem Unwinds.error {halt : Halt} (h : Unwinds trees (.error halt : Except Halt α)) :
    Unwinds trees (.error halt : Except Halt β) := by
  rcases h with h | ⟨done, last, halt', htrees, hdone, hlast, heq⟩
  · exact Or.inl h
  · cases heq
    exact Or.inr ⟨done, last, halt, htrees, hdone, hlast, rfl⟩

/-- What a tree of an evaluation has stopped with is what the evaluation has stopped with. -/
theorem Unwinds.of_halted {out : Except Halt α} {halt : Halt} (h : Unwinds trees out)
    (ht : t ∈ trees) (hout : t.outcome = .error halt) : out = .error halt := by
  -- the tree is not one of those that returned, so it is the last one
  have hno : ¬ t.returned = true := by
    rw [returned_iff]
    rintro ⟨result, hresult⟩
    rw [hout] at hresult
    cases hresult
  rcases h with h | ⟨done, last, halt', rfl, hdone, hlast, heq⟩
  · exact absurd (h t ht) hno
  · rw [List.mem_append, List.mem_singleton] at ht
    rcases ht with ht | rfl
    · exact absurd (hdone t ht) hno
    · rw [hout] at hlast
      cases hlast
      exact heq

/-- A render that is all there is to an evaluation ends it. -/
theorem unwinds_singleton (t : RenderTree) : Unwinds [t] t.outcome := by
  rcases hout : t.outcome with halt | result
  · refine Or.inr ⟨[], t, halt, rfl, ?_, hout, rfl⟩
    intro u hu
    cases hu
  · refine Or.inl fun u hu => ?_
    rw [List.mem_singleton] at hu
    rw [hu, returned_iff]
    exact ⟨result, hout⟩

/-- An evaluation may come after trees that returned. -/
theorem Unwinds.append {out : Except Halt α} (h : Unwinds trees' out)
    (hbefore : ∀ t ∈ trees, t.returned = true) : Unwinds (trees ++ trees') out := by
  rcases h with h | ⟨done, last, halt, rfl, hdone, hlast, hout⟩
  · refine Or.inl fun t ht => ?_
    rcases List.mem_append.1 ht with ht | ht
    · exact hbefore t ht
    · exact h t ht
  · refine Or.inr ⟨trees ++ done, last, halt, by rw [List.append_assoc], ?_, hlast, hout⟩
    intro t ht
    rcases List.mem_append.1 ht with ht | ht
    · exact hbefore t ht
    · exact hdone t ht

end

/-! ### Readings lie within readings -/

/-- The readings of an inner render lie together within those of an outer one. -/
theorem readings_within :
    ∀ tree : RenderTree, ∀ t ∈ tree.renders, t.readings <:+: tree.readings := by
  apply inner_induction
  · intro engines engine halt t ht
    rw [renders, List.mem_singleton] at ht
    subst ht
    exact List.infix_rfl
  · intro engines engine location start inner ending ih t ht
    rw [renders, List.mem_append, List.mem_singleton, mem_rendersAll] at ht
    rcases ht with ⟨tree, htree, ht⟩ | rfl
    · -- the readings of a tree stand between those of the trees before and after it
      have hinner : tree.readings <:+: readingsAll inner := by
        obtain ⟨before, after, rfl⟩ := List.append_of_mem htree
        refine ⟨readingsAll before, readingsAll after, ?_⟩
        rw [readingsAll_append, readingsAll, List.append_assoc]
      have houter : readingsAll inner <:+:
          (started engines engine location start inner ending).readings := by
        refine ⟨[start], ending.stop?.toList, ?_⟩
        rw [readings]
        rfl
      exact ((ih tree htree t ht).trans hinner).trans houter
    · exact List.infix_rfl

/-! ### Faults on their way out -/

section
variable {α : Type} {known : Nat → String → Prop} {out : Except Halt α} {fault : Fault}

theorem crossed_of_not_failed (h : t.failed = false) : t.crossed = [] := by
  rcases t with _ | ⟨_, _, _, _, _, _ | _ | _⟩
  · rfl
  · rfl
  · cases h
  · rfl

theorem not_failed_of_returned (h : t.returned = true) : t.failed = false := by
  rcases t with _ | ⟨_, _, _, _, _, _ | _ | _⟩
  · rfl
  · rfl
  · cases h
  · rfl

theorem crossedLast_of_returned (h : ∀ t ∈ trees, t.returned = true) : crossedLast trees = [] := by
  rcases List.eq_nil_or_concat trees with rfl | ⟨done, last, rfl⟩
  · rfl
  · rw [List.concat_eq_append, crossedLast_concat]
    exact crossed_of_not_failed (not_failed_of_returned (h last (by simp)))

/-- In trees that returned, nothing has failed. -/
theorem filter_failed_of_returned (ih : ∀ t ∈ trees, t.renders.filter failed = t.crossed)
    (h : ∀ t ∈ trees, t.returned = true) : (rendersAll trees).filter failed = [] := by
  rw [rendersAll_eq, List.filter_flatMap, List.flatMap_eq_nil_iff]
  intro t ht
  rw [ih t ht]
  exact crossed_of_not_failed (not_failed_of_returned (h t ht))

/-- The trees of an evaluation have failed renders in the last one only. -/
theorem filter_failed_rendersAll (ih : ∀ t ∈ trees, t.renders.filter failed = t.crossed)
    (h : Unwinds trees out) : (rendersAll trees).filter failed = crossedLast trees := by
  rcases h with h | ⟨done, last, halt, rfl, hdone, -, -⟩
  · rw [filter_failed_of_returned ih h, crossedLast_of_returned h]
  · have hlast : (rendersAll [last]).filter failed = last.crossed := by
      rw [rendersAll_singleton]
      exact ih last (by simp)
    have hbefore : (rendersAll done).filter failed = [] :=
      filter_failed_of_returned (fun t ht => ih t (by simp [ht])) hdone
    rw [rendersAll_append, List.filter_append, hbefore, hlast, crossedLast_concat]
    rfl

/-- What passes without a record has crossed no failed render. -/
theorem crossedLast_of_passed {halt : Halt} (hlaws : ∀ t ∈ trees, Lawful known t)
    (h : Unwinds trees (.error halt : Except Halt α)) (hfit : (Ending.passed halt).Fitting) :
    crossedLast trees = [] := by
  rcases h with h | ⟨done, last, halt', rfl, -, hout, heq⟩
  · exact crossedLast_of_returned h
  · cases heq
    rw [crossedLast_concat]
    apply crossed_of_not_failed
    have hlaw := hlaws last (by simp)
    rcases last with _ | ⟨_, _, _, _, _, _ | ⟨_, f⟩ | _⟩
    · rfl
    · rfl
    · -- what fails is reported, so it is not what passes
      cases hout
      cases hlaw with
      | started _ _ hfit' =>
        cases hfit' with
        | failed _ hno =>
          cases hfit with
          | interrupted hyes => exact absurd (hno.symm.trans hyes) (by simp)
    · rfl

/-- **The failed renders of a lawful tree are those that the fault has crossed**, from the inside
out. -/
theorem filter_failed_renders :
    ∀ tree : RenderTree, (∀ t ∈ tree.renders, Lawful known t) →
      tree.renders.filter failed = tree.crossed := by
  apply inner_induction
  · intro engines engine halt _
    rfl
  · intro engines engine location start inner ending ih hlaws
    have hinner : ∀ t ∈ inner, t.renders.filter failed = t.crossed := by
      intro t ht
      exact ih t ht fun u hu => hlaws u (mem_renders_of_inner ht hu)
    have hlawsInner : ∀ t ∈ inner, Lawful known t := by
      intro t ht
      exact hlaws t (mem_renders_of_inner ht (mem_renders_self t))
    rw [renders, List.filter_append]
    cases hlaws _ (mem_renders_self _) with
    | started _ hunwinds hfit =>
      rw [filter_failed_rendersAll hinner hunwinds]
      -- only a render that failed lets a failure out of its inner renders
      cases ending with
      | returned stop result =>
        rw [crossedLast_of_returned hunwinds.returned]
        rfl
      | failed stop fault => rfl
      | passed halt =>
        rw [crossedLast_of_passed hlawsInner hunwinds hfit]
        rfl

/-- **All renders that a fault has crossed failed with it.** -/
theorem failedWith_of_mem_crossed :
    ∀ tree : RenderTree, (∀ t ∈ tree.renders, Lawful known t) →
      tree.outcome = .error (.fault fault) → ∀ t ∈ tree.crossed, t.FailedWith fault := by
  apply inner_induction
  · intro engines engine halt _ _ t ht
    cases ht
  · intro engines engine location start inner ending ih hlaws hout t ht
    rcases ending with _ | ⟨stop, f⟩ | _
    · cases ht
    · cases hout
      rw [crossed, List.mem_append, List.mem_singleton] at ht
      rcases ht with ht | rfl
      · cases hlaws _ (mem_renders_self _) with
        | started _ hunwinds _ =>
          rcases hunwinds with h | ⟨done, last, halt, rfl, -, hlast, heq⟩
          · rw [crossedLast_of_returned h] at ht
            cases ht
          · -- the fault has come out of the last of the renders inside
            cases heq
            rw [crossedLast_concat] at ht
            refine ih last (by simp) ?_ hlast t ht
            intro u hu
            exact hlaws u (mem_renders_of_inner (by simp) hu)
      · rfl
    · cases ht

/-- Where renders were nested too deep, nothing came back. -/
theorem outcome_of_tooDeep :
    ∀ tree : RenderTree, (∀ t ∈ tree.renders, Lawful known t) →
      ∀ t ∈ tree.renders, t.outcome = .error .tooDeep → tree.outcome = .error .tooDeep := by
  apply inner_induction
  · intro engines engine halt _ t ht hdeep
    rw [renders, List.mem_singleton] at ht
    rwa [ht] at hdeep
  · intro engines engine location start inner ending ih hlaws t ht hdeep
    rw [renders, List.mem_append, List.mem_singleton, mem_rendersAll] at ht
    rcases ht with ⟨tree, htree, ht⟩ | rfl
    · have hout := ih tree htree (fun u hu => hlaws u (mem_renders_of_inner htree hu)) t ht hdeep
      cases hlaws _ (mem_renders_self _) with
      | started _ hunwinds _ => exact hunwinds.of_halted htree hout
    · exact hdeep

/-- What is written down about failures is what the failed renders write down. -/
theorem filter_isFailure_records (shown : Nat → Float) (tree : RenderTree) :
    (records shown [tree]).filter Event.isFailure =
      (tree.renders.filter failed).filterMap (record? shown) := by
  rw [records, rendersAll_singleton, List.filter_filterMap, List.filterMap_filter]
  congr 1
  funext t
  rcases t with _ | ⟨_, _, _, _, _, _ | _ | _⟩ <;> rfl

/-- A failed render writes its failure down. -/
theorem map_record?_of_failed (shown : Nat → Float) (h : ∀ t ∈ trees, t.failed = true) :
    (trees.filterMap (record? shown)).map some = trees.map (record? shown) := by
  induction trees with
  | nil => rfl
  | cons t rest ih =>
    have hrest := ih fun u hu => h u (List.mem_cons_of_mem t hu)
    have ht := h t List.mem_cons_self
    rcases t with _ | ⟨_, _, _, _, _, _ | _ | _⟩
    · cases ht
    · cases ht
    · rw [List.map_cons, ← hrest]
      rfl
    · cases ht

end

end RenderTree

end AssetPipeline
