/-
AssetPipeline/Proofs/Module/Clean.lean

What an import leaves behind.

The bodies that are run in the course of an import are written down when they start and when they
end.  A body is started only for a name that is not in the cache, and from then on it is there: for
good if the body is completed, and until the body fails otherwise.  After a failure nothing is
started any more.  So no body is started a second time, and in the end the cache has what it had
before and the modules whose bodies were completed (`Clean`).

Main statements: `Clean.append` for one part of an import after another, `Clean.failed` and
`Clean.completed` for a body around its imports, and `Course.clean` for every import.
-/
import AssetPipeline.Proofs.Module.Course

namespace AssetPipeline

variable {installed : Installed} {c middle after : ModuleCache} {name : String}
variable {events events' : List BodyEvent} {outcome : Except Fault Unit}

/-! ### The bodies that are run -/

namespace BodyEvent

/-- The module whose body starts. -/
def started? : BodyEvent → Option String
  | .started name => some name
  | _ => none

end BodyEvent

/-- The modules whose bodies are started, in order. -/
def startedIn (events : List BodyEvent) : List String := events.filterMap BodyEvent.started?

theorem mem_startedIn : name ∈ startedIn events ↔ .started name ∈ events := by
  unfold startedIn
  rw [List.mem_filterMap]
  constructor
  · rintro ⟨event, hmem, hname⟩
    cases event with
    | started other =>
      cases hname
      exact hmem
    | completed other => cases hname
    | failed other => cases hname
  · exact fun hmem => ⟨_, hmem, rfl⟩

theorem startedIn_append (events events' : List BodyEvent) :
    startedIn (events ++ events') = startedIn events ++ startedIn events' :=
  List.filterMap_append

/-! ### Starting a body -/

theorem ModuleCache.get?_start_eq_none_iff {other : String} {package : Bool} :
    (c.start name package).entries.get? other = none ↔
      other ≠ name ∧ c.entries.get? other = none := by
  rw [ModuleCache.start, Dict.get?_put]
  by_cases heq : other = name <;> simp [heq]

theorem ModuleCache.runs_start (c : ModuleCache) (name : String) (package : Bool)
    (other : String) :
    (c.start name package).runs.getD other 0 =
      c.runs.getD other 0 + if other = name then 1 else 0 := by
  rw [ModuleCache.start, Dict.getD, Dict.get?_put, ModuleCache.nextRun]
  by_cases heq : other = name
  · simp [heq]
  · simp [heq, Dict.getD]

/-! ### Clean imports -/

/-- The bodies that are run, each once, account for what becomes of the cache: it keeps what it has,
and is given the modules whose bodies are completed. -/
structure Clean (installed : Installed) (c : ModuleCache) (events : List BodyEvent)
    (outcome : Except Fault Unit) (after : ModuleCache) : Prop where
  /-- Every entry stays as it is, and what is new are installed modules. -/
  grows : Grows installed c after
  /-- Only installed modules that are not in the cache are started, -/
  fresh : ∀ name, .started name ∈ events →
    c.entries.get? name = none ∧ ∃ body, installed.get? name = some body
  /-- each of them at most once. -/
  once : (startedIn events).Nodup
  /-- What is started is completed or fails. -/
  ended : ∀ name, .started name ∈ events ↔ .completed name ∈ events ∨ .failed name ∈ events
  /-- What is new in the cache is what is completed. -/
  new : ∀ name, (c.entries.get? name = none ∧ after.entries.get? name ≠ none) ↔
    .completed name ∈ events
  /-- What fails is not in the cache, -/
  gone : ∀ name, .failed name ∈ events → after.entries.get? name = none
  /-- and the import fails with it. -/
  settled : outcome = .ok () → ∀ name, .failed name ∉ events
  /-- The cache counts what is started. -/
  counted : ∀ name, after.runs.getD name 0 = c.runs.getD name 0 + (startedIn events).count name

namespace Clean

/-- Where no body is run, nothing becomes of the cache. -/
theorem nothing (installed : Installed) (c : ModuleCache) (outcome : Except Fault Unit) :
    Clean installed c [] outcome c where
  grows := .refl installed c
  fresh := nofun
  once := .nil
  ended := by simp
  new _ := by simp
  gone := nofun
  settled _ _ := List.not_mem_nil
  counted _ := rfl

/-- It does not matter how an import ends that no body has failed in. -/
theorem of_ok (h : Clean installed c events (.ok ()) after) (outcome : Except Fault Unit) :
    Clean installed c events outcome after :=
  { h with settled := fun _ => h.settled rfl }

/-- **One part of an import after another.**  What the first part has started is in the cache, so the
second part does not start it again. -/
theorem append (h : Clean installed c events (.ok ()) middle)
    (h' : Clean installed middle events' outcome after) :
    Clean installed c (events ++ events') outcome after where
  grows := h.grows.trans h'.grows
  fresh name hmem := by
    rcases List.mem_append.1 hmem with hmem | hmem
    · exact h.fresh name hmem
    · obtain ⟨hn, hbody⟩ := h'.fresh name hmem
      exact ⟨h.grows.absent hn, hbody⟩
  once := by
    rw [startedIn_append]
    refine List.nodup_append.2 ⟨h.once, h'.once, ?_⟩
    rintro name hmem _ hmem' rfl
    -- nothing has failed in the first part, so what was started there is in the cache
    have hn := (h'.fresh name (mem_startedIn.1 hmem')).1
    rcases (h.ended name).1 (mem_startedIn.1 hmem) with hcompleted | hfailed
    · exact ((h.new name).2 hcompleted).2 hn
    · exact h.settled rfl name hfailed
  ended name := by
    simp only [List.mem_append, h.ended name, h'.ended name]
    exact or_or_or_comm
  new name := by
    rw [List.mem_append, ← h.new name, ← h'.new name]
    constructor
    · rintro ⟨hn, hafter⟩
      rcases hmiddle : middle.entries.get? name with _ | entry
      · exact Or.inr ⟨rfl, hafter⟩
      · exact Or.inl ⟨hn, Option.some_ne_none entry⟩
    · rintro (⟨hn, hmiddle⟩ | ⟨hmiddle, hafter⟩)
      · exact ⟨hn, fun hafter => hmiddle (h'.grows.absent hafter)⟩
      · exact ⟨h.grows.absent hmiddle, hafter⟩
  gone name hmem := by
    rcases List.mem_append.1 hmem with hmem | hmem
    · exact absurd hmem (h.settled rfl name)
    · exact h'.gone name hmem
  settled hok name hmem := by
    rcases List.mem_append.1 hmem with hmem | hmem
    · exact h.settled rfl name hmem
    · exact h'.settled hok name hmem
  counted name := by
    rw [h'.counted, h.counted, startedIn_append, List.count_append, Nat.add_assoc]

section
variable {body : ModuleBody}

/-- What is started inside a body is another module. -/
theorem ne_of_started {other : String}
    (h : Clean installed (c.start name body.package) events outcome after)
    (hmem : .started other ∈ events) : other ≠ name :=
  (ModuleCache.get?_start_eq_none_iff.1 (h.fresh other hmem).1).1

/-- What ends inside a body has been started there. -/
theorem ne_of_ended {other : String}
    (h : Clean installed (c.start name body.package) events outcome after)
    (hmem : .completed other ∈ events ∨ .failed other ∈ events) : other ≠ name :=
  h.ne_of_started ((h.ended other).2 hmem)

/-- What is completed inside a body is new, and another module. -/
theorem new_inside (h : Clean installed (c.start name body.package) events outcome after)
    (other : String) :
    ((other ≠ name ∧ c.entries.get? other = none) ∧ after.entries.get? other ≠ none) ↔
      .completed other ∈ events := by
  simpa only [ModuleCache.get?_start_eq_none_iff] using h.new other

/-- A body is started once, whatever is started inside it. -/
theorem once_around (h : Clean installed (c.start name body.package) events outcome after)
    (last : List BodyEvent) (hlast : startedIn last = []) :
    startedIn (.started name :: events ++ last) = name :: startedIn events ∧
      (name :: startedIn events).Nodup := by
  constructor
  · rw [startedIn_append, hlast, List.append_nil]
    rfl
  · refine List.nodup_cons.2 ⟨fun hmem => ?_, h.once⟩
    exact h.ne_of_started (mem_startedIn.1 hmem) rfl

theorem fresh_around (h : Clean installed (c.start name body.package) events outcome after)
    (hbody : installed.get? name = some body) (hn : c.entries.get? name = none) {other : String}
    (hmem : other = name ∨ .started other ∈ events) :
    c.entries.get? other = none ∧ ∃ body, installed.get? other = some body := by
  rcases hmem with rfl | hmem
  · exact ⟨hn, body, hbody⟩
  · obtain ⟨hnone, hinstalled⟩ := h.fresh other hmem
    exact ⟨(ModuleCache.get?_start_eq_none_iff.1 hnone).2, hinstalled⟩

theorem counted_around (h : Clean installed (c.start name body.package) events outcome after)
    (other : String) :
    after.runs.getD other 0 = c.runs.getD other 0 + (name :: startedIn events).count other := by
  rw [h.counted, ModuleCache.runs_start, List.count_cons]
  by_cases heq : other = name
  · simp [heq, Nat.add_assoc, Nat.add_comm 1]
  · simp [heq, Ne.symm heq]

/-- **A body that is completed** leaves its module in the cache. -/
theorem completed (h : Clean installed (c.start name body.package) events (.ok ()) after)
    (hbody : installed.get? name = some body) (hn : c.entries.get? name = none) :
    Clean installed c (.started name :: events ++ [.completed name]) (.ok ()) after := by
  obtain ⟨hstarted, honce⟩ := h.once_around [.completed name] rfl
  refine
    { grows := (Grows.start hbody hn).trans h.grows
      fresh := fun other hmem => h.fresh_around hbody hn (by simpa using hmem)
      once := hstarted ▸ honce
      ended := fun other => by
        have := h.ended other
        by_cases heq : other = name <;> simp [heq, this]
      new := fun other => ?_
      gone := fun other hmem => h.gone other (by simpa using hmem)
      settled := fun _ other hmem => h.settled rfl other (by simpa using hmem)
      counted := fun other => by rw [hstarted, h.counted_around] }
  have hinside := h.new_inside other
  -- its own entry was there when the body started, and nothing inside has removed it
  rcases Classical.em (other = name) with rfl | hne
  · have hpresent : after.entries.get? other ≠ none := fun hnone =>
      (ModuleCache.get?_start_eq_none_iff.1 (h.grows.absent hnone)).1 rfl
    simp [hn, hpresent]
  · simpa [hne] using hinside

/-- **A body that fails** takes its module with it. -/
theorem failed (h : Clean installed (c.start name body.package) events outcome after)
    (hbody : installed.get? name = some body) (hn : c.entries.get? name = none) (fault : Fault) :
    Clean installed c (.started name :: events ++ [.failed name]) (.error fault)
      (after.drop name) := by
  obtain ⟨hstarted, honce⟩ := h.once_around [.failed name] rfl
  have hdrop : ∀ other, (after.drop name).entries.get? other =
      if other = name then none else after.entries.get? other :=
    fun other => Dict.get?_erase ..
  refine
    { grows := ((Grows.start hbody hn).trans h.grows).drop hn
      fresh := fun other hmem => h.fresh_around hbody hn (by simpa using hmem)
      once := hstarted ▸ honce
      ended := fun other => by
        have := h.ended other
        by_cases heq : other = name <;> simp [heq, this]
      new := fun other => ?_
      gone := fun other hmem => ?_
      settled := nofun
      counted := fun other => by rw [hstarted, ← h.counted_around]; rfl }
  · have hinside := h.new_inside other
    rw [hdrop]
    split
    · next heq =>
      -- its own entry is gone, and no other body of this name has been completed
      have hnot : .completed name ∉ events := fun hmem => h.ne_of_ended (Or.inl hmem) rfl
      simp [heq, hnot]
    · next hne => simpa [hne] using hinside
  · rw [hdrop]
    split
    · rfl
    · next hne => exact h.gone other (by simpa [hne] using hmem)

end

end Clean

/-- **Every import is clean.** -/
theorem Course.clean {task : Task} (h : Course installed task c events outcome after) :
    Clean installed c events outcome after := by
  induction h with
  | cached => exact .nothing ..
  | unentered _ _ ih => exact ih
  | brought _ _ _ ih => exact ih.of_ok _
  | noRoom _ _ _ _ _ ih => exact ih.of_ok _
  | loaded _ _ _ _ _ ih ih' => exact ih.append ih'
  | root => exact .nothing ..
  | entered => exact .nothing ..
  | parentFirst _ _ _ ih => exact ih
  | undeclared => exact .nothing ..
  | failed hbody hn _ ih => exact ih.failed hbody hn _
  | completed hbody hn _ ih => exact ih.completed hbody hn
  | done => exact .nothing ..
  | raised => exact .nothing ..
  | meaningless => exact .nothing ..
  | stopped _ _ ih => exact ih
  | continued _ _ _ ih ih' => exact ih.append ih'

/-- A module that imports itself, and one that imports it in turn, fails in the end: the other one
is complete and stays, as does the package around both. -/
example :
    (importName (Dict.ofList [("app", ⟨true, [], none⟩), ("app.core", ⟨false, ["app.top"], none⟩),
        ("app.top", ⟨false, ["app.top", "app.core"], some (.raised .valueError [])⟩)])
      "app.top" .empty).2 =
    ⟨Dict.ofList [("app", .loaded 1 true), ("app.core", .loaded 1 false)],
      Dict.ofList [("app", 1), ("app.top", 1), ("app.core", 1)]⟩ := by
  decide +kernel

end AssetPipeline
