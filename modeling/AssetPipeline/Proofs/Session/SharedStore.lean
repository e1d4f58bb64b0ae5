/-
AssetPipeline/Proofs/Session/SharedStore.lean

What a store of libraries serves that is only loaded into.

A store keeps a dependency under the name by which it was asked for, while the meaning of a
relative name depends on the loader.  So a store that loaders share serves a name as the
loader means it that has filled it: the first one to have asked for the name since the store
was last emptied (`fillers`).  Another loader is served the same module, whatever the name
means to it.

Main statements: `module_of_filler` says which module a shared store serves, and
`module_of_another_package` that it may not be the one which the name means to its loader.
-/
import AssetPipeline.Proofs.Session.StoreUse
import Mathlib.Data.List.Induction

namespace AssetPipeline

/-! ### Who fills a store -/

/-- Whether a library is written whatever the store has. -/
def Use.isWrite : Use → Bool
  | .written .. => true
  | _ => false

/-- The loaders that have filled names, after one more use: a name is filled only once. -/
def noteFiller (fillers : Dict String Loader) : Use → Dict String Loader
  | .emptied => Dict.empty
  | .loaded l name _ => if fillers.contains name then fillers else fillers.put name l
  | .written .. => fillers

/-- The loaders that have filled names, by name. -/
def fillers (uses : List Use) : Dict String Loader := uses.foldl noteFiller Dict.empty

theorem fillers_concat (uses : List Use) (use : Use) :
    fillers (uses ++ [use]) = noteFiller (fillers uses) use := by
  rw [fillers, List.foldl_append]
  rfl

/-- A loader that has filled a name has asked for it. -/
theorem loaded_of_fillers {uses : List Use} {name : String} {filler : Loader}
    (h : (fillers uses).get? name = some filler) :
    ∃ library, .loaded filler name library ∈ uses := by
  -- from the last use on: a filler is an earlier one, or has just asked
  induction uses using List.reverseRecOn with
  | nil => cases h
  | append_singleton uses use ih =>
    have hearlier : (fillers uses).get? name = some filler →
        ∃ library, .loaded filler name library ∈ uses ++ [use] := by
      intro hfiller
      obtain ⟨library, hmem⟩ := ih hfiller
      exact ⟨library, List.mem_append_left _ hmem⟩
    rw [fillers_concat] at h
    cases use with
    | emptied => cases h
    | written other library => exact hearlier h
    | loaded l other library =>
      rw [noteFiller] at h
      split at h
      · exact hearlier h
      · rw [Dict.get?_put] at h
        split at h
        · next hname =>
          cases h
          rw [hname]
          exact ⟨library, List.mem_append_right _ (List.mem_singleton.2 rfl)⟩
        · exact hearlier h

/-- A store has modules only, each under a name that means it to the loader which has filled it. -/
structure FilledBy (content : Dict String Object) (fillers : Dict String Loader) : Prop where
  meant : ∀ {name library}, content.get? name = some library →
    ∃ filler m, fillers.get? name = some filler ∧ library = .module m ∧
      absoluteName filler.config.anchor name = .ok m.name
  absent : ∀ {name}, content.get? name = none → fillers.get? name = none

theorem filledBy_empty : FilledBy Dict.empty Dict.empty where
  meant h := by cases h
  absent _ := rfl

namespace FilledBy

variable {content next : Dict String Object} {fillers : Dict String Loader}

/-- A name that the store lacks is filled by the loader which asks for it. -/
theorem put (h : FilledBy content fillers) {l : Loader} {name : String} {m : Module}
    (habs : absoluteName l.config.anchor name = .ok m.name) :
    FilledBy (content.put name (.module m)) (fillers.put name l) where
  meant := by
    intro other library hlibrary
    rw [Dict.get?_put] at hlibrary ⊢
    split at hlibrary
    · next hname =>
      cases hlibrary
      rw [if_pos hname, hname]
      exact ⟨l, m, rfl, rfl, habs⟩
    · next hname =>
      rw [if_neg hname]
      exact h.meant hlibrary
  absent := by
    intro other hnone
    rw [Dict.get?_put] at hnone ⊢
    split at hnone
    · cases hnone
    · next hname =>
      rw [if_neg hname]
      exact h.absent hnone

theorem contains_of_found (h : FilledBy content fillers) {name : String} {library : Object}
    (hfound : content.get? name = some library) : fillers.contains name = true := by
  obtain ⟨filler, m, hfiller, -, -⟩ := h.meant hfound
  rw [Dict.contains, hfiller]
  rfl

/-- **One use of a store, but for a write, keeps the names filled**. -/
theorem step (h : FilledBy content fillers) {use : Use} (hstep : UseStep content use next)
    (hwrite : use.isWrite = false) : FilledBy next (noteFiller fillers use) := by
  cases hstep with
  | emptied => exact filledBy_empty
  | written name library => cases hwrite
  | found hfound =>
    rw [noteFiller, if_pos (h.contains_of_found hfound)]
    exact h
  | imported hnone habs =>
    rw [noteFiller, Dict.contains, h.absent hnone, if_neg (by simp)]
    exact h.put habs

/-- So does a run of uses. -/
theorem replays (h : FilledBy content fillers) {uses : List Use}
    (hrun : Replays content uses next) (hwrite : ∀ use ∈ uses, use.isWrite = false) :
    FilledBy next (uses.foldl noteFiller fillers) := by
  induction uses generalizing content fillers with
  | nil =>
    cases hrun
    exact h
  | cons use rest ih =>
    obtain ⟨middle, hstep, hrest⟩ := hrun
    have hmiddle := h.step hstep (hwrite use List.mem_cons_self)
    refine ih hmiddle hrest ?_
    intro use' hmem
    exact hwrite use' (List.mem_cons_of_mem use hmem)

end FilledBy

/-! ### What a shared store serves -/

theorem absoluteName_of_not_relative {name absolute : String} {anchor : Option String}
    (hrel : ModuleName.isRelative name = false) (h : absoluteName anchor name = .ok absolute) :
    absolute = name ∧ ∀ other, absoluteName other name = .ok absolute := by
  unfold absoluteName at h ⊢
  rw [if_neg (by simp [hrel])] at h
  split at h
  · cases h
  · next hne =>
    cases h
    refine ⟨rfl, ?_⟩
    intro other
    rw [if_neg (by simp [hrel]), if_neg hne]

namespace Session

/-- **What a store serves that is only loaded into.**  A dependency that a loader gets from it is
the module that the name means to the loader which has filled the name.  So a name that is not
relative gets the module of this name, and a relative one gets what it means to its own loader if
all loaders that have used the store have the same anchor. -/
theorem module_of_filler (installed : Installed) (classes : List ClassDecl) (clock : Clock)
    (requests : List Request) (store : Nat) {before later : List Use} {l : Loader} {name : String}
    {library : Object}
    (hrun : usesAt store (allUses requests (declareAll classes (initial installed clock))) =
      before ++ .loaded l name library :: later)
    (honly : ∀ use ∈ before, use.isWrite = false) :
    ∃ filler m, (fillers (before ++ [.loaded l name library])).get? name = some filler ∧
      library = .module m ∧ absoluteName filler.config.anchor name = .ok m.name ∧
      (ModuleName.isRelative name = false → m.name = name) ∧
      (ModuleName.isRelative name = false ∨ (∀ l' name' library',
        .loaded l' name' library' ∈ before → l'.config.anchor = l.config.anchor) →
          absoluteName l.config.anchor name = .ok m.name) := by
  have hreplay := replays_allUses requests (declareAll classes (initial installed clock)) store
  rw [hrun, storeAt_start, List.append_cons] at hreplay
  obtain ⟨content, hbefore, -⟩ := hreplay.split
  obtain ⟨earlier, hearlier, hlast⟩ := hbefore.split
  have hwrite : ∀ use ∈ before ++ [.loaded l name library], use.isWrite = false := by
    intro use hmem
    rcases List.mem_append.1 hmem with hmem | hmem
    · exact honly use hmem
    · rw [List.mem_singleton.1 hmem]
      rfl
  have hfilled : FilledBy content (fillers (before ++ [.loaded l name library])) :=
    filledBy_empty.replays hbefore hwrite
  -- what has been loaded is in the store
  have hheld : content.get? name = some library := by
    cases replays_singleton.1 hlast with
    | found hfound => exact hfound
    | imported => rw [Dict.get?_put, if_pos rfl]
  obtain ⟨filler, m, hfiller, hmodule, habs⟩ := hfilled.meant hheld
  refine ⟨filler, m, hfiller, hmodule, habs, ?_, ?_⟩
  · intro hrel
    exact (absoluteName_of_not_relative hrel habs).1
  · rintro (hrel | hanchors)
    · exact (absoluteName_of_not_relative hrel habs).2 _
    · obtain ⟨library', hmem⟩ := loaded_of_fillers hfiller
      have hanchor : filler.config.anchor = l.config.anchor := by
        rcases List.mem_append.1 hmem with hmem | hmem
        · exact hanchors filler name library' hmem
        · cases List.mem_singleton.1 hmem
          rfl
      rw [← hanchor]
      exact habs

/-- Two packages, each with a module of its own by the same relative name. -/
def twoPackages : Installed :=
  Dict.ofList [("app", ⟨true, [], none⟩), ("app.engine", ⟨false, [], none⟩),
    ("web", ⟨true, [], none⟩), ("web.engine", ⟨false, [], none⟩)]

/-- A store is shared by loaders for the two packages, which ask for the same relative name. -/
def sharingRequests : List Request :=
  [⟨.newLibraries "LibraryRegistry", some "libs"⟩,
    ⟨.newLoader (some (.object [("package", .str "app")])), some "app"⟩,
    ⟨.newLoader (some (.object [("package", .str "web")])), some "web"⟩,
    ⟨.loader "app" (.loadLibrary ".engine" none "libs"), none⟩,
    ⟨.loader "web" (.loadLibrary ".engine" none "libs"), none⟩]

/-- A loader for a package. -/
def loaderFor (package : String) : Loader := ⟨⟨Dict.empty, some package⟩⟩

theorem uses_sharingRequests :
    usesAt 1 (allUses sharingRequests (declareAll [] (initial twoPackages .still))) =
      [.emptied, .loaded (loaderFor "app") ".engine" (.module ⟨"app.engine", 1⟩)] ++
        .loaded (loaderFor "web") ".engine" (.module ⟨"app.engine", 1⟩) :: [] := by
  decide +kernel

/-- The second loader is served by the first one. -/
theorem engine_of_first_loader :
    (usesAt 1 (allUses sharingRequests (declareAll [] (initial twoPackages .still))) =
      [.emptied, .loaded (loaderFor "app") ".engine" (.module ⟨"app.engine", 1⟩)] ++
        .loaded (loaderFor "web") ".engine" (.module ⟨"app.engine", 1⟩) :: []) ∧
      ∃ filler, (fillers [.emptied,
          .loaded (loaderFor "app") ".engine" (.module ⟨"app.engine", 1⟩),
          .loaded (loaderFor "web") ".engine" (.module ⟨"app.engine", 1⟩)]).get? ".engine" =
            some filler ∧
        absoluteName filler.config.anchor ".engine" = .ok "app.engine" := by
  refine ⟨uses_sharingRequests, ?_⟩
  obtain ⟨filler, m, hfiller, hmodule, habs, -, -⟩ :=
    module_of_filler twoPackages [] .still sharingRequests 1 uses_sharingRequests (by decide)
  cases hmodule
  exact ⟨filler, hfiller, habs⟩

/-- A loader may be served a module that is not the one which the name means to it, although the
store is only loaded into. -/
theorem module_of_another_package :
    ¬ ∀ (installed : Installed) (classes : List ClassDecl) (clock : Clock)
      (requests : List Request) (store : Nat) (before later : List Use) (l : Loader)
      (name : String) (m : Module),
      usesAt store (allUses requests (declareAll classes (initial installed clock))) =
        before ++ .loaded l name (.module m) :: later →
      (∀ use ∈ before ++ later, use.isWrite = false) →
      absoluteName l.config.anchor name = .ok m.name := by
  intro hown
  have h := hown twoPackages [] .still sharingRequests 1 _ _ _ _ _ uses_sharingRequests (by decide)
  have hmeant : absoluteName (loaderFor "web").config.anchor ".engine" = .ok "web.engine" := by
    decide
  rw [hmeant] at h
  exact absurd (Except.ok.inj h) (by decide)

end Session

end AssetPipeline
