/-
AssetPipeline/Proofs/Module/Growth.lean

What an import does to the cache.

An import may run many bodies, of which some import in circles and some fail.  All
the same the cache only grows: every entry that was there stays as it is, and what
is new are modules that are installed (`Grows`).  A body that fails takes its own
entry with it, which was not there before.

The bodies are run against fewer and fewer installed modules, so everything about
imports is proved by induction on these (`importName_induction`): one lemma for the
way to the packages around a module (`importWithin_proper`), one for the imports of
a body (`runImports_grows`), one for a body (`loadBody_proper`).

Main statement: `importName_proper` says that an import makes the cache grow, and
that the module it gives has the name that was asked for and is in the cache.
-/
import AssetPipeline.Module.Import

namespace AssetPipeline

open ModuleName

variable {installed : Installed} {c c' c'' : ModuleCache} {name : String} {body : ModuleBody}

/-! ### Growth -/

/-- `c'` has every entry of `c`, and besides only modules that are installed. -/
structure Grows (installed : Installed) (c c' : ModuleCache) : Prop where
  kept : ∀ {name entry}, c.entries.get? name = some entry → c'.entries.get? name = some entry
  added : ∀ {name entry}, c.entries.get? name = none → c'.entries.get? name = some entry →
    ∃ body run, installed.get? name = some body ∧ entry = .loaded run body.package

namespace Grows

theorem refl (installed : Installed) (c : ModuleCache) : Grows installed c c where
  kept h := h
  added hn h := by
    rw [hn] at h
    cases h

theorem trans (h : Grows installed c c') (h' : Grows installed c' c'') :
    Grows installed c c'' where
  kept he := h'.kept (h.kept he)
  added {name entry} hn he := by
    -- an entry of `c'` stays as it is, so it tells when the name came in
    rcases hc : c'.entries.get? name with _ | entry'
    · exact h'.added hc he
    · rw [h'.kept hc] at he
      cases he
      exact h.added hn hc

/-- What is absent afterwards was absent before. -/
theorem absent (h : Grows installed c c') (hn : c'.entries.get? name = none) :
    c.entries.get? name = none := by
  rcases hc : c.entries.get? name with _ | entry
  · rfl
  · rw [h.kept hc] at hn
    cases hn

/-- Without one module there is less to add. -/
theorem of_erase (h : Grows (installed.erase name) c c') : Grows installed c c' where
  kept := h.kept
  added hn he := by
    obtain ⟨body, run, hbody, rfl⟩ := h.added hn he
    rw [Dict.get?_erase] at hbody
    split at hbody
    · cases hbody
    · exact ⟨body, run, hbody, rfl⟩

/-- The module of a body that starts is new. -/
theorem start (hbody : installed.get? name = some body) (hn : c.entries.get? name = none) :
    Grows installed c (c.start name body.package) where
  kept {other entry} he := by
    have hne : other ≠ name := by
      rintro rfl
      rw [hn] at he
      cases he
    simpa [ModuleCache.start, hne] using he
  added {other entry} ho he := by
    simp only [ModuleCache.start, Dict.get?_put] at he
    split at he
    · next heq =>
      cases he
      exact ⟨body, _, heq ▸ hbody, rfl⟩
    · rw [ho] at he
      cases he

/-- A module that was not there may leave again. -/
theorem drop (h : Grows installed c c') (hn : c.entries.get? name = none) :
    Grows installed c (c'.drop name) where
  kept {other entry} he := by
    have hne : other ≠ name := by
      rintro rfl
      rw [hn] at he
      cases he
    simpa [ModuleCache.drop, hne] using h.kept he
  added {other entry} ho he := by
    simp only [ModuleCache.drop, Dict.get?_erase] at he
    split at he
    · cases he
    · exact h.added ho he

end Grows

/-! ### Imports one by one -/

/-- Everything about imports is proved for the way to the packages around a module, given that it
holds of the imports in bodies: these are run against fewer installed modules. -/
theorem importName_induction {P : Installed → String → ModuleCache → Imported Module → Prop}
    (step : ∀ installed,
      (∀ name body, installed.get? name = some body → ∀ other c,
        P (installed.erase name) other c (importName (installed.erase name) other c)) →
      ∀ name c, P installed name c
        (importWithin (loadModule installed) (ancestors name) name c))
    (installed : Installed) (name : String) (c : ModuleCache) :
    P installed name c (importName installed name c) := by
  rw [importName_eq]
  refine step installed ?_ name c
  -- a body runs without its own module, so there are fewer and fewer of them
  intro name body hbody other c
  exact importName_induction step (installed.erase name) other c
termination_by installed.size
decreasing_by exact Dict.size_erase_lt hbody

/-- What an import of `name` may do: make the cache grow, and give the module of this name, which is
then in the cache. -/
structure Proper (installed : Installed) (name : String) (c : ModuleCache)
    (r : Imported Module) : Prop where
  grows : Grows installed c r.2
  present : ∀ {m}, r.1 = .ok m →
    m.name = name ∧ ∃ package, r.2.entries.get? name = some (.loaded m.run package)

/-- A fault gives no module. -/
theorem Proper.of_error {fault : Fault} (h : Grows installed c c') :
    Proper installed name c (.error fault, c') :=
  ⟨h, fun hm => by cases hm⟩

/-- A cached name is answered from the cache. -/
theorem Proper.of_entry {entry : CacheEntry} (h : Grows installed c c')
    (he : c'.entries.get? name = some entry) :
    Proper installed name c (entry.answer name, c') := by
  refine ⟨h, ?_⟩
  intro m hm
  cases entry with
  | blocked => cases hm
  | loaded run package =>
    cases hm
    exact ⟨rfl, package, he⟩

section
variable {load : Load}

theorem loadInside_proper (parent : String)
    (h : Proper installed name c (load name c)) :
    Proper installed name c (loadInside load parent name c) := by
  unfold loadInside
  split
  · exact h
  · exact .of_error (.refl installed c)

/-- The packages around a module come first, each of them by an import of its own. -/
theorem importWithin_proper
    (h : ∀ name c, c.entries.get? name = none → Proper installed name c (load name c))
    (around : List String) (name : String) (c : ModuleCache) :
    Proper installed name c (importWithin load around name c) := by
  induction around generalizing name c with
  | nil =>
    unfold importWithin
    split
    · next entry he => exact .of_entry (.refl installed c) he
    · next hn => exact h name c hn
  | cons parent around ih =>
    unfold importWithin
    split
    · next entry he => exact .of_entry (.refl installed c) he
    · next hn =>
      split
      · exact loadInside_proper parent (h name c hn)
      · have hp := ih parent c
        split
        · next fault c' hr =>
          rw [hr] at hp
          exact .of_error hp.grows
        · next m c' hr =>
          rw [hr] at hp
          -- the body of a package may have imported the module that lies in it
          split
          · next entry he => exact .of_entry hp.grows he
          · next hn' =>
            have hl := loadInside_proper parent (h name c' hn')
            exact ⟨hp.grows.trans hl.grows, hl.present⟩

theorem runImports_grows (h : ∀ name c, Proper installed name c (load name c))
    (imports : List String) (c : ModuleCache) :
    Grows installed c (runImports load imports c).2 := by
  induction imports generalizing c with
  | nil => exact .refl installed c
  | cons name rest ih =>
    unfold runImports
    split
    · exact .refl installed c
    · next absolute _ =>
      have hl := (h absolute c).grows
      split
      · next fault c' hr =>
        rw [hr] at hl
        exact hl
      · next m c' hr =>
        rw [hr] at hl
        exact hl.trans (ih c')

/-- A body leaves its module in the cache if it does not fail, and nothing of it otherwise. -/
theorem loadBody_proper (hbody : installed.get? name = some body)
    (hn : c.entries.get? name = none)
    (h : ∀ name c, Proper installed name c (load name c)) :
    Proper installed name c (loadBody load body name c) := by
  have hrun := runImports_grows h body.imports (c.start name body.package)
  have hgrows := (Grows.start hbody hn).trans hrun
  unfold loadBody
  split
  · next fault after hr =>
    rw [hr] at hgrows
    exact .of_error (hgrows.drop hn)
  · next after hr =>
    rw [hr] at hrun hgrows
    split
    · exact .of_error (hgrows.drop hn)
    · -- no import of the body has touched the entry of its own module
      refine ⟨hgrows, ?_⟩
      rintro m ⟨⟩
      refine ⟨rfl, body.package, hrun.kept ?_⟩
      simp [ModuleCache.start]

end

/-! ### The run of an import -/

/-- A name in the cache is answered from there, whatever is installed by now. -/
theorem importName_of_entry {entry : CacheEntry} (h : c.entries.get? name = some entry) :
    importName installed name c = (entry.answer name, c) := by
  rw [importName_eq]
  cases ancestors name with
  | nil => simp only [importWithin, h]
  | cons parent around => simp only [importWithin, h]

theorem Proper.of_erase {other : String} {r : Imported Module}
    (h : Proper (installed.erase other) name c r) : Proper installed name c r :=
  ⟨h.grows.of_erase, h.present⟩

theorem loadModule_proper
    (h : ∀ name body, installed.get? name = some body → ∀ other c,
      Proper (installed.erase name) other c (importName (installed.erase name) other c))
    (name : String) (c : ModuleCache) (hn : c.entries.get? name = none) :
    Proper installed name c (loadModule installed name c) := by
  unfold loadModule
  split
  · exact .of_error (.refl installed c)
  · next body hbody =>
    exact loadBody_proper hbody hn fun other c => (h name body hbody other c).of_erase

/-- **An import makes the cache grow**, whether it fails or not; the module that it gives has the
name that was asked for and is in the cache. -/
theorem importName_proper (installed : Installed) (name : String) (c : ModuleCache) :
    Proper installed name c (importName installed name c) := by
  refine importName_induction ?_ installed name c
  intro installed ih name c
  exact importWithin_proper (loadModule_proper ih) (ancestors name) name c

end AssetPipeline
