/-
AssetPipeline/Proofs/Module/Cause.lean

Where the faults of an import come from.

A missing module is reported at some depth of an import, against the cache as it is
then and without the modules whose bodies are running.  `Lacks` says that the reason
given holds of the modules and the cache: nothing of that name, a barred name, or a
parent that cannot contain modules.  What is lacking in a cache that has grown was
lacking before (`Lacks.of_grows`), and a running module is in the cache and so never
lacking (`Lacks.of_erase`).  Hence every report holds already where the import starts.

Main statement: `importName_cause` says that every fault of an import either reports
a member of the chain that was asked for, truly lacking, or comes out of the code of
an installed module (`BodyFault`).  `Lacks.not_available` connects this to what it
means for a module to be available.
-/
import AssetPipeline.Proofs.Module.Chain
import AssetPipeline.Proofs.Module.Growth

namespace AssetPipeline

open ModuleName

variable {installed : Installed} {c c' : ModuleCache} {name : String} {fault : Fault}

/-! ### What is there and what is not -/

/-- The name stands for a package: for a loaded one, or else for an installed one. -/
def IsPackage (installed : Installed) (c : ModuleCache) (name : String) : Prop :=
  (∃ run, c.entries.get? name = some (.loaded run true)) ∨
    c.entries.get? name = none ∧ ∃ body, installed.get? name = some body ∧ body.package = true

/-- A module can be had: it is loaded, or it is installed, not barred, and lies in an available
package if it lies in any. -/
inductive Available (installed : Installed) (c : ModuleCache) : String → Prop
  | cached {name : String} {run : Nat} {package : Bool} :
      c.entries.get? name = some (.loaded run package) → Available installed c name
  | declared {name : String} {body : ModuleBody} :
      c.entries.get? name = none → installed.get? name = some body →
      (∀ parent, parent? name = some parent → Available installed c parent) →
      (∀ parent, parent? name = some parent → IsPackage installed c parent) →
      Available installed c name

theorem Available.root {body : ModuleBody} (hn : c.entries.get? name = none)
    (hb : installed.get? name = some body) (hp : parent? name = none) :
    Available installed c name := by
  refine .declared hn hb ?_ ?_ <;>
  · intro parent hparent
    rw [hp] at hparent
    cases hparent

theorem Available.inside {body : ModuleBody} {parent : String}
    (hn : c.entries.get? name = none) (hb : installed.get? name = some body)
    (hp : parent? name = some parent) (ha : Available installed c parent)
    (hpkg : IsPackage installed c parent) : Available installed c name := by
  refine .declared hn hb ?_ ?_ <;>
  · intro parent' hparent
    rw [hp] at hparent
    cases hparent
    assumption

/-- The reason for which a module is said to be missing holds. -/
inductive Lacks (installed : Installed) (c : ModuleCache) : ModuleMissing → Prop
  | undeclared {name : String} :
      c.entries.get? name = none → installed.get? name = none →
      Lacks installed c (.undeclared name)
  | blocked {name : String} :
      c.entries.get? name = some .blocked → Lacks installed c (.blocked name)
  | notPackage {name parent : String} :
      c.entries.get? name = none → parent? name = some parent →
      ¬ IsPackage installed c parent → Lacks installed c (.notPackage name parent)

/-- **What is truly lacking is not available.** -/
theorem Lacks.not_available {why : ModuleMissing} (h : Lacks installed c why)
    (hname : why.name? = some name) : ¬ Available installed c name := by
  intro ha
  cases h with
  | undeclared hn hi =>
    cases hname
    cases ha with
    | cached he => simp [hn] at he
    | declared _ hb => simp [hi] at hb
  | blocked hb =>
    cases hname
    cases ha with
    | cached he => simp [hb] at he
    | declared hn => simp [hb] at hn
  | notPackage hn hp hpkg =>
    cases hname
    cases ha with
    | cached he => simp [hn] at he
    | declared _ _ _ hin => exact hpkg (hin _ hp)

/-! ### Lacking before and after -/

theorem IsPackage.of_grows (h : Grows installed c c') (hp : IsPackage installed c name) :
    IsPackage installed c' name := by
  rcases hp with ⟨run, he⟩ | ⟨hn, body, hbody, hpkg⟩
  · exact Or.inl ⟨run, h.kept he⟩
  · rcases he : c'.entries.get? name with _ | entry
    · exact Or.inr ⟨he, body, hbody, hpkg⟩
    · obtain ⟨body', run, hbody', rfl⟩ := h.added hn he
      rw [hbody] at hbody'
      cases hbody'
      exact Or.inl ⟨run, by rw [he, hpkg]⟩

/-- What is lacking in a cache that has grown was lacking before. -/
theorem Lacks.of_grows {why : ModuleMissing} (h : Grows installed c c')
    (hl : Lacks installed c' why) : Lacks installed c why := by
  cases hl with
  | undeclared hn hi => exact .undeclared (h.absent hn) hi
  | blocked hb =>
    -- what an import adds is never barred
    refine .blocked ?_
    rename_i name
    rcases he : c.entries.get? name with _ | entry
    · obtain ⟨_, _, _, hentry⟩ := h.added he hb
      cases hentry
    · rw [h.kept he] at hb
      exact hb
  | notPackage hn hp hpkg =>
    exact .notPackage (h.absent hn) hp fun hpk => hpkg (hpk.of_grows h)

theorem IsPackage.erase {running : String} {entry : CacheEntry}
    (hr : c.entries.get? running = some entry) (hp : IsPackage installed c name) :
    IsPackage (installed.erase running) c name := by
  rcases hp with hc | ⟨hn, body, hbody, hpkg⟩
  · exact Or.inl hc
  · have hne : name ≠ running := by
      rintro rfl
      rw [hn] at hr
      cases hr
    exact Or.inr ⟨hn, body, by simp [hne, hbody], hpkg⟩

/-- A module in the cache is not lacking, whether it is installed or not. -/
theorem Lacks.of_erase {running : String} {entry : CacheEntry} {why : ModuleMissing}
    (hr : c.entries.get? running = some entry) (h : Lacks (installed.erase running) c why) :
    Lacks installed c why := by
  cases h with
  | undeclared hn hi =>
    rename_i name
    have hne : name ≠ running := by
      rintro rfl
      rw [hn] at hr
      cases hr
    exact .undeclared hn (by simpa [hne] using hi)
  | blocked hb => exact .blocked hb
  | notPackage hn hp hpkg => exact .notPackage hn hp fun hpk => hpkg (hpk.erase hr)

/-! ### Faults by their origin -/

/-- A fault that says of a module around `absolute`, or of this module itself, that it is missing,
where it truly is. -/
inductive ChainFault (installed : Installed) (c : ModuleCache) (absolute : String) : Fault → Prop
  | missing {why : ModuleMissing} {name : String} :
      Lacks installed c why → why.name? = some name → name ∈ chain absolute →
      ChainFault installed c absolute (.moduleMissing why)

/-- A fault that comes out of the code of an installed module. -/
inductive BodyFault (installed : Installed) (c : ModuleCache) : Fault → Prop
  /-- The code raises it. -/
  | raised {name : String} {body : ModuleBody} {fault : Fault} :
      installed.get? name = some body → body.failure = some fault → BodyFault installed c fault
  /-- The code imports a name that has no meaning. -/
  | meaningless {name request : String} {body : ModuleBody} {fault : Fault} :
      installed.get? name = some body → request ∈ body.imports →
      absoluteName none request = .error fault → BodyFault installed c fault
  /-- The code imports a module that is missing. -/
  | imported {name request absolute : String} {body : ModuleBody} {fault : Fault} :
      installed.get? name = some body → request ∈ body.imports →
      absoluteName none request = .ok absolute → ChainFault installed c absolute fault →
      BodyFault installed c fault

/-- What a fault of an import of `absolute` can be. -/
def CausedBy (installed : Installed) (c : ModuleCache) (absolute : String) (fault : Fault) : Prop :=
  ChainFault installed c absolute fault ∨ BodyFault installed c fault

theorem ChainFault.of_parent {parent : String} (h : parent? name = some parent)
    (hf : ChainFault installed c parent fault) : ChainFault installed c name fault := by
  cases hf with
  | missing hl hname hmem =>
    refine .missing hl hname ?_
    rw [chain, ancestors_of_parent h]
    exact List.mem_cons_of_mem _ hmem

theorem CausedBy.of_grows (h : Grows installed c c') (hf : CausedBy installed c' name fault) :
    CausedBy installed c name fault := by
  rcases hf with ⟨hl, hname, hmem⟩ | hb
  · exact Or.inl (.missing (hl.of_grows h) hname hmem)
  · right
    cases hb with
    | raised hb hf => exact .raised hb hf
    | meaningless hb hi he => exact .meaningless hb hi he
    | imported hb hi he hc =>
      obtain ⟨hl, hname, hmem⟩ := hc
      exact .imported hb hi he (.missing (hl.of_grows h) hname hmem)

theorem get?_of_erase {running : String} {body : ModuleBody}
    (h : (installed.erase running).get? name = some body) : installed.get? name = some body := by
  rw [Dict.get?_erase] at h
  split at h
  · cases h
  · exact h

theorem CausedBy.of_erase {running : String} {entry : CacheEntry}
    (hr : c.entries.get? running = some entry)
    (hf : CausedBy (installed.erase running) c name fault) :
    CausedBy installed c name fault := by
  rcases hf with ⟨hl, hname, hmem⟩ | hb
  · exact Or.inl (.missing (hl.of_erase hr) hname hmem)
  · right
    cases hb with
    | raised hb hf => exact .raised (get?_of_erase hb) hf
    | meaningless hb hi he => exact .meaningless (get?_of_erase hb) hi he
    | imported hb hi he hc =>
      obtain ⟨hl, hname, hmem⟩ := hc
      exact .imported (get?_of_erase hb) hi he (.missing (hl.of_erase hr) hname hmem)

/-! ### Imports one by one -/

/-- Every fault of an import of `name` has its cause in the modules and the cache that the import
starts with. -/
def Accountable (installed : Installed) (name : String) (c : ModuleCache)
    (r : Imported Module) : Prop :=
  ∀ fault, r.1 = .error fault → CausedBy installed c name fault

theorem Accountable.of_grows {r : Imported Module} (h : Grows installed c c')
    (hr : Accountable installed name c' r) : Accountable installed name c r :=
  fun fault hf => (hr fault hf).of_grows h

/-- A cached name fails only if it is barred. -/
theorem accountable_of_entry {entry : CacheEntry} (he : c.entries.get? name = some entry) :
    Accountable installed name c (entry.answer name, c) := by
  intro fault hf
  cases entry with
  | blocked =>
    cases hf
    exact Or.inl (.missing (.blocked he) rfl List.mem_cons_self)
  | loaded run package => cases hf

section
variable {load : Load}

/-- A module whose parent is in the cache fails on its own, or because of the parent. -/
theorem loadInside_accountable {parent : String} {entry : CacheEntry}
    (hp : parent? name = some parent) (he : c.entries.get? parent = some entry)
    (hn : c.entries.get? name = none)
    (h : Accountable installed name c (load name c)) :
    Accountable installed name c (loadInside load parent name c) := by
  intro fault hf
  unfold loadInside at hf
  split at hf
  · exact h fault hf
  · next hpkg =>
    cases hf
    refine Or.inl (.missing (.notPackage hn hp ?_) rfl List.mem_cons_self)
    rintro (⟨run, he'⟩ | ⟨hn', -⟩)
    · simp [ModuleCache.hasPackage, he', CacheEntry.isPackage] at hpkg
    · rw [he] at hn'
      cases hn'

theorem importWithin_accountable
    (hproper : ∀ name c, c.entries.get? name = none → Proper installed name c (load name c))
    (h : ∀ name c, c.entries.get? name = none → Accountable installed name c (load name c))
    {around : List String} (ha : ancestors name = around) (c : ModuleCache) :
    Accountable installed name c (importWithin load around name c) := by
  induction around generalizing name c with
  | nil =>
    unfold importWithin
    split
    · next entry he => exact accountable_of_entry he
    · next hn => exact h name c hn
  | cons parent around ih =>
    obtain ⟨hp, ha'⟩ := parent_of_ancestors ha
    unfold importWithin
    split
    · next entry he => exact accountable_of_entry he
    · next hn =>
      split
      · next entry he => exact loadInside_accountable hp he hn (h name c hn)
      · have hpar := importWithin_proper hproper around parent c
        have hacc := ih ha' c
        split
        · next fault c' hr =>
          rw [hr] at hacc
          rintro _ ⟨⟩
          -- the chain of the parent is a part of that of the module
          rcases hacc fault rfl with hf | hf
          · exact Or.inl (hf.of_parent hp)
          · exact Or.inr hf
        · next m c' hr =>
          rw [hr] at hpar
          -- the import of the parent has left it in the cache
          obtain ⟨-, package, he⟩ := hpar.present rfl
          refine Accountable.of_grows hpar.grows ?_
          split
          · next entry he' => exact accountable_of_entry he'
          · next hn' => exact loadInside_accountable hp he hn' (h name c' hn')

/-- A fault among the imports of a body belongs to one of them. -/
theorem runImports_cause (hproper : ∀ name c, Proper installed name c (load name c))
    (h : ∀ name c, Accountable installed name c (load name c))
    {imports : List String} {c : ModuleCache}
    (hf : (runImports load imports c).1 = .error fault) :
    ∃ request ∈ imports, absoluteName none request = .error fault ∨
      ∃ absolute, absoluteName none request = .ok absolute ∧
        CausedBy installed c absolute fault := by
  induction imports generalizing c with
  | nil => cases hf
  | cons request rest ih =>
    unfold runImports at hf
    split at hf
    · next f hreq =>
      cases hf
      exact ⟨request, List.mem_cons_self, Or.inl hreq⟩
    · next absolute hreq =>
      have hg := (hproper absolute c).grows
      have hacc := h absolute c
      split at hf
      · next f c' hr =>
        cases hf
        rw [hr] at hacc
        exact ⟨request, List.mem_cons_self, Or.inr ⟨absolute, hreq, hacc fault rfl⟩⟩
      · next m c' hr =>
        rw [hr] at hg
        -- a later import starts from a cache that has grown
        obtain ⟨other, hmem, hother⟩ := ih hf
        refine ⟨other, List.mem_cons_of_mem _ hmem, hother.imp_right ?_⟩
        rintro ⟨absolute', habs, hcause⟩
        exact ⟨absolute', habs, hcause.of_grows hg⟩

end

/-- Every fault of a body comes out of the code of some module. -/
theorem loadBody_cause {body : ModuleBody} (hbody : installed.get? name = some body)
    (hn : c.entries.get? name = none)
    (h : ∀ other c, Accountable (installed.erase name) other c
      (importName (installed.erase name) other c))
    (hf : (loadBody (importName (installed.erase name)) body name c).1 = .error fault) :
    BodyFault installed c fault := by
  unfold loadBody at hf
  split at hf
  · next f after hr =>
    cases hf
    have hcause := runImports_cause (importName_proper (installed.erase name)) h
      (congrArg Prod.fst hr)
    obtain ⟨request, hmem, hreq | ⟨absolute, habs, hcause⟩⟩ := hcause
    · exact .meaningless hbody hmem hreq
    · -- the running module is in the cache, and the cache has grown by nothing else so far
      have hentry : (c.start name body.package).entries.get? name =
          some (.loaded (c.nextRun name) body.package) := by
        simp [ModuleCache.start]
      have hcause := (hcause.of_erase hentry).of_grows (.start hbody hn)
      rcases hcause with hf | hf
      · exact .imported hbody hmem habs hf
      · exact hf
  · split at hf
    · next f hfail =>
      cases hf
      exact .raised hbody hfail
    · cases hf

/-! ### The run of an import -/

/-- **Every fault of an import has its cause where the import starts**: it reports a member of the
chain that is truly lacking, or comes out of the code of an installed module. -/
theorem importName_cause {c : ModuleCache} (hf : (importName installed name c).1 = .error fault) :
    CausedBy installed c name fault := by
  refine importName_induction (P := Accountable) ?_ installed name c fault hf
  intro installed ih name c
  have hproper := loadModule_proper fun name _ _ other c =>
    importName_proper (installed.erase name) other c
  refine importWithin_accountable hproper ?_ rfl c
  intro name c hn fault hf
  unfold loadModule at hf
  split at hf
  · next hi =>
    cases hf
    exact Or.inl (.missing (.undeclared hn hi) rfl List.mem_cons_self)
  · next body hbody => exact Or.inr (loadBody_cause hbody hn (ih name body hbody) hf)

end AssetPipeline
