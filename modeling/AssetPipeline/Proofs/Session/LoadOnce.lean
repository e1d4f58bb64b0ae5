/-
AssetPipeline/Proofs/Session/LoadOnce.lean

Loading a dependency from a store happens once.

A dependency that the store has is given from there, whatever it is, and nothing else happens.
Any other one is required, and stored if that succeeds; a failure leaves nothing behind.

In a run whose uses spare the name, its entry changes only where a loader is asked to load it.  So
once the name has a library it keeps it, and is never required again; and as long as nobody has
loaded it, it has none, and is required each time.

Main statement: `library_loaded_once` for each time a loader is asked to load, in a session and in
a run.
-/
import AssetPipeline.Proofs.Session.Entry
import AssetPipeline.Proofs.Session.StoreContent
import Mathlib.Data.List.Basic

namespace AssetPipeline.Session

variable {s after : Session} {store : Nat} {name : String}

/-! ### Loading once -/

section
variable {l : Loader} {file : Option File} {ref : LibrariesRef} {library : Object}

/-- Require a dependency, and store the module. -/
def requireInto (l : Loader) (name : String) (file : Option File) (ref : LibrariesRef) :
    Run Object := do
  let m ← require l name file
  setLibrary ref name (.module m)
  return .module m

/-- **A dependency that the store lacks is required, and stored.** -/
theorem run_loadLibrary_eq_requireInto (h : (s.contents ref).get? name = none) :
    (loadLibrary l name file ref).run s = (requireInto l name file ref).run s := by
  rw [run_loadLibrary_absent l name file ref h]
  rcases hrequire : (require l name file).run s with ⟨halt | m, after⟩
  · rw [requireInto, run_bind_error hrequire]
  · rw [requireInto, run_bind_ok hrequire, run_bind_ok (run_setLibrary ref name _ after)]
    rfl

/-- A dependency that the store lacked, and which has been loaded, has been required. -/
theorem required_of_loaded (hnone : (s.contents ref).get? name = none)
    (h : (loadLibrary l name file ref).run s = (.ok library, after)) :
    ∃ m required, (require l name file).run s = (.ok m, required) ∧ library = .module m := by
  rw [run_loadLibrary_absent l name file ref hnone] at h
  rcases hrequire : (require l name file).run s with ⟨halt | m, required⟩
  · rw [hrequire] at h
    cases h
  · rw [hrequire] at h
    cases h
    exact ⟨m, required, rfl, rfl⟩

/-- What has been loaded is in the store. -/
theorem get?_of_loaded (h : (loadLibrary l name file ref).run s = (.ok library, after)) :
    (after.storeAt ref.id).get? name = some library := by
  rw [storeAt_of_loaded h, if_pos rfl, Dict.get?_put, if_pos rfl]

/-- Loading a dependency leaves every entry alone but for its own. -/
theorem sameEntry_loadLibrary {other : String} (hne : ¬ (ref.id = store ∧ other = name)) :
    SameEntry store name s ((loadLibrary l other file ref).run s).2 := by
  rcases hrun : (loadLibrary l other file ref).run s with ⟨halt | library, after⟩
  · have hsame : SameStores s after := libraries_of_stopped hrun
    rw [SameEntry, hsame.storeAt]
  · rw [SameEntry, storeAt_of_loaded hrun]
    split
    · next hstore =>
      have hname : name ≠ other := fun heq => hne ⟨hstore.symm, heq.symm⟩
      rw [Dict.get?_put, if_neg hname]
    · rfl

end

/-! ### From asking to asking -/

section
variable {library : Object} {a : Asking}

/-- The loader is asked to load the name from the store. -/
def Loads (store : Nat) (name : String) (a : Asking) : Prop :=
  ∃ ref, a.errand = .load ref ∧ ref.id = store ∧ a.name = name

/-- A loader that is asked for anything else leaves the entry alone. -/
theorem sameEntry_asked (h : ¬ Loads store name a) : SameEntry store name a.now a.after := by
  obtain ⟨l, other, file, errand, now⟩ := a
  cases errand with
  | require => exact keeps_require (R := SameEntry store name) l other file now
  | tryRequire => exact keeps_tryRequire (R := SameEntry store name) l other file now
  | load ref =>
    apply sameEntry_loadLibrary
    rintro ⟨hstore, hname⟩
    exact h ⟨ref, rfl, hstore, hname⟩

/-- A name that has a library keeps it, whatever loaders are asked. -/
theorem get?_of_asked (h : (a.now.storeAt store).get? name = some library) :
    (a.after.storeAt store).get? name = some library := by
  by_cases hloads : Loads store name a
  · obtain ⟨ref, herrand, rfl, rfl⟩ := hloads
    rw [Asking.after_of_load herrand, run_loadLibrary_found _ _ _ _ h]
    exact h
  · exact (sameEntry_asked hloads).trans h

/-- A name that has been loaded has what was given. -/
theorem get?_of_answered {ref : LibrariesRef} (herrand : a.errand = .load ref)
    (hname : a.name = name)
    (hrun : (loadLibrary a.loader name a.file ref).run a.now = (.ok library, after)) :
    (a.after.storeAt ref.id).get? name = some library := by
  rw [Asking.after_of_load herrand, hname, hrun]
  exact get?_of_loaded hrun

/-- A loader fails to load the name from the store, or is asked for something else. -/
def Misses (store : Nat) (name : String) (a : Asking) : Prop :=
  ∀ ref library after, a.errand = .load ref → ref.id = store → a.name = name →
    (loadLibrary a.loader a.name a.file ref).run a.now ≠ (.ok library, after)

/-- A name that has no library has none when a loader has missed it. -/
theorem get?_of_missed (h : (a.now.storeAt store).get? name = none)
    (hmiss : Misses store name a) : (a.after.storeAt store).get? name = none := by
  by_cases hloads : Loads store name a
  · obtain ⟨ref, herrand, hstore, hname⟩ := hloads
    rw [Asking.after_of_load herrand]
    rcases hrun : (loadLibrary a.loader a.name a.file ref).run a.now with ⟨halt | library, after⟩
    · have hsame : SameStores a.now after := libraries_of_stopped hrun
      rw [hsame.storeAt]
      exact h
    · exact absurd hrun (hmiss ref library after herrand hstore hname)
  · exact (sameEntry_asked hloads).trans h

/-- A name that has a library at the start has it at the end. -/
theorem get?_of_linked {askings : List Asking}
    (hlinked : Linked (SameEntry store name) s askings after)
    (h : (s.storeAt store).get? name = some library) :
    (after.storeAt store).get? name = some library := by
  induction askings generalizing s with
  | nil => exact Eq.trans hlinked h
  | cons a rest ih =>
    obtain ⟨hnow, hrest⟩ := hlinked
    exact ih hrest (get?_of_asked (hnow.trans h))

/-- A name that has none, and is missed by everybody, has none at the end. -/
theorem get?_of_linked_missed {askings : List Asking}
    (hlinked : Linked (SameEntry store name) s askings after)
    (h : (s.storeAt store).get? name = none) (hmiss : ∀ a ∈ askings, Misses store name a) :
    (after.storeAt store).get? name = none := by
  induction askings generalizing s with
  | nil => exact Eq.trans hlinked h
  | cons a rest ih =>
    obtain ⟨hnow, hrest⟩ := hlinked
    refine ih hrest ?_ fun a' hmem => hmiss a' (List.mem_cons_of_mem a hmem)
    exact get?_of_missed (hnow.trans h) (hmiss a List.mem_cons_self)

end

/-- A loader is asked to load the name from the store, which lacks it, and succeeds. -/
def Imports (store : Nat) (name : String) (a : Asking) : Prop :=
  ∃ ref library after, a.errand = .load ref ∧ ref.id = store ∧ a.name = name ∧
    (a.now.contents ref).get? name = none ∧
    (loadLibrary a.loader name a.file ref).run a.now = (.ok library, after)

/-- **One import is enough**: nobody imports what is in the store since another one has. -/
theorem pairwise_of_linked {askings : List Asking}
    (hlinked : Linked (SameEntry store name) s askings after) :
    askings.Pairwise fun a' a => Imports store name a' → ¬ Imports store name a := by
  induction askings generalizing s with
  | nil => exact .nil
  | cons a' rest ih =>
    refine .cons ?_ (ih hlinked.2)
    rintro a hmem ⟨ref', library, loaded, herrand', rfl, hname', -, hrun⟩
      ⟨ref, -, -, -, hstore, -, hnone, -⟩
    -- what the first one has stored is there when the second one is asked
    have hloaded := get?_of_answered herrand' hname' hrun
    obtain ⟨between, later, rfl⟩ := List.append_of_mem hmem
    have hheld := get?_of_linked hlinked.2.split.1 hloaded
    rw [← hstore] at hheld
    cases hnone.symm.trans hheld

/-- **A dependency is loaded once.**  A library that the store has is given, and nothing else
happens.  One that it lacks is required and stored, and a failure leaves every store as it was.

In a run whose uses spare the name, at most one loader that is asked to load it imports it.  Each
gives the library which the store had at the start, or which anybody has loaded since, and changes
nothing.  If nobody has, it requires the dependency, however often that has failed. -/
theorem library_loaded_once :
    (∀ s l name file ref library, (s.contents ref).get? name = some library →
      (loadLibrary l name file ref).run s = (.ok library, s)) ∧
    (∀ s l name file ref, (s.contents ref).get? name = none →
      (loadLibrary l name file ref).run s = (requireInto l name file ref).run s) ∧
    (∀ s l name file ref library after, (s.contents ref).get? name = none →
      (loadLibrary l name file ref).run s = (.ok library, after) →
        (∃ m required, (require l name file).run s = (.ok m, required) ∧ library = .module m) ∧
        after.contents ref = (s.contents ref).put name library) ∧
    (∀ s l name file ref halt after, (loadLibrary l name file ref).run s = (.error halt, after) →
      (require l name file).run s = (.error halt, after) ∧ after.libraries = s.libraries) ∧
    ∀ s requests store name, (∀ use ∈ usesAt store (allUses requests s), use.Spares name) →
      (allAskings requests s).Pairwise
        (fun a' a => Imports store name a' → ¬ Imports store name a) ∧
      ∀ earlier a later ref, allAskings requests s = earlier ++ a :: later →
        a.errand = .load ref → ref.id = store → a.name = name →
          (∀ library, (s.storeAt store).get? name = some library →
            (loadLibrary a.loader name a.file ref).run a.now = (.ok library, a.now)) ∧
          (∀ a' ref' library after, a' ∈ earlier → a'.errand = .load ref' → ref'.id = store →
            a'.name = name →
            (loadLibrary a'.loader name a'.file ref').run a'.now = (.ok library, after) →
              (loadLibrary a.loader name a.file ref).run a.now = (.ok library, a.now)) ∧
          ((s.storeAt store).get? name = none → (∀ a' ∈ earlier, Misses store name a') →
            (loadLibrary a.loader name a.file ref).run a.now =
              (requireInto a.loader name a.file ref).run a.now) := by
  refine ⟨?_, ?_, ?_, ?_, ?_⟩
  · exact fun s l name file ref library h => run_loadLibrary_found l name file ref h
  · exact fun s l name file ref h => run_loadLibrary_eq_requireInto h
  · intro s l name file ref library after hnone hrun
    exact ⟨required_of_loaded hnone hrun, (storeAt_of_loaded hrun ref.id).trans (if_pos rfl)⟩
  · intro s l name file ref halt after hrun
    exact ⟨run_require_of_stopped hrun, libraries_of_stopped hrun⟩
  · intro s requests store name hspares
    have hlinked := linked_sameEntry hspares
    refine ⟨pairwise_of_linked hlinked, ?_⟩
    intro earlier a later ref hasked herrand hstore hname
    rw [hasked] at hlinked
    obtain ⟨hbefore, -⟩ := hlinked.split
    have hfound : ∀ library, (a.now.storeAt store).get? name = some library →
        (loadLibrary a.loader name a.file ref).run a.now = (.ok library, a.now) := by
      intro library hheld
      rw [← hstore] at hheld
      exact run_loadLibrary_found _ _ _ _ hheld
    refine ⟨?_, ?_, ?_⟩
    · exact fun library hheld => hfound library (get?_of_linked hbefore hheld)
    · intro a' ref' library after hmem herrand' hstore' hname' hrun
      -- what it has loaded stays there through the askings between the two
      obtain ⟨first, between, rfl⟩ := List.append_of_mem hmem
      have hloaded := get?_of_answered herrand' hname' hrun
      rw [hstore'] at hloaded
      exact hfound library (get?_of_linked hbefore.split.2 hloaded)
    · intro hnone hmiss
      have habsent := get?_of_linked_missed hbefore hnone hmiss
      rw [← hstore] at habsent
      exact run_loadLibrary_eq_requireInto habsent

/-- A dependency is installed after it has been asked for, and is gone for good after that. -/
def passingRequests : List Request :=
  [⟨.loader "default_loader" (.loadLibrary "yaml" none "default_libs"), none⟩,
    ⟨.modules (.install "yaml" ⟨false, [], none⟩), none⟩,
    ⟨.loader "default_loader" (.loadLibrary "yaml" none "default_libs"), none⟩,
    ⟨.modules (.uninstall "yaml"), none⟩, ⟨.modules (.block "yaml"), none⟩,
    ⟨.loader "default_loader" (.loadLibrary "yaml" none "default_libs"), none⟩]

/-- The first load fails, which is not remembered; the second one imports the dependency; and the
third one is given the same module, although it cannot be required any more. -/
theorem yaml_loaded_once :
    ∃ missed loaded served : Asking,
      allAskings passingRequests (initial Dict.empty .still) = [missed, loaded, served] ∧
      ((loadLibrary missed.loader "yaml" missed.file .shared).run missed.now).1 =
        .error (.fault (.dependencyMissing ⟨"yaml", none, none, some (.undeclared "yaml")⟩)) ∧
      (loadLibrary loaded.loader "yaml" loaded.file .shared).run loaded.now =
        (requireInto loaded.loader "yaml" loaded.file .shared).run loaded.now ∧
      (loadLibrary served.loader "yaml" served.file .shared).run served.now =
        (.ok (.module ⟨"yaml", 1⟩), served.now) ∧
      ((require served.loader "yaml" served.file).run served.now).1 =
        .error (.fault (.dependencyMissing ⟨"yaml", none, none, some (.blocked "yaml")⟩)) := by
  have hspares : ∀ use ∈ usesAt 0 (allUses passingRequests (initial Dict.empty .still)),
      use.Spares "yaml" := by
    have huses : ∀ use ∈ usesAt 0 (allUses passingRequests (initial Dict.empty .still)),
        use ∈ [Use.loaded ⟨.default⟩ "yaml" (.module ⟨"yaml", 1⟩)] := by
      decide +kernel
    intro use hmem
    rw [List.mem_singleton.1 (huses use hmem)]
    trivial
  have hasked : (allAskings passingRequests (initial Dict.empty .still)).map (fun a =>
      (a.name, a.errand, ((loadLibrary a.loader "yaml" a.file .shared).run a.now).1,
        ((require a.loader "yaml" a.file).run a.now).1)) =
      [("yaml", .load .shared,
          .error (.fault (.dependencyMissing ⟨"yaml", none, none, some (.undeclared "yaml")⟩)),
          .error (.fault (.dependencyMissing ⟨"yaml", none, none, some (.undeclared "yaml")⟩))),
        ("yaml", .load .shared, .ok (.module ⟨"yaml", 1⟩), .ok ⟨"yaml", 1⟩),
        ("yaml", .load .shared, .ok (.module ⟨"yaml", 1⟩),
          .error (.fault (.dependencyMissing ⟨"yaml", none, none, some (.blocked "yaml")⟩)))] := by
    decide +kernel
  obtain ⟨missed, loaded, served, hlist⟩ : ∃ missed loaded served,
      allAskings passingRequests (initial Dict.empty .still) = [missed, loaded, served] :=
    List.length_eq_three.1 (by simpa using congrArg List.length hasked)
  rw [hlist] at hasked
  simp only [List.map_cons, List.map_nil, List.cons.injEq, Prod.mk.injEq] at hasked
  obtain ⟨⟨hmissed, herrand, hfailed, -⟩, ⟨hloaded, herrand', hok, -⟩,
    ⟨hserved, herrand'', -, hblocked⟩, -⟩ := hasked
  obtain ⟨-, -, -, -, hrun⟩ := library_loaded_once
  obtain ⟨-, heach⟩ := hrun _ passingRequests 0 "yaml" hspares
  obtain ⟨-, -, hanew⟩ := heach [missed] loaded [served] .shared hlist herrand' rfl hloaded
  obtain ⟨-, hgiven, -⟩ := heach [missed, loaded] served [] .shared hlist herrand'' rfl hserved
  refine ⟨missed, loaded, served, hlist, hfailed, hanew rfl ?_, ?_, hblocked⟩
  · intro a hmem ref library after hload _ hname hagain
    obtain rfl := List.mem_singleton.1 hmem
    obtain rfl : LibrariesRef.shared = ref := Errand.load.inj (herrand.symm.trans hload)
    rw [hname] at hagain
    rw [hagain] at hfailed
    cases hfailed
  · exact hgiven loaded .shared _ _ (by simp) herrand' rfl hloaded (Prod.ext hok rfl)

end AssetPipeline.Session
