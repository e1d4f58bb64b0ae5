/-
AssetPipeline/Proofs/Session/StoreContent.lean

What the stores of libraries hold.

The uses of a store say what has been written to it since it was last emptied (`writesOf`).  A
dependency that is loaded counts as written under its name: if the store has it already, that
changes nothing.  So the content of a store is what these writes come to, one after the other.

Main statement: `stores_hold_their_writes` for whole sessions, together with who may write and
what is left alone.
-/
import AssetPipeline.Proofs.Dict
import AssetPipeline.Proofs.Session.StoreAddress

namespace AssetPipeline

/-! ### The writes of a store -/

/-- The writes to a store, after one more use. -/
def noteWrite (writes : List (String × Object)) : Use → List (String × Object)
  | .emptied => []
  | .written name library | .loaded _ name library => writes ++ [(name, library)]

/-- What has been written to a store, in order, since it was last emptied. -/
def writesOf (uses : List Use) : List (String × Object) := uses.foldl noteWrite []

variable {writes : List (String × Object)} {next : Dict String Object}

/-- One use makes of the content what it adds to the writes. -/
theorem UseStep.content {use : Use} (h : UseStep (Dict.ofList writes) use next) :
    next = Dict.ofList (noteWrite writes use) := by
  cases h with
  | emptied => rfl
  | written name library => exact (Dict.ofList_concat writes name library).symm
  | @found l name library hfound =>
    rw [noteWrite, Dict.ofList_concat, Dict.put_of_get? hfound]
  | @imported l name m hnone habs => exact (Dict.ofList_concat writes name (.module m)).symm

/-- So do uses in order. -/
theorem Replays.content {uses : List Use} (h : Replays (Dict.ofList writes) uses next) :
    next = Dict.ofList (uses.foldl noteWrite writes) := by
  induction uses generalizing writes with
  | nil => exact h
  | cons use rest ih =>
    obtain ⟨middle, hstep, hrest⟩ := h
    rw [hstep.content] at hrest
    exact ih hrest

namespace Session

/-- **Every store holds the writes addressed to it.** -/
theorem storeAt_afterAll (installed : Installed) (classes : List ClassDecl) (clock : Clock)
    (requests : List Request) (store : Nat) :
    (afterAll requests (declareAll classes (initial installed clock))).storeAt store =
      Dict.ofList (writesOf (usesAt store
        (allUses requests (declareAll classes (initial installed clock))))) := by
  have hreplay := replays_allUses requests (declareAll classes (initial installed clock)) store
  have hempty : (Dict.empty : Dict String Object) = Dict.ofList [] := rfl
  rw [storeAt_start, hempty] at hreplay
  exact hreplay.content

/-! ### What writes to a store -/

theorem SameStores.storeAt {s after : Session} (h : SameStores s after) (store : Nat) :
    after.storeAt store = s.storeAt store := by
  rw [Session.storeAt, Session.storeAt, h]

/-- A dependency that cannot be loaded has been required in vain. -/
theorem run_require_of_stopped {s after : Session} {l : Loader} {name : String}
    {file : Option File} {ref : LibrariesRef} {halt : Halt}
    (h : (loadLibrary l name file ref).run s = (.error halt, after)) :
    (require l name file).run s = (.error halt, after) := by
  rcases hheld : (s.contents ref).get? name with _ | library
  · rw [run_loadLibrary_absent l name file ref hheld] at h
    rcases hrequire : (require l name file).run s with ⟨halt' | m, after'⟩
    · rw [hrequire] at h
      cases h
      rfl
    · rw [hrequire] at h
      cases h
  · rw [run_loadLibrary_found l name file ref hheld] at h
    cases h

/-- It leaves all stores as they are. -/
theorem libraries_of_stopped {s after : Session} {l : Loader} {name : String}
    {file : Option File} {ref : LibrariesRef} {halt : Halt}
    (h : (loadLibrary l name file ref).run s = (.error halt, after)) :
    after.libraries = s.libraries := by
  have hsame : SameStores s ((require l name file).run s).2 := keeps_require l name file s
  rwa [run_require_of_stopped h] at hsame

section
variable {s after : Session} {ref : LibrariesRef} {name : String} {make : Run Object}
  {library : Object}

/-- A name that cannot be filled is left as making a library for it has left it. -/
theorem run_of_ensureLibrary_stopped {halt : Halt}
    (h : (ensureLibrary ref name make).run s = (.error halt, after)) :
    make.run s = (.error halt, after) := by
  rcases hheld : (s.contents ref).get? name with _ | library
  · rcases hmake : make.run s with ⟨halt' | library, after'⟩
    · rw [run_ensureLibrary_stopped hheld hmake] at h
      exact h
    · rw [run_ensureLibrary_made hheld hmake] at h
      cases h
  · rw [run_ensureLibrary_found hheld] at h
    cases h

/-- A name that has been filled had a library, or one has been made and stored. -/
theorem of_run_ensureLibrary (h : (ensureLibrary ref name make).run s = (.ok library, after)) :
    ((s.contents ref).get? name = some library ∧ after = s) ∨
      ((s.contents ref).get? name = none ∧
        ∃ made, make.run s = (.ok library, made) ∧ after = made.stored ref name library) := by
  rcases hheld : (s.contents ref).get? name with _ | held
  · rcases hmake : make.run s with ⟨halt | library', made⟩
    · rw [run_ensureLibrary_stopped hheld hmake] at h
      cases h
    · rw [run_ensureLibrary_made hheld hmake] at h
      cases h
      exact .inr ⟨rfl, made, rfl, rfl⟩
  · rw [run_ensureLibrary_found hheld] at h
    cases h
    exact .inl ⟨rfl, rfl⟩

theorem storeAt_stored (s : Session) (ref : LibrariesRef) (name : String) (library : Object)
    (store : Nat) : (s.stored ref name library).storeAt store =
      if store = ref.id then (s.storeAt store).put name library else s.storeAt store := by
  rw [storeAt_put (s := s) rfl store]
  split
  · next hstore =>
    rw [hstore]
    rfl
  · rfl

/-- Writing what the store has already changes nothing. -/
theorem storeAt_of_found (h : (s.contents ref).get? name = some library) (store : Nat) :
    s.storeAt store =
      if store = ref.id then (s.storeAt store).put name library else s.storeAt store := by
  split
  · next hstore =>
    rw [hstore]
    exact (Dict.put_of_get? h).symm
  · rfl

/-- **Filling a name writes what it gives**, after all that has been done to make it. -/
theorem storeAt_of_filled (h : (ensureLibrary ref name make).run s = (.ok library, after)) :
    ∃ made, (made = s ∨ make.run s = (.ok library, made)) ∧ ∀ store, after.storeAt store =
      if store = ref.id then (made.storeAt store).put name library else made.storeAt store := by
  rcases of_run_ensureLibrary h with ⟨hheld, rfl⟩ | ⟨-, made, hmake, rfl⟩
  · exact ⟨after, .inl rfl, storeAt_of_found hheld⟩
  · exact ⟨made, .inr hmake, storeAt_stored made ref name library⟩

/-- **Loading a dependency writes what it gives**, and nothing else. -/
theorem storeAt_of_loaded {l : Loader} {file : Option File}
    (h : (loadLibrary l name file ref).run s = (.ok library, after)) (store : Nat) :
    after.storeAt store =
      if store = ref.id then (s.storeAt store).put name library else s.storeAt store := by
  obtain ⟨made, rfl | hmade, hafter⟩ := storeAt_of_filled h
  · exact hafter store
  · -- what importing the dependency has done to the session, it has not done to a store
    have hsame : SameStores s ((Object.module <$> require l name file).run s).2 :=
      (keeps_require l name file).bind (fun _ => .pure _) s
    rw [hmade] at hsame
    rw [hafter store, hsame.storeAt]

end

/-- **What the stores of libraries hold.**  After the steps of a session, each store holds the
writes addressed to it since it was last emptied, the last one under each name, and lists the names
in the order of their first writes.  A step uses a store only where it asks for that itself, or
where a template bound to the store does; and a template is bound to the store that it was given, or
else to that of the nearest class which brings one, or else to the shared one.  A store that a step
does not ask for is left alone.

A library that is set, a name that is filled and a dependency that is loaded are written to their
store, and to no other one.  A dependency that cannot be loaded leaves all stores alone, and a name
that cannot be filled leaves them as making a library for it has left them. -/
theorem stores_hold_their_writes (installed : Installed) (classes : List ClassDecl) (clock : Clock)
    (requests : List Request) :
    (∀ store,
      let start := declareAll classes (initial installed clock)
      let writes := writesOf (usesAt store (allUses requests start))
      let content := (afterAll requests start).storeAt store
      content = Dict.ofList writes ∧ content.keys = (writes.map Prod.fst).eraseDups ∧
        ∀ name, content.get? name = writes.reverse.lookup name) ∧
    (∀ s step use, use ∈ stepUses step s → Addressed s step use) ∧
    (∀ s c file data given loader t after,
      (newTemplate c file data given loader).run s = (.ok t, after) →
        t.cls = c ∧ c.Bound given t.libraries) ∧
    (∀ s step store, (∀ use, ¬ Addressed s step (store, use)) →
      ((performStep step).run s).2.storeAt store = s.storeAt store) ∧
    (∀ s ref name library store, ((setLibrary ref name library).run s).2.storeAt store =
      if store = ref.id then (s.storeAt store).put name library else s.storeAt store) ∧
    (∀ s ref name make library after,
      (ensureLibrary ref name make).run s = (.ok library, after) →
        ∃ made, (made = s ∨ make.run s = (.ok library, made)) ∧ ∀ store, after.storeAt store =
          if store = ref.id then (made.storeAt store).put name library
          else made.storeAt store) ∧
    (∀ s l name file ref library after,
      (loadLibrary l name file ref).run s = (.ok library, after) → ∀ store, after.storeAt store =
        if store = ref.id then (s.storeAt store).put name library else s.storeAt store) ∧
    (∀ s l name file ref halt after,
      (loadLibrary l name file ref).run s = (.error halt, after) →
        after.libraries = s.libraries) ∧
    (∀ s ref name make halt after,
      (ensureLibrary ref name make).run s = (.error halt, after) →
        make.run s = (.error halt, after)) := by
  refine ⟨?_, ?_, ?_, ?_, ?_, ?_, ?_, ?_, ?_⟩
  · intro store start writes content
    have hcontent : content = Dict.ofList writes :=
      storeAt_afterAll installed classes clock requests store
    refine ⟨hcontent, ?_, ?_⟩
    · rw [hcontent, Dict.keys_ofList]
    · intro name
      rw [hcontent, Dict.get?_ofList]
  · exact fun s step use h => addressed_of_stepUses h
  · intro s c file data given loader t after h
    obtain ⟨hcls, hbound, -⟩ := of_run_newTemplate h
    exact ⟨hcls, hbound⟩
  · exact fun s step store h => storeAt_performStep h
  · exact fun s ref name library store => storeAt_stored s ref name library store
  · exact fun s ref name make library after h => storeAt_of_filled h
  · exact fun s l name file ref library after h store => storeAt_of_loaded h store
  · exact fun s l name file ref halt after h => libraries_of_stopped h
  · exact fun s ref name make halt after h => run_of_ensureLibrary_stopped h

/-- A class that brings a store, and one derived from it which writes to its store. -/
def siteClasses : List ClassDecl :=
  [⟨"Page", "Page", "Template", none, some "pages", none⟩,
    ⟨"Post", "Post", "Page", none, none,
      some [.setLibrary "site" (.token "site"), .loadLibrary "yaml"]⟩]

/-- The session in which these classes have been declared. -/
def siteSession : Session := declareAll siteClasses (initial Dict.empty .still)

/-- Two posts, the first one with a store of its own, and no `yaml` before the second one. -/
def siteRequests : List Request :=
  [⟨.newLibraries "LibraryRegistry", some "own"⟩,
    ⟨.newTemplate "Post" none (.text ⟨"", .shared⟩) (some "own") none, some "draft"⟩,
    ⟨.newTemplate "Post" none (.text ⟨"", .shared⟩) none none, some "post"⟩,
    ⟨.template "draft" (.evaluate .null none), none⟩,
    ⟨.modules (.install "yaml" ⟨false, [], none⟩), none⟩,
    ⟨.template "post" (.evaluate .null none), none⟩]

/-- The first post fails part-way, and its store has what has been written until then.  The second
one writes to the store of its base class, and nobody to the shared one. -/
theorem stores_of_two_posts :
    ((afterAll siteRequests siteSession).storeAt 4).keys = ["site"] ∧
      ((afterAll siteRequests siteSession).storeAt 1).keys = ["site", "yaml"] ∧
      ((afterAll siteRequests siteSession).storeAt 1).get? "yaml" = some (.module ⟨"yaml", 1⟩) ∧
      (afterAll siteRequests siteSession).storeAt 0 = Dict.empty ∧
      EngineClass.template.Bound none .shared ∧
      ((performStep (.modules (.unload "yaml"))).run siteSession).2.storeAt 1 =
        siteSession.storeAt 1 ∧
      ((ensureLibrary .shared "site" (pure (.token "site"))).run siteSession).2.storeAt 1 =
        siteSession.storeAt 1 ∧
      ((loadLibrary ⟨.default⟩ "yaml" none .shared).run
        (afterAll siteRequests siteSession)).2.storeAt 0 =
          Dict.ofList [("yaml", .module ⟨"yaml", 1⟩)] ∧
      ((loadLibrary ⟨.default⟩ "yaml" none .shared).run siteSession).2.libraries =
        siteSession.libraries ∧
      (raise (.absentKey "yaml") : Run Object).run siteSession =
        (.error (.fault (.absentKey "yaml")), siteSession) := by
  obtain ⟨hcontent, -, hbound, hleft, -, hfilled, hloaded, hload, hensure⟩ :=
    stores_hold_their_writes Dict.empty siteClasses .still siteRequests
  have hstopped : ((loadLibrary ⟨.default⟩ "yaml" none .shared).run siteSession).1 =
      .error (.fault (.dependencyMissing ⟨"yaml", none, none, some (.undeclared "yaml")⟩)) := by
    decide +kernel
  have hagain : ((loadLibrary ⟨.default⟩ "yaml" none .shared).run
      (afterAll siteRequests siteSession)).1 = .ok (.module ⟨"yaml", 1⟩) := by
    decide +kernel
  have hshared : (afterAll siteRequests siteSession).storeAt 0 = Dict.empty :=
    (hcontent 0).1.trans (by decide +kernel)
  refine ⟨?_, ?_, ?_, hshared, ?_, ?_, ?_, ?_, ?_, ?_⟩
  · exact (hcontent 4).2.1.trans (by decide +kernel)
  · exact (hcontent 1).2.1.trans (by decide +kernel)
  · exact ((hcontent 1).2.2 "yaml").trans (by decide +kernel)
  · exact (hbound siteSession .template none .empty none none _ _ rfl).2
  · exact hleft siteSession (.modules (.unload "yaml")) 1 fun use h => by cases h
  · obtain ⟨made, rfl | hmade, hafter⟩ := hfilled siteSession .shared "site"
      (pure (.token "site")) _ _ rfl
    · exact hafter 1
    · cases hmade
      exact hafter 1
  · have hwritten := hloaded _ ⟨.default⟩ "yaml" none .shared _ _ (Prod.ext hagain rfl) 0
    rw [hshared] at hwritten
    exact hwritten.trans (if_pos rfl)
  · exact hload siteSession ⟨.default⟩ "yaml" none .shared _ _ (Prod.ext hstopped rfl)
  · exact hensure siteSession .shared "yaml" (raise (.absentKey "yaml")) _ _ rfl

end Session

end AssetPipeline
