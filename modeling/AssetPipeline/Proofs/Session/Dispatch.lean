/-
AssetPipeline/Proofs/Session/Dispatch.lean

Which engine a session gives for a file, and what it says when there is none.

The registries of a session are asked for a file by its location (`run_forFile`).  Whatever has
been registered before, the answer depends on the name in which the location ends, and of its
extension on the lower case: it is the class of the latest claimant.

Registries take any text for an extension.  `extension_handled_iff_plain` tells apart the reported
extensions that have files and those that have none, and `unknown_key_listed_iff` the locations
whose fault lists the key that it does not know.

Main statements: `file_given_by_extension`, `extension_handled_iff_plain`,
`unknown_key_listed_iff`.
-/
import AssetPipeline.Proofs.Engine.Dispatch
import AssetPipeline.Proofs.Engine.Withdrawal
import AssetPipeline.Proofs.Session.Engines
import AssetPipeline.Proofs.Session.Run

namespace AssetPipeline.Session

open Engines AssetPipeline.Path

variable {s : Session} {id : Nat} {on : String}

/-! ### Asking a registry -/

theorem run_cls (outcome : Except Fault EngineClass) (s : Session) :
    (do return .cls (← ofExcept outcome) : Run Object).run s =
      ((outcome.map Object.cls).mapError Halt.fault, s) := by
  cases outcome <;> rfl

/-- A registry that is asked for a file answers by its location, and nothing changes. -/
theorem run_forFile (hon : s.handles.get? on = some (.engines id)) (file : File) :
    (performEngines on (.forFile (some file))).run s =
      ((((s.registry id).forLocation file.location).map Object.cls).mapError Halt.fault, s) := by
  rw [performEngines, run_bind_ok (run_enginesAt hon)]
  exact run_cls ((s.registry id).forLocation file.location) s

/-- A session with an engine that claims one extension. -/
def claiming (ext : String) : Session :=
  (answer ⟨.engines "engines" (.register "engine" (.cls "Engine") [ext]), none⟩
    (answer ⟨.newEngines, some "engines"⟩
      (declareAll [⟨"Engine", "Engine", "Template", none, none, none⟩]
        (initial Dict.empty .still))).2).2

theorem reached_claiming (ext : String) : Reached (claiming ext) :=
  .answered _ (.answered _ (.start _ _ _))

/-! ### By extension -/

/-- **A file is given to the latest claimant of its extension.**  Claims and locations agree on
what an extension is: what the last part of the location that counts has behind its last dot, if
it has something on both sides of the dot.  Directories and slashes do not matter.  Nor does the
case of the extension, as far as lower case tells: two extensions are given alike by all registries
exactly if their lower case is the same.  This is so for an extension and its lower case, and for
extensions whose letters go to the same ones, unless a capital sigma ends a word in one of them. -/
theorem file_given_by_extension (h : Reached s) (id : Nat) :
    let e := s.registry id
    (∀ on file, s.handles.get? on = some (.engines id) →
      (performEngines on (.forFile (some file))).run s =
        (((e.forLocation file.location).map Object.cls).mapError Halt.fault, s)) ∧
    (∀ (location : String) (part : List Char),
      ((location.toList.splitOn '/').filter fun part => part ≠ [] ∧ part ≠ ['.']).getLast? =
        some part ↔ IsName part ∧ EndsIn part location.toList) ∧
    (∀ ext : List Char, '.' ∉ ext →
      Text.lowerCase (String.ofList ('.' :: ext)) = Extension.key ext ∧
      Extension.normalize (String.ofList ext) = Extension.key ext ∧
      Extension.normalize (String.ofList ('.' :: ext)) = Extension.key ext) ∧
    (∀ location, e.Dispatches location) ∧
    ((∀ name c extensions, (e.enter name c extensions).claims.keys =
        e.claims.keys ++
          (extensions.map Extension.normalize).eraseDups.filter (· ∉ e.claims.keys)) ∧
      ∀ name, (e.unregister name).claims.keys.Sublist e.claims.keys) ∧
    (∀ (part : List Char) (location location' : String), IsName part →
      EndsIn part location.toList → EndsIn part location'.toList →
      (e.forLocation location).toOption = (e.forLocation location').toOption) ∧
    (∀ (location location' : String) (ext ext' : List Char),
      HasSuffix location ext → HasSuffix location' ext' →
      ((∀ registry : Engines, registry.Reachable →
          registry.forLocation location = registry.forLocation location') ↔
        Text.lowerFrom false ext = Text.lowerFrom false ext')) ∧
    (∀ ext, Text.lowerFrom false (Text.lowerFrom false ext) = Text.lowerFrom false ext) ∧
    ∀ ext ext', Text.SameLetters ext ext' →
      Text.lowerFrom false ext = Text.lowerFrom false ext' := by
  intro e
  have hsound : Sound e := sound_of_reachable (reachable_of_reached h id)
  refine ⟨?_, ?_, ?_, hsound.dispatches, ⟨keys_enter e, keys_unregister_sublist e⟩, ?_, ?_, ?_, ?_⟩
  · intro on file hon
    exact run_forFile hon file
  · intro location part
    exact name?_parse_eq_some_iff
  · intro ext hdot
    have hhead : ext.head? ≠ some '.' := fun hhead => hdot (List.mem_of_head? hhead)
    exact ⟨rfl, Extension.normalize_ofList hhead, Extension.normalize_dot ext⟩
  · intro part location location' hname hends hends'
    exact hsound.toOption_forLocation_eq hname hends hends'
  · intro location location' ext ext' hext hext'
    exact forall_forLocation_eq_iff hext hext'
  · intro ext
    exact Text.lowerFrom_lowerFrom
  · intro ext ext' hsame
    exact hsame.lowerFrom_eq

/-- A capital I with a dot above, claimed without the dot of the extension, is found in a directory
with a dot in its name, behind slashes that do not count. -/
theorem class_of_turkish_suffix :
    Reached (claiming "İ") ∧ HasSuffix "a.b//./x.İ//." ['İ'] ∧
      ∃ c, ((claiming "İ").registry 2).get? "engine" = some c ∧
        ((claiming "İ").registry 2).forLocation "a.b//./x.İ//." = .ok c := by
  have hsuffix : HasSuffix "a.b//./x.İ//." ['İ'] := by
    refine ⟨by decide, by decide, ['x'], by decide, by decide, ?_⟩
    have hname : EndsIn ['x', '.', 'İ'] "a.b//./x.İ".toList := .inside "a.b//.".toList
    exact hname.slash.dot
  have hlast : (((claiming "İ").registry 2).claimants (Extension.key ['İ'])).getLast? =
      some "engine" := by
    decide +kernel
  obtain ⟨-, -, -, hdispatch, -⟩ := file_given_by_extension (reached_claiming "İ") 2
  exact ⟨reached_claiming _, hsuffix, (hdispatch _).claimed hsuffix hlast⟩

/-- In capitals, a sigma at the end of a word goes to another small letter, and to another key. -/
theorem capitals_lose_the_class :
    Reached (claiming ".ασ") ∧ HasSuffix "f.ασ" ['α', 'σ'] ∧ HasSuffix "f.ΑΣ" ['Α', 'Σ'] ∧
      ['α', 'σ'].map Text.lowerLetter = ['Α', 'Σ'].map Text.lowerLetter ∧
      (∃ c, ((claiming ".ασ").registry 2).forLocation "f.ασ" = .ok c) ∧
      ((claiming ".ασ").registry 2).forLocation "f.ΑΣ" =
        .error (.engineUnknown ".ας" [".ασ"]) := by
  have hsmall : HasSuffix "f.ασ" ['α', 'σ'] :=
    ⟨by decide, by decide, ['f'], by decide, by decide, .alone⟩
  have hcapital : HasSuffix "f.ΑΣ" ['Α', 'Σ'] :=
    ⟨by decide, by decide, ['f'], by decide, by decide, .alone⟩
  have hsound : Sound ((claiming ".ασ").registry 2) :=
    sound_of_reachable (reachable_of_reached (reached_claiming _) 2)
  have hlast : (((claiming ".ασ").registry 2).claimants (suffixKey "f.ασ")).getLast? =
      some "engine" := by
    decide +kernel
  obtain ⟨c, -, hok⟩ := hsound.forLocation_of_claimed hlast
  exact ⟨reached_claiming _, hsmall, hcapital, by decide +kernel, ⟨c, hok⟩, by decide +kernel⟩

/-! ### Extensions without files -/

/-- **The reported extensions that are handled are the plain ones.**  Every location under the key
of a reported extension is given to the engine that is reported, and a plain extension has such
locations: put behind any name, it is one.  No location has the key of any other extension, though
it has been claimed: an extension with a dot or a slash in it, or an empty one. -/
theorem extension_handled_iff_plain (h : Reached s) (id : Nat) :
    let e := s.registry id
    (∀ ext name, e.extensions.get? ext = some name →
      ((∃ location, suffixKey location = ext) ↔ Extension.Plain ext) ∧
      (Extension.Plain ext → suffixKey ("f" ++ ext) = ext) ∧
      ∃ c, e.get? name = some c ∧
        ∀ location, suffixKey location = ext → e.forLocation location = .ok c) ∧
    ∀ text, Extension.Plain (Extension.normalize text) ↔
      ∃ ext, Extension.IsExtension ext ∧ (text.toList = '.' :: ext ∨ text.toList = ext) := by
  intro e
  have hsound : Sound e := sound_of_reachable (reachable_of_reached h id)
  refine ⟨?_, ?_⟩
  · intro ext name hget
    have hkey : ext ∈ e.claims.keys := by
      rw [← hsound.keys_extensions, ← Dict.contains_iff, Dict.contains, hget]
      rfl
    have hnorm := hsound.normalize_key hkey
    rw [get?_extensions] at hget
    refine ⟨exists_suffixKey_eq_iff hnorm, fun hplain => suffixKey_of_plain hplain hnorm, ?_⟩
    -- the latest claimant has one class, whatever the location
    obtain ⟨c, hclass⟩ := Option.isSome_iff_exists.1
      (hsound.registered (List.mem_of_getLast? hget))
    have hc : e.get? name = some c := hclass
    refine ⟨c, hc, ?_⟩
    rintro location rfl
    obtain ⟨c', hc', hok⟩ := hsound.forLocation_of_claimed hget
    rw [hc, Option.some.injEq] at hc'
    rw [hc', hok]
  · intro text
    exact Extension.plain_normalize_iff

/-- The class for a file with a plain extension that is reported. -/
theorem class_of_plain_extension :
    ((claiming "MD").registry 2).extensions.get? ".md" = some "engine" ∧
      suffixKey "f.md" = ".md" := by
  have hget : ((claiming "MD").registry 2).extensions.get? ".md" = some "engine" := by
    decide +kernel
  have hplain : Extension.Plain ".md" := ⟨['m', 'd'], ⟨by decide, by decide, by decide⟩, by decide⟩
  obtain ⟨-, hkey, -⟩ :=
    (extension_handled_iff_plain (reached_claiming "MD") 2).1 ".md" "engine" hget
  exact ⟨hget, hkey hplain⟩

/-- A compound extension is reported as handled, and so is the empty one, but a file with it is not
given to the engine. -/
theorem no_class_for_compound_extension :
    Reached (claiming ".tar.gz") ∧
      ((claiming ".tar.gz").registry 2).extensions.get? ".tar.gz" = some "engine" ∧
      ((claiming ".tar.gz").registry 2).forLocation ("f" ++ ".tar.gz") =
        .error (.engineUnknown ".gz" [".tar.gz"]) ∧
      Reached (claiming "") ∧ ((claiming "").registry 2).extensions.get? "." = some "engine" ∧
      ((claiming "").registry 2).forLocation ("f" ++ ".") =
        .error (.engineUnknown "f." ["."]) :=
  ⟨reached_claiming _, by decide +kernel, by decide +kernel, reached_claiming _,
    by decide +kernel, by decide +kernel⟩

/-! ### Known unknown keys -/

/-- **Which faults list the key that they do not know.**  A name that is not known is not among the
known ones, nor among those suggested for it.  A location that is not known is among the known
extensions exactly if it has no suffix and is spelled like one of them, as every plain extension
is that is taken for a location; otherwise it is not suggested either. -/
theorem unknown_key_listed_iff (h : Reached s) (id : Nat) :
    let e := s.registry id
    (∀ name key known, e.resolve name = .error (.engineUnknown key known) →
      key = name ∧ known = e.classes.keys ∧ key ∉ known ∧
        key ∉ Similarity.closeNames key known) ∧
    (∀ location key known, e.forLocation location = .error (.engineUnknown key known) →
      (key ∈ known ↔ (¬ ∃ ext, HasSuffix location ext) ∧ location ∈ e.claims.keys) ∧
      (key ∉ known → key ∉ Similarity.closeNames key known)) ∧
    ∀ key, Extension.Plain key →
      e.forLocation key = .error (.engineUnknown key e.claims.keys) := by
  intro e
  have hsound : Sound e := sound_of_reachable (reachable_of_reached h id)
  refine ⟨?_, ?_, ?_⟩
  · intro name key known herr
    obtain ⟨hkey, hknown, hnot⟩ := not_mem_of_resolve herr
    exact ⟨hkey, hknown, hnot, fun hclose => hnot (Similarity.mem_of_mem_closeNames hclose)⟩
  · intro location key known herr
    refine ⟨hsound.mem_known_iff herr, ?_⟩
    intro hnot hclose
    exact hnot (Similarity.mem_of_mem_closeNames hclose)
  · intro key hplain
    exact hsound.forLocation_of_plain hplain

/-- The name of another engine is not known, and not listed. -/
theorem unknown_name_not_listed :
    ((claiming ".md").registry 2).resolve "engin" =
        .error (.engineUnknown "engin" ["engine"]) ∧
      "engin" ∉ Similarity.closeNames "engin" ["engine"] := by
  have herr : ((claiming ".md").registry 2).resolve "engin" =
      .error (.engineUnknown "engin" ["engine"]) := by
    decide +kernel
  obtain ⟨-, -, -, hclose⟩ := (unknown_key_listed_iff (reached_claiming ".md") 2).1 _ _ _ herr
  exact ⟨herr, hclose⟩

/-- A file that is named like a claimed extension is unknown, known, and suggested. -/
theorem unknown_key_suggested :
    Reached (claiming ".md") ∧
      ((claiming ".md").registry 2).forLocation ".md" = .error (.engineUnknown ".md" [".md"]) ∧
      Similarity.closeNames ".md" [".md"] = [".md"] ∧
      (Fault.engineUnknown ".md" [".md"]).message =
        "Unknown engine: '.md'. Did you mean: .md? Registered: .md" :=
  ⟨reached_claiming _, by decide +kernel, by decide +kernel, by decide +kernel⟩

end AssetPipeline.Session
