/-
AssetPipeline/Proofs/Session/Refusal.lean

Asking for names that mean nothing.

A name that the loader refuses is refused whichever way it is asked for: no body is run, and
neither the cache nor any store nor the log shows a trace of it (`Refuses`).  The exception is a
store that has the name already, because then nothing is imported.

Where no anchor is configured, the fault says for which file the name was required.  Where the
anchor is the empty text, which every configuration may have, it does not.

Main statement: `names_refused_up_front`, by the fields that a configuration is read from.
-/
import AssetPipeline.Proofs.Config
import AssetPipeline.Proofs.Loader.Refusal
import AssetPipeline.Proofs.Session.StoreUse
import AssetPipeline.Session.Conduct

namespace AssetPipeline

open ModuleName

/-! ### Anchors as they are configured -/

namespace Config

variable {fields : List (String × Json)} {config : Config} {package : String}

/-- The anchor of a configuration that can be read is a text, null, or absent. -/
theorem anchor_of_read (h : Config.read (.object fields) = .ok config) :
    (config.anchor = none ∧
        (fields.lookup "package" = none ∨ fields.lookup "package" = some .null)) ∨
      ∃ package, config.anchor = some package ∧ fields.lookup "package" = some (.str package) := by
  obtain ⟨rfl, hviolations⟩ := of_read h
  rcases hpackage : fields.lookup "package" with _ | value
  · exact .inl ⟨by simp [ofFields, hpackage], .inl rfl⟩
  · cases value with
    | null => exact .inl ⟨by simp [ofFields, hpackage, readAnchor], .inr rfl⟩
    | str package => exact .inr ⟨package, by simp [ofFields, hpackage, readAnchor], rfl⟩
    | _ => simp [violations, hpackage, anchorViolations] at hviolations

/-- There is no anchor if the field is absent or null. -/
theorem anchor_eq_none_iff (h : Config.read (.object fields) = .ok config) :
    config.anchor = none ↔
      fields.lookup "package" = none ∨ fields.lookup "package" = some .null := by
  rcases anchor_of_read h with ⟨hanchor, hfield⟩ | ⟨package, hanchor, hfield⟩
  · exact iff_of_true hanchor hfield
  · simp [hanchor, hfield]

/-- The anchor is the text in the field. -/
theorem anchor_eq_some_iff (h : Config.read (.object fields) = .ok config) :
    config.anchor = some package ↔ fields.lookup "package" = some (.str package) := by
  rcases anchor_of_read h with ⟨hanchor, hfield⟩ | ⟨package', hanchor, hfield⟩
  · rcases hfield with hfield | hfield <;> simp [hanchor, hfield]
  · simp [hanchor, hfield]

end Config

namespace Session

variable {s : Session} {l : Loader} {name : String} {file : Option File} {fault : Fault}

/-! ### Refusals -/

/-- Whichever way the name is asked for, it ends with this fault, and the session is as before. -/
structure Refuses (s : Session) (l : Loader) (name : String) (file : Option File)
    (fault : Fault) : Prop where
  require : (require l name file).run s = (.error (.fault fault), s)
  tryRequire : (tryRequire l name file).run s = (.error (.fault fault), s)
  loadLibrary : ∀ ref, (s.contents ref).get? name = none →
    (loadLibrary l name file ref).run s = (.error (.fault fault), s)

/-- What the loader refuses is refused by every session. -/
theorem refuses_of_refused (h : l.Refused file name fault) : s.Refuses l name file fault := by
  obtain ⟨hrequire, htry⟩ := run_refused (Loader.acquire_of_refused h) h.ne_report
  refine ⟨hrequire, htry, fun ref hnone => ?_⟩
  rw [run_loadLibrary_absent l name file ref hnone, hrequire]

/-- **Names that mean nothing are refused up front.**  An empty name, or a relative one without an
anchor, is a value that will not do; the fault says for which file, and the session is as before.
With the empty text for an anchor, a relative name is refused as well, but by the import: the fault
is of another kind, and it is the same for all files. -/
theorem names_refused_up_front (fields : List (String × Json)) (config : Config)
    (hread : Config.read (.object fields) = .ok config) (s : Session) (name : String) :
    let field := fields.lookup "package"
    (name = "" ∨ isRelative name = true ∧ (field = none ∨ field = some .null) →
      ∀ file, ∃ fault, s.Refuses ⟨config⟩ name file fault ∧ fault.kind = "ValueError" ∧
        fault.NamesFile file) ∧
    (isRelative name = true ∧ field = some (.str "") →
      ∃ fault, (∀ file, s.Refuses ⟨config⟩ name file fault) ∧ fault.kind = "TypeError") := by
  intro field
  refine ⟨?_, ?_⟩
  · intro hname file
    have hrefused : ∃ fault, Loader.Refused ⟨config⟩ file name fault ∧
        (name = "" ∨ config.anchor = none) := by
      rcases hname with rfl | ⟨hrel, hfield⟩
      · exact ⟨_, .empty, .inl rfl⟩
      · have hanchor := (Config.anchor_eq_none_iff hread).2 hfield
        exact ⟨_, .unanchored hrel hanchor, .inr hanchor⟩
    obtain ⟨fault, hrefused, hself⟩ := hrefused
    exact ⟨fault, refuses_of_refused hrefused, hrefused.namesFile hself⟩
  · rintro ⟨hrel, hfield⟩
    have hanchor : config.anchor = some "" := (Config.anchor_eq_some_iff hread).2 hfield
    exact ⟨.relativeImport name, fun file => refuses_of_refused (.hollow hrel hanchor), rfl⟩

/-- Without an anchor, a page cannot require a relative name. -/
theorem page_without_anchor :
    ∃ fault, (initial Dict.empty .still).Refuses ⟨⟨Dict.empty, none⟩⟩ ".markdown"
        (some (.text "page.md")) fault ∧
      fault.kind = "ValueError" ∧ fault.NamesFile (some (.text "page.md")) :=
  (names_refused_up_front [("package", .null)] ⟨Dict.empty, none⟩ rfl (initial Dict.empty .still)
    ".markdown").1 (.inr ⟨by decide, .inr rfl⟩) (some (.text "page.md"))

/-- With the empty text for an anchor, it is not told which page required it. -/
theorem page_with_empty_anchor :
    Config.read (.object [("package", .str "")]) = .ok ⟨Dict.empty, some ""⟩ ∧
      isRelative ".markdown" = true ∧
      (require ⟨⟨Dict.empty, some ""⟩⟩ ".markdown" (some (.text "page.md"))).run
          (initial Dict.empty .still) =
        (.error (.fault (.relativeImport ".markdown")), initial Dict.empty .still) ∧
      (Fault.relativeImport ".markdown").kind = "TypeError" ∧
      (Fault.relativeImport ".markdown").message =
        "the 'package' argument is required to perform a relative import for '.markdown'" :=
  ⟨rfl, by decide, rfl, rfl, by decide +kernel⟩

end Session

end AssetPipeline
