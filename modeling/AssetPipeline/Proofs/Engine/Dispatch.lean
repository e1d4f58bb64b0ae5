/-
AssetPipeline/Proofs/Engine/Dispatch.lean

Which engine a location is given to.

An extension is spelled in two ways: claimed with a dot or without one, and found behind the last
dot of a name.  Both come to the same key (`Extension.key`), because a dot in front changes the
lower case of nothing behind it.  So the class for a location is that of the latest claimant of
the key of its extension (`Sound.dispatches`), and nothing else about the location matters.  The
key does matter: a registry with one claim tells any two of them apart
(`forall_forLocation_eq_iff`).

Claims take any text for an extension, while only some texts are the key of a location: a dot,
and behind it something without dots and slashes (`exists_suffixKey_eq_iff`).  Other extensions
can be claimed, but nothing is ever looked up under them.

A location without a suffix stands for itself in the fault that says so.  As nothing keeps it from
being spelled like a claimed extension, that fault may list the very key that it does not know
(`Sound.mem_known_iff`).
-/
import AssetPipeline.Proofs.Engine.Soundness
import AssetPipeline.Proofs.Path
import AssetPipeline.Proofs.Text.Letters

namespace AssetPipeline

/-! ### Keys of extensions -/

namespace Extension

open Text

variable {ext : List Char} {text : String}

/-- The key under which an extension, written without its dot, is looked up. -/
def key (ext : List Char) : String := lowerCase (String.ofList ('.' :: ext))

theorem toList_key (ext : List Char) : (key ext).toList = '.' :: lowerFrom false ext := by
  rw [key, lowerCase, String.toList_ofList, String.toList_ofList, lowerFrom_dot]

/-- Claimed with its dot, an extension goes by its key. -/
theorem normalize_dot (ext : List Char) : normalize (String.ofList ('.' :: ext)) = key ext := by
  rw [← String.toList_inj, toList_key, normalize, String.toList_ofList, String.toList_ofList,
    lowerFrom_dot]
  rfl

/-- Claimed without its dot, an extension goes by its key as well. -/
theorem normalize_ofList (h : ext.head? ≠ some '.') : normalize (String.ofList ext) = key ext := by
  have hlower : (lowerFrom false ext).head? ≠ some '.' := fun hdot =>
    h (head?_lowerFrom_sign rfl hdot)
  rw [← String.toList_inj, toList_key, normalize, String.toList_ofList, String.toList_ofList,
    dotted, if_neg hlower]

/-- Extensions have the same key exactly if they have the same lower case. -/
theorem key_eq_iff {ext' : List Char} :
    key ext = key ext' ↔ lowerFrom false ext = lowerFrom false ext' := by
  rw [← String.toList_inj, toList_key, toList_key, List.cons.injEq, eq_self, true_and]

/-- Whatever is claimed has the key of what is behind its leading dot, if it has one. -/
theorem exists_normalize_eq_key (text : String) :
    ∃ ext, (text.toList = '.' :: ext ∨ text.toList = ext) ∧ normalize text = key ext := by
  by_cases hdot : text.toList.head? = some '.'
  · obtain ⟨ext, htext⟩ := List.head?_eq_some_iff.1 hdot
    refine ⟨ext, Or.inl htext, ?_⟩
    rw [← normalize_dot, ← htext, String.ofList_toList]
  · refine ⟨text.toList, Or.inr rfl, ?_⟩
    rw [← normalize_ofList hdot, String.ofList_toList]

/-- What can stand behind the last dot of a name. -/
structure IsExtension (ext : List Char) : Prop where
  nonempty : ext ≠ []
  dotless : '.' ∉ ext
  slashless : '/' ∉ ext

/-- The text is a dot and an extension behind it. -/
def Plain (text : String) : Prop := ∃ ext, IsExtension ext ∧ text.toList = '.' :: ext

/-- Lower case makes no text an extension, and keeps none from being one. -/
theorem plain_key_iff : Plain (key ext) ↔ IsExtension ext := by
  have hdot : '.' ∈ lowerFrom false ext ↔ '.' ∈ ext := mem_lowerFrom_sign rfl
  have hslash : '/' ∈ lowerFrom false ext ↔ '/' ∈ ext := mem_lowerFrom_sign rfl
  constructor
  · rintro ⟨lower, hlower, hkey⟩
    rw [toList_key, List.cons.injEq] at hkey
    obtain ⟨-, rfl⟩ := hkey
    refine ⟨?_, fun h => hlower.dotless (hdot.2 h), fun h => hlower.slashless (hslash.2 h)⟩
    rintro rfl
    exact hlower.nonempty rfl
  · intro h
    refine ⟨lowerFrom false ext, ⟨?_, ?_, ?_⟩, toList_key ext⟩
    · exact fun hnil => h.nonempty (lowerFrom_eq_nil_iff.1 hnil)
    · exact fun hmem => h.dotless (hdot.1 hmem)
    · exact fun hmem => h.slashless (hslash.1 hmem)

/-- **What may be claimed to be found again**: an extension, with its dot or without. -/
theorem plain_normalize_iff :
    Plain (normalize text) ↔
      ∃ ext, IsExtension ext ∧ (text.toList = '.' :: ext ∨ text.toList = ext) := by
  constructor
  · intro h
    obtain ⟨ext, htext, hkey⟩ := exists_normalize_eq_key text
    rw [hkey, plain_key_iff] at h
    exact ⟨ext, h, htext⟩
  · rintro ⟨ext, hext, htext⟩
    have hkey : normalize text = key ext := by
      rw [← String.ofList_toList (s := text)]
      rcases htext with htext | htext
      · rw [htext, normalize_dot]
      · rw [htext, normalize_ofList]
        intro hhead
        exact hext.dotless (List.mem_of_head? hhead)
    rw [hkey]
    exact plain_key_iff.2 hext

end Extension

namespace Engines

open AssetPipeline.Path (HasSuffix EndsIn IsName)

variable {e : Engines} {name key location location' : String} {c : EngineClass}
  {known : List String} {ext ext' : List Char}

/-! ### Keys of locations -/

theorem suffixKey_of_hasSuffix (h : HasSuffix location ext) :
    suffixKey location = Extension.key ext := by
  rw [suffixKey, Path.suffix_of_hasSuffix h]
  rfl

theorem suffixKey_eq_empty_iff : suffixKey location = "" ↔ ¬ ∃ ext, HasSuffix location ext := by
  rw [← Path.suffix_eq_empty_iff, suffixKey, Text.lowerCase]
  rw [← String.toList_inj, ← String.toList_inj, String.toList_ofList]
  exact Text.lowerFrom_eq_nil_iff

theorem isExtension_of_hasSuffix (h : HasSuffix location ext) : Extension.IsExtension ext := by
  obtain ⟨stem, -, hslash, -⟩ := h.ends
  refine ⟨h.nonempty, h.dotless, ?_⟩
  intro hmem
  exact hslash (List.mem_append_right stem (List.mem_cons_of_mem '.' hmem))

/-- A name with an extension, alone. -/
theorem hasSuffix_of_isExtension (h : Extension.IsExtension ext) (hkey : key.toList = '.' :: ext) :
    HasSuffix ("f" ++ key) ext := by
  refine ⟨h.nonempty, h.dotless, ['f'], by simp, ?_, ?_⟩
  · simpa using h.slashless
  · rw [String.toList_append, hkey]
    exact .alone

/-- A plain extension in its one spelling is the key of a location. -/
theorem suffixKey_of_plain (hplain : Extension.Plain key) (hnorm : Extension.normalize key = key) :
    suffixKey ("f" ++ key) = key := by
  obtain ⟨ext, hext, hkey⟩ := hplain
  have hnormal : Extension.normalize key = Extension.key ext := by
    rw [← Extension.normalize_dot, ← hkey, String.ofList_toList]
  rw [suffixKey_of_hasSuffix (hasSuffix_of_isExtension hext hkey), ← hnormal, hnorm]

/-- **Of the extensions in their one spelling, the plain ones are the keys of locations.** -/
theorem exists_suffixKey_eq_iff (hnorm : Extension.normalize key = key) :
    (∃ location, suffixKey location = key) ↔ Extension.Plain key := by
  constructor
  · rintro ⟨location, rfl⟩
    have hsuffix : ∃ ext, HasSuffix location ext := by
      -- an extension in its one spelling begins with a dot
      have hhead := Extension.head?_normalize (suffixKey location)
      rw [hnorm] at hhead
      by_cases hnone : suffixKey location = ""
      · rw [hnone, String.toList_empty] at hhead
        cases hhead
      · rwa [suffixKey_eq_empty_iff, not_not] at hnone
    obtain ⟨ext, hext⟩ := hsuffix
    rw [suffixKey_of_hasSuffix hext, Extension.plain_key_iff]
    exact isExtension_of_hasSuffix hext
  · intro hplain
    exact ⟨"f" ++ key, suffixKey_of_plain hplain hnorm⟩

/-! ### The choice of a class -/

/-- What is answered for a location. -/
structure Dispatches (e : Engines) (location : String) : Prop where
  /-- The latest claimant of the key of the extension has a class, and that is the answer. -/
  claimed : ∀ {ext name}, HasSuffix location ext →
    (e.claimants (Extension.key ext)).getLast? = some name →
    ∃ c, e.get? name = some c ∧ e.forLocation location = .ok c
  /-- A key without claims is not known. -/
  unclaimed : ∀ {ext}, HasSuffix location ext → e.claimants (Extension.key ext) = [] →
    e.forLocation location = .error (.engineUnknown (Extension.key ext) e.claims.keys)
  /-- A location without an extension is not known. -/
  bare : (¬ ∃ ext, HasSuffix location ext) →
    e.forLocation location = .error (.engineUnknown location e.claims.keys)

/-- Who handles an extension is the latest of the claimants. -/
theorem getLast?_claims (key : String) :
    (e.claims.get? key).bind List.getLast? = (e.claimants key).getLast? := by
  rw [claimants, Dict.getD]
  cases e.claims.get? key <;> rfl

theorem forLocation_of_unclaimed (h : e.claimants (suffixKey location) = []) :
    e.forLocation location =
      .error (.engineUnknown (if suffixKey location = "" then location else suffixKey location)
        e.claims.keys) := by
  simp only [forLocation, getLast?_claims, h, List.getLast?_nil]

theorem forLocation_congr (h : suffixKey location = suffixKey location')
    (hne : suffixKey location ≠ "") : e.forLocation location = e.forLocation location' := by
  rw [h] at hne
  simp only [forLocation, h, if_neg hne]

namespace Sound

theorem forLocation_of_claimed (h : Sound e)
    (hlast : (e.claimants (suffixKey location)).getLast? = some name) :
    ∃ c, e.get? name = some c ∧ e.forLocation location = .ok c := by
  have hmem : name ∈ e.claimants (suffixKey location) := List.mem_of_getLast? hlast
  obtain ⟨c, hclass⟩ := Option.isSome_iff_exists.1 (h.registered hmem)
  have hc : e.get? name = some c := hclass
  refine ⟨c, hc, ?_⟩
  simp only [forLocation, getLast?_claims, hlast, resolve, hc]

/-- Nobody claims the empty text. -/
theorem claimants_empty (h : Sound e) : e.claimants "" = [] := by
  rw [claimants, Dict.getD, Dict.get?_eq_none_iff.2]
  · rfl
  · intro hkey
    have hhead := h.head?_key hkey
    rw [String.toList_empty] at hhead
    cases hhead

/-- **A location is given to the latest claimant of its extension.** -/
theorem dispatches (h : Sound e) (location : String) : e.Dispatches location where
  claimed {ext name} hext hlast := by
    rw [← suffixKey_of_hasSuffix hext] at hlast
    exact h.forLocation_of_claimed hlast
  unclaimed {ext} hext hnone := by
    have hkey := suffixKey_of_hasSuffix hext
    have hne : suffixKey location ≠ "" := fun hempty => suffixKey_eq_empty_iff.1 hempty ⟨ext, hext⟩
    rw [forLocation_of_unclaimed (hkey ▸ hnone), if_neg hne, hkey]
  bare hnone := by
    have hempty := suffixKey_eq_empty_iff.2 hnone
    have hunclaimed : e.claimants (suffixKey location) = [] := by rw [hempty, h.claimants_empty]
    rw [forLocation_of_unclaimed hunclaimed, if_pos hempty]

/-- Locations that end in the same name are given to the same engine. -/
theorem toOption_forLocation_eq {part : List Char} (h : Sound e) (hname : IsName part)
    (hends : EndsIn part location.toList) (hends' : EndsIn part location'.toList) :
    (e.forLocation location).toOption = (e.forLocation location').toOption := by
  have hkey : suffixKey location = suffixKey location' := by
    have hlast := Path.name?_parse_eq_some_iff.2 ⟨hname, hends⟩
    have hlast' := Path.name?_parse_eq_some_iff.2 ⟨hname, hends'⟩
    rw [suffixKey, suffixKey, Path.suffix, Path.suffix, hlast, hlast']
  by_cases hempty : suffixKey location = ""
  · -- neither has a suffix, and the two faults differ in the location only
    rw [(h.dispatches location).bare (suffixKey_eq_empty_iff.1 hempty),
      (h.dispatches location').bare (suffixKey_eq_empty_iff.1 (hkey ▸ hempty))]
    rfl
  · rw [forLocation_congr hkey hempty]

end Sound

/-- Locations whose extensions have the same lower case are given to the same engine. -/
theorem forLocation_eq_of_hasSuffix (hext : HasSuffix location ext)
    (hext' : HasSuffix location' ext')
    (h : Text.lowerFrom false ext = Text.lowerFrom false ext') :
    e.forLocation location = e.forLocation location' := by
  refine forLocation_congr ?_ ?_
  · rw [suffixKey_of_hasSuffix hext, suffixKey_of_hasSuffix hext', Extension.key_eq_iff.2 h]
  · exact fun hempty => suffixKey_eq_empty_iff.1 hempty ⟨ext, hext⟩

/-! ### Registries with one claim -/

/-- The registry in which one engine claims one extension. -/
def claimed (c : EngineClass) (ext : List Char) : Engines :=
  empty.enter "engine" c [String.ofList ext]

theorem reachable_claimed (hc : c.isEngine = true) (ext : List Char) :
    Reachable (claimed c ext) := by
  have hacc : empty.accept "engine" (.cls c) = .ok c := by
    rw [accept, if_pos hc]
    rfl
  exact .entered _ .empty hacc

/-- Nothing but its extension has claims there. -/
theorem claimants_claimed (hdot : '.' ∉ ext) (ext' : List Char) :
    (claimed c ext).claimants (Extension.key ext') =
      if Extension.key ext' = Extension.key ext then ["engine"] else [] := by
  have hhead : ext.head? ≠ some '.' := fun hhead => hdot (List.mem_of_head? hhead)
  have hnone : empty.claimants (Extension.key ext') = [] := rfl
  rw [claimed, claimants_enter (hnone ▸ List.nodup_nil), hnone, List.map_singleton,
    Extension.normalize_ofList hhead]
  simp only [List.mem_singleton]
  rfl

/-- **Locations are given to the same engines by all registries exactly if their extensions have the
same lower case.** -/
theorem forall_forLocation_eq_iff (hext : HasSuffix location ext)
    (hext' : HasSuffix location' ext') :
    (∀ e, Reachable e → e.forLocation location = e.forLocation location') ↔
      Text.lowerFrom false ext = Text.lowerFrom false ext' := by
  constructor
  · intro hall
    -- the registry in which only the first extension is claimed tells any other one from it
    have hreach : Reachable (claimed .template ext) := reachable_claimed rfl ext
    have hsound : Sound (claimed .template ext) := sound_of_reachable hreach
    have hlast : ((claimed .template ext).claimants (Extension.key ext)).getLast? =
        some "engine" := by
      rw [claimants_claimed hext.dotless, if_pos rfl]
      rfl
    obtain ⟨c, -, hok⟩ := (hsound.dispatches location).claimed hext hlast
    rw [hall _ hreach] at hok
    by_cases hkey : Extension.key ext = Extension.key ext'
    · exact Extension.key_eq_iff.1 hkey
    · have hnone : (claimed .template ext).claimants (Extension.key ext') = [] := by
        rw [claimants_claimed hext.dotless, if_neg (Ne.symm hkey)]
      rw [(hsound.dispatches location').unclaimed hext' hnone] at hok
      cases hok
  · intro hlower e _
    exact forLocation_eq_of_hasSuffix hext hext' hlower

/-! ### Unknown keys -/

/-- A name that is not known is not among the known ones. -/
theorem not_mem_of_resolve (h : e.resolve name = .error (.engineUnknown key known)) :
    key = name ∧ known = e.classes.keys ∧ key ∉ known := by
  unfold resolve at h
  split at h
  · cases h
  · next hnone =>
    cases h
    exact ⟨rfl, rfl, Dict.get?_eq_none_iff.1 hnone⟩

namespace Sound

/-- **A location that is not known is among the known ones exactly if it has no suffix and is
spelled like one of them.** -/
theorem mem_known_iff (h : Sound e)
    (herr : e.forLocation location = .error (.engineUnknown key known)) :
    key ∈ known ↔ (¬ ∃ ext, HasSuffix location ext) ∧ location ∈ e.claims.keys := by
  rcases hlast : (e.claimants (suffixKey location)).getLast? with _ | name
  · have hnone := List.getLast?_eq_none_iff.1 hlast
    rw [forLocation_of_unclaimed hnone, Except.error.injEq, Fault.engineUnknown.injEq] at herr
    obtain ⟨rfl, rfl⟩ := herr
    by_cases hempty : suffixKey location = ""
    · rw [if_pos hempty]
      exact ⟨fun hmem => ⟨suffixKey_eq_empty_iff.1 hempty, hmem⟩, And.right⟩
    · -- an extension with an entry has claims, so this key has no entry
      rw [if_neg hempty, ← suffixKey_eq_empty_iff]
      constructor
      · intro hmem
        obtain ⟨names, hnames⟩ := exists_of_mem_keys hmem
        rw [claimants_of_get? hnames] at hnone
        exact absurd hnone (h.claimed hnames)
      · rintro ⟨hno, -⟩
        exact absurd hno hempty
  · obtain ⟨c, -, hok⟩ := h.forLocation_of_claimed hlast
    rw [hok] at herr
    cases herr

/-- A plain extension has no suffix as a location, so it is not known. -/
theorem forLocation_of_plain (h : Sound e) (hplain : Extension.Plain key) :
    e.forLocation key = .error (.engineUnknown key e.claims.keys) := by
  obtain ⟨ext, hext, hkey⟩ := hplain
  exact (h.dispatches key).bare
    (Path.not_hasSuffix_of_leading_dot hkey hext.dotless hext.slashless)

end Sound

end Engines

end AssetPipeline
