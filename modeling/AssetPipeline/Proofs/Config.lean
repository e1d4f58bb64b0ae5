/-
AssetPipeline/Proofs/Config.lean

Reading a configuration follows its schema.

The schema says which fields an object may have and what has to stand in each (`Fits`); whatever
else the object has departs from it in one of four ways (`Departs`).  Reading takes exactly the
objects that fit, and writing the configuration out again gives the fields as they were, with the
defaults for those that are absent.  For any other object it reports every departure, in an order
that the object determines (`Precedes`), each at a place of its own.

Main statements: `mem_violations_iff` for what is reported, `pairwise_violations` for the order,
`read_toJson` for configurations that are written out, and `reading_follows_schema`.
-/
import AssetPipeline.Config
import AssetPipeline.Proofs.Dict

namespace AssetPipeline

/-! ### Objects as they are written -/

namespace Json

mutual
/-- In every object of the value, each name is there at most once. -/
def WellFormed : Json → Prop
  | .array items => WellFormedItems items
  | .object fields => (fields.map Prod.fst).Nodup ∧ WellFormedFields fields
  | _ => True
/-- Every item is well-formed. -/
def WellFormedItems : List Json → Prop
  | [] => True
  | item :: rest => item.WellFormed ∧ WellFormedItems rest
/-- What stands in every field is well-formed. -/
def WellFormedFields : List (String × Json) → Prop
  | [] => True
  | (_, value) :: rest => value.WellFormed ∧ WellFormedFields rest
end

variable {fields : List (String × Json)} {name : String} {value : Json}

theorem WellFormedFields.of_mem (h : WellFormedFields fields) (hmem : (name, value) ∈ fields) :
    value.WellFormed := by
  induction fields with
  | nil => cases hmem
  | cons field rest ih =>
    obtain ⟨hfirst, hrest⟩ := h
    rcases List.mem_cons.1 hmem with rfl | hmem
    · exact hfirst
    · exact ih hrest hmem

/-- In an object without repeats, looking up a name finds its only field. -/
theorem lookup_eq_some_iff (h : (fields.map Prod.fst).Nodup) :
    fields.lookup name = some value ↔ (name, value) ∈ fields :=
  (Dict.mem_entries_iff (d := ⟨fields, h⟩) (e := (name, value))).symm

end Json

namespace Config

variable {fields hints : List (String × Json)} {name : String} {value : Json} {config : Config}
  {v w : Violation} {found : List Violation}

/-! ### The schema -/

/-- The field is one that the schema allows, and holds what it allows there. -/
inductive Fits (field : String × Json) : Prop
  | hints {hints : List (String × Json)} : field.1 = "install_hints" → field.2 = .object hints →
      (∀ hint ∈ hints, ∃ text, hint.2 = .str text) → Fits field
  | anchor {package : String} : field.1 = "package" → field.2 = .str package → Fits field
  | noAnchor : field.1 = "package" → field.2 = .null → Fits field

/-- The ways in which an object departs from the schema. -/
inductive Departs (fields : List (String × Json)) : Violation → Prop
  | hintsNotAnObject {value : Json} : ("install_hints", value) ∈ fields →
      (∀ hints, value ≠ .object hints) → Departs fields .hintsNotAnObject
  | hintNotText {hints : List (String × Json)} {name : String} {value : Json} :
      ("install_hints", .object hints) ∈ fields → (name, value) ∈ hints →
      (∀ text, value ≠ .str text) → Departs fields (.hintNotText name)
  | anchorNotText {value : Json} : ("package", value) ∈ fields → (∀ text, value ≠ .str text) →
      value ≠ .null → Departs fields .anchorNotText
  | unknownField {name : String} {value : Json} : (name, value) ∈ fields →
      name ≠ "install_hints" → name ≠ "package" → Departs fields (.unknownField name)

/-- What a violation is about: the hints, the anchor, or the names of the fields. -/
def Violation.topic : Violation → Nat
  | .hintsNotAnObject | .hintNotText _ => 0
  | .anchorNotText => 1
  | .notAnObject | .unknownField _ | .frozen _ => 2

/-- The one violation is reported before the other: what is about hints before what is about the
anchor, and that before unknown names; hints as they are written, and so are unknown names. -/
inductive Precedes (fields : List (String × Json)) : Violation → Violation → Prop
  | topic {v w : Violation} : v.topic < w.topic → Precedes fields v w
  | hints {hints : List (String × Json)} {name later : String} :
      ("install_hints", .object hints) ∈ fields →
      [name, later].Sublist (hints.map Prod.fst) →
      Precedes fields (.hintNotText name) (.hintNotText later)
  | unknown {name later : String} : [name, later].Sublist (fields.map Prod.fst) →
      Precedes fields (.unknownField name) (.unknownField later)

/-! ### What is reported -/

theorem isKnownField_eq_false_iff :
    isKnownField name = false ↔ name ≠ "install_hints" ∧ name ≠ "package" := by
  simp [isKnownField]

theorem hint?_eq_none_iff : hint? (name, value) = none ↔ ∀ text, value ≠ .str text := by
  cases value <;> simp [hint?]

theorem mem_hintViolations_iff : v ∈ hintViolations value ↔
    (v = .hintsNotAnObject ∧ ∀ hints, value ≠ .object hints) ∨
      ∃ hints name held, value = .object hints ∧ (name, held) ∈ hints ∧
        (∀ text, held ≠ .str text) ∧ v = .hintNotText name := by
  cases value with
  | object hints =>
    simp only [hintViolations, List.mem_map, List.mem_filter, Option.isNone_iff_eq_none]
    constructor
    · rintro ⟨⟨name, held⟩, ⟨hmem, hnone⟩, rfl⟩
      exact .inr ⟨hints, name, held, rfl, hmem, hint?_eq_none_iff.1 hnone, rfl⟩
    · rintro (⟨-, hno⟩ | ⟨_, name, held, heq, hmem, hno, rfl⟩)
      · exact absurd rfl (hno hints)
      · cases heq
        exact ⟨(name, held), ⟨hmem, hint?_eq_none_iff.2 hno⟩, rfl⟩
  | _ => simp [hintViolations]

theorem mem_anchorViolations_iff : v ∈ anchorViolations value ↔
    v = .anchorNotText ∧ (∀ text, value ≠ .str text) ∧ value ≠ .null := by
  cases value <;> simp [anchorViolations]

/-- What is reported about a field is reported about what stands in it. -/
theorem mem_violations_of_field {check : Json → List Violation}
    (h : (fields.map Prod.fst).Nodup) :
    v ∈ ((fields.lookup name).map check).getD [] ↔
      ∃ value, (name, value) ∈ fields ∧ v ∈ check value := by
  simp only [← Json.lookup_eq_some_iff h]
  cases fields.lookup name <;> simp

/-- **Exactly the departures from the schema are reported.** -/
theorem mem_violations_iff (h : (fields.map Prod.fst).Nodup) :
    v ∈ violations (.object fields) ↔ Departs fields v := by
  simp only [violations, List.mem_append, mem_violations_of_field h, mem_hintViolations_iff,
    mem_anchorViolations_iff, List.mem_map, List.mem_filter, Bool.not_eq_true',
    isKnownField_eq_false_iff]
  constructor
  · rintro ((⟨value, hfield, ⟨rfl, hno⟩ | ⟨hints, name, held, rfl, hmem, hno, rfl⟩⟩ |
      ⟨value, hfield, rfl, hno, hnull⟩) | ⟨⟨name, value⟩, ⟨hfield, hunknown⟩, rfl⟩)
    · exact .hintsNotAnObject hfield hno
    · exact .hintNotText hfield hmem hno
    · exact .anchorNotText hfield hno hnull
    · exact .unknownField hfield hunknown.1 hunknown.2
  · intro hdeparts
    cases hdeparts with
    | hintsNotAnObject hfield hno => exact .inl (.inl ⟨_, hfield, .inl ⟨rfl, hno⟩⟩)
    | hintNotText hfield hmem hno =>
      exact .inl (.inl ⟨_, hfield, .inr ⟨_, _, _, rfl, hmem, hno, rfl⟩⟩)
    | anchorNotText hfield hno hnull => exact .inl (.inr ⟨_, hfield, rfl, hno, hnull⟩)
    | unknownField hfield hhints hpackage =>
      exact .inr ⟨(_, _), ⟨hfield, hhints, hpackage⟩, rfl⟩

/-- An object departs from the schema unless all its fields fit. -/
theorem departs_or_fits :
    (∃ v, Departs fields v) ∨ ∀ field ∈ fields, Fits field := by
  rw [or_iff_not_imp_left, not_exists]
  rintro hno ⟨name, value⟩ hfield
  by_cases hhints : name = "install_hints"
  · subst hhints
    by_cases hobject : ∃ hints, value = .object hints
    · obtain ⟨hints, rfl⟩ := hobject
      refine .hints rfl rfl fun hint hmem => ?_
      by_contra hnone
      exact hno _ (.hintNotText hfield hmem (not_exists.1 hnone))
    · exact absurd (.hintsNotAnObject hfield (not_exists.1 hobject)) (hno _)
  · by_cases hpackage : name = "package"
    · subst hpackage
      by_cases htext : ∃ text, value = .str text
      · obtain ⟨text, rfl⟩ := htext
        exact .anchor rfl rfl
      · by_cases hnull : value = .null
        · exact .noAnchor rfl hnull
        · exact absurd (.anchorNotText hfield (not_exists.1 htext) hnull) (hno _)
    · exact absurd (.unknownField hfield hhints hpackage) (hno _)

/-- A field that fits is no departure. -/
theorem not_departs_of_fits (h : ∀ field ∈ fields, Fits field) : ¬ Departs fields v := by
  intro hdeparts
  cases hdeparts with
  | hintsNotAnObject hfield hno =>
    cases h _ hfield with
    | hints _ hobject _ => exact hno _ hobject
    | anchor hname _ | noAnchor hname _ => simp at hname
  | hintNotText hfield hmem hno =>
    cases h _ hfield with
    | hints _ hobject htexts =>
      cases hobject
      obtain ⟨text, htext⟩ := htexts _ hmem
      exact hno text htext
    | anchor hname _ | noAnchor hname _ => simp at hname
  | anchorNotText hfield hno hnull =>
    cases h _ hfield with
    | hints hname _ _ => simp at hname
    | anchor _ htext => exact hno _ htext
    | noAnchor _ hnone => exact hnull hnone
  | unknownField hfield hhints hpackage =>
    cases h _ hfield with
    | hints hname _ _ => exact hhints hname
    | anchor hname _ | noAnchor hname _ => exact hpackage hname

theorem violations_eq_nil_iff (h : (fields.map Prod.fst).Nodup) :
    violations (.object fields) = [] ↔ ∀ field ∈ fields, Fits field := by
  rw [List.eq_nil_iff_forall_not_mem]
  simp only [mem_violations_iff h]
  constructor
  · intro hnone
    exact departs_or_fits.resolve_left fun ⟨v, hdeparts⟩ => hnone v hdeparts
  · intro hfits v
    exact not_departs_of_fits hfits

/-! ### In which order -/

/-- What is picked from an object keeps the order of the names. -/
theorem pairwise_filter_names (p : String × Json → Bool) (fields : List (String × Json)) :
    (fields.filter p).Pairwise fun a b => [a.1, b.1].Sublist (fields.map Prod.fst) := by
  rw [List.pairwise_iff_forall_sublist]
  intro a b hsub
  exact (hsub.trans List.filter_sublist).map Prod.fst

theorem topic_eq_zero_of_mem (h : v ∈ hintViolations value) : v.topic = 0 := by
  rcases mem_hintViolations_iff.1 h with ⟨rfl, -⟩ | ⟨_, _, _, -, -, -, rfl⟩ <;> rfl

theorem pairwise_hintViolations (h : ("install_hints", value) ∈ fields) :
    (hintViolations value).Pairwise (Precedes fields) := by
  cases value with
  | object hints =>
    rw [hintViolations, List.pairwise_map]
    exact (pairwise_filter_names _ hints).imp fun hsub => .hints h hsub
  | _ => exact List.pairwise_singleton _ _

/-- **Violations are reported in the order of the schema, and within it as they are written.** -/
theorem pairwise_violations (h : (fields.map Prod.fst).Nodup) :
    (violations (.object fields)).Pairwise (Precedes fields) := by
  rw [violations, List.pairwise_append, List.pairwise_append]
  refine ⟨⟨?_, ?_, ?_⟩, ?_, ?_⟩
  · rcases hlookup : fields.lookup "install_hints" with _ | value
    · exact .nil
    · exact pairwise_hintViolations ((Json.lookup_eq_some_iff h).1 hlookup)
  · rcases fields.lookup "package" with _ | value
    · exact .nil
    · cases value with
      | null | str _ => exact .nil
      | _ => exact List.pairwise_singleton _ _
  · intro v hv w hw
    obtain ⟨_, -, hv⟩ := (mem_violations_of_field h).1 hv
    obtain ⟨_, -, hw⟩ := (mem_violations_of_field h).1 hw
    refine .topic ?_
    rw [topic_eq_zero_of_mem hv, (mem_anchorViolations_iff.1 hw).1]
    exact Nat.one_pos
  · rw [List.pairwise_map]
    exact (pairwise_filter_names _ fields).imp .unknown
  · intro v hv w hw
    obtain ⟨field, -, rfl⟩ := List.mem_map.1 hw
    refine .topic ?_
    rcases List.mem_append.1 hv with hv | hv
    · obtain ⟨_, -, hv⟩ := (mem_violations_of_field h).1 hv
      rw [topic_eq_zero_of_mem hv]
      exact Nat.two_pos
    · obtain ⟨_, -, hv⟩ := (mem_violations_of_field h).1 hv
      rw [(mem_anchorViolations_iff.1 hv).1]
      exact Nat.one_lt_two

/-- Of two names in this order, the one is not the other. -/
theorem ne_of_sublist_names {later : String} (h : (fields.map Prod.fst).Nodup)
    (hsub : [name, later].Sublist (fields.map Prod.fst)) : name ≠ later := by
  have hpair := hsub.nodup h
  simpa using hpair

/-- What is reported before something else is about another place. -/
theorem location_ne_of_precedes (h : (Json.object fields).WellFormed) (hv : Departs fields v)
    (hw : Departs fields w) (hprecedes : Precedes fields v w) : v.location ≠ w.location := by
  obtain ⟨hnodup, hfields⟩ := h
  cases hprecedes with
  | hints hfield hsub =>
    have hne := ne_of_sublist_names (hfields.of_mem hfield).1 hsub
    simpa [Violation.location] using hne
  | unknown hsub =>
    have hne := ne_of_sublist_names hnodup hsub
    simpa [Violation.location] using hne
  | topic hlt =>
    -- what is about different topics is in different fields
    cases hv <;> cases hw <;> simp_all [Violation.topic, Violation.location, eq_comm]

/-! ### Written out and read again -/

theorem read_eq_ok (h : violations (.object fields) = []) :
    Config.read (.object fields) = .ok (ofFields fields) := by
  unfold Config.read
  split
  · next heq _ =>
    cases heq
    rfl
  · next hno => exact absurd h (hno fields rfl)

theorem read_eq_error (h : violations (.object fields) ≠ []) :
    Config.read (.object fields) = .error (violations (.object fields)) := by
  unfold Config.read
  split
  · next heq hnone =>
    cases heq
    exact absurd hnone h
  · rfl

theorem of_read (h : Config.read (.object fields) = .ok config) :
    config = ofFields fields ∧ violations (.object fields) = [] := by
  unfold Config.read at h
  split at h
  · next heq hviolations =>
    cases heq
    cases h
    exact ⟨rfl, hviolations⟩
  · cases h

/-- What is no object is reported as such, and nothing else is. -/
theorem read_of_no_object (h : ∀ fields, value ≠ .object fields) :
    Config.read value = .error [.notAnObject] := by
  cases value with
  | object fields => exact absurd rfl (h fields)
  | _ => rfl

/-- Hints are written as texts. -/
def writeHint (hint : String × String) : String × Json := (hint.1, .str hint.2)

theorem filterMap_hint?_writeHint (hints : List (String × String)) :
    (hints.map writeHint).filterMap hint? = hints := by
  rw [List.filterMap_map]
  exact List.filterMap_some

/-- Hints that are texts are read as they are written. -/
theorem map_writeHint_filterMap_hint? (h : ∀ hint ∈ hints, ∃ text, hint.2 = .str text) :
    (hints.filterMap hint?).map writeHint = hints := by
  induction hints with
  | nil => rfl
  | cons hint rest ih =>
    obtain ⟨name, value⟩ := hint
    obtain ⟨text, rfl⟩ := h (name, value) List.mem_cons_self
    have hrest := ih fun other hmem => h other (List.mem_cons_of_mem _ hmem)
    have hfirst : hint? (name, .str text) = some (name, text) := rfl
    rw [List.filterMap_cons_some hfirst, List.map_cons, hrest]
    rfl

theorem entries_readHints (hnames : (hints.map Prod.fst).Nodup)
    (htexts : ∀ hint ∈ hints, ∃ text, hint.2 = .str text) :
    (readHints (.object hints)).entries.map writeHint = hints := by
  have hwritten := map_writeHint_filterMap_hint? htexts
  have hkept : (hints.filterMap hint?).map Prod.fst = hints.map Prod.fst := by
    rw [← congrArg (List.map Prod.fst) hwritten, List.map_map]
    rfl
  rw [readHints, Dict.entries_ofList (hkept ▸ hnames), hwritten]

/-- **A configuration is written out with the fields that it was read from**, and with the defaults
for those that were absent. -/
theorem toJson_of_read (h : (Json.object fields).WellFormed)
    (hread : Config.read (.object fields) = .ok config) :
    config.toJson = .object
      [("install_hints", (fields.lookup "install_hints").getD (.object [])),
        ("package", (fields.lookup "package").getD .null)] := by
  obtain ⟨hnodup, hfields⟩ := h
  obtain ⟨rfl, hnone⟩ := of_read hread
  have hfits := (violations_eq_nil_iff hnodup).1 hnone
  have hhints : Json.object ((ofFields fields).hints.entries.map writeHint) =
      (fields.lookup "install_hints").getD (.object []) := by
    rw [ofFields]
    rcases hlookup : fields.lookup "install_hints" with _ | value
    · rfl
    · have hfield := (Json.lookup_eq_some_iff hnodup).1 hlookup
      cases hfits _ hfield with
      | hints _ hobject htexts =>
        cases hobject
        exact congrArg Json.object (entries_readHints (hfields.of_mem hfield).1 htexts)
      | anchor hname _ | noAnchor hname _ => simp at hname
  have hanchor : Json.ofText? (ofFields fields).anchor =
      (fields.lookup "package").getD .null := by
    rw [ofFields]
    rcases hlookup : fields.lookup "package" with _ | value
    · rfl
    · cases hfits _ ((Json.lookup_eq_some_iff hnodup).1 hlookup) with
      | hints hname _ _ => simp at hname
      | anchor _ htext =>
        cases htext
        rfl
      | noAnchor _ hnull =>
        cases hnull
        rfl
  rw [← hhints, ← hanchor]
  rfl

/-- **A configuration that is written out reads as itself.** -/
theorem read_toJson (config : Config) : Config.read config.toJson = .ok config := by
  obtain ⟨hints, anchor⟩ := config
  have hfits : ∀ field ∈ [("install_hints", Json.object (hints.entries.map writeHint)),
      ("package", Json.ofText? anchor)], Fits field := by
    simp only [List.forall_mem_cons, List.not_mem_nil, IsEmpty.forall_iff, implies_true, and_true]
    refine ⟨.hints rfl rfl fun hint hmem => ?_, ?_⟩
    · obtain ⟨entry, -, rfl⟩ := List.mem_map.1 hmem
      exact ⟨entry.2, rfl⟩
    · cases anchor with
      | none => exact .noAnchor rfl rfl
      | some package => exact .anchor rfl rfl
  have hnone := (violations_eq_nil_iff (by simp)).2 hfits
  refine (read_eq_ok hnone).trans (congrArg Except.ok ?_)
  have hhints : readHints (.object (hints.entries.map writeHint)) = hints := by
    rw [readHints, filterMap_hint?_writeHint, Dict.ofList_entries]
  have hanchor : readAnchor (Json.ofText? anchor) = anchor := by
    cases anchor <;> rfl
  show Config.mk (readHints (.object (hints.entries.map writeHint)))
    (readAnchor (Json.ofText? anchor)) = _
  rw [hhints, hanchor]

/-! ### Reading by the schema -/

/-- **Reading follows the schema.**  A value is a configuration if it is an object and all its
fields fit.  The configuration is written out with the fields that it was read from and defaults for
the others, and that reads as the same configuration.  Any other object is refused with one report
for each of its departures from the schema: none is lost, each is at a place of its own, and the
object says in which order they are. -/
theorem reading_follows_schema (value : Json) (h : value.WellFormed) :
    ((∃ config, Config.read value = .ok config) ↔
      ∃ fields, value = .object fields ∧ ∀ field ∈ fields, Fits field) ∧
    (∀ fields config, value = .object fields → Config.read value = .ok config →
      config.toJson = .object
          [("install_hints", (fields.lookup "install_hints").getD (.object [])),
            ("package", (fields.lookup "package").getD .null)] ∧
        Config.read config.toJson = .ok config) ∧
    ∀ fields found, value = .object fields → Config.read value = .error found →
      found ≠ [] ∧ (∀ v, v ∈ found ↔ Departs fields v) ∧ (found.map Violation.location).Nodup ∧
        found.Pairwise (Precedes fields) := by
  refine ⟨⟨?_, ?_⟩, ?_, ?_⟩
  · rintro ⟨config, hread⟩
    by_cases hobject : ∃ fields, value = .object fields
    · obtain ⟨fields, rfl⟩ := hobject
      exact ⟨fields, rfl, (violations_eq_nil_iff h.1).1 (of_read hread).2⟩
    · rw [read_of_no_object (not_exists.1 hobject)] at hread
      cases hread
  · rintro ⟨fields, rfl, hfits⟩
    exact ⟨_, read_eq_ok ((violations_eq_nil_iff h.1).2 hfits)⟩
  · rintro fields config rfl hread
    exact ⟨toJson_of_read h hread, read_toJson config⟩
  · rintro fields found rfl hread
    have hne : violations (.object fields) ≠ [] := by
      intro hnone
      rw [read_eq_ok hnone] at hread
      cases hread
    cases (read_eq_error hne).symm.trans hread
    have hmem : ∀ v, v ∈ violations (.object fields) ↔ Departs fields v :=
      fun v => mem_violations_iff h.1
    refine ⟨hne, hmem, ?_, pairwise_violations h.1⟩
    rw [List.nodup_iff_pairwise_ne, List.pairwise_map]
    refine (pairwise_violations h.1).imp_of_mem fun hv hw hprecedes => ?_
    exact location_ne_of_precedes h ((hmem _).1 hv) ((hmem _).1 hw) hprecedes

/-- Fields that fit beside some that do not. -/
def mixedFields : List (String × Json) :=
  [("zzz", .int 1), ("install_hints", .object [("a", .str "a-dist"), ("b", .int 2), ("c", .null)]),
    ("package", .int 5)]

/-- Two hints, the anchor and an unknown name are reported. -/
theorem mixed_fields_refused :
    let found := [.hintNotText "b", .hintNotText "c", .anchorNotText, .unknownField "zzz"]
    (Json.object mixedFields).WellFormed ∧ Config.read (.object mixedFields) = .error found ∧
      (∀ v, v ∈ found ↔ Departs mixedFields v) ∧ (found.map Violation.location).Nodup ∧
        found.Pairwise (Precedes mixedFields) := by
  have h : (Json.object mixedFields).WellFormed := by
    simp [mixedFields, Json.WellFormed, Json.WellFormedFields]
  exact ⟨h, rfl, ((reading_follows_schema _ h).2.2 mixedFields _ rfl rfl).2⟩

end Config

end AssetPipeline
