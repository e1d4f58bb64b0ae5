/-
AssetPipeline/Proofs/Session/Handling.lean

Who handles a file in a session.

Whatever is asked of a session, its registries stay such that every extension with an
entry is handled by an engine: a registry that names a claimant for a file has a class
for it.

Main statement: `registries_consistent` says so for every session that requests can bring
about, failing ones included.
-/
import AssetPipeline.Proofs.Session.Engines

namespace AssetPipeline.Session

open Engines

/-- **The registries of a session are consistent.**  Who claims an extension is registered and
claims it once, only engines are registered, and extensions are kept in their one spelling, which
is a normal form.  So the reading of who handles what leaves no extension out, and wherever there
are claims for a location, the class for it is that of the engine which handles its suffix. -/
theorem registries_consistent {s : Session} (h : Reached s) (id : Nat) :
    let e := s.registry id
    (∀ key names, e.claims.get? key = some names →
      names ≠ [] ∧ names.Nodup ∧ (∀ name ∈ names, e.has name = true) ∧
        key.toList.head? = some '.' ∧ Extension.normalize key = key) ∧
    (∀ name c, e.get? name = some c → c.isEngine = true) ∧
    (∀ text, Text.lowerCase (Text.lowerCase text) = Text.lowerCase text) ∧
    (∀ ext, Extension.normalize (Extension.normalize ext) = Extension.normalize ext) ∧
    (e.extensions.keys = e.claims.keys ∧
      ∀ key names, e.claims.get? key = some names →
        ∃ name c, names.getLast? = some name ∧ e.extensions.get? key = some name ∧
          e.get? name = some c) ∧
    ∀ location names, e.claims.get? (suffixKey location) = some names →
      ∃ name c, e.extensions.get? (suffixKey location) = some name ∧ e.get? name = some c ∧
        e.forLocation location = .ok c := by
  intro e
  have hsound : Sound e := sound_of_reachable (reachable_of_reached h id)
  refine ⟨?_, ?_, Text.lowerCase_lowerCase, Extension.normalize_normalize, ⟨?_, ?_⟩, ?_⟩
  · intro key names hnames
    have hkey := mem_keys_of_get? hnames
    refine ⟨hsound.claimed hnames, ?_, ?_, hsound.head?_key hkey, hsound.normalize_key hkey⟩
    · have hnodup := hsound.nodup key
      rwa [claimants_of_get? hnames] at hnodup
    · intro name hmem
      rw [← claimants_of_get? hnames] at hmem
      exact hsound.registered hmem
  · intro name c hc
    exact hsound.engine hc
  · exact hsound.keys_extensions
  · intro key names hnames
    obtain ⟨name, c, hlast, hc⟩ := hsound.exists_latest hnames
    refine ⟨name, c, hlast, ?_, hc⟩
    rw [get?_extensions, claimants_of_get? hnames, hlast]
  · intro location names hnames
    exact hsound.forLocation_eq_ok hnames

/-- A session in which two engines have claimed an extension in capitals, the second of which has
ended, and a third one has been refused. -/
def greekSession : Session :=
  [EnginesStep.register "old" (.cls "Engine") ["ΟΔΟΣ", "Ι\u0307"],
    .add "new" (.cls "Engine") [".Οδος"],
    .register "wrong" (.cls "object") [".οδος"],
    .unregister "new"].foldl
    (fun s step => (answer ⟨.engines "engines" step, none⟩ s).2)
    (answer ⟨.newEngines, some "engines"⟩
      (declareAll [⟨"Engine", "Engine", "Template", none, none, none⟩]
        (initial Dict.empty .still))).2

theorem reached_greekSession : Reached greekSession :=
  .answered _ (.answered _ (.answered _ (.answered _ (.answered _ (.start _ _ _)))))

/-- A capital sigma at the end of a suffix finds the claim that was spelled in capitals, too. -/
theorem handler_of_greek_suffix :
    Reached greekSession ∧
      (greekSession.registry 2).claims.get? (suffixKey "odos/page.οδοΣ") = some ["old"] ∧
      ∃ name c, (greekSession.registry 2).extensions.get? (suffixKey "odos/page.οδοΣ") = some name ∧
        (greekSession.registry 2).get? name = some c ∧
        (greekSession.registry 2).forLocation "odos/page.οδοΣ" = .ok c := by
  have hclaims : (greekSession.registry 2).claims.get? (suffixKey "odos/page.οδοΣ") =
      some ["old"] := by
    decide +kernel
  obtain ⟨-, -, -, -, -, hfor⟩ := registries_consistent reached_greekSession 2
  exact ⟨reached_greekSession, hclaims, hfor _ _ hclaims⟩

end AssetPipeline.Session
