/-
AssetPipeline/Proofs/Session/Hint.lean

What a report tells to install, by the spelling of the dependency.

A loader looks for a hint under the dependency as it was asked for, and then under what stands
there before the first dot.  For an absolute name this is the outermost package around it.  For a
relative one it is the empty text, whatever the name stands for: the hint for the package is not
found, although the loader has resolved the name by then to see that the package is missing.

Main statements: `getLast?_chain` for the top-level package of a dependency, `judge_spellings` for
two spellings of one dependency, and `hint_of_relative_name` for what they are told to install.
-/
import AssetPipeline.Proofs.Session.Spelling
import Mathlib.Data.List.TakeWhile

namespace AssetPipeline

open ModuleName

/-! ### Where hints are looked for -/

namespace Config

variable {name parent : String}

theorem hintFor_eq (config : Config) (name : String) :
    config.hintFor name = (config.hints.get? name <|> config.hints.get? (topLevel name)) := by
  unfold hintFor
  cases config.hints.get? name <;> rfl

/-- Before the first dot of a relative name there is nothing. -/
theorem topLevel_of_isRelative (hrel : isRelative name = true) : topLevel name = "" := by
  unfold topLevel
  rcases hchars : name.toList with _ | ⟨first, rest⟩
  · rfl
  · have hfirst : first = '.' := by simpa [isRelative, hchars] using hrel
    subst hfirst
    rfl

theorem topLevel_of_dotless (h : '.' ∉ name.toList) : topLevel name = name := by
  have hall : name.toList.takeWhile (· ≠ '.') = name.toList := by
    rw [List.takeWhile_eq_self_iff]
    intro c hc
    simpa using ne_of_mem_of_not_mem hc h
  rw [topLevel, hall, String.ofList_toList]

theorem topLevel_parent (h : parent? name = some parent) : topLevel name = topLevel parent := by
  obtain ⟨after, hname, -⟩ := toList_eq_of_parent h
  rw [topLevel, topLevel, hname, List.takeWhile_append]
  split
  · next hlen =>
    have hall := (List.takeWhile_prefix (· ≠ '.')).eq_of_length hlen
    rw [hall, List.takeWhile_cons_of_neg (by simp), List.append_nil]
  · rfl

/-- **The top-level package of an absolute name is the outermost one around it.** -/
theorem getLast?_chain {name : String} (hrel : isRelative name = false) :
    (chain name).getLast? = some (topLevel name) := by
  rcases h : parent? name with _ | parent
  · rw [chain, ancestors_of_root h, topLevel_of_dotless (not_mem_of_root hrel h)]
    rfl
  · have ih : (chain parent).getLast? = some (topLevel parent) :=
      getLast?_chain (isRelative_parent hrel h)
    rw [chain, ancestors_of_parent h, topLevel_parent h, ← ih]
    rfl
termination_by name.length
decreasing_by exact length_parent_lt h

end Config

/-! ### Two spellings -/

/-- What a loader makes of one import under two names is the same, or both times the report that
the dependency is missing. -/
theorem Loader.judge_spellings (l : Loader) (name name' : String) (file : Option File)
    (absolute : String) (outcome : Except Fault Module) :
    (∃ why, outcome = .error (.moduleMissing why) ∧ concerns absolute why = true ∧
      l.judge name file absolute outcome = .error (.dependencyMissing (l.report name file why)) ∧
      l.judge name' file absolute outcome =
        .error (.dependencyMissing (l.report name' file why))) ∨
      (∀ why, outcome = .error (.moduleMissing why) → concerns absolute why = false) ∧
        l.judge name file absolute outcome = l.judge name' file absolute outcome := by
  rcases outcome with fault | m
  · cases fault with
    | moduleMissing why =>
      by_cases hconcerns : concerns absolute why = true
      · refine .inl ⟨why, rfl, hconcerns, ?_, ?_⟩ <;> rw [judge, if_pos hconcerns]
      · refine .inr ⟨?_, ?_⟩
        · intro why' hwhy
          cases hwhy
          exact Bool.not_eq_true _ ▸ hconcerns
        · rw [judge, judge, if_neg hconcerns, if_neg hconcerns]
    | _ => exact .inr ⟨by simp, rfl⟩
  · exact .inr ⟨by simp, rfl⟩

namespace Session

/-- **What a relative name is told to install.**  A relative name and the absolute one that it
stands for are required by one loader.  If the module or a package around it is missing, both are
reported as missing, for the same cause; in all other cases they end in the same way.  The hint for
the absolute name is its own, or else that for the outermost package around it.  The relative one
has its own, or else that for the empty name.  Without a hint for its spelling, it is told the same
as the absolute name only if the hint for the empty name says so. -/
theorem hint_of_relative_name (s : Session) (l : Loader) (package name absolute : String)
    (file : Option File) (hanchor : l.config.anchor = some package) (hne : package ≠ "")
    (hrel : isRelative name = true) (hresolve : resolve? package name = some absolute)
    (hempty : absolute ≠ "") (habsolute : isRelative absolute = false) :
    let asked (name : String) := ((require l name file).run s).1
    let hints := l.config.hints
    ((∃ why member, (importName s.installed absolute s.cache).1 = .error (.moduleMissing why) ∧
        why.name? = some member ∧ member ∈ chain absolute ∧
        asked name = .error (.fault (.dependencyMissing (l.report name file why))) ∧
        asked absolute = .error (.fault (.dependencyMissing (l.report absolute file why)))) ∨
      (∀ why member, (importName s.installed absolute s.cache).1 = .error (.moduleMissing why) →
        why.name? = some member → member ∉ chain absolute) ∧ asked name = asked absolute) ∧
    ∃ top, (chain absolute).getLast? = some top ∧
      ∀ why,
        (l.report absolute file why).hint = (hints.get? absolute <|> hints.get? top) ∧
        (l.report name file why).hint = (hints.get? name <|> hints.get? "") ∧
        (hints.get? name = none →
          ((l.report name file why).hint = (l.report absolute file why).hint ↔
            hints.get? "" = (hints.get? absolute <|> hints.get? top))) := by
  intro asked hints
  have habs : absoluteName l.config.anchor name = .ok absolute := by
    rw [hanchor, absoluteName_of_relative hrel hne, hresolve]
  have habs' : absoluteName l.config.anchor absolute = .ok absolute :=
    absoluteName_self habsolute hempty
  have hasked : ∀ other, absoluteName l.config.anchor other = .ok absolute →
      asked other = (l.judge other file absolute
        (importName s.installed absolute s.cache).1).mapError .fault := by
    intro other hother
    show ((require l other file).run s).1 = _
    rw [run_require, Loader.acquire_of_absolute hother]
  refine ⟨?_, Config.topLevel absolute, Config.getLast?_chain habsolute, ?_⟩
  · rw [hasked name habs, hasked absolute habs']
    rcases Loader.judge_spellings l name absolute file absolute
      (importName s.installed absolute s.cache).1 with ⟨why, himport, hconcerns, hrep, hrep'⟩ | hsame
    · obtain ⟨member, hmember, hmem⟩ := (Loader.concerns_iff habsolute).1 hconcerns
      refine .inl ⟨why, member, himport, hmember, hmem, ?_, ?_⟩
      · rw [hrep]
        rfl
      · rw [hrep']
        rfl
    · obtain ⟨hunconcerned, hsame⟩ := hsame
      refine .inr ⟨?_, by rw [hsame]⟩
      intro why member himport hmember hmem
      have hconcerns := (Loader.concerns_iff habsolute).2 ⟨member, hmember, hmem⟩
      rw [hunconcerned why himport] at hconcerns
      cases hconcerns
  · intro why
    have hhint : (l.report absolute file why).hint =
        (hints.get? absolute <|> hints.get? (Config.topLevel absolute)) :=
      l.config.hintFor_eq absolute
    have hhint' : (l.report name file why).hint = (hints.get? name <|> hints.get? "") := by
      rw [← Config.topLevel_of_isRelative hrel]
      exact l.config.hintFor_eq name
    refine ⟨hhint, hhint', fun hnone => ?_⟩
    rw [hhint, hhint', hnone]
    exact Iff.rfl

/-- A loader inside `app.core` that knows what to install for `app`, and for one relative name. -/
def hintingLoader : Loader :=
  ⟨⟨Dict.ofList [("app", "app-dist"), ("..web", "app-web")], some "app.core"⟩⟩

/-- A page beside `app.core` is missing, and both spellings of another dependency are told what to
install for them. -/
theorem hints_for_both_spellings :
    ∃ why, ((require hintingLoader "..web" none).run nestedPackage).1 =
        .error (.fault (.dependencyMissing (hintingLoader.report "..web" none why))) ∧
      (hintingLoader.report "..web" none why).hint = some "app-web" ∧
      ((require hintingLoader "app.web" none).run nestedPackage).1 =
        .error (.fault (.dependencyMissing (hintingLoader.report "app.web" none why))) ∧
      (hintingLoader.report "app.web" none why).hint = some "app-dist" := by
  obtain ⟨hends, top, htop, hhints⟩ := hint_of_relative_name nestedPackage hintingLoader "app.core"
    "..web" "app.web" none rfl (by decide) (by decide) (by decide +kernel) (by decide) (by decide)
  have htop' : top = "app" := by
    rw [Config.getLast?_chain (by decide), Option.some.injEq] at htop
    rw [← htop]
    decide +kernel
  subst htop'
  have hmissing : (importName nestedPackage.installed "app.web" nestedPackage.cache).1 =
      .error (.moduleMissing (.undeclared "app.web")) := by
    decide +kernel
  rcases hends with ⟨why, member, himport, -, -, hrel, habs⟩ | ⟨hunconcerned, -⟩
  · refine ⟨why, hrel, ?_, habs, ?_⟩
    · exact (hhints why).2.1.trans (by decide +kernel)
    · exact (hhints why).1.trans (by decide +kernel)
  · exact absurd (by simp [chain]) (hunconcerned _ "app.web" hmissing rfl)

/-- A missing page is told to install the distribution of its package under its absolute name, and
nothing under the relative one. -/
theorem no_hint_for_relative_page :
    let l : Loader := ⟨⟨Dict.ofList [("app", "app-dist")], some "app"⟩⟩
    let s := initial Dict.empty .still
    resolve? "app" ".missing" = some "app.missing" ∧ l.config.hints.get? ".missing" = none ∧
      ((require l "app.missing" none).run s).1 = .error (.fault (.dependencyMissing
        ⟨"app.missing", none, some "app-dist", some (.undeclared "app")⟩)) ∧
      ((require l ".missing" none).run s).1 = .error (.fault (.dependencyMissing
        ⟨".missing", none, none, some (.undeclared "app")⟩)) :=
  ⟨by decide +kernel, by decide, by decide +kernel, by decide +kernel⟩

end Session

end AssetPipeline
