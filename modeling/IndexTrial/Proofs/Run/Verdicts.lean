import IndexTrial.Proofs.Regression.Checking
import IndexTrial.Proofs.Regression.Lifetime
import IndexTrial.Proofs.Run.Tally
import IndexTrial.Settings.Check

/-!
What the verdicts of a run compare, over the life of a baseline file. A value in the file is that of
the first accepted result of its key. The detector looks at the engine of a result and at its key, not
at the engine that the file was recorded for: of what identifies two results, the engine alone can
differ.
-/

namespace IndexTrial

namespace Runner

variable {σ : Type}

theorem yields_checked (o : Options) (d : Detector) (id : RunId) (env : Environment)
    (suite : List Workload) : (run o d id env suite : Session σ Artifact).Yields
      fun _ a => ∀ m ∈ a.results, m.comparison = d.check m := by
  refine yields_of_assembled (P := fun reports => ∀ m ∈ reports.flatMap (·.results),
    m.comparison = none) (fun deadline => yields_uncompared o.trial deadline false suite) ?_
  intro exhausted reports a huncompared hassembled m hm
  rw [hassembled.results] at hm
  exact Detector.comparison_of_mem_attach huncompared hm

end Runner

namespace Benchmark

open Baseline

variable {σ : Type}

theorem comparison_of_run {s : Settings} {mode : SuiteMode} {id : RunId} {files : FileTree}
    {c : Client σ} {x : World σ} {a : Artifact} (h : (run s mode id files c x).1 = .ok (.ok a)) :
    ∀ m ∈ a.results,
      m.comparison = (s.detector (loadUsable files s.paths.baseline)).check m := by
  obtain ⟨env,suite,-,hchecked⟩ :=
    exists_suite_of_run (fun env suite => Runner.yields_checked _ _ id env suite) h
  exact hchecked

/-- A verdict that compares a result of a run with one that the baseline in the file was taken from. -/
structure Compares (s : Settings) (files : FileTree) (source : Artifact) (m r : Measurement)
    (v : Comparison) : Prop where
  complete : m.status = .ok
  candidate : m.engine = s.engines.candidate
  recorded : ∃ b, loadUsable files s.paths.baseline = some b ∧ b.engine = source.engines.candidate
  taken : firstAccepted? source.engines.candidate source.results m.key = some r
  verdict : ∃ current entry, m.summary = some current ∧ valuesOf? r = some entry ∧
    Detector.compare? s.thresholds current m.indexSize entry = some v

namespace Compares

variable {s : Settings} {files : FileTree} {source : Artifact} {m r : Measurement} {v : Comparison}

theorem key (h : Compares s files source m r v) :
    r.workload = m.workload ∧ r.query = m.query ∧ r.mode = m.mode := by
  have hfound := List.find?_some h.taken
  simp only [Bool.and_eq_true,beq_iff_eq] at hfound
  simpa [Measurement.key] using hfound.2

theorem engine (h : Compares s files source m r v) : r.engine = source.engines.candidate := by
  have hfound := List.find?_some h.taken
  simp only [Bool.and_eq_true,Measurement.isAccepted,beq_iff_eq] at hfound
  exact hfound.1.1.1

end Compares

/-- The verdicts of a run, whatever became of its baseline file since there was none: all that compare
a result with one that the last update took. Both are of one workload, query and mode, and of one
engine exactly if the run has the candidate of the results that the file was updated from. -/
theorem verdicts_over_life {s : Settings} {files : FileTree} {last : Option Artifact}
    (hlife : Life s.paths.baseline files last) (mode : SuiteMode) (id : RunId) (c : Client σ)
    (x : World σ) {a : Artifact} (h : (run s mode id files c x).1 = .ok (.ok a)) :
    ∀ m ∈ a.results, ∀ v,
      (m.comparison = some v ↔ ∃ source r, last = some source ∧ Compares s files source m r v) ∧
      ∀ source r, Compares s files source m r v →
        r.workload = m.workload ∧ r.query = m.query ∧ r.mode = m.mode ∧
        (r.engine = m.engine ↔ source.engines.candidate = s.engines.candidate) := by
  intro m hm v
  refine ⟨?_,fun source r hcompares => ?_⟩
  · rw [comparison_of_run h m hm,Detector.check_eq_some_iff]
    constructor
    · rintro ⟨hengine,hstatus,current,b,e,hsummary,hb,he,hv⟩
      obtain ⟨source,now,hlast,rfl⟩ := hlife.takenFrom b hb
      have hfind := find?_eq_firstAccepted? source.engines.candidate source.results m.key
      obtain ⟨r,hr,hvalues⟩ := Option.bind_eq_some_iff.mp (hfind.symm.trans he)
      exact ⟨source,r,hlast,hstatus,hengine,⟨_,hb,rfl⟩,hr,current,e,hsummary,hvalues,hv⟩
    · rintro ⟨source,r,hlast,hcompares⟩
      obtain ⟨b,hb,-⟩ := hcompares.recorded
      obtain ⟨current,e,hsummary,hvalues,hv⟩ := hcompares.verdict
      obtain ⟨other,now,hother,rfl⟩ := hlife.takenFrom b hb
      obtain rfl : source = other := Option.some.inj (hlast.symm.trans hother)
      have hfind := find?_eq_firstAccepted? source.engines.candidate source.results m.key
      rw [hcompares.taken,Option.bind_some,hvalues] at hfind
      exact ⟨hcompares.candidate,hcompares.complete,current,_,e,hsummary,hb,hfind,hv⟩
  · obtain ⟨hworkload,hquery,hmode⟩ := hcompares.key
    refine ⟨hworkload,hquery,hmode,?_⟩
    rw [hcompares.engine,hcompares.candidate]

/-- The cold equality query of a quick run's first workload took "smol" a millisecond. -/
def coldSmol : Artifact :=
  { repeatedKey with
    results := [{ sampled "hot_metric" "smol" .cold .one none with
      workload := "timeseries_100k_50m_ultra_low_card" }] }

theorem storable_coldSmol : coldSmol.Storable :=
  { storable_repeatedKey with
    results := by
      intro m hm
      obtain rfl := List.mem_singleton.mp hm
      have hsampled : (sampled "hot_metric" "smol" .cold .one none).Storable :=
        storable_sampled _ _ _ (by decide) (by simp)
      exact { hsampled with } }

/-- Results beside which there was no baseline become the baseline. -/
theorem exists_life {source : Artifact} (hsource : source.Storable)
    (hkeys : acceptedKeys source.engines.candidate source.results ≠ ∅) :
    ∃ files, Life "b.json" files (some source) ∧
      loadUsable files "b.json" = some (ofSource source ⟨2,0⟩) := by
  have hnow : (Moment.mk 2 0).Valid := ⟨by decide,by decide,by decide⟩
  have hsteps : ∀ text new, ∃ u, (FileTree.mk [(["r.json"],.file text)]).perform
      (replacement (.read "b.json") new) = (u,none) := fun _ _ => ⟨_,rfl⟩
  have hfile : ∀ text, (FileTree.mk [(["r.json"],.file text)]).contents? (.read "r.json") = some text :=
    fun _ => rfl
  have hmissing : ∀ text, (FileTree.mk [(["r.json"],.file text)]).entryAt? (.read "b.json") = none :=
    fun _ => rfl
  have hload : Artifact.load ⟨[(["r.json"],.file source.document)]⟩ "r.json" = .ok source := by
    simp [Artifact.load,hfile,hsource.ofDocument?_document]
  obtain ⟨files,hfiles⟩ := hsteps source.document
    ((ofMeasurements source.engines.candidate source.results).document ⟨2,0⟩)
  have haccept : ∃ n, accept ⟨2,0⟩ "r.json" "b.json" ⟨[(["r.json"],.file source.document)]⟩ =
      (.ok n,files) := by
    rw [accept_of_accepted (accepted_of_keys hsource (hfile _) hkeys),hfiles]
    exact ⟨_,rfl⟩
  obtain ⟨n,haccept⟩ := haccept
  refine ⟨files,.updated (.missing (hmissing _)) hnow hload haccept,?_⟩
  have hstorable := storable_of_results hsource source.engines.candidate
  rw [loadUsable_of_file (entryAt?_replacement hfiles),hstorable.ofDocument?_document hnow]
  rfl

/-- Ten seconds for another candidate. -/
def forGist : Settings :=
  { paths := { baseline := "b.json" }, run := { budgetSeconds := some 10 }
    engines := ⟨"btree","gist"⟩ }

/-- A result of "gist" is compared with a value of "smol". -/
theorem verdicts_over_life_otherCandidate :
    ∃ files a m r v, forGist.problem? = none ∧
      (run forGist .quick default files steady ⟨0,#[]⟩).1 = .ok (.ok a) ∧
      Life "b.json" files (some coldSmol) ∧ m ∈ a.results ∧ m.comparison = some v ∧
      Compares forGist files coldSmol m r v ∧ m.engine = "gist" ∧ r.engine = "smol" := by
  obtain ⟨files,hlife,hload⟩ := exists_life storable_coldSmol (by decide)
  obtain ⟨a,hrun,hany⟩ : ∃ a,
      (run forGist .quick default files steady ⟨0,#[]⟩).1 = .ok (.ok a) ∧
      a.results.any (·.comparison.isSome) = true := by
    have hbaseline : forGist.paths.baseline = "b.json" := rfl
    simp only [run,hbaseline,hload]
    exact exists_artifact (by decide +kernel)
  obtain ⟨m,hm,hsome⟩ := List.any_eq_true.mp hany
  obtain ⟨v,hv⟩ := Option.isSome_iff_exists.mp hsome
  obtain ⟨source,r,hlast,hcompares⟩ :=
    ((verdicts_over_life hlife .quick default steady ⟨0,#[]⟩ hrun m hm v).1).mp hv
  obtain rfl := Option.some.inj hlast
  exact ⟨files,a,m,r,v,by decide,hrun,hlife,hm,hv,hcompares,hcompares.candidate,hcompares.engine⟩

end Benchmark

end IndexTrial
