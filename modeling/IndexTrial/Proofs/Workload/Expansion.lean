import IndexTrial.Proofs.Regression.Acceptance
import IndexTrial.Proofs.Run.Completeness
import IndexTrial.Proofs.Store.Texts
import Mathlib.Data.List.ProdSigma

/-!
Templates are expanded over cache modes, one by one. No two templates of a pattern share an id, so
the queries of a workload whose modes differ are told apart by their id and mode, and a run of it
has at most one result of an engine for each key of a baseline.
-/

namespace IndexTrial

namespace Pattern

theorem nodup_integerKeyTemplates {key : KeyType} {rows : Nat} {keys : String × List Query}
    (h : integerKeyTemplates key rows = .ok keys) : (keys.2.map Query.id).Nodup := by
  obtain ⟨domain,_,h⟩ := ok_of_bind h
  obtain ⟨upper,_,h⟩ := ok_of_bind h
  cases h
  exact (by decide : ["range_1pct","point"].Nodup)

theorem nodup_dataTypeFixture {key : KeyType} {rows : Nat} {f : Fixture}
    (h : dataTypeFixture key rows = .ok f) : (f.templates.map Query.id).Nodup := by
  obtain ⟨keys,hover,hkeys⟩ := exists_isOver h
  rw [hover.templates]
  rcases hkeys with ⟨-,rfl⟩ | ⟨-,hkeys⟩
  · exact (by decide : ["range_1month","recent"].Nodup)
  · exact nodup_integerKeyTemplates hkeys

/-- The templates of a pattern are told apart by their ids. -/
theorem nodup_templates {p : Pattern} {rows seed : Nat} {f : Fixture}
    (h : p.fixture rows seed = .ok f) : (f.templates.map Query.id).Nodup := by
  cases p with
  | timeSeries metrics =>
    cases h
    exact (by decide : ["hot_metric","metric_range"].Nodup)
  | dimension =>
    cases h
    exact (by decide : ["point_lookup","range_scan"].Nodup)
  | events users =>
    cases h
    exact (by decide : ["hot_user","user_range"].Nodup)
  | sparse =>
    cases h
    exact (by decide : ["pending_orders","all_active"].Nodup)
  | composite =>
    cases h
    exact (by decide : ["recent_orders","single_day"].Nodup)
  | selectivity fraction =>
    cases h
    exact List.nodup_singleton _
  | backwardScan =>
    obtain ⟨ninefold,_,h⟩ := ok_of_bind h
    cases h
    exact (by decide : ["desc_limit100","desc_range"].Nodup)
  | limit =>
    cases h
    exact (by decide : ["range_limit100","range_limit10k"].Nodup)
  | inClause =>
    obtain ⟨few,_,h⟩ := ok_of_bind h
    obtain ⟨many,_,h⟩ := ok_of_bind h
    cases h
    exact (by decide : ["in_5","in_500"].Nodup)
  | textKeys key =>
    cases h
    exact (by decide : ["equality","range"].Nodup)
  | includeOverhead columns =>
    cases (includeOverheadFixture_eq columns rows).symm.trans h
    exact List.nodup_singleton _
  | dataType key => exact nodup_dataTypeFixture h
  | indexOnly =>
    obtain ⟨near,_,h⟩ := ok_of_bind h
    cases h
    exact (by decide : ["ios_range","ios_small"].Nodup)
  | partialIndex =>
    cases h
    exact (by decide : ["active_category","active_range"].Nodup)

end Pattern

namespace PatternWorkload

variable {p : Pattern} {rows seed : Nat} {modes : List CacheMode} {w : PatternWorkload} {f : Fixture}

/-! ### Places -/

/-- The modes of one template stand side by side, templates in order. -/
theorem getElem?_expand (table : String) {templates : List Query} {i j : Nat} {t : Query}
    {mode : CacheMode} (ht : templates[i]? = some t) (hmode : modes[j]? = some mode) :
    (expand table modes templates)[i * modes.length + j]? = some (instantiate table mode t) := by
  have hj : j < (modes.map (instantiate table · t)).length := by
    simpa using (List.getElem?_eq_some_iff.mp hmode).1
  induction templates generalizing i with
  | nil => simp at ht
  | cons u us ih =>
    rw [expand,List.flatMap_cons]
    cases i with
    | zero =>
      obtain rfl : u = t := by simpa using ht
      rw [Nat.zero_mul,Nat.zero_add,List.getElem?_append_left hj,List.getElem?_map,hmode]
      rfl
    | succ i =>
      have hplace : (i + 1) * modes.length + j =
          (modes.map (instantiate table · u)).length + (i * modes.length + j) := by
        rw [List.length_map,Nat.succ_mul]
        omega
      rw [hplace,List.getElem?_append_right (Nat.le_add_right ..),Nat.add_sub_cancel_left]
      exact ih (by simpa using ht)

/-- The queries of a workload are the templates of a fixture, each in every mode. A query differs
from its template in the mode, and in its text where the template leaves the table open. -/
structure Expands (f : Fixture) (modes : List CacheMode) (w : PatternWorkload) : Prop where
  length : w.queries.length = f.templates.length * modes.length
  each : ∀ i t, f.templates[i]? = some t → ∃ before after,
    t.sql = before ++ tableSlot ++ after ∧ ∀ j mode, modes[j]? = some mode →
      w.queries[i * modes.length + j]? = some { t with mode, sql := before ++ w.table ++ after }
  filled : ∀ q ∈ w.queries, hasText q.sql tableSlot = false ∧ hasText q.sql w.table = true

theorem expands_ofFixture (h : ∀ q ∈ f.templates, IsOpenOnce q.sql) (modes : List CacheMode) :
    (ofFixture f modes).Expands f modes where
  length := length_expand _ modes f.templates
  each i t ht := by
    obtain ⟨before,after,hbefore,hafter,hsql⟩ := h t (List.mem_of_getElem? ht)
    refine ⟨before,after,hsql,fun j mode hmode => ?_⟩
    have hfill := replaceText_slot hbefore hafter (tableName f.id)
    exact (getElem?_expand (tableName f.id) ht hmode).trans (by rw [instantiate,hsql,hfill]; rfl)
  filled q hq := by
    obtain ⟨t,ht,hq⟩ := List.mem_flatMap.mp hq
    obtain ⟨mode,_,rfl⟩ := List.mem_map.mp hq
    obtain ⟨before,after,hbefore,hafter,hsql⟩ := h t ht
    have hclosed : IsClosed (before ++ tableName f.id ++ after) :=
      (hbefore.append (isClosed_tableName f.id)).append hafter
    rw [instantiate,hsql,replaceText_slot hbefore hafter]
    exact ⟨hclosed.hasText,hasText_around before (tableName f.id) after⟩

/-! ### Keys -/

/-- What the queries of a workload are told apart by. -/
def queryKeys (w : PatternWorkload) : List (String × CacheMode) :=
  w.queries.map fun q => (q.id,q.mode)

theorem queryKeys_ofFixture (f : Fixture) (modes : List CacheMode) :
    (ofFixture f modes).queryKeys = f.templates.map Query.id ×ˢ modes := by
  simp only [queryKeys,ofFixture,expand,List.map_flatMap,List.map_map,List.product,
    List.flatMap_map,SProd.sprod]
  rfl

theorem nodup_queryKeys (hids : (f.templates.map Query.id).Nodup) (hmodes : modes.Nodup) :
    (ofFixture f modes).queryKeys.Nodup := by
  rw [queryKeys_ofFixture]
  exact hids.product hmodes

variable {engines : EnginePair} {ms : List Measurement}

/-- The results that a workload owes: first those of the baseline's engine, then the candidate's. -/
theorem resultKeys_eq (w : PatternWorkload) (engines : EnginePair) :
    w.toWorkload.resultKeys engines = w.queries.map (Query.resultKey w.id engines.baseline) ++
      w.queries.map (Query.resultKey w.id engines.candidate) := by
  simp [Workload.resultKeys,EnginePair.toList,toWorkload]

theorem resultKey_take (h : ms.map Measurement.resultKey = w.toWorkload.resultKeys engines) :
    (ms.take w.queries.length).map Measurement.resultKey =
      w.queries.map (Query.resultKey w.id engines.baseline) := by
  rw [List.map_take,h,resultKeys_eq,List.take_left' (List.length_map _)]

theorem resultKey_drop (h : ms.map Measurement.resultKey = w.toWorkload.resultKeys engines) :
    (ms.drop w.queries.length).map Measurement.resultKey =
      w.queries.map (Query.resultKey w.id engines.candidate) := by
  rw [List.map_drop,h,resultKeys_eq,List.drop_left' (List.length_map _)]

theorem engine_of_resultKey {engine : String} (h : ms.map Measurement.resultKey =
    w.queries.map (Query.resultKey w.id engine)) : ∀ m ∈ ms, m.engine = engine := by
  intro m hm
  have hkey : m.resultKey ∈ w.queries.map (Query.resultKey w.id engine) :=
    h ▸ List.mem_map_of_mem hm
  obtain ⟨q,-,hq⟩ := List.mem_map.mp hkey
  exact (congrArg ResultKey.engine hq).symm

/-- Keys of a baseline that are told apart as the queries are. -/
theorem nodup_keys {engine : String} (hkeys : w.queryKeys.Nodup) (h : ms.map Measurement.resultKey =
    w.queries.map (Query.resultKey w.id engine)) : (ms.map Measurement.key).Nodup := by
  have hpairs : (ms.map Measurement.key).map (fun k => (k.query,k.mode)) = w.queryKeys := by
    have hquery := congrArg (List.map fun k : ResultKey => (k.query,k.mode)) h
    simpa [Function.comp_def,Measurement.resultKey,Measurement.key,Query.resultKey,queryKeys]
      using hquery
  exact List.Nodup.of_map _ (hpairs ▸ hkeys)

/-- The complete results of the candidate are among its own. -/
theorem nodup_accepted (hkeys : w.queryKeys.Nodup) (hne : engines.baseline ≠ engines.candidate)
    (h : ms.map Measurement.resultKey = w.toWorkload.resultKeys engines) :
    ((ms.filter (·.isAccepted engines.candidate)).map Measurement.key).Nodup := by
  have hbaseline : (ms.take w.queries.length).filter (·.isAccepted engines.candidate) = [] := by
    rw [List.filter_eq_nil_iff]
    intro m hm haccepted
    simp only [Measurement.isAccepted,Bool.and_eq_true,beq_iff_eq] at haccepted
    exact hne ((engine_of_resultKey (resultKey_take h) m hm).symm.trans haccepted.1.1)
  rw [← List.take_append_drop w.queries.length ms,List.filter_append,hbaseline,List.nil_append]
  exact (nodup_keys hkeys (resultKey_drop h)).sublist (List.filter_sublist.map _)

/-- What a run of a workload has at most once: a result of the candidate for each key of a
baseline, and so the complete one that a baseline takes. -/
structure KeyedOnce (w : PatternWorkload) (engines : EnginePair) (a : Artifact) : Prop where
  engine : ∀ m ∈ a.results.drop w.queries.length, m.engine = engines.candidate
  candidate : ((a.results.drop w.queries.length).map Measurement.key).Nodup
  accepted : engines.baseline ≠ engines.candidate →
    ((a.results.filter (·.isAccepted engines.candidate)).map Measurement.key).Nodup

theorem keyedOnce_run {σ : Type} (hkeys : w.queryKeys.Nodup) (o : Runner.Options) (d : Detector)
    (id : RunId) (env : Environment) (c : Client σ) (s : World σ) {a : Artifact}
    (h : (Runner.run o d id env [w.toWorkload] c s).1 = .ok a) :
    w.KeyedOnce o.trial.engines a := by
  obtain ⟨_,_,_,hyields⟩ := Runner.yields_run o d id env [w.toWorkload] c s
  have hresults : a.results.map Measurement.resultKey =
      w.toWorkload.resultKeys o.trial.engines := by
    simpa using (hyields a h).2
  exact ⟨engine_of_resultKey (resultKey_drop hresults),nodup_keys hkeys (resultKey_drop hresults),
    fun hne => nodup_accepted hkeys hne hresults⟩

/-- A workload that is built has every template in every mode, with its table filled in; and if no
mode is given twice, its queries and the candidate's results of a run are told apart. -/
theorem build_expands_distinct (h : build p rows modes seed = .ok w) :
    ∃ f, p.fixture rows seed = .ok f ∧ w.Expands f modes ∧
      (modes.Nodup → w.queryKeys.Nodup ∧
        ∀ {σ : Type} (o : Runner.Options) (d : Detector) (id : RunId) (env : Environment)
          (c : Client σ) (s : World σ) (a : Artifact),
          (Runner.run o d id env [w.toWorkload] c s).1 = .ok a →
            w.KeyedOnce o.trial.engines a) := by
  obtain ⟨f,hf,rfl⟩ := build_eq_ok h
  have hopen : ∀ q ∈ f.templates, IsOpenOnce q.sql :=
    fun q hq => (Pattern.isQueryTemplate_templates hf q hq).isOpen
  refine ⟨f,hf,expands_ofFixture hopen modes,fun hmodes => ?_⟩
  have hkeys := nodup_queryKeys (Pattern.nodup_templates hf) hmodes
  exact ⟨hkeys,fun o d id env c s a hrun => keyedOnce_run hkeys o d id env c s hrun⟩

/-- Two templates in two modes each, and a run of the four queries on both engines. -/
theorem build_expands_distinct_timeSeries :
    ∃ w a, build (.timeSeries 50) 1000 [.hot,.cold] 42 = .ok w ∧
      (Runner.run {} ⟨none,.standard,"smol"⟩ default (.ofCapacity none) [w.toWorkload]
        (.failingAt []) ⟨0,#[]⟩).1 = .ok a ∧ a.results.length = 8 ∧
      w.queryKeys = [("hot_metric",.hot),("hot_metric",.cold),("metric_range",.hot),
        ("metric_range",.cold)] ∧
      w.KeyedOnce ({} : TrialOptions).engines a := by
  obtain ⟨w,hw⟩ : ∃ w, build (.timeSeries 50) 1000 [.hot,.cold] 42 = .ok w := ⟨_,rfl⟩
  obtain ⟨_,_,_,hdistinct⟩ := build_expands_distinct hw
  obtain ⟨_,hruns⟩ := hdistinct (by decide)
  cases hw
  obtain ⟨a,hrun,hlength⟩ : ∃ a, (Runner.run {} ⟨none,.standard,"smol"⟩ default (.ofCapacity none)
      [(ofFixture (Pattern.timeSeriesFixture 50 1000) [.hot,.cold]).toWorkload]
      (.failingAt []) ⟨0,#[]⟩).1 = .ok a ∧ a.results.length = 8 := ok_of_toOption (by decide +kernel)
  exact ⟨_,a,rfl,hrun,hlength,by decide,hruns _ _ _ _ _ _ a hrun⟩

end PatternWorkload

end IndexTrial
