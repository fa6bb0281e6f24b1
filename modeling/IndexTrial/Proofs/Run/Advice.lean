import IndexTrial.Proofs.Advice.DecisivePair
import IndexTrial.Proofs.Regression.Acceptance
import IndexTrial.Proofs.Run.Completeness

/-!
The advice of a run. The results of a run come in the order in which the queries are declared, so
the pair that the advice on a workload rests on belongs to the first query that was completed on
both engines.
-/

namespace IndexTrial

/-- Both engines completed a query of a workload. -/
def Artifact.CompletedOnBoth (a : Artifact) (workload : String) (q : Query) : Prop :=
  ∀ engine ∈ a.engines.toList,
    ∃ m ∈ a.results, m.status = .ok ∧ m.resultKey = q.resultKey workload engine

/-- Nothing in a suite is declared twice. -/
structure DistinctNames (engines : EnginePair) (suite : List Workload) : Prop where
  engines : engines.baseline ≠ engines.candidate
  workloads : (suite.map Workload.id).Nodup
  queries : ∀ w ∈ suite, (w.queries.map fun q => (q.id,q.mode)).Nodup

variable {engines : EnginePair} {suite : List Workload} {w : Workload} {engine workload : String}
  {a : Artifact} {base cand : Measurement}

theorem filter_map_resultKey (workload engine : String) (qs : List Query) (workload' engine' : String) :
    (qs.map (Query.resultKey workload' engine')).filter
        (fun k => k.workload = workload ∧ k.engine = engine) =
      if workload' = workload ∧ engine' = engine then qs.map (Query.resultKey workload' engine')
      else [] := by
  by_cases hsame : workload' = workload ∧ engine' = engine
  · rw [if_pos hsame,List.filter_eq_self]
    intro k hk
    obtain ⟨q,-,rfl⟩ := List.mem_map.mp hk
    exact decide_eq_true hsame
  · rw [if_neg hsame,List.filter_eq_nil_iff]
    intro k hk
    obtain ⟨q,-,rfl⟩ := List.mem_map.mp hk
    exact fun hown => hsame (of_decide_eq_true hown)

namespace DistinctNames

/-- Of what a suite owes, the keys for one workload on one engine. -/
theorem filter_resultKeys (h : DistinctNames engines suite) (hw : w ∈ suite)
    (hengine : engine ∈ engines.toList) :
    (suite.flatMap (Workload.resultKeys engines)).filter
        (fun k => k.workload = w.id ∧ k.engine = engine) =
      w.queries.map (Query.resultKey w.id engine) := by
  have hown : (w.resultKeys engines).filter (fun k => k.workload = w.id ∧ k.engine = engine) =
      w.queries.map (Query.resultKey w.id engine) := by
    have hdistinct := h.engines
    rw [EnginePair.mem_toList] at hengine
    simp only [Workload.resultKeys,EnginePair.toList,List.flatMap_cons,List.flatMap_nil,
      List.append_nil,List.filter_append,filter_map_resultKey,true_and]
    rcases hengine with rfl | rfl <;> simp [hdistinct,hdistinct.symm]
  have hothers : ∀ v : Workload, v.id ≠ w.id →
      (v.resultKeys engines).filter (fun k => k.workload = w.id ∧ k.engine = engine) = [] := by
    intro v hv
    simp only [Workload.resultKeys,List.filter_flatMap,filter_map_resultKey]
    simp [hv]
  obtain ⟨before,after,rfl⟩ := List.append_of_mem hw
  have hids : ∀ v ∈ before ++ after, v.id ≠ w.id := by
    have hnodup := h.workloads
    rw [List.map_append,List.map_cons,List.nodup_middle,← List.map_append] at hnodup
    exact fun v hv hid => hnodup.notMem (hid ▸ List.mem_map_of_mem hv)
  have hnil : ∀ vs ⊆ before ++ after, (vs.flatMap (Workload.resultKeys engines)).filter
      (fun k => k.workload = w.id ∧ k.engine = engine) = [] := by
    intro vs hvs
    rw [List.filter_flatMap,List.flatMap_eq_nil_iff]
    exact fun v hv => hothers v (hids v (hvs hv))
  rw [List.flatMap_append,List.flatMap_cons,List.filter_append,List.filter_append,hown,
    hnil before (List.subset_append_left _ _),hnil after (List.subset_append_right _ _),
    List.nil_append,List.append_nil]

variable {ms : List Measurement}

/-- The results for one workload on one engine have the keys of its queries, in order. -/
theorem map_resultKey_filter (h : DistinctNames engines suite) (hw : w ∈ suite)
    (hengine : engine ∈ engines.toList)
    (hkeys : ms.map Measurement.resultKey = suite.flatMap (Workload.resultKeys engines)) :
    (ms.filter fun m => m.workload = w.id ∧ m.engine = engine).map Measurement.resultKey =
      w.queries.map (Query.resultKey w.id engine) := by
  rw [← h.filter_resultKeys hw hengine,← hkeys,List.filter_map]
  rfl

theorem inStep (h : DistinctNames engines suite) (hw : w ∈ suite) (hengine : engine ∈ engines.toList)
    (hkeys : ms.map Measurement.resultKey = suite.flatMap (Workload.resultKeys engines)) :
    List.Forall₂ (fun m q => m.resultKey = Query.resultKey w.id engine q)
      (ms.filter fun m => m.workload = w.id ∧ m.engine = engine) w.queries := by
  have hmaps := h.map_resultKey_filter hw hengine hkeys
  rw [← List.forall₂_eq_eq_eq,List.forall₂_map_left_iff,List.forall₂_map_right_iff] at hmaps
  exact hmaps

/-- Two results for one query on one engine are the same. -/
theorem result_inj (h : DistinctNames engines suite) (hw : w ∈ suite)
    (hengine : engine ∈ engines.toList)
    (hkeys : ms.map Measurement.resultKey = suite.flatMap (Workload.resultKeys engines))
    {m m' : Measurement} (hm : m ∈ ms) (hm' : m' ∈ ms) {q : Query}
    (hkey : m.resultKey = q.resultKey w.id engine) (hkey' : m'.resultKey = q.resultKey w.id engine) :
    m = m' := by
  have hnodup : (w.queries.map (Query.resultKey w.id engine)).Nodup := by
    refine List.Nodup.of_map (fun k => (k.query,k.mode)) ?_
    rw [List.map_map]
    exact h.queries w hw
  rw [← h.map_resultKey_filter hw hengine hkeys] at hnodup
  have hmem : ∀ {n}, n ∈ ms → n.resultKey = q.resultKey w.id engine →
      n ∈ ms.filter fun m => m.workload = w.id ∧ m.engine = engine := by
    intro n hn hkey
    rw [Measurement.resultKey,Query.resultKey,ResultKey.mk.injEq] at hkey
    simp [hn,hkey]
  exact List.inj_on_of_nodup_map hnodup (hmem hm hkey) (hmem hm' hkey') (hkey.trans hkey'.symm)

end DistinctNames

/-- A pair is of the first query of a workload that both engines completed. -/
structure BelongsTo (a : Artifact) (w : Workload) (base cand : Measurement) (q : Query) : Prop where
  first : IsFirst (a.CompletedOnBoth w.id) w.queries q
  base : base.resultKey = q.resultKey w.id a.engines.baseline
  candidate : cand.resultKey = q.resultKey w.id a.engines.candidate

theorem Measurement.resultKey_eq_iff {m : Measurement} {q : Query} :
    m.resultKey = q.resultKey workload engine ↔
      m.workload = workload ∧ m.engine = engine ∧ m.query = q.id ∧ m.mode = q.mode := by
  simp only [resultKey,Query.resultKey,ResultKey.mk.injEq]
  tauto

theorem belongsTo_of_decisivePair (h : DistinctNames a.engines suite) (hw : w ∈ suite)
    (hkeys : a.results.map Measurement.resultKey = suite.flatMap (Workload.resultKeys a.engines))
    (hpair : DecisivePair a.results w.id a.engines base cand) : ∃ q, BelongsTo a w base cand q := by
  have hbaseline := a.engines.baseline_mem
  have hcandidate := a.engines.candidate_mem
  -- the candidates of the workload, in step with its queries
  have hfirst : IsFirst (fun c => c.status = .ok ∧
      ∃ b ∈ a.results, b.CompletedOn w.id a.engines.baseline ∧ b.Comparable c)
      (a.results.filter fun m => m.workload = w.id ∧ m.engine = a.engines.candidate) cand := by
    rw [← IsFirst.iff_filter]
    simpa [Measurement.CompletedOn,and_assoc] using hpair.candidate
  have hagree : ∀ c ∈ a.results.filter fun m => m.workload = w.id ∧ m.engine = a.engines.candidate,
      ∀ q ∈ w.queries, c.resultKey = q.resultKey w.id a.engines.candidate →
      ((c.status = .ok ∧
        ∃ b ∈ a.results, b.CompletedOn w.id a.engines.baseline ∧ b.Comparable c) ↔
        a.CompletedOnBoth w.id q) := by
    intro c hc q _ hkey
    have hc := (List.mem_filter.mp hc).1
    obtain ⟨-,-,hquery,hmode⟩ := Measurement.resultKey_eq_iff.mp hkey
    constructor
    · rintro ⟨hok,b,hb,⟨hworkload,hengine,hbok⟩,hsame⟩ engine hmem
      rcases EnginePair.mem_toList.mp hmem with rfl | rfl
      · exact ⟨b,hb,hbok,Measurement.resultKey_eq_iff.mpr
          ⟨hworkload,hengine,hsame.1.trans hquery,hsame.2.trans hmode⟩⟩
      · exact ⟨c,hc,hok,hkey⟩
    · intro hboth
      obtain ⟨b,hb,hbok,hbkey⟩ := hboth _ hbaseline
      obtain ⟨c',hc',hok,hkey'⟩ := hboth _ hcandidate
      obtain rfl := h.result_inj hw hcandidate hkeys hc hc' hkey hkey'
      obtain ⟨hworkload,hengine,hbquery,hbmode⟩ := Measurement.resultKey_eq_iff.mp hbkey
      exact ⟨hok,b,hb,⟨hworkload,hengine,hbok⟩,hbquery.trans hquery.symm,hbmode.trans hmode.symm⟩
  obtain ⟨q,hkey,hq⟩ := hfirst.of_forall₂ (h.inStep hw hcandidate hkeys) hagree
  obtain ⟨-,-,hquery,hmode⟩ := Measurement.resultKey_eq_iff.mp hkey
  obtain ⟨⟨hworkload,hengine,-⟩,hsame⟩ := hpair.partner.1
  exact ⟨q,hq,Measurement.resultKey_eq_iff.mpr
    ⟨hworkload,hengine,hsame.1.trans hquery,hsame.2.trans hmode⟩,hkey⟩

/-- There is a pair exactly if some query was completed on both engines. -/
theorem exists_decisivePair_iff (h : DistinctNames a.engines suite) (hw : w ∈ suite)
    (hkeys : a.results.map Measurement.resultKey = suite.flatMap (Workload.resultKeys a.engines)) :
    (∃ base cand, DecisivePair a.results w.id a.engines base cand) ↔
      ∃ q ∈ w.queries, a.CompletedOnBoth w.id q := by
  constructor
  · rintro ⟨base,cand,hpair⟩
    obtain ⟨q,hq⟩ := belongsTo_of_decisivePair h hw hkeys hpair
    exact ⟨q,hq.first.mem,hq.first.1⟩
  · rintro ⟨q,-,hboth⟩
    obtain ⟨b,hb,hbok,hbkey⟩ := hboth _ a.engines.baseline_mem
    obtain ⟨c,hc,hcok,hckey⟩ := hboth _ a.engines.candidate_mem
    obtain ⟨hbworkload,hbengine,hbquery,hbmode⟩ := Measurement.resultKey_eq_iff.mp hbkey
    obtain ⟨hcworkload,hcengine,hcquery,hcmode⟩ := Measurement.resultKey_eq_iff.mp hckey
    obtain ⟨cand,hcand⟩ := IsFirst.exists_of_mem (P := fun c =>
      c.CompletedOn w.id a.engines.candidate ∧
        ∃ b ∈ a.results, b.CompletedOn w.id a.engines.baseline ∧ b.Comparable c) hc
      ⟨⟨hcworkload,hcengine,hcok⟩,b,hb,⟨hbworkload,hbengine,hbok⟩,
        hbquery.trans hcquery.symm,hbmode.trans hcmode.symm⟩
    obtain ⟨b',hb',hpartner⟩ := hcand.1.2
    obtain ⟨base,hbase⟩ := IsFirst.exists_of_mem (P := fun b =>
      b.CompletedOn w.id a.engines.baseline ∧ b.Comparable cand) hb' hpartner
    exact ⟨base,cand,hcand,hbase⟩

namespace Runner

open Baseline (sampled)

variable {σ : Type}

theorem yields_advised (o : Options) (d : Detector) (id : RunId) (env : Environment)
    (suite : List Workload) :
    (run o d id env suite : Session σ Artifact).Yields fun _ a =>
      a.engines = o.trial.engines ∧
      a.summary.advice = (a.outcomes.filter fun x => x.status == .completed).map
        (fun x => recommend o.thresholds a.engines a.results x.workload) ∧
      a.results.map Measurement.resultKey = suite.flatMap (Workload.resultKeys a.engines) := by
  refine yields_of_assembled (P := (Covers o.trial.engines · suite))
    (fun deadline => yields_runWorkloads o.trial deadline false suite) ?_
  intro exhausted reports a hcovers hassembled
  rw [hassembled.engines]
  refine ⟨rfl,?_,?_⟩
  · rw [hassembled.summary]
    rfl
  · rw [hassembled.results,resultKey_attach]
    exact hcovers.resultKeys

/-- The advice on a workload rests on the first complete candidate with a complete partner, and on
its first partner; it is there if both have a summary and the candidate took time, and then says
what they say, and otherwise it has no figures. Nothing but the complete results of the workload on
each engine has a say in it. In a run it rests on the first declared query that both engines
completed. -/
theorem advice_rests_on_first_pair (t : AdviceThresholds) (engines : EnginePair)
    (workload : String) :
    (∀ ms base cand, decisivePair? ms workload engines = some (base,cand) ↔
      DecisivePair ms workload engines base cand) ∧
    (∀ ms, (recommend t engines ms workload).advice.isSome = true ↔
      ∃ base cand x y, DecidesBy ms workload engines base cand x y) ∧
    (∀ ms base cand x y, DecidesBy ms workload engines base cand x y →
      (recommend t engines ms workload).RestsOn t base cand x y) ∧
    (∀ ms, (recommend t engines ms workload).advice = none →
      (recommend t engines ms workload).query = none ∧
      (recommend t engines ms workload).mode = none ∧
      (recommend t engines ms workload).speedup = none ∧
      (recommend t engines ms workload).compression = none) ∧
    (∀ ms ms', (∀ engine ∈ engines.toList, (ms.filter fun m => m.CompletedOn workload engine) =
      ms'.filter fun m => m.CompletedOn workload engine) →
      recommend t engines ms workload = recommend t engines ms' workload) ∧
    ∀ (o : Options) (d : Detector) (id : RunId) (env : Environment) (suite : List Workload)
      (c : Client σ) (s : World σ) (a : Artifact), (run o d id env suite c s).1 = .ok a →
      DistinctNames o.trial.engines suite → a.engines = o.trial.engines ∧
      a.summary.advice = (a.outcomes.filter fun x => x.status == .completed).map
        (fun x => recommend o.thresholds a.engines a.results x.workload) ∧
      ∀ w ∈ suite,
        (∀ base cand, DecisivePair a.results w.id a.engines base cand →
          ∃ q, BelongsTo a w base cand q) ∧
        ((∃ base cand, DecisivePair a.results w.id a.engines base cand) ↔
          ∃ q ∈ w.queries, a.CompletedOnBoth w.id q) := by
  refine ⟨fun _ _ _ => decisivePair?_eq_some_iff,fun _ => advice_isSome_iff,
    fun _ _ _ _ _ => restsOn_recommend,fun _ => figures_of_advice_none,fun ms ms' hsame => ?_,?_⟩
  · exact recommend_congr (hsame _ (EnginePair.mem_toList.mpr (.inl rfl)))
      (hsame _ (EnginePair.mem_toList.mpr (.inr rfl)))
  · intro o d id env suite c s a hrun hnames
    obtain ⟨_,_,_,hyields⟩ := yields_advised o d id env suite c s
    obtain ⟨hengines,hadvice,hkeys⟩ := hyields a hrun
    rw [← hengines] at hnames
    exact ⟨hengines,hadvice,fun w hw => ⟨fun _ _ => belongsTo_of_decisivePair hnames hw hkeys,
      exists_decisivePair_iff hnames hw hkeys⟩⟩

theorem completedOnBoth_iff {q : Query} : a.CompletedOnBoth workload q ↔
    ∀ engine ∈ a.engines.toList, (q.resultKey workload engine,Status.ok) ∈
      a.results.map fun m => (m.resultKey,m.status) := by
  simp only [Artifact.CompletedOnBoth,List.mem_map,Prod.mk.injEq,and_comm]

/-- Half the latency and a quarter of the size. -/
def twiceAsFast : List Measurement :=
  [sampled "point" "btree" .hot (.ofNat 20) (some 4000),
    sampled "point" "smol" .hot (.ofNat 10) (some 1000)]

/-- A speedup of two; and a run whose hot query timed out on the baseline engine, so that its cold
query, declared second, decides. -/
theorem advice_rests_on_first_pair_hotAndCold :
    (∃ base cand x y, DecidesBy twiceAsFast "dimension_1k" ⟨"btree","smol"⟩ base cand x y ∧
      (recommend .standard ⟨"btree","smol"⟩ twiceAsFast "dimension_1k").advice =
        some .stronglyRecommend ∧
      (recommend .standard ⟨"btree","smol"⟩ twiceAsFast "dimension_1k").RestsOn .standard base cand
        x y ∧ x.div y = .ofNat 2) ∧
    ∃ a base cand q, (run {} ⟨none,.standard,"smol"⟩ default (.ofCapacity none) [.hotAndCold]
        (.failingAt [(9,.queryTimeout "SELECT 1;" 5)]) ⟨0,#[]⟩).1 = .ok a ∧
      DistinctNames ⟨"btree","smol"⟩ [.hotAndCold] ∧
      DecisivePair a.results "lookup" a.engines base cand ∧
      BelongsTo a .hotAndCold base cand q ∧ q.id = "cold" := by
  obtain ⟨hpair,-,hrests,-,-,hrun⟩ :=
    advice_rests_on_first_pair (σ := Nat) .standard ⟨"btree","smol"⟩ "dimension_1k"
  constructor
  · have hdecides : DecidesBy twiceAsFast "dimension_1k" ⟨"btree","smol"⟩
        (sampled "point" "btree" .hot (.ofNat 20) (some 4000))
        (sampled "point" "smol" .hot (.ofNat 10) (some 1000)) (.ofNat 20) (.ofNat 10) :=
      ⟨(hpair _ _ _).mp (by decide +kernel),rfl,rfl,by decide +kernel⟩
    exact ⟨_,_,_,_,hdecides,by decide +kernel,hrests _ _ _ _ _ hdecides,by decide +kernel⟩
  · have hnames : DistinctNames ⟨"btree","smol"⟩ [.hotAndCold] :=
      ⟨by decide,by decide,by simp [Workload.hotAndCold]⟩
    obtain ⟨a,ha,hresults⟩ : ∃ a, (run {} ⟨none,.standard,"smol"⟩ default (.ofCapacity none)
        [.hotAndCold] (.failingAt [(9,.queryTimeout "SELECT 1;" 5)]) ⟨0,#[]⟩).1 = .ok a ∧
        (a.results.map fun m => (m.resultKey,m.status)) =
          [(⟨"lookup","hot","btree",.hot⟩,.incomplete),(⟨"lookup","cold","btree",.cold⟩,.ok),
            (⟨"lookup","hot","smol",.hot⟩,.ok),(⟨"lookup","cold","smol",.cold⟩,.ok)] :=
      ok_of_toOption (by decide +kernel)
    obtain ⟨hengines,-,hworkloads⟩ := hrun _ _ _ _ _ _ _ _ ha hnames
    obtain ⟨hbelongs,hexists⟩ := hworkloads .hotAndCold (by simp)
    have hboth : ∀ q, a.CompletedOnBoth "lookup" q ↔ ∀ engine ∈ ["btree","smol"],
        (q.resultKey "lookup" engine,Status.ok) ∈
          [(ResultKey.mk "lookup" "hot" "btree" .hot,Status.incomplete),
            (⟨"lookup","cold","btree",.cold⟩,.ok),(⟨"lookup","hot","smol",.hot⟩,.ok),
            (⟨"lookup","cold","smol",.cold⟩,.ok)] := by
      intro q
      rw [completedOnBoth_iff,hresults,hengines]
      rfl
    obtain ⟨base,cand,hdecisive⟩ := hexists.mpr
      ⟨_,List.mem_cons_of_mem _ List.mem_cons_self,(hboth _).mpr (by decide)⟩
    obtain ⟨q,hq⟩ := hbelongs base cand hdecisive
    refine ⟨a,base,cand,q,ha,hnames,hdecisive,hq,?_⟩
    have hcompleted := (hboth q).mp hq.first.1 "btree" (by simp)
    have hcold : q.id = "cold" ∧ q.mode = .cold := by simpa [Query.resultKey] using hcompleted
    exact hcold.1

end Runner

end IndexTrial
