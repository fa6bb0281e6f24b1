import IndexTrial.Proofs.Workload.Overflow
import IndexTrial.Proofs.Workload.Sources

/-!
Which queries find rows. Where the key of a table counts its rows, or is a residue of the count, the
conditions are worked out from the number of rows and some key meets each of them. The conditions on
metrics are fixed numbers, and a table of too few metrics has no row for them.
-/

namespace IndexTrial

namespace PatternWorkload

/-- A table has keys, every query puts a condition on them, and some key meets it just if the query
is among the given. -/
def HitsExactly (w : PatternWorkload) (hits : Query → Prop) : Prop :=
  ∃ keys, w.keys? = some keys ∧ ∀ q ∈ w.queries, ∃ condition,
    KeyCondition.read? w.indexColumns q.sql = some condition ∧ (keys.Hits condition ↔ hits q)

theorem HitsExactly.congr {w : PatternWorkload} {P Q : Query → Prop} (h : w.HitsExactly P)
    (hiff : ∀ q ∈ w.queries, P q ↔ Q q) : w.HitsExactly Q := by
  obtain ⟨keys,hkeys,heach⟩ := h
  refine ⟨keys,hkeys,fun q hq => ?_⟩
  obtain ⟨condition,hread,hhits⟩ := heach q hq
  exact ⟨condition,hread,hhits.trans (hiff q hq)⟩

/-- What the templates ask of the keys is what the queries ask. -/
theorem hitsExactly_ofFixture {f : Fixture} {modes : List CacheMode} {keys : KeySource}
    {column : String} {P : String → Prop} (hkeys : (ofFixture f modes).keys? = some keys)
    (hindex : f.indexColumns = column)
    (h : ∀ t ∈ f.templates, ∃ condition,
      KeyCondition.read? column (replaceText tableSlot (tableName f.id) t.sql) = some condition ∧
        (keys.Hits condition ↔ P t.id)) :
    (ofFixture f modes).HitsExactly fun q => P q.id := by
  refine ⟨keys,hkeys,fun q hq => ?_⟩
  obtain ⟨t,ht,hq⟩ := List.mem_flatMap.mp hq
  obtain ⟨mode,_,rfl⟩ := List.mem_map.mp hq
  rw [show (ofFixture f modes).indexColumns = column from hindex]
  exact h t ht

theorem hitsAll_ofFixture {f : Fixture} {modes : List CacheMode} {keys : KeySource}
    (hkeys : (ofFixture f modes).keys? = some keys) (hindex : f.indexColumns = "id")
    (h : ∀ t ∈ f.templates, ∃ condition,
      KeyCondition.read? "id" (replaceText tableSlot (tableName f.id) t.sql) = some condition ∧
        keys.Hits condition) : (ofFixture f modes).HitsExactly fun _ => True := by
  refine hitsExactly_ofFixture (P := fun _ => True) hkeys hindex fun t ht => ?_
  obtain ⟨condition,hread,hhits⟩ := h t ht
  exact ⟨condition,hread,iff_true_intro hhits⟩

end PatternWorkload

namespace Pattern

open PatternWorkload

variable {rows : Nat} {f : Fixture}

theorem tableName_ne_where (id : String) : tableName id ≠ "WHERE" := by
  intro h
  have hfirst := congrArg (List.head? ·.toList) h
  simp [tableName] at hfirst

theorem isLead_sums (columns : Nat) : IsLead ("SELECT " ++ ", ".intercalate
    ((payloadColumns.take columns).map (fun c => s!"sum({c})") ++ ["count(*)"]) ++ " FROM ") where
  closed := (isQueryStart_sums columns).closed
  apart := (reads_frame _ (by decide : IsFrame " FROM ".toList ["FROM"])).apart

theorem hits_dimension (hrows : 0 < rows) (seed : Nat) (modes : List CacheMode) :
    (ofFixture (dimensionFixture rows seed) modes).HitsExactly fun _ => True := by
  have hcount : IsLead "SELECT count(*) FROM " := isLead_ofList (by decide)
  refine hitsAll_ofFixture (keys?_dimension rows seed modes) rfl
    (List.forall_mem_cons.mpr ⟨?_,List.forall_mem_singleton.mpr ?_⟩)
  · obtain ⟨hlow,hhigh⟩ : 1 ≤ drawUpTo seed (max rows 1) ∧ drawUpTo seed (max rows 1) ≤ max rows 1 :=
      drawUpTo_mem (by omega)
    refine ⟨_,KeyCondition.read?_equals isLead_all (isRun_tableName _) _,
      drawUpTo seed (max rows 1),⟨hlow,?_⟩,rfl⟩
    exact Nat.le_trans hhigh (by dsimp only; omega)
  · exact ⟨_,KeyCondition.read?_atLeast hcount (isRun_tableName _) _,rows,⟨hrows,Nat.le_refl _⟩,
      Nat.div_le_self ..⟩

theorem hits_backwardScan (hrows : 0 < rows) (h : backwardScanFixture rows = .ok f)
    (modes : List CacheMode) : (ofFixture f modes).HitsExactly fun _ => True := by
  have hkeys := keys?_backwardScan h modes
  obtain ⟨ninefold,hninefold,h⟩ := ok_of_bind h
  obtain rfl := (mulWord_eq_ok_iff.mp hninefold).2
  cases h
  refine hitsAll_ofFixture hkeys rfl (List.forall_mem_cons.mpr ⟨?_,List.forall_mem_singleton.mpr ?_⟩)
  · have hfree : "WHERE" ∉ tokens "SELECT * FROM " := not_mem_tokens (by decide)
    exact ⟨_,KeyCondition.read?_any isLead_all (isRun_tableName _)
      ["ORDER","BY","id","DESC","LIMIT","100"] hfree (tableName_ne_where _) (by decide) (by decide)
      (by decide),rows,⟨hrows,Nat.le_refl _⟩,trivial⟩
  · refine ⟨_,KeyCondition.read?_above isLead_all (isRun_tableName _) _ ["BY","id","DESC"]
      (by decide) (by decide) (by decide),rows,⟨hrows,Nat.le_refl _⟩,?_⟩
    exact (by omega : rows * 9 / 10 < rows)

theorem hits_limit (hrows : 0 < rows) (modes : List CacheMode) :
    (ofFixture (limitFixture rows) modes).HitsExactly fun _ => True := by
  have hhalf : rows / 2 < rows := Nat.div_lt_self hrows (by decide)
  refine hitsAll_ofFixture (keys?_limit rows modes) rfl
    (List.forall_mem_cons.mpr ⟨?_,List.forall_mem_singleton.mpr ?_⟩)
  · exact ⟨_,KeyCondition.read?_above isLead_all (isRun_tableName _) _ ["BY","id","LIMIT","100"]
      (by decide) (by decide) (by decide),rows,⟨hrows,Nat.le_refl _⟩,hhalf⟩
  · exact ⟨_,KeyCondition.read?_above isLead_all (isRun_tableName _) _ ["BY","id","LIMIT","10000"]
      (by decide) (by decide) (by decide),rows,⟨hrows,Nat.le_refl _⟩,hhalf⟩

theorem hits_includeOverhead (hrows : 0 < rows) (columns : Nat) (modes : List CacheMode) :
    (ofFixture (coveringFixture (payloadColumns.take columns) rows) modes).HitsExactly
      fun _ => True := by
  refine hitsAll_ofFixture (keys?_covering _ rows modes) rfl (List.forall_mem_singleton.mpr ?_)
  exact ⟨_,KeyCondition.read?_atLeast (isLead_sums columns) (isRun_tableName _) _,
    rows,⟨hrows,Nat.le_refl _⟩,Nat.div_le_self ..⟩

theorem one_lt_of_keyDomain {key : KeyType} {domain : Nat} (hrows : 1 < rows)
    (h : keyDomain key rows = .ok domain) : 1 < domain := by
  cases key with
  | int2 =>
    obtain rfl : max (min rows 32767) 1 = domain := Except.ok.inj h
    omega
  | int8 | date =>
    obtain ⟨n,hn,h⟩ := ok_of_bind (x := mulWord rows 2) h
    obtain ⟨_,rfl⟩ := mulWord_eq_ok_iff.mp hn
    obtain rfl : max (rows * 2) 1 = domain := Except.ok.inj h
    omega

/-- The middle of at least two keys is one of them. -/
theorem hits_integer {key : KeyType} {domain : Nat} (hrows : 1 < rows) (hdomain : 1 < domain)
    (h : IsInteger key rows domain f) (modes : List CacheMode) :
    (ofFixture f modes).HitsExactly fun _ => True := by
  have hmiddle : KeySource.Gives ⟨.residue domain,rows⟩ (min domain rows / 2) :=
    ⟨min domain rows / 2,by omega,by dsimp only; omega,Nat.mod_eq_of_lt (by omega)⟩
  refine hitsAll_ofFixture (h.keys? modes) h.indexColumns ?_
  rw [h.templates]
  refine List.forall_mem_cons.mpr ⟨?_,List.forall_mem_singleton.mpr ?_⟩
  · exact ⟨_,KeyCondition.read?_between isLead_all (isRun_tableName _) _ _,
      _,hmiddle,Nat.le_refl _,Nat.le_add_right ..⟩
  · exact ⟨_,KeyCondition.read?_equals isLead_all (isRun_tableName _) _,_,hmiddle,rfl⟩

theorem hits_indexOnly (hrows : 10 ≤ rows) (h : indexOnlyFixture rows = .ok f)
    (modes : List CacheMode) : (ofFixture f modes).HitsExactly fun _ => True := by
  have hid : IsLead "SELECT id FROM " := isLead_ofList (by decide)
  have hkeys := keys?_indexOnly h modes
  have htenth : KeySource.Gives ⟨.counter,rows⟩ (rows / 10) :=
    ⟨by omega,Nat.div_le_self ..⟩
  obtain ⟨near,hnear,h⟩ := ok_of_bind h
  obtain rfl := (addWord_eq_ok_iff.mp hnear).2
  cases h
  refine hitsAll_ofFixture hkeys rfl (List.forall_mem_cons.mpr ⟨?_,List.forall_mem_singleton.mpr ?_⟩)
  · exact ⟨_,KeyCondition.read?_between hid (isRun_tableName _) _ _,_,htenth,Nat.le_refl _,
      Nat.div_le_div_left (by decide) (by decide)⟩
  · exact ⟨_,KeyCondition.read?_between hid (isRun_tableName _) _ _,_,htenth,Nat.le_refl _,
      Nat.le_add_right ..⟩

section

variable {table : String} (hrun : IsRun table)
include hrun

theorem read?_hotMetric : KeyCondition.read? "metric_id" (replaceText tableSlot table
    s!"SELECT count(*), avg(value) FROM {tableSlot} WHERE metric_id = 5") = some (.equals 5) := by
  have hmean : IsLead "SELECT count(*), avg(value) FROM " := isLead_ofList (by decide)
  have htokens := ReadsOn.tokens_start hmean hrun
    (by decide : IsTail " WHERE metric_id = 5".toList ["WHERE","metric_id","=","5"]) (by decide)
  exact (KeyCondition.read?_of_where htokens (by decide)).trans (by decide)

theorem read?_metricRange : KeyCondition.read? "metric_id" (replaceText tableSlot table
    s!"SELECT count(*), avg(value) FROM {tableSlot} WHERE metric_id BETWEEN 10 AND 20") =
      some (.between 10 20) := by
  have hmean : IsLead "SELECT count(*), avg(value) FROM " := isLead_ofList (by decide)
  have htokens := ReadsOn.tokens_start hmean hrun
    (by decide : IsTail " WHERE metric_id BETWEEN 10 AND 20".toList
      ["WHERE","metric_id","BETWEEN","10","AND","20"]) (by decide)
  exact (KeyCondition.read?_of_where htokens (by decide)).trans (by decide)

end

/-- Ids of metrics end below their number. -/
theorem hits_timeSeries (hrows : 0 < rows) (metrics : Nat) (modes : List CacheMode) :
    (ofFixture (timeSeriesFixture metrics rows) modes).HitsExactly fun q =>
      (q.id = "hot_metric" → 5 < metrics) ∧ (q.id = "metric_range" → 10 < metrics) := by
  have hhot : KeySource.Hits ⟨.drawn metrics,rows⟩ (.equals 5) ↔ 5 < metrics :=
    ⟨by rintro ⟨_,⟨_,hk⟩,rfl⟩; exact hk,fun h => ⟨5,⟨hrows,h⟩,rfl⟩⟩
  have hrange : KeySource.Hits ⟨.drawn metrics,rows⟩ (.between 10 20) ↔ 10 < metrics :=
    ⟨by rintro ⟨k,⟨_,hk⟩,hlow,_⟩; exact Nat.lt_of_le_of_lt hlow hk,
      fun h => ⟨10,⟨hrows,h⟩,by decide,by decide⟩⟩
  refine hitsExactly_ofFixture (P := fun id => (id = "hot_metric" → 5 < metrics) ∧
    (id = "metric_range" → 10 < metrics)) (keys?_timeSeries metrics rows modes) rfl
    (List.forall_mem_cons.mpr ⟨?_,List.forall_mem_singleton.mpr ?_⟩)
  · exact ⟨_,read?_hotMetric (isRun_tableName _),by simp [template,hhot]⟩
  · exact ⟨_,read?_metricRange (isRun_tableName _),by simp [template,hrange]⟩

/-- Patterns whose queries are conditions on a numeric key. -/
def looksUpKeys : Pattern → Bool
  | timeSeries _ | dimension | backwardScan | limit | includeOverhead _ | indexOnly => true
  | dataType key => key != .date
  | _ => false

end Pattern

namespace PatternWorkload

variable {p : Pattern} {rows seed : Nat} {modes : List CacheMode} {w : PatternWorkload}

/-- At a thousand rows or more, every lookup of a key finds one, but for those of metrics that the
table does not have. -/
theorem build_hits_exactly (hp : p.looksUpKeys = true) (hrows : 1000 ≤ rows)
    (h : build p rows modes seed = .ok w) :
    w.HitsExactly fun q => ∀ metrics, p = .timeSeries metrics →
      (q.id = "hot_metric" → 5 < metrics) ∧ (q.id = "metric_range" → 10 < metrics) := by
  obtain ⟨f,hf,rfl⟩ := build_eq_ok h
  have hpos : 0 < rows := by omega
  cases p with
  | timeSeries metrics =>
    cases hf
    exact (Pattern.hits_timeSeries hpos metrics modes).congr (by simp)
  | dimension =>
    cases hf
    exact (Pattern.hits_dimension hpos seed modes).congr (by simp)
  | backwardScan => exact (Pattern.hits_backwardScan hpos hf modes).congr (by simp)
  | limit =>
    cases hf
    exact (Pattern.hits_limit hpos modes).congr (by simp)
  | includeOverhead columns =>
    cases (Pattern.includeOverheadFixture_eq columns rows).symm.trans hf
    exact (Pattern.hits_includeOverhead hpos columns modes).congr (by simp)
  | dataType key =>
    have hkey : key ≠ .date := by simpa [Pattern.looksUpKeys] using hp
    obtain ⟨domain,hinteger⟩ := Pattern.exists_isInteger hkey hf
    have hdomain : 1 < domain := Pattern.one_lt_of_keyDomain (by omega) hinteger.keys
    exact (Pattern.hits_integer (by omega) hdomain hinteger modes).congr (by simp)
  | indexOnly => exact (Pattern.hits_indexOnly (by omega) hf modes).congr (by simp)
  | _ => simp [Pattern.looksUpKeys] at hp

/-- Of ten metrics one can be hot, and none lies in the range. -/
theorem build_hits_exactly_tenMetrics : ∃ w, build (.timeSeries 10) 1000 [.hot] 42 = .ok w ∧
    w.HitsExactly fun q => q.id ≠ "metric_range" := by
  obtain ⟨w,hw⟩ : ∃ w, build (.timeSeries 10) 1000 [.hot] 42 = .ok w := ⟨_,rfl⟩
  exact ⟨w,hw,(build_hits_exactly rfl (Nat.le_refl _) hw).congr (by simp)⟩

/-- The range that a quick run scans over ten metrics: no key is in it. -/
theorem not_every_lookup_hits : (Pattern.timeSeries 10,[CacheMode.hot]) ∈ Suite.quickTail ∧
    ∃ w keys, build (.timeSeries 10) 100000 [.hot] 42 = .ok w ∧ w.keys? = some keys ∧
      ∃ q ∈ w.queries, KeyCondition.read? w.indexColumns q.sql = some (.between 10 20) ∧
        ¬keys.Hits (.between 10 20) := by
  refine ⟨by simp [Suite.quickTail],_,_,rfl,Pattern.keys?_timeSeries 10 100000 [.hot],?_⟩
  refine ⟨_,List.mem_cons_of_mem _ (List.mem_singleton_self _),
    Pattern.read?_metricRange (isRun_tableName _),?_⟩
  rintro ⟨k,⟨_,hk⟩,hlow,_⟩
  exact absurd hk (Nat.not_lt.mpr hlow)

end PatternWorkload

namespace Suite

/-- Every quick run times a range scan that finds nothing. -/
theorem exists_missing {env : Environment} {seed : Nat} {suite : List PatternWorkload}
    (h : Suite.build .quick env seed = .ok suite) : ∃ w ∈ suite,
      w.HitsExactly (fun q => q.id ≠ "metric_range") ∧ ∃ q ∈ w.queries, q.id = "metric_range" := by
  obtain ⟨front,tail,htail,rfl⟩ := exists_quickTail h
  have hrows : 0 < env.scale.profile.rowCounts.headD 100000 := by
    cases env.scale <;> decide
  obtain ⟨w,hw,hbuild⟩ := exists_of_mapM htail (.timeSeries 10,[.hot]) (by simp [quickTail])
  refine ⟨w,List.mem_append_right _ hw,?_⟩
  cases hbuild
  exact ⟨(Pattern.hits_timeSeries hrows 10 [.hot]).congr (by simp),
    _,List.mem_cons_of_mem _ (List.mem_singleton_self _),rfl⟩

end Suite

end IndexTrial
