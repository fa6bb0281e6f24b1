import IndexTrial.Proofs.Run.Abort
import IndexTrial.Proofs.Store.Phases

/-!
A whole execution over a store that fails nothing that can be done. It is completed, its data are
there when the engines take their turns, and what it leaves is the table at most.
-/

namespace IndexTrial

attribute [local irreducible] Statement.read

open Store

/-- What is asked about a table's rows. -/
def lookCalls (table : String) : List Call :=
  [.execute s!"SELECT to_regclass('{table}') IS NOT NULL;",.execute s!"SELECT count(*) FROM {table};"]

theorem RowCount.calls_prefix {table : String} {es : List Exchange} {r : Except Fault (Option Nat)}
    (h : RowCount table es r) : es.map Exchange.call <+: lookCalls table := by
  cases h <;> simp [lookCalls]

theorem OwnCall.of_lookCalls {o : TrialOptions} {w : Workload} {call : Call}
    (h : call ∈ lookCalls w.table) : OwnCall o w call := by
  simp only [lookCalls,List.mem_cons,List.not_mem_nil,or_false] at h
  rcases h with rfl | rfl
  · exact .lookUp
  · exact .count

namespace Store

/-- The store that an execution's engines find, from the one that it began with: the data were there
to be reused, or were loaded. -/
inductive Supplied (s : Store) (table : String) (reuse : Bool) : Bool × Option Nat → Store → Prop
  | reused {rows : Nat} (hreuse : reuse = true) (hfound : s.rows? table = some rows)
      (hrows : 0 < rows) : Supplied s table reuse (false,some rows) s
  | loaded {rows : Nat} (hmissing : reuse = true → ∀ n, s.rows? table = some n → n = 0)
      (hrows : 0 < rows) (hcount : rows < 2 ^ 64) :
      Supplied s table reuse (true,some rows) ((s.dropTable table).createTable table rows)

theorem Supplied.rows? {s u : Store} {table : String} {reuse : Bool} {d : Bool × Option Nat}
    (h : s.Supplied table reuse d u) : ∃ n, 0 < n ∧ d.2 = some n ∧ u.rows? table = some n := by
  cases h with
  | reused _ hfound hrows => exact ⟨_,hrows,rfl,hfound⟩
  | loaded _ hrows _ => exact ⟨_,hrows,rfl,rows?_createTable _ _ _⟩

/-- Rows that may be reused are. -/
theorem Supplied.of_rows {s u : Store} {table : String} {reuse : Bool} {d : Bool × Option Nat}
    (h : s.Supplied table reuse d u) (hreuse : reuse = true) {n : Nat} (hn : s.rows? table = some n)
    (hpos : 0 < n) : d = (false,some n) := by
  cases h with
  | reused _ hfound _ => rw [← hn,hfound]
  | loaded hmissing _ _ => exact absurd (hmissing hreuse n hn) (Nat.ne_of_gt hpos)

/-- Without rows the data are loaded. -/
theorem Supplied.of_missing {s u : Store} {table : String} {reuse : Bool} {d : Bool × Option Nat}
    (h : s.Supplied table reuse d u) (hmissing : ∀ n, s.rows? table = some n → n = 0) :
    d.1 = true := by
  cases h with
  | reused _ hfound hrows => exact absurd (hmissing _ hfound) (Nat.ne_of_gt hrows)
  | loaded => rfl

/-- What is left when both engines had their turns. -/
def cleared (s : Store) (o : TrialOptions) (table : String) : Store :=
  let swept := (s.dropIndex (indexName table o.engines.baseline)).dropIndex
    (indexName table o.engines.candidate)
  if o.reuseData then swept else swept.dropTable table

variable {s t u : Store} {es : List Exchange} {o : TrialOptions} {w : PatternWorkload}

/-- Nothing stops the statements of a loading. -/
theorem can_load {table select sql : String} (htable : IsWord table)
    (h : sql ∈ PatternWorkload.loadStatements table select) (s : Store) :
    ∃ u, s.apply 1 (.read sql) = .ok u := by
  simp only [PatternWorkload.loadStatements,List.mem_cons,List.not_mem_nil,or_false] at h
  rcases h with rfl | rfl | rfl | rfl
  · exact ⟨_,by rw [Statement.read_dropTable htable]; rfl⟩
  · exact ⟨_,by rw [Statement.read_createTable htable]; rfl⟩
  · exact ⟨_,by rw [read_alterTable]; rfl⟩
  · exact ⟨_,by rw [read_vacuum]; rfl⟩

theorem Run.not_unloaded {f : Fault} (hrun : Run never s es t) (hw : w.IsPlain)
    (h : Carried (w.statements.map .required) es (some f)) : False := by
  obtain ⟨k,hk,before,rfl,_⟩ := h.required_cut
  obtain ⟨select,hstatements⟩ := hw.statements
  obtain ⟨u,_,hlast⟩ := hrun.split
  have hmem : w.statements[k] ∈ PatternWorkload.loadStatements w.table select :=
    hstatements ▸ List.getElem_mem hk
  obtain ⟨x,hx⟩ := hlast.step.executed rfl (can_load hw.table hmem u)
  cases hx

theorem Run.loaded (hrun : Run never s es t) (hw : w.IsPlain)
    (h : Carried (w.statements.map .required) es none) :
    ∃ rows, 0 < rows ∧ rows < 2 ^ 64 ∧ t = (s.dropTable w.table).createTable w.table rows := by
  obtain ⟨select,hstatements⟩ := hw.statements
  rw [hstatements] at h
  exact hrun.load (k := 4) (by simpa [PatternWorkload.loadStatements] using h) hw.table

end Store

namespace Executor

variable {s t u : Store} {es : List Exchange} {o : TrialOptions} {w : PatternWorkload}

theorem RowsFound.calls_prefix {table : String} {found : Option Nat}
    (h : RowsFound o table es found) :
    es.map Exchange.call <+: if o.reuseData then lookCalls table else [] := by
  cases h with
  | unasked => simp
  | some ho hes _ => simpa [ho] using hes.calls_prefix
  | none ho hes _ _ => simpa [ho] using hes.calls_prefix

theorem RowsFound.isQuiet {table : String} {found : Option Nat} (h : RowsFound o table es found) :
    ∀ e ∈ es, e.call.isQuiet = true := by
  cases h with
  | unasked => simp
  | some _ hes _ | none _ hes _ _ => exact hes.isQuiet

/-- Rows that were not found are not there. -/
theorem RowsFound.missing {table : String} (h : RowsFound o table es .none) (hrun : Run never s es t)
    (htable : IsWord table) (hs : s.Countable) :
    t = s ∧ (o.reuseData = true → ∀ n, s.rows? table = .some n → n = 0) := by
  cases h with
  | unasked hoff => exact ⟨hrun.eq_of_nil,by simp [hoff]⟩
  | @none _ r _ hes hr _ =>
    obtain ⟨ht,hrows⟩ := hes.truth hrun htable hs
    refine ⟨ht,fun _ n hn => ?_⟩
    rw [hn] at hrows
    cases r with
    | error f => cases hrows
    | ok found => exact hr n (congrArg Except.ok hrows)

/-- The data phase supplies the data, by the statements of the loading or by none. -/
theorem DataPhase.supplied {r : Except Fault (Bool × Option Nat)}
    (h : DataPhase o w.toWorkload es r) (hw : w.IsPlain) (hrun : Run never s es t)
    (hs : s.Countable) : ∃ d look count, r = .ok d ∧ s.Supplied w.table o.reuseData d t ∧
      es.map Exchange.call =
        look ++ (if d.1 then w.statements.map .execute else []) ++ count ∧
      look <+: (if o.reuseData then lookCalls w.table else []) ∧ count <+: lookCalls w.table := by
  cases h with
  | @found _ rows hlook =>
    refine ⟨(false,some rows),es.map Exchange.call,[],rfl,?_,by simp,hlook.calls_prefix,
      by simp⟩
    cases hlook with
    | some ho hes hrows =>
      obtain ⟨rfl,hfound⟩ := hes.truth hrun hw.table hs
      exact .reused ho hfound.symm hrows
  | @loaded look load count r hlook hload hcount hf =>
    obtain ⟨ended,hcarried,hended⟩ := hload.carried
    cases ended with
    | some f => cases hended
    | none =>
      obtain ⟨v,hrun,hcounted⟩ := hrun.split
      obtain ⟨v',hlookRun,hloadRun⟩ := hrun.split
      obtain ⟨rfl,hmissing⟩ := hlook.missing hlookRun hw.table hs
      obtain ⟨rows,hrows,hbound,rfl⟩ := hloadRun.loaded hw hcarried
      obtain ⟨rfl,hjoin⟩ := hcount.truth hcounted hw.table
        ((hs.dropTable w.table).createTable hbound w.table)
      have hnow : r.toOption.join = some rows := hjoin.trans (rows?_createTable _ _ _)
      refine ⟨(true,some rows),look.map Exchange.call,count.map Exchange.call,by rw [hnow],
        .loaded hmissing hrows hbound,?_,hlook.calls_prefix,hcount.calls_prefix⟩
      simp [hcarried.calls_eq,PlannedCall.required]
  | failed hlook hload hf =>
    obtain ⟨ended,hcarried,hended⟩ := hload.carried
    obtain ⟨v,_,hloadRun⟩ := hrun.split
    cases ended with
    | none => cases hended
    | some g => exact (hloadRun.not_unloaded hw hcarried).elim

end Executor

/-- Both turns and the tidying, on a table that is there. All queries are measured. -/
theorem TurnsTaken.effect {o : TrialOptions} {w : PatternWorkload} {turns : List Turn}
    {tidying : List Exchange} {s t : Store} (h : TurnsTaken o w.toWorkload turns tidying none)
    (hw : w.IsPlain) (hengines : ∀ engine ∈ o.engines.toList, IsWord engine)
    (hrun : Run never s (turns.flatMap Turn.exchanges ++ tidying) t)
    (hthere : (s.rows? w.table).isSome = true) : t = s.cleared o w.table ∧
      ∃ base cand, turns = [base,cand] ∧ base.engine = o.engines.baseline ∧
        cand.engine = o.engines.candidate ∧
        ∀ turn ∈ turns, Queried o w.toWorkload turn.engine w.queries turn.queries none := by
  obtain ⟨base,cand,rfl,hbase,hbaseTaken,hcand,hcandTaken,htidying⟩ := h.complete
  have hbaseline : IsWord base.engine := hbase ▸ hengines _ (EnginePair.mem_toList.mpr (.inl rfl))
  have hcandidate : IsWord cand.engine := hcand ▸ hengines _ (EnginePair.mem_toList.mpr (.inr rfl))
  obtain ⟨v,hrun,htidied⟩ := hrun.split
  simp only [List.flatMap_cons,List.flatMap_nil,List.append_nil] at hrun
  obtain ⟨u,hfirst,hsecond⟩ := hrun.split
  obtain ⟨_,_,hbaseQueried,_⟩ := hbaseTaken.goesThrough hfirst hw.table hbaseline hthere
  obtain rfl := hbaseTaken.effect hfirst hw.table hbaseline hw.queries hthere
  obtain ⟨_,_,hcandQueried,_⟩ := hcandTaken.goesThrough hsecond hw.table hcandidate hthere
  obtain rfl := hcandTaken.effect hsecond hw.table hcandidate hw.queries hthere
  rw [hbase,hcand] at htidied
  refine ⟨?_,base,cand,rfl,hbase,hcand,by simpa using ⟨hbaseQueried,hcandQueried⟩⟩
  have htidying' : Carried ([.optional Executor.resetSql] ++ if o.reuseData then [] else
      [.optional s!"DROP TABLE IF EXISTS {w.table} CASCADE;"]) tidying none := htidying
  obtain ⟨reset,drop,rfl,hreset,hdrop⟩ := htidying'.split
  obtain ⟨reply,rfl⟩ := hreset.single
  obtain ⟨v',hresetRun,hdropRun⟩ := htidied.split
  obtain rfl := hresetRun.step.of_isQuiet Executor.isQuiet_resetSql
  cases ho : o.reuseData with
  | true =>
    simp only [ho,if_true] at hdrop
    cases hdrop
    simpa [cleared,ho] using hdropRun.eq_of_nil
  | false =>
    have hread := Statement.read_dropTable hw.table
    simp only [ho,Bool.false_eq_true,if_false] at hdrop
    obtain ⟨reply,rfl⟩ := hdrop.single
    obtain ⟨x,rfl⟩ := hdropRun.step.executed hread ⟨_,rfl⟩
    obtain ⟨rows,_,_,happly,_⟩ := hdropRun.step.effect hread
    simpa [cleared,ho] using (Except.ok.inj happly).symm

namespace Executor

/-- An execution that was served: it was completed, by these calls, and left this store. -/
structure Served (o : TrialOptions) (w : PatternWorkload) (s : Store) (es : List Exchange)
    (report : Report) (t : Store) : Prop where
  status : report.outcome.status = .completed
  supplied : ∃ u, s.Supplied w.table o.reuseData (report.outcome.generated,report.outcome.rowCount) u ∧
    t = u.cleared o w.table
  calls : ∃ look measured, es.map Exchange.call =
      look ++ (if report.outcome.generated then w.statements.map .execute else []) ++ measured ++
        (tidyPlan o w.toWorkload).map PlannedCall.call ∧
    look <+: (if o.reuseData then lookCalls w.table else []) ∧
    ∀ call ∈ measured, OwnCall o w.toWorkload call

end Executor

section

variable {s t : Store} {o : TrialOptions} {w : PatternWorkload} {data tidying : List Exchange}
  {turns : List Turn} {r : Except Fault Executor.Report}

/-- An execution that ends with no fault has its data and goes through both turns. -/
theorem Course.complete (h : Course o w.toWorkload data turns tidying r) (hr : faultOf r = none)
    (hw : w.IsPlain) (hrun : Run never s (data ++ turns.flatMap Turn.exchanges ++ tidying) t)
    (hs : s.Countable) : ∃ d report elapsed u, r = .ok report ∧
      report.outcome = outcomeOf w.toWorkload elapsed (.ok d) ∧
      Executor.DataPhase o w.toWorkload data (.ok d) ∧ Run never s data u ∧
      TurnsTaken o w.toWorkload turns tidying none ∧
      Run never u (turns.flatMap Turn.exchanges ++ tidying) t := by
  cases h with
  | cut | lost => cases hr
  | missing hdata _ =>
    rw [List.flatMap_nil,List.append_nil,List.append_nil] at hrun
    obtain ⟨d,_,_,hd,_⟩ := hdata.supplied hw hrun hs
    cases hd
  | measured hdata hturns houtcome =>
    rw [List.append_assoc] at hrun
    obtain ⟨u,hdataRun,hturnsRun⟩ := hrun.split
    exact ⟨_,_,_,u,rfl,houtcome,hdata,hdataRun,hturns,hturnsRun⟩

theorem Course.served (h : Course o w.toWorkload data turns tidying r) (hr : faultOf r = none)
    (hw : w.IsPlain) (hengines : ∀ engine ∈ o.engines.toList, IsWord engine)
    (hrun : Run never s (data ++ turns.flatMap Turn.exchanges ++ tidying) t) (hs : s.Countable) :
    ∃ report, r = .ok report ∧
      Executor.Served o w s (data ++ turns.flatMap Turn.exchanges ++ tidying) report t := by
  obtain ⟨d,report,elapsed,u,rfl,houtcome,hdata,hdataRun,hturns,hturnsRun⟩ :=
    h.complete hr hw hrun hs
  obtain ⟨⟨generated,rowCount⟩,look,count,hd,hsupplied,hcalls,hlook,hcount⟩ :=
    hdata.supplied hw hdataRun hs
  cases hd
  obtain ⟨n,_,_,hrows⟩ := hsupplied.rows?
  obtain ⟨hcleared,_⟩ := hturns.effect hw hengines hturnsRun (by simp [hrows])
  refine ⟨_,rfl,by rw [houtcome]; rfl,⟨u,by rw [houtcome]; exact hsupplied,hcleared⟩,?_⟩
  refine ⟨look,count ++ (turns.flatMap Turn.exchanges).map Exchange.call,?_,hlook,?_⟩
  · rw [houtcome]
    cases generated <;> simp [hcalls,hturns.calls_tidying,outcomeOf]
  · intro call hcall
    rcases List.mem_append.mp hcall with hcall | hcall
    · exact OwnCall.of_lookCalls (hcount.subset hcall)
    · obtain ⟨e,he,rfl⟩ := List.mem_map.mp hcall
      exact OwnCall.of_turnsTaken hturns e he

/-- In an execution that was served both engines are measured with all queries. -/
theorem Course.queried (h : Course o w.toWorkload data turns tidying r) (hr : faultOf r = none)
    (hw : w.IsPlain) (hengines : ∀ engine ∈ o.engines.toList, IsWord engine)
    (hrun : Run never s (data ++ turns.flatMap Turn.exchanges ++ tidying) t) (hs : s.Countable) :
    ∃ base cand, turns = [base,cand] ∧ base.engine = o.engines.baseline ∧
      cand.engine = o.engines.candidate ∧
      ∀ turn ∈ turns, Queried o w.toWorkload turn.engine w.queries turn.queries none := by
  obtain ⟨d,_,_,u,_,_,hdata,hdataRun,hturns,hturnsRun⟩ := h.complete hr hw hrun hs
  obtain ⟨_,_,_,_,hsupplied,_⟩ := hdata.supplied hw hdataRun hs
  obtain ⟨n,_,_,hrows⟩ := hsupplied.rows?
  exact (hturns.effect hw hengines hturnsRun (by simp [hrows])).2

end

namespace Executor

/-- Over a store that fails nothing that can be done, every execution is served. -/
theorem execute_served {σ : Type} {c : Client σ} {good : σ → Prop} {view : σ → Store}
    (hc : c.Serves never good view) {o : TrialOptions} {w : PatternWorkload} (hw : w.IsPlain)
    (hengines : ∀ engine ∈ o.engines.toList, IsWord engine) {x : World σ} (hx : good x.state)
    (hs : (view x.state).Countable) :
    ∃ report es, (execute o w.toWorkload c x).1 = .ok report ∧
      (execute o w.toWorkload c x).2.log.toList = x.log.toList ++ es ∧
      good (execute o w.toWorkload c x).2.state ∧
      Served o w (view x.state) es report (view (execute o w.toWorkload c x).2.state) := by
  obtain ⟨es,hlog,hanswers,⟨data,turns,tidying,rfl,hcourse⟩,hlost⟩ :=
    (ensures_execute o w.toWorkload).and (resilient_execute o w.forwards_loading) c x
  obtain ⟨hgood,hrun⟩ := hc.run hanswers hx
  obtain ⟨report,hr,hserved⟩ :=
    hcourse.served (hlost.eq_none hrun.isLost) hw hengines hrun hs
  exact ⟨report,_,hr,hlog,hgood,hserved⟩

namespace Served

variable {o : TrialOptions} {w : PatternWorkload} {s t : Store} {es : List Exchange} {report : Report}

theorem not_isLoading_look {look : List Call} (hw : w.IsPlain)
    (h : look <+: if o.reuseData then lookCalls w.table else []) :
    ∀ call ∈ look, call.isLoading = false := by
  intro call hcall
  have hmem : call ∈ lookCalls w.table := by
    have hmem := h.subset hcall
    cases ho : o.reuseData <;> simp_all
  exact OwnCall.not_isLoading (o := o) (w := w.toWorkload) (.of_lookCalls hmem) hw.queries

/-- An execution that reuses its data says nothing of what a loading says. -/
theorem not_isLoading (h : Served o w s es report t) (hw : w.IsPlain) (ho : o.reuseData = true)
    (hgenerated : report.outcome.generated = false) : ∀ e ∈ es, e.call.isLoading = false := by
  obtain ⟨look,measured,hcalls,hlook,hmeasured⟩ := h.calls
  intro e he
  have hmem : e.call ∈ look ++ measured ++ [.execute resetSql] := by
    have hmem := List.mem_map_of_mem (f := Exchange.call) he
    rw [hcalls] at hmem
    simpa [hgenerated,tidyPlan,ho,PlannedCall.optional] using hmem
  simp only [List.mem_append,List.mem_singleton] at hmem
  rcases hmem with (hlooked | hown) | hreset
  · exact not_isLoading_look hw hlook _ hlooked
  · exact (hmeasured _ hown).not_isLoading hw.queries
  · rw [hreset]
    exact not_isLoading_resetSql

theorem reuses (h : Served o w s es report t) (hw : w.IsPlain) (ho : o.reuseData = true) {n : Nat}
    (hn : s.rows? w.table = some n) (hpos : 0 < n) : report.outcome.generated = false ∧
      report.outcome.rowCount = some n ∧ ∀ e ∈ es, e.call.isLoading = false := by
  obtain ⟨u,hsupplied,_⟩ := h.supplied
  obtain ⟨hgenerated,hcount⟩ := Prod.ext_iff.mp (hsupplied.of_rows ho hn hpos)
  exact ⟨hgenerated,hcount,h.not_isLoading hw ho hgenerated⟩

end Served

end Executor

end IndexTrial
