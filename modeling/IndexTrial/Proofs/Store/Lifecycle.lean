import IndexTrial.Proofs.Store.Execution
import IndexTrial.Proofs.Store.Rehearsing

/-!
The data of workloads over many executions. A table that is kept is loaded by the first execution on
it and reused by all later ones; a table that is not kept is loaded by each. No execution leaves an
index.
-/

namespace IndexTrial

attribute [local irreducible] Statement.read

/-- Whether a call creates the table. -/
def Call.creates (table : String) : Call → Bool
  | .execute sql => startsWithText sql s!"CREATE UNLOGGED TABLE {table} AS "
  | _ => false

namespace Call

theorem startsWith_of_creates {table sql : String} (h : (execute sql).creates table = true) :
    startsWithText sql "CREATE UNLOGGED TABLE" = true := by
  obtain ⟨rest,rfl⟩ := startsWithText_iff.mp h
  simp [startsWithText,toString]

/-- Only a loading creates a table. -/
theorem isLoading_of_creates {table : String} {call : Call} (h : call.creates table = true) :
    call.isLoading = true := by
  cases call with
  | execute sql =>
    exact List.any_eq_true.mpr ⟨_,by simp [loadingLeads],startsWith_of_creates h⟩
  | _ => cases h

theorem not_creates_of_start (start : String) {sql : String} (hsql : startsWithText sql start = true)
    (hclash : Statement.clashes "CREATE UNLOGGED TABLE" start = true) (table : String) :
    (execute sql).creates table = false := by
  rw [← Bool.not_eq_true]
  intro h
  have hlead := startsWith_of_creates h
  rw [Statement.not_startsWithText hsql hclash] at hlead
  cases hlead

/-- The statement that creates a table creates no other. -/
theorem creates_createTable {table other : String} (htable : IsWord table) (hother : IsWord other)
    (select : String) : (execute s!"CREATE UNLOGGED TABLE {other} AS {select};").creates table =
      decide (table = other) := by
  rw [Bool.eq_iff_iff,decide_eq_true_iff]
  constructor
  · intro h
    obtain ⟨rest,hrest⟩ := startsWithText_iff.mp h
    have hnames : other ++ " " ++ ("AS " ++ select ++ ";") = table ++ " " ++ ("AS " ++ rest) := by
      simpa [toString,← String.toList_inj] using hrest
    rw [← Statement.firstWord_append htable,← hnames,Statement.firstWord_append hother]
  · rintro rfl
    simp [creates,startsWithText,toString]

end Call

/-- A loading creates its table once. -/
theorem PatternWorkload.IsPlain.countP_creates {w : PatternWorkload} (hw : w.IsPlain) {table : String}
    (htable : IsWord table) :
    (w.statements.map .execute).countP (Call.creates table) = if table = w.table then 1 else 0 := by
  obtain ⟨select,hstatements⟩ := hw.statements
  have hdrop : (Call.execute s!"DROP TABLE IF EXISTS {w.table} CASCADE;").creates table = false :=
    Call.not_creates_of_start "DROP" (by simp [startsWithText,toString]) (by decide +kernel) table
  have halter : (Call.execute s!"ALTER TABLE {w.table} SET (autovacuum_enabled = off);").creates
      table = false :=
    Call.not_creates_of_start "ALTER" (by simp [startsWithText,toString]) (by decide +kernel) table
  have hvacuum : (Call.execute s!"VACUUM (FREEZE, ANALYZE) {w.table};").creates table = false :=
    Call.not_creates_of_start "VACUUM" (by simp [startsWithText,toString]) (by decide +kernel) table
  have hcreate := Call.creates_createTable htable hw.table select
  simp [hstatements,loadStatements,List.countP_cons,hdrop,halter,hvacuum,hcreate]

/-- What holds of a store between executions. -/
structure Store.Orderly (s : Store) : Prop extends s.Grounded where
  bare : s.indexes = []

namespace Store

theorem orderly_empty : Orderly {} := ⟨.empty,rfl⟩

theorem Orderly.dropTable {s : Store} (h : s.Orderly) (table : String) :
    (s.dropTable table).Orderly :=
  ⟨h.toGrounded.dropTable table,by simp [Store.dropTable,h.bare]⟩

theorem Orderly.createTable {s : Store} (h : s.Orderly) {rows : Nat} (hrows : 0 < rows)
    (hcount : rows < 2 ^ 64) (table : String) : (s.createTable table rows).Orderly :=
  ⟨h.toGrounded.createTable hrows hcount table,h.bare⟩

theorem Orderly.dropIndex_eq {s : Store} (h : s.Orderly) (name : String) : s.dropIndex name = s := by
  obtain ⟨tables,indexes⟩ := s
  obtain rfl : indexes = [] := h.bare
  rfl

theorem Orderly.cleared_eq {s : Store} (h : s.Orderly) (o : TrialOptions) (table : String) :
    s.cleared o table = if o.reuseData then s else s.dropTable table := by
  simp only [Store.cleared,h.dropIndex_eq]

theorem Orderly.supplied {s u : Store} {table : String} {reuse : Bool} {d : Bool × Option Nat}
    (hs : s.Orderly) (h : s.Supplied table reuse d u) : u.Orderly := by
  cases h with
  | reused => exact hs
  | loaded _ hrows hcount => exact (hs.dropTable table).createTable hrows hcount table

/-- The data of other tables stay as they are. -/
theorem Supplied.rows?_ne {s u : Store} {table other : String} {reuse : Bool} {d : Bool × Option Nat}
    (h : s.Supplied table reuse d u) (hother : other ≠ table) : u.rows? other = s.rows? other := by
  cases h with
  | reused => rfl
  | loaded => rw [rows?_createTable_ne _ _ hother,rows?_dropTable_ne _ hother]

end Store

namespace Executor.Served

variable {o : TrialOptions} {w : PatternWorkload} {s t : Store} {es : List Exchange} {report : Report}

theorem not_creates_tidyPlan (o : TrialOptions) (w : Workload) (table : String) :
    ∀ call ∈ (tidyPlan o w).map PlannedCall.call, call.creates table = false := by
  have hreset : (Call.execute resetSql).creates table = false :=
    Call.not_creates_of_start "RESET" startsWith_resetSql (by decide +kernel) table
  have hdrop : (Call.execute s!"DROP TABLE IF EXISTS {w.table} CASCADE;").creates table = false :=
    Call.not_creates_of_start "DROP" (by simp [startsWithText,toString]) (by decide +kernel) table
  cases ho : o.reuseData <;> simp [tidyPlan,ho,PlannedCall.optional,hreset,hdrop]

/-- An execution creates no table but its own, and that only if it loads. -/
theorem countP_creates (h : Served o w s es report t) (hw : w.IsPlain) {table : String}
    (htable : IsWord table) : es.countP (·.call.creates table) =
      if report.outcome.generated = true ∧ table = w.table then 1 else 0 := by
  obtain ⟨look,measured,hcalls,hlook,hmeasured⟩ := h.calls
  have hnone : ∀ {calls : List Call}, (∀ call ∈ calls, call.isLoading = false) →
      calls.countP (Call.creates table) = 0 := fun hcalls =>
    List.countP_eq_zero.mpr fun call hcall hcreates => by
      cases (hcalls call hcall).symm.trans (Call.isLoading_of_creates hcreates)
  have hlook' := hnone (not_isLoading_look hw hlook)
  have hmeasured' := hnone fun call hcall => (hmeasured call hcall).not_isLoading hw.queries
  have htidy : ((tidyPlan o w.toWorkload).map PlannedCall.call).countP (Call.creates table) = 0 :=
    List.countP_eq_zero.mpr fun call hcall => by simp [not_creates_tidyPlan o w.toWorkload table call hcall]
  calc es.countP (·.call.creates table)
      = (es.map Exchange.call).countP (Call.creates table) := by rw [List.countP_map]; rfl
    _ = (if report.outcome.generated then w.statements.map .execute else []).countP
          (Call.creates table) := by
        simp only [hcalls,List.countP_append,hlook',hmeasured',htidy,Nat.zero_add,Nat.add_zero]
    _ = if report.outcome.generated = true ∧ table = w.table then 1 else 0 := by
        cases report.outcome.generated <;> simp [hw.countP_creates htable]

end Executor.Served

/-! ### Many executions -/

/-- One of several executions, with its own log and the client's state after it. -/
structure Visit (σ : Type) where
  workload : PatternWorkload
  result : Except Fault Executor.Report
  log : List Exchange
  after : σ

/-- Executions one after the other. -/
def visits {σ : Type} (o : TrialOptions) (c : Client σ) : σ → List PatternWorkload → List (Visit σ)
  | _, [] => []
  | s, w :: ws =>
    let ran := Executor.execute o w.toWorkload c ⟨s,#[]⟩
    ⟨w,ran.1,ran.2.log.toList,ran.2.state⟩ :: visits o c ran.2.state ws

theorem workload_of_mem_visits {σ : Type} {o : TrialOptions} {c : Client σ} {s : σ}
    {ws : List PatternWorkload} {v : Visit σ} (h : v ∈ visits o c s ws) : v.workload ∈ ws := by
  induction ws generalizing s with
  | nil => simp [visits] at h
  | cons w ws ih =>
    rcases List.mem_cons.mp h with rfl | h
    · exact List.mem_cons_self
    · exact List.mem_cons_of_mem w (ih h)

namespace Visit

variable {σ : Type}

/-- The execution was completed with rows in its table, and no index is left. -/
def Completes (view : σ → Store) (v : Visit σ) : Prop :=
  ∃ report rows, v.result = .ok report ∧ report.outcome.status = .completed ∧
    report.outcome.rowCount = some rows ∧ 0 < rows ∧ (view v.after).indexes = []

/-- The execution took the data as an earlier one had left them. -/
def Reuses (v earlier : Visit σ) : Prop :=
  ∃ report before, v.result = .ok report ∧ earlier.result = .ok before ∧
    report.outcome.generated = false ∧ report.outcome.rowCount = before.outcome.rowCount ∧
    ∀ e ∈ v.log, e.call.isLoading = false

/-- The execution loaded the data first, once, and dropped the table in the end. -/
def Reloads (v : Visit σ) : Prop :=
  ∃ report measured, v.result = .ok report ∧ report.outcome.generated = true ∧
    v.log.map Exchange.call = v.workload.statements.map .execute ++ measured ++
      [.execute Executor.resetSql,.execute s!"DROP TABLE IF EXISTS {v.workload.table} CASCADE;"] ∧
    ∀ call ∈ measured, call.isLoading = false

end Visit

namespace Executor.Served

variable {o : TrialOptions} {w : PatternWorkload} {s t : Store} {es : List Exchange} {report : Report}

/-- A served execution has rows in its table, and leaves an orderly store orderly. -/
theorem orderly (h : Served o w s es report t) (hs : s.Orderly) :
    t.Orderly ∧ ∃ n, 0 < n ∧ report.outcome.rowCount = some n := by
  obtain ⟨u,hsupplied,rfl⟩ := h.supplied
  obtain ⟨n,hn,hcount,_⟩ := hsupplied.rows?
  have hu := hs.supplied hsupplied
  refine ⟨?_,n,hn,hcount⟩
  rw [hu.cleared_eq]
  split
  · exact hu
  · exact hu.dropTable w.table

/-- A table that is kept stays filled, and all other data as they were. -/
theorem kept (h : Served o w s es report t) (hs : s.Orderly) (ho : o.reuseData = true) :
    t.rows? w.table = report.outcome.rowCount ∧
      (∀ table, table ≠ w.table → t.rows? table = s.rows? table) ∧
      ∀ n, s.rows? w.table = some n →
        report.outcome.generated = false ∧ report.outcome.rowCount = some n := by
  obtain ⟨u,hsupplied,rfl⟩ := h.supplied
  obtain ⟨n,_,hcount,hrows⟩ := hsupplied.rows?
  rw [(hs.supplied hsupplied).cleared_eq,if_pos ho]
  refine ⟨hrows.trans hcount.symm,fun table htable => hsupplied.rows?_ne htable,fun n hn => ?_⟩
  exact Prod.ext_iff.mp (hsupplied.of_rows ho hn (hs.rows w.table n hn).1)

/-- A table that is not kept leaves nothing. -/
theorem gone (h : Served o w {} es report t) (ho : o.reuseData = false) :
    t = {} ∧ report.outcome.generated = true := by
  obtain ⟨u,hsupplied,rfl⟩ := h.supplied
  have hgenerated := hsupplied.of_missing (by simp [Store.rows?])
  rw [(Store.orderly_empty.supplied hsupplied).cleared_eq,ho]
  generalize (report.outcome.generated,report.outcome.rowCount) = d at hsupplied
  cases hsupplied with
  | reused hreuse => simp [ho] at hreuse
  | loaded => exact ⟨by simp [Store.dropTable,Store.createTable],hgenerated⟩

/-- The calls of an execution that keeps nothing. -/
theorem reloads (h : Served o w s es report t) (hw : w.IsPlain) (ho : o.reuseData = false)
    (hgenerated : report.outcome.generated = true) :
    ∃ measured, es.map Exchange.call = w.statements.map .execute ++ measured ++
      [.execute resetSql,.execute s!"DROP TABLE IF EXISTS {w.table} CASCADE;"] ∧
    ∀ call ∈ measured, call.isLoading = false := by
  obtain ⟨look,measured,hcalls,hlook,hmeasured⟩ := h.calls
  obtain rfl : look = [] := by simpa [ho] using hlook
  refine ⟨measured,?_,fun call hcall => (hmeasured call hcall).not_isLoading hw.queries⟩
  simp [hcalls,hgenerated,tidyPlan,ho,PlannedCall.optional]

end Executor.Served

/-- Executions that were served, one after the other. -/
inductive Visited {σ : Type} (o : TrialOptions) (view : σ → Store) : Store → List (Visit σ) → Prop
  | nil (s : Store) : Visited o view s []
  | cons {s : Store} {v : Visit σ} {vs : List (Visit σ)} {report : Executor.Report}
      (hw : v.workload.IsPlain) (hresult : v.result = .ok report)
      (hserved : Executor.Served o v.workload s v.log report (view v.after))
      (hrest : Visited o view (view v.after) vs) : Visited o view s (v :: vs)

/-- From an orderly store all executions are served. -/
theorem visited_visits {σ : Type} {c : Client σ} {good : σ → Prop} {view : σ → Store}
    (hc : c.Serves Store.never good view) {o : TrialOptions}
    (hengines : ∀ engine ∈ o.engines.toList, IsWord engine) {s : σ} (hs : good s)
    (hstore : (view s).Orderly) {ws : List PatternWorkload} (hws : ∀ w ∈ ws, w.IsPlain) :
    Visited o view (view s) (visits o c s ws) := by
  induction ws generalizing s with
  | nil => exact .nil _
  | cons w ws ih =>
    obtain ⟨hw,hws⟩ := List.forall_mem_cons.mp hws
    obtain ⟨report,es,hr,hlog,hgood,hserved⟩ := Executor.execute_served (x := ⟨s,#[]⟩) hc hw hengines
      hs hstore.countable
    have hes : (Executor.execute o w.toWorkload c ⟨s,#[]⟩).2.log.toList = es := by simpa using hlog
    rw [← hes] at hserved
    exact .cons hw hr hserved (ih hgood (hserved.orderly hstore).1 hws)

namespace Visited

variable {σ : Type} {o : TrialOptions} {view : σ → Store} {s : Store} {vs : List (Visit σ)}

theorem completes (h : Visited o view s vs) (hs : s.Orderly) : ∀ v ∈ vs, v.Completes view := by
  induction h with
  | nil => simp
  | cons hw hresult hserved hrest ih =>
    obtain ⟨ht,n,hn,hcount⟩ := hserved.orderly hs
    exact List.forall_mem_cons.mpr ⟨⟨_,n,hresult,hserved.status,hcount,hn,ht.bare⟩,ih ht⟩

/-- Rows that are there stay as they are, and are reused. -/
theorem found (h : Visited o view s vs) (hs : s.Orderly) (ho : o.reuseData = true) :
    ∀ v ∈ vs, ∀ n, s.rows? v.workload.table = some n → ∃ report, v.result = .ok report ∧
      report.outcome.generated = false ∧ report.outcome.rowCount = some n ∧
      ∀ e ∈ v.log, e.call.isLoading = false := by
  induction h with
  | nil => simp
  | @cons s v vs report hw hresult hserved hrest ih =>
    obtain ⟨hrows,hother,hfound⟩ := hserved.kept hs ho
    refine List.forall_mem_cons.mpr ⟨fun n hn => ?_,fun v' hv' n hn => ?_⟩
    · obtain ⟨hgenerated,hcount⟩ := hfound n hn
      exact ⟨report,hresult,hgenerated,hcount,hserved.not_isLoading hw ho hgenerated⟩
    · refine ih (hserved.orderly hs).1 v' hv' n ?_
      by_cases hsame : v'.workload.table = v.workload.table
      · rw [hsame] at hn ⊢
        rw [hrows,(hfound n hn).2]
      · rw [hother _ hsame,hn]

/-- A table is created once, or never if it was there. -/
theorem countP_creates (h : Visited o view s vs) (hs : s.Orderly) (ho : o.reuseData = true)
    {table : String} (htable : IsWord table) :
    (vs.flatMap Visit.log).countP (·.call.creates table) ≤
      if (s.rows? table).isSome then 0 else 1 := by
  induction h with
  | nil => simp
  | @cons s v vs report hw hresult hserved hrest ih =>
    obtain ⟨hrows,hother,hfound⟩ := hserved.kept hs ho
    obtain ⟨ht,n,_,hcount⟩ := hserved.orderly hs
    have hlater := ih ht
    rw [List.flatMap_cons,List.countP_append,hserved.countP_creates hw htable]
    by_cases hsame : table = v.workload.table
    · subst hsame
      simp only [hrows,hcount,Option.isSome_some,if_true] at hlater
      cases hthere : s.rows? v.workload.table with
      | none =>
        simp only [Option.isSome_none,Bool.false_eq_true,if_false]
        split <;> omega
      | some n => simpa [(hfound n hthere).1] using hlater
    · rw [hother table hsame] at hlater
      simpa [hsame] using hlater

/-- Of two executions on a table the later one reuses what the earlier one left. -/
theorem pairwise_reuses (h : Visited o view s vs) (hs : s.Orderly) (ho : o.reuseData = true) :
    vs.Pairwise fun earlier v => v.workload.table = earlier.workload.table → v.Reuses earlier := by
  induction h with
  | nil => exact .nil
  | @cons s v vs report hw hresult hserved hrest ih =>
    obtain ⟨ht,n,_,hcount⟩ := hserved.orderly hs
    refine .cons (fun v' hv' hsame => ?_) (ih ht)
    have hrows : (view v.after).rows? v'.workload.table = some n := by
      rw [hsame,(hserved.kept hs ho).1,hcount]
    obtain ⟨report',hresult',hgenerated,hcount',hquiet⟩ := hrest.found ht ho v' hv' n hrows
    exact ⟨report',report,hresult',hresult,hgenerated,hcount'.trans hcount.symm,hquiet⟩

/-- Executions that keep nothing load their data each, and leave nothing. -/
theorem reloads (h : Visited o view s vs) (hs : s = {}) (ho : o.reuseData = false) :
    ∀ v ∈ vs, v.Reloads ∧ view v.after = {} := by
  induction h with
  | nil => simp
  | @cons s v vs report hw hresult hserved hrest ih =>
    subst hs
    obtain ⟨hleft,hgenerated⟩ := hserved.gone ho
    obtain ⟨measured,hcalls,hmeasured⟩ := hserved.reloads hw ho hgenerated
    exact List.forall_mem_cons.mpr
      ⟨⟨⟨report,measured,hresult,hgenerated,hcalls,hmeasured⟩,hleft⟩,ih hleft⟩

end Visited

/-- Data over any number of executions on a client that keeps a store, answers truthfully and fails
nothing that can be done. With reuse a table is created once, and each later execution on it takes
the same rows; without, each execution loads its data once and leaves nothing. No index is left by
any. One execution loads at most once whatever it is answered, and not at all if it finds rows that
it may reuse. -/
theorem data_lifecycle {σ : Type} {c : Client σ} {good : σ → Prop} {view : σ → Store}
    (hc : c.Serves Store.never good view) {o : TrialOptions}
    (hengines : ∀ engine ∈ o.engines.toList, IsWord engine) {s : σ} (hs : good s)
    (hempty : view s = {}) {ws : List PatternWorkload} (hws : ∀ w ∈ ws, w.IsBuilt) :
    (∀ v ∈ visits o c s ws, v.Completes view) ∧
    (o.reuseData = true →
      (∀ w ∈ ws, ((visits o c s ws).flatMap Visit.log).countP (·.call.creates w.table) ≤ 1) ∧
      (visits o c s ws).Pairwise fun earlier v =>
        v.workload.table = earlier.workload.table → v.Reuses earlier) ∧
    (o.reuseData = false → ∀ v ∈ visits o c s ws, v.Reloads ∧ view v.after = {}) ∧
    ∀ {τ : Type} (any : Client τ) (x : World τ) (w : Workload), ∃ look load rest,
      (Executor.execute o w any x).2.log.toList = x.log.toList ++ (look ++ load ++ rest) ∧
      Executor.LoadsOnce o w look load rest := by
  have horderly : (view s).Orderly := hempty ▸ Store.orderly_empty
  have hvisited := visited_visits hc hengines hs horderly fun w hw => (hws w hw).isPlain
  refine ⟨hvisited.completes horderly,fun ho => ⟨fun w hw => ?_,hvisited.pairwise_reuses horderly ho⟩,
    hvisited.reloads hempty,fun any x w => ?_⟩
  · have hcount := hvisited.countP_creates horderly ho (hws w hw).isPlain.table
    rwa [hempty] at hcount
  · obtain ⟨es,hlog,_,look,load,rest,rfl,hloads⟩ := Executor.ensures_loadsOnce o w any x
    exact ⟨look,load,rest,hlog,hloads⟩

/-- A table that is run on three times, kept and not kept. -/
theorem data_lifecycle_dimension :
    ((visits {} Rehearsal.client {} [.dimension,.dimension,.dimension]).Pairwise fun earlier v =>
      v.Reuses earlier) ∧
    ∀ v ∈ visits { reuseData := false } Rehearsal.client {} [.dimension,.dimension,.dimension],
      v.Reloads ∧ v.after.store = {} := by
  have hhonest : ({} : Rehearsal).Honest Store.never := Rehearsal.honest_of_rules {} (by simp)
  have hbuilt : ∀ w ∈ [PatternWorkload.dimension,.dimension,.dimension], w.IsBuilt := by
    simpa using PatternWorkload.isBuilt_dimension
  have hkept := (data_lifecycle (o := {}) (Rehearsal.serves Store.never) isWord_engines hhonest rfl
    hbuilt).2.1 rfl
  have hgone := (data_lifecycle (o := { reuseData := false }) (Rehearsal.serves Store.never)
    isWord_engines hhonest rfl hbuilt).2.2.1 rfl
  refine ⟨hkept.2.imp_of_mem fun h h' hreuses => hreuses ?_,hgone⟩
  have hv := workload_of_mem_visits h
  have hv' := workload_of_mem_visits h'
  simp_all

end IndexTrial
