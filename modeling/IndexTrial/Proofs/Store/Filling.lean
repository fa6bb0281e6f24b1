import IndexTrial.Proofs.Store.Lifecycle
import IndexTrial.Proofs.Workload.Naming

/-!
The statements that tables were filled by. A client that keeps data knows for each table the
statement that filled it last. An execution fills its own table only, by a statement of its own
loading; so the data that an execution finds in its table were filled by the very statement that it
would fill it by.
-/

namespace IndexTrial

attribute [local irreducible] Statement.read

namespace Statement

/-- Whether a statement puts other data into a table, or drops it. -/
def refills : Statement → Bool
  | createTable _ | dropTable _ => true
  | _ => false

/-- A reading other than the last is that of a form. -/
theorem mem_of_firstOf {text : String} {fs : List (String × (String → Option Statement))}
    {s : Statement} (h : firstOf text fs = s) (hs : s ≠ other) :
    ∃ form ∈ fs, ∃ rest, text = form.1 ++ rest ∧ form.2 rest = some s := by
  induction fs with
  | nil => exact absurd h.symm hs
  | cons form fs ih =>
    cases hread : (afterLead? form.1 text).bind form.2 with
    | none =>
      obtain ⟨form',hform',hrest⟩ := ih (by simpa [firstOf,hread] using h)
      exact ⟨form',List.mem_cons_of_mem form hform',hrest⟩
    | some s' =>
      obtain rfl : s' = s := by simpa [firstOf,hread] using h
      obtain ⟨rest,hrest,hs'⟩ := Option.bind_eq_some_iff.mp hread
      exact ⟨form,List.mem_cons_self,rest,afterLead?_eq_some_iff.mp hrest,hs'⟩

theorem lead_of_refills : ∀ form ∈ forms, ∀ rest s, form.2 rest = some s → s.refills = true →
    form.1 = "CREATE UNLOGGED TABLE " ∨ form.1 = "DROP TABLE IF EXISTS " := by
  simp only [forms,List.forall_mem_cons,List.not_mem_nil,false_imp_iff,implies_true,and_true]
  refine ⟨?_,?_,?_,?_,?_,?_,?_,?_,?_,?_⟩
  all_goals grind [refills,readCreateIndex]

/-- A text that starts in another way refills nothing. -/
theorem not_refills_of_start (start : String) {sql : String} (hsolid : Solid start)
    (hsql : startsWithText sql start = true)
    (hclash : (clashes "CREATE UNLOGGED TABLE " start &&
      clashes "DROP TABLE IF EXISTS " start) = true) : (read sql).refills = false := by
  obtain ⟨hcreate,hdrop⟩ := Bool.and_eq_true_iff.mp hclash
  obtain ⟨rest,rfl⟩ := startsWithText_iff.mp hsql
  rw [← Bool.not_eq_true]
  intro h
  have hread : firstOf (start ++ bareEnd rest) forms = read (start ++ rest) := by
    rw [read,bare_append hsolid]
  have hother : read (start ++ rest) ≠ other := by
    intro hother
    rw [hother] at h
    cases h
  obtain ⟨form,hform,more,htext,hs⟩ := mem_of_firstOf hread hother
  have hlead := afterLead?_eq_some_iff.mpr htext
  rcases lead_of_refills form hform more _ hs h with hform | hform
  · rw [hform,afterLead?_of_clashes hcreate] at hlead
    cases hlead
  · rw [hform,afterLead?_of_clashes hdrop] at hlead
    cases hlead

end Statement

/-! ### The calls that refill a table -/

/-- Whether a call puts other data into a table, or drops it. -/
def Call.refills : Call → Bool
  | .execute sql => (Statement.read sql).refills
  | _ => false

/-- A text that starts as measuring does refills nothing. -/
theorem Call.not_refills_of_start {start : String} (hstart : start ∈ measuringLeads) {sql : String}
    (hsql : startsWithText sql start = true) : (execute sql).refills = false := by
  have hsolid : ∀ start ∈ measuringLeads, Statement.Solid start := by
    simp only [measuringLeads,List.forall_mem_cons,List.not_mem_nil,false_imp_iff,implies_true,
      and_true]
    refine ⟨?_,?_,?_,?_,?_,?_,?_⟩
    all_goals exact ⟨by decide,by decide⟩
  have hclash : ∀ start ∈ measuringLeads, (Statement.clashes "CREATE UNLOGGED TABLE " start &&
      Statement.clashes "DROP TABLE IF EXISTS " start) = true := by
    decide +kernel
  exact Statement.not_refills_of_start start (hsolid start hstart) hsql (hclash start hstart)

theorem Call.not_refills_select {sql : String} (h : startsWithText sql "SELECT" = true) :
    (execute sql).refills = false :=
  not_refills_of_start (by simp [measuringLeads]) h

theorem Call.not_refills_resetSql : (execute Executor.resetSql).refills = false :=
  not_refills_of_start (by simp [measuringLeads]) Executor.startsWith_resetSql

/-- Up to the tidying, only the loading refills a table. -/
theorem OwnCall.not_refills {o : TrialOptions} {w : Workload} {call : Call} (h : OwnCall o w call)
    (hqueries : ∀ q ∈ w.queries, startsWithText q.sql "SELECT" = true) : call.refills = false :=
  h.of_starts (P := fun call => call.refills = false) hqueries
    (fun _ hstart _ hsql => Call.not_refills_of_start hstart hsql) (fun _ => rfl) fun _ => rfl

namespace PatternWorkload

/-- The statement of a loading that fills the table. -/
def filling (w : PatternWorkload) : Option String := w.statements[1]?

/-- A statement of a loading that creates a table creates the workload's, and fills it. -/
theorem IsPlain.filling_eq {w : PatternWorkload} (hw : w.IsPlain) {sql table : String}
    (hsql : sql ∈ w.statements) (hread : Statement.read sql = .createTable table) :
    table = w.table ∧ w.filling = some sql := by
  obtain ⟨select,hstatements⟩ := hw.statements
  simp only [hstatements,loadStatements,List.mem_cons,List.not_mem_nil,or_false] at hsql
  rcases hsql with rfl | rfl | rfl | rfl
  · cases (Statement.read_dropTable hw.table).symm.trans hread
  · cases (Statement.read_createTable hw.table select).symm.trans hread
    exact ⟨rfl,by simp [filling,hstatements,loadStatements]⟩
  · cases (read_alterTable w.table).symm.trans hread
  · cases (read_vacuum w.table).symm.trans hread

end PatternWorkload

/-- An execution fills no table but its own, and that by its own statement. -/
theorem Executor.ensures_own_filling {σ : Type} (o : TrialOptions) {w : PatternWorkload}
    (hw : w.IsPlain) : (execute o w.toWorkload : Session σ Report).Ensures fun es _ =>
      ∀ e ∈ es, ∀ sql table, e.call = .execute sql → Statement.read sql = .createTable table →
        table = w.table ∧ w.filling = some sql := by
  apply (ensures_loadsOnce o w.toWorkload).mono
  rintro _ _ ⟨look,load,rest,rfl,hloads⟩ e he sql table hcall hread
  have hrefills : e.call.refills = true := by
    rw [hcall,Call.refills,hread]
    rfl
  have hown : e ∉ look ++ rest := by
    intro he
    rcases hloads.own e he with hown | htidy
    · rw [hown.not_refills hw.queries] at hrefills
      cases hrefills
    · simp only [tidyPlan] at htidy
      have htidy : e.call = .execute resetSql ∨
          e.call = .execute s!"DROP TABLE IF EXISTS {w.table} CASCADE;" := by
        cases ho : o.reuseData <;> simp_all [PlannedCall.optional]
      rcases htidy with hreset | hdrop
      · rw [hreset,Call.not_refills_resetSql] at hrefills
        cases hrefills
      · obtain rfl := Call.execute.inj (hcall.symm.trans hdrop)
        cases (Statement.read_dropTable hw.table).symm.trans hread
  have hload : e ∈ load := by
    simp only [List.mem_append] at he hown
    tauto
  rcases hloads.once with rfl | ⟨outcome,hplays⟩
  · cases hload
  · obtain ⟨ended,hcarried,_⟩ := hplays.carried
    obtain ⟨p,hp,hsame⟩ := hcarried.call_mem hload
    obtain ⟨statement,hstatement,rfl⟩ := List.mem_map.mp hp
    obtain rfl := Call.execute.inj (hsame.trans hcall)
    exact hw.filling_eq hstatement hread

/-! ### Fillings -/

/-- For each table that is there, the statement that filled it. -/
def Fillings : Type := String → Option String

namespace Fillings

/-- There are no tables. -/
def none : Fillings := fun _ => Option.none

/-- A statement takes effect. -/
def note (fillings : Fillings) (sql : String) : Fillings := fun table =>
  match Statement.read sql with
  | .createTable created => if table = created then some sql else fillings table
  | .dropTable dropped => if table = dropped then Option.none else fillings table
  | _ => fillings table

theorem note_of_not_refills {fillings : Fillings} {sql : String}
    (h : (Statement.read sql).refills = false) : fillings.note sql = fillings := by
  funext table
  unfold note
  cases hread : Statement.read sql with
  | createTable | dropTable =>
    rw [hread] at h
    cases h
  | _ => rfl

/-- What an exchange makes of the tables. A statement that was answered has taken effect; one that
failed may have. Rows are counted in no table that is not there. -/
inductive Step (fillings : Fillings) : Exchange → Fillings → Prop
  | done {sql : String} {x : Execution} (hcount : ∀ table, Statement.read sql = .countRows table →
      0 < Session.countOf x.scalar → (fillings table).isSome = true) :
      Step fillings ⟨.execute sql,.ok x⟩ (fillings.note sql)
  | unheard {sql : String} {f : Fault} : Step fillings ⟨.execute sql,.error f⟩ (fillings.note sql)
  | failed {call : Call} {f : Fault} : Step fillings ⟨call,.error f⟩ fillings
  | aside {call : Call} {reply : Except Fault call.Answer} (hcall : ∀ sql, call ≠ .execute sql) :
      Step fillings ⟨call,reply⟩ fillings

inductive Run : Fillings → List Exchange → Fillings → Prop
  | nil (fillings : Fillings) : Run fillings [] fillings
  | cons {f g h : Fillings} {e : Exchange} {es : List Exchange} (hstep : Step f e g)
      (hrest : Run g es h) : Run f (e :: es) h

variable {f g : Fillings} {e : Exchange} {es fs : List Exchange}

theorem Step.of_not_refills (h : Step f e g) (he : e.call.refills = false) : g = f := by
  cases h with
  | done | unheard => exact note_of_not_refills he
  | failed | aside => rfl

theorem Run.of_not_refills (h : Run f es g) (hes : ∀ e ∈ es, e.call.refills = false) : g = f := by
  induction h with
  | nil => rfl
  | cons hstep _ ih =>
    obtain ⟨he,hes⟩ := List.forall_mem_cons.mp hes
    rw [ih hes,hstep.of_not_refills he]

theorem Run.split (h : Run f (es ++ fs) g) : ∃ m, Run f es m ∧ Run m fs g := by
  induction es generalizing f with
  | nil => exact ⟨f,.nil f,h⟩
  | cons e es ih =>
    cases h with
    | cons hstep hrest =>
      obtain ⟨m,h₁,h₂⟩ := ih hrest
      exact ⟨m,.cons hstep h₁,h₂⟩

/-- What holds of all statements that fill tables holds of what is filled. -/
theorem Step.forall_filled {P : String → String → Prop} (h : Step f e g)
    (he : ∀ sql table, e.call = .execute sql → Statement.read sql = .createTable table → P table sql)
    (hf : ∀ table sql, f table = some sql → P table sql) :
    ∀ table sql, g table = some sql → P table sql := by
  have hnote : ∀ sql, e.call = .execute sql →
      ∀ table filled, f.note sql table = some filled → P table filled := by
    intro sql hcall table filled hfilled
    unfold note at hfilled
    split at hfilled
    · rename_i hread
      split at hfilled
      · rename_i htable
        obtain rfl := Option.some.inj hfilled
        exact htable ▸ he sql _ hcall hread
      · exact hf table filled hfilled
    · split at hfilled
      · cases hfilled
      · exact hf table filled hfilled
    · exact hf table filled hfilled
  cases h with
  | done | unheard => exact hnote _ rfl
  | failed | aside => exact hf

theorem Run.forall_filled {P : String → String → Prop} (h : Run f es g)
    (hes : ∀ e ∈ es, ∀ sql table, e.call = .execute sql →
      Statement.read sql = .createTable table → P table sql)
    (hf : ∀ table sql, f table = some sql → P table sql) :
    ∀ table sql, g table = some sql → P table sql := by
  induction h with
  | nil => exact hf
  | cons hstep _ ih =>
    obtain ⟨he,hes⟩ := List.forall_mem_cons.mp hes
    exact ih hes (hstep.forall_filled he hf)

/-- Rows that are found are those of a table that is there. -/
theorem Run.isSome_of_counted {table : String} (h : Run f es g) (htable : IsWord table) {rows : Nat}
    (hes : RowCount table es (.ok (some rows))) (hrows : 0 < rows) : (f table).isSome = true := by
  cases hes with
  | counted x y hx =>
    cases h with
    | cons hlook hrest =>
      have hquiet : (Call.execute s!"SELECT to_regclass('{table}') IS NOT NULL;").refills = false :=
        Call.not_refills_select (by simp [startsWithText,toString])
      obtain rfl := hlook.of_not_refills hquiet
      cases hrest with
      | cons hcount _ =>
        cases hcount with
        | done hthere => exact hthere table (Statement.read_countRows htable) hrows
        | aside hcall => exact absurd rfl (hcall _)

end Fillings

/-! ### Clients that keep data -/

/-- The client keeps data, by the statements that `fillings` tells, as long as its state is good. -/
structure Client.KeepsData {σ : Type} (c : Client σ) (good : σ → Prop) (fillings : σ → Fillings) :
    Prop where
  answer : ∀ call s, good s → good (c.answer call s).2 ∧
    Fillings.Step (fillings s) ⟨call,(c.answer call s).1⟩ (fillings (c.answer call s).2)
  clock : ∀ s, good s → good (c.clock s).2 ∧ fillings (c.clock s).2 = fillings s

theorem Client.KeepsData.run {σ : Type} {c : Client σ} {good : σ → Prop} {fillings : σ → Fillings}
    (hc : c.KeepsData good fillings) {s t : σ} {es : List Exchange} (h : c.Answers s es t)
    (hs : good s) : good t ∧ Fillings.Run (fillings s) es (fillings t) := by
  induction h with
  | done s => exact ⟨hs,.nil _⟩
  | @tick s t es _ ih =>
    obtain ⟨hgood,hsame⟩ := hc.clock s hs
    rw [← hsame]
    exact ih hgood
  | @call s t es call _ ih =>
    obtain ⟨hgood,hstep⟩ := hc.answer call s hs
    obtain ⟨ht,hrun⟩ := ih hgood
    exact ⟨ht,.cons hstep hrun⟩

/-- The client, taking note of the statements that it answers. -/
def Client.noting {σ : Type} (c : Client σ) : Client (σ × Fillings) where
  answer call s :=
    ((c.answer call s.1).1,(c.answer call s.1).2,
      match call, (c.answer call s.1).1 with
      | .execute sql, .ok _ => s.2.note sql
      | _, _ => s.2)
  clock s := ((c.clock s.1).1,(c.clock s.1).2,s.2)

section

variable {σ : Type} {c : Client σ} {excused : Exchange → Prop} {good : σ → Prop} {view : σ → Store}

theorem Client.Serves.noting (hc : c.Serves excused good view) :
    c.noting.Serves excused (fun s => good s.1) fun s => view s.1 where
  answer call s hs := hc.answer call s.1 hs
  clock s hs := hc.clock s.1 hs

/-- The tables of the store are those that were noted. -/
def Fillings.Agrees (fillings : Fillings) (s : Store) : Prop :=
  ∀ table, (s.rows? table).isSome = (fillings table).isSome

theorem Fillings.Agrees.note {fillings : Fillings} {s t : Store} (h : fillings.Agrees s) {rows : Nat}
    {sql : String} (happly : s.apply rows (.read sql) = .ok t) : (fillings.note sql).Agrees t := by
  intro table
  unfold Fillings.note
  cases hread : Statement.read sql with
  | createTable created =>
    rw [hread] at happly
    cases happly
    by_cases htable : table = created
    · simp [htable]
    · simp [htable,Store.rows?_createTable_ne,h table]
  | dropTable dropped =>
    rw [hread] at happly
    cases happly
    by_cases htable : table = dropped
    · simp [htable]
    · simp [htable,Store.rows?_dropTable_ne,h table]
  | createIndex | countRows =>
    rw [hread,Store.apply] at happly
    split at happly <;> cases happly
    exact h table
  | _ =>
    rw [hread] at happly
    cases happly
    exact h table

/-- A client that keeps a store keeps the data of its tables. -/
theorem Client.Serves.keepsData (hc : c.Serves excused good view) :
    c.noting.KeepsData (fun s => good s.1 ∧ s.2.Agrees (view s.1)) Prod.snd where
  answer := by
    rintro call ⟨s,fillings⟩ ⟨hs,hagrees⟩
    have hagrees : fillings.Agrees (view s) := hagrees
    obtain ⟨hgood,hstep⟩ := hc.answer call s hs
    simp only [Client.noting]
    generalize (c.answer call s).1 = reply at hstep
    generalize (c.answer call s).2 = t at hstep hgood
    generalize view t = u at hstep
    cases hstep with
    | done _ _ happly _ =>
      refine ⟨⟨hgood,hagrees.note happly⟩,.done fun table hread _ => ?_⟩
      rw [← hagrees table]
      rw [hread,Store.apply] at happly
      split at happly
      · assumption
      · cases happly
    | refused => exact ⟨⟨hgood,hagrees⟩,.failed⟩
    | @failed call => cases call <;> exact ⟨⟨hgood,hagrees⟩,.failed⟩
    | @aside call _ hcall _ =>
      cases call with
      | execute sql => exact absurd rfl (hcall sql)
      | _ => exact ⟨⟨hgood,hagrees⟩,.aside hcall⟩
  clock s hs := ⟨⟨(hc.clock s.1 hs.1).1,(hc.clock s.1 hs.1).2 ▸ hs.2⟩,rfl⟩

end

/-! ### Many executions -/

/-- The states that a client gets into by executions over thousands of rows, however they end. -/
inductive Client.Used {σ : Type} (c : Client σ) (start : σ) : σ → Prop
  | start : Used c start start
  | again {s : σ} (h : Used c start s) (o : TrialOptions) {w : PatternWorkload} (hw : w.IsRound) :
      Used c start (Executor.execute o w.toWorkload c ⟨s,#[]⟩).2.state

/-- Every table is filled as some workload of that name would fill it. -/
def Fillings.Proper (fillings : Fillings) : Prop :=
  ∀ table sql, fillings table = some sql →
    ∃ w : PatternWorkload, w.IsRound ∧ w.table = table ∧ w.filling = some sql

theorem Fillings.Proper.eq_filling {fillings : Fillings} (h : fillings.Proper) {w : PatternWorkload}
    (hw : w.IsRound) (hthere : (fillings w.table).isSome = true) : fillings w.table = w.filling := by
  obtain ⟨sql,hsql⟩ := Option.isSome_iff_exists.mp hthere
  obtain ⟨v,hv,htable,hfilling⟩ := h w.table sql hsql
  have hsame : v.filling = w.filling := by
    rw [PatternWorkload.filling,PatternWorkload.filling,hv.statements_eq hw htable]
  rw [hsql,← hfilling,hsame]

section

variable {σ : Type} {c : Client σ} {good : σ → Prop} {fillings : σ → Fillings}

theorem Client.Used.proper (hc : c.KeepsData good fillings) {start s : σ} (hstart : good start)
    (hempty : fillings start = .none) (h : c.Used start s) : good s ∧ (fillings s).Proper := by
  induction h with
  | start =>
    refine ⟨hstart,fun table sql hsql => ?_⟩
    rw [hempty] at hsql
    cases hsql
  | @again s _ o w hw ih =>
    obtain ⟨hs,hproper⟩ := ih
    obtain ⟨es,_,hanswers,hown⟩ := Executor.ensures_own_filling o hw.isBuilt.isPlain c ⟨s,#[]⟩
    obtain ⟨hgood,hrun⟩ := hc.run hanswers hs
    refine ⟨hgood,hrun.forall_filled (fun e he sql table hcall hread => ?_) hproper⟩
    obtain ⟨rfl,hfilling⟩ := hown e he sql table hcall hread
    exact ⟨w,hw,rfl,hfilling⟩

/-- What an execution does that finds its data: there is a table, and it stays as it is. -/
theorem Course.found {o : TrialOptions} {w : PatternWorkload} {data tidying : List Exchange}
    {turns : List Turn} {report : Executor.Report}
    (h : Course o w.toWorkload data turns tidying (.ok report)) (hw : w.IsPlain)
    (hstatus : report.outcome.status = .completed) (hgenerated : report.outcome.generated = false)
    {f g : Fillings} (hrun : f.Run (data ++ turns.flatMap Turn.exchanges ++ tidying) g) :
    (f w.table).isSome = true ∧ g = f ∧ ∃ rows, 0 < rows ∧ report.outcome.rowCount = some rows := by
  cases h with
  | missing _ houtcome =>
    rw [houtcome] at hstatus
    cases hstatus
  | @measured d _ _ _ _ hdata hturns houtcome =>
    obtain ⟨generated,rowCount⟩ := d
    obtain rfl : generated = false := by simpa [houtcome,outcomeOf] using hgenerated
    generalize hd : Except.ok (false,rowCount) = r at hdata
    cases hdata with
    | loaded | failed => cases hd
    | @found data rows hlook =>
      obtain rfl : rowCount = some rows := by simpa using hd
      cases hlook with
      | some ho hes hrows =>
        have hquiet : ∀ e ∈ data ++ turns.flatMap Turn.exchanges ++ tidying,
            e.call.refills = false := by
          intro e he
          simp only [List.mem_append] at he
          rcases he with (he | he) | he
          · exact (OwnCall.of_rowCount hes e he).not_refills (o := o) hw.queries
          · exact (OwnCall.of_turnsTaken hturns e he).not_refills hw.queries
          · have hreset : e.call = .execute Executor.resetSql := by
              simpa [tidyPlan,ho,PlannedCall.optional] using hturns.call_mem_tidying he
            rw [hreset]
            exact Call.not_refills_resetSql
        have hsame := hrun.of_not_refills hquiet
        rw [List.append_assoc] at hrun
        obtain ⟨_,hlooked,_⟩ := hrun.split
        exact ⟨hlooked.isSome_of_counted hw.table hes hrows,hsame,rows,hrows,by rw [houtcome]; rfl⟩

/-- Workloads over thousands of rows that share a table load it by the same statements; those that do
not load alike take different tables, and different indexes for any engine. So over any executions,
however they end, an execution that reuses its data finds rows in its table that were filled by the
statement that it would fill it by, and leaves all data as they are. -/
theorem reused_data_are_own (hc : c.KeepsData good fillings) {start s : σ} (hstart : good start)
    (hempty : fillings start = .none) (hs : c.Used start s) {v w : PatternWorkload} (hv : v.IsRound)
    (hw : w.IsRound) (o : TrialOptions) :
    let run := Executor.execute o w.toWorkload c ⟨s,#[]⟩
    (v.table = w.table → v.statements = w.statements) ∧
    (v.statements ≠ w.statements →
      v.table ≠ w.table ∧ ∀ engine, indexName v.table engine ≠ indexName w.table engine) ∧
    ∀ report, run.1 = .ok report → report.outcome.status = .completed →
      report.outcome.generated = false →
        (∃ select, w.statements = PatternWorkload.loadStatements w.table select ∧
          fillings s w.table = some s!"CREATE UNLOGGED TABLE {w.table} AS {select};") ∧
        (∃ rows, 0 < rows ∧ report.outcome.rowCount = some rows) ∧
        fillings run.2.state = fillings s := by
  intro run
  have hshared : v.table = w.table → v.statements = w.statements := hv.statements_eq hw
  refine ⟨hshared,fun hne => ⟨fun h => hne (hshared h),fun engine h => ?_⟩,?_⟩
  · exact hne (hshared (table_eq_of_indexName_eq h))
  · intro report hran hstatus hgenerated
    obtain ⟨hgood,hproper⟩ := hs.proper hc hstart hempty
    obtain ⟨es,_,hanswers,data,turns,tidying,rfl,hcourse⟩ :=
      Executor.ensures_execute o w.toWorkload c ⟨s,#[]⟩
    rw [hran] at hcourse
    obtain ⟨_,hrun⟩ := hc.run hanswers hgood
    obtain ⟨hthere,hsame,hrows⟩ := hcourse.found hw.isBuilt.isPlain hstatus hgenerated hrun
    obtain ⟨select,hstatements⟩ := hw.isBuilt.isPlain.statements
    refine ⟨⟨select,hstatements,?_⟩,hrows,hsame⟩
    rw [hproper.eq_filling hw hthere]
    simp [PatternWorkload.filling,hstatements,PatternWorkload.loadStatements]

end

/-- A thousand events of so many users, counted in one mode. -/
def PatternWorkload.events (users : Nat) (mode : CacheMode) : PatternWorkload :=
  ofFixture (Pattern.eventsFixture users 1000) [mode]

theorem PatternWorkload.isRound_events (users : Nat) (mode : CacheMode) : (events users mode).IsRound :=
  ⟨.events users,1,[mode],42,events users mode,0,rfl,rfl⟩

/-- After an execution that keeps its data, one on the same table reuses them. -/
theorem Executor.execute_reuses {σ : Type} {c : Client σ} {good : σ → Prop} {view : σ → Store}
    (hc : c.Serves Store.never good view) {o : TrialOptions} (ho : o.reuseData = true)
    (hengines : ∀ engine ∈ o.engines.toList, IsWord engine) {v w : PatternWorkload} (hv : v.IsPlain)
    (hw : w.IsPlain) (hsame : v.table = w.table) {s : σ} (hs : good s) (hstore : (view s).Orderly) :
    let left := (execute o v.toWorkload c ⟨s,#[]⟩).2.state
    ∃ report, (execute o w.toWorkload c ⟨left,#[]⟩).1 = .ok report ∧
      report.outcome.status = .completed ∧ report.outcome.generated = false := by
  intro left
  obtain ⟨first,_,_,_,hgood,hserved⟩ := execute_served (x := ⟨s,#[]⟩) hc hv hengines hs hstore.countable
  obtain ⟨hleft,n,_,hcount⟩ := hserved.orderly hstore
  obtain ⟨hrows,_,_⟩ := hserved.kept hstore ho
  obtain ⟨report,_,hran,_,_,hserved'⟩ :=
    execute_served (x := ⟨left,#[]⟩) hc hw hengines hgood hleft.countable
  obtain ⟨_,_,hfound⟩ := hserved'.kept hleft ho
  have hthere : (view left).rows? w.table = some n := by rw [← hsame,hrows,hcount]
  exact ⟨report,hran,hserved'.status,(hfound n hthere).1⟩

/-- There are a hundred users at least, so the events of five are found by those of a hundred. -/
theorem reused_data_are_own_events :
    let few := PatternWorkload.events 5 .hot
    let many := PatternWorkload.events 100 .cold
    let left := (Executor.execute {} few.toWorkload Rehearsal.client.noting ⟨({},.none),#[]⟩).2.state
    let second := Executor.execute {} many.toWorkload Rehearsal.client.noting ⟨left,#[]⟩
    ∃ report select, second.1 = .ok report ∧ report.outcome.generated = false ∧
      many.statements = PatternWorkload.loadStatements many.table select ∧
      left.2 many.table = some s!"CREATE UNLOGGED TABLE {many.table} AS {select};" := by
  intro few many left second
  have hfew : few.IsRound := PatternWorkload.isRound_events 5 .hot
  have hmany : many.IsRound := PatternWorkload.isRound_events 100 .cold
  have hhonest : ({} : Rehearsal).Honest Store.never := Rehearsal.honest_of_rules {} (by simp)
  have hagrees : Fillings.none.Agrees {} := fun _ => rfl
  have hserves := Rehearsal.serves Store.never
  obtain ⟨report,hran,hstatus,hgenerated⟩ := Executor.execute_reuses (o := {}) (s := ({},.none))
    hserves.noting rfl isWord_engines hfew.isBuilt.isPlain hmany.isBuilt.isPlain rfl hhonest
    Store.orderly_empty
  have hempty : (({},.none) : Rehearsal × Fillings).2 = .none := rfl
  have hused : Rehearsal.client.noting.Used ({},.none) left := .again .start {} hfew
  obtain ⟨_,_,hreused⟩ :=
    reused_data_are_own hserves.keepsData ⟨hhonest,hagrees⟩ hempty hused hfew hmany {}
  obtain ⟨⟨select,hstatements,hfilling⟩,_,_⟩ := hreused report hran hstatus hgenerated
  exact ⟨report,select,hran,hgenerated,hstatements,hfilling⟩

end IndexTrial
