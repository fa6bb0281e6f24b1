import IndexTrial.Proofs.Store.Execution
import IndexTrial.Proofs.Store.Rehearsing
import Mathlib.Data.List.Nodup

/-!
A loading that fails half way, and what the next execution makes of the table that is left. Whether
data are there to be reused is a matter of rows alone: before the table is filled the next execution
loads it again, afterwards it takes the table as it is.
-/

namespace IndexTrial

attribute [local irreducible] Statement.read

open Store

/-! ### Where a loading failed -/

theorem PatternWorkload.IsPlain.nodup {w : PatternWorkload} (hw : w.IsPlain) : w.statements.Nodup := by
  obtain ⟨select,hstatements⟩ := hw.statements
  rw [hstatements]
  simp [loadStatements,toString,← String.toList_inj]

/-- Of statements that must not fail, one that did ended them. -/
theorem Carried.required_failed {sqls : List String} {es : List Exchange} {ended : Option Fault}
    (h : Carried (sqls.map .required) es ended) (hnodup : sqls.Nodup) {k : Nat} (hk : k < sqls.length)
    {f : Fault} (he : ⟨.execute sqls[k],.error f⟩ ∈ es) :
    ended = some f ∧ ∃ before, es = before ++ [⟨.execute sqls[k],.error f⟩] ∧
      Carried ((sqls.take k).map .required) before none := by
  cases ended with
  | none => simpa using h.required_kept _ he
  | some g =>
    obtain ⟨j,hj,before,rfl,hbefore⟩ := h.required_cut
    rcases List.mem_append.mp he with he | he
    · simpa using hbefore.required_kept _ he
    · have hlast := List.mem_singleton.mp he
      have hfault : f = g := by simpa using congrArg Exchange.fault? hlast
      have hsql : sqls[k] = sqls[j] := by simpa using congrArg Exchange.call hlast
      obtain rfl := hnodup.getElem_inj_iff.mp hsql
      subst hfault
      exact ⟨rfl,before,rfl,hbefore⟩

section

variable {o : TrialOptions} {w : PatternWorkload} {k : Nat}

/-- What the executor says of its own accord is no statement of a loading. -/
theorem PatternWorkload.IsPlain.not_mem (hw : w.IsPlain) {es : List Exchange}
    (hes : ∀ e ∈ es, e.call.isLoading = false) (hk : k < w.statements.length)
    (reply : Except Fault Execution) : ⟨.execute w.statements[k],reply⟩ ∉ es := by
  intro he
  obtain ⟨select,hstatements⟩ := hw.statements
  have hmem : w.statements[k] ∈ loadStatements w.table select := hstatements ▸ List.getElem_mem hk
  have hloading := isLoading_loadStatements hmem
  rw [hes _ he] at hloading
  cases hloading

theorem PatternWorkload.IsPlain.not_mem_own (hw : w.IsPlain) {es : List Exchange}
    (hes : ∀ e ∈ es, OwnCall o w.toWorkload e.call) (hk : k < w.statements.length)
    (reply : Except Fault Execution) : ⟨.execute w.statements[k],reply⟩ ∉ es :=
  hw.not_mem (fun e he => (hes e he).not_isLoading hw.queries) hk reply

theorem TurnsTaken.not_mem {turns : List Turn} {tidying : List Exchange} {lost : Option Fault}
    (h : TurnsTaken o w.toWorkload turns tidying lost) (hw : w.IsPlain) (ho : o.reuseData = true)
    (hk : k < w.statements.length) (reply : Except Fault Execution) :
    ⟨.execute w.statements[k],reply⟩ ∉ turns.flatMap Turn.exchanges ++ tidying := by
  rw [List.mem_append,not_or]
  refine ⟨hw.not_mem_own (OwnCall.of_turnsTaken h) hk reply,hw.not_mem (fun e he => ?_) hk reply⟩
  have hcall := h.call_mem_tidying he
  simp only [tidyPlan,ho,if_true,List.map_cons,List.map_nil,List.mem_singleton] at hcall
  rw [hcall]
  exact not_isLoading_resetSql

/-- A statement of the loading failed, and the data were not to be had: rows had been looked for and
not found, and the statements before had succeeded. -/
def LoadFailed (o : TrialOptions) (w : PatternWorkload) (k : Nat) (f : Fault) (es : List Exchange) :
    Prop :=
  ∃ (hk : k < w.statements.length) (look before : List Exchange),
    es = look ++ before ++ [⟨.execute w.statements[k],.error f⟩] ∧
    Executor.RowsFound o w.table look none ∧
    Carried ((w.statements.take k).map .required) before none

variable {f : Fault} {look load data : List Exchange}

theorem LoadFailed.of_load (hlook : Executor.RowsFound o w.table look none) (hw : w.IsPlain)
    {outcome : Except Fault Unit} (hload : w.toWorkload.loading.Plays load outcome)
    {hk : k < w.statements.length} (he : ⟨.execute w.statements[k],.error f⟩ ∈ look ++ load) :
    LoadFailed o w k f (look ++ load) ∧ outcome = .error (PatternWorkload.describeFault w.id f) := by
  have hnot := hw.not_mem_own (OwnCall.of_rowsFound (w := w.toWorkload) hlook) hk (.error f)
  obtain ⟨ended,hcarried,rfl⟩ := hload.carried
  obtain ⟨rfl,before,rfl,hbefore⟩ :=
    hcarried.required_failed hw.nodup hk ((List.mem_append.mp he).resolve_left hnot)
  exact ⟨⟨hk,look,before,by simp,hlook,hbefore⟩,rfl⟩

theorem Executor.DataPhase.loadFailed {d : Except Fault (Bool × Option Nat)}
    (h : DataPhase o w.toWorkload data d) (hw : w.IsPlain) {hk : k < w.statements.length}
    (he : ⟨.execute w.statements[k],.error f⟩ ∈ data) :
    LoadFailed o w k f data ∧ ∃ g, d = .error g := by
  cases h with
  | found hlook => exact absurd he (hw.not_mem_own (OwnCall.of_rowsFound hlook) hk _)
  | loaded hlook hload hcount _ =>
    have hnot := hw.not_mem_own (o := o) (OwnCall.of_rowCount hcount) hk (.error f)
    cases (LoadFailed.of_load hlook hw hload ((List.mem_append.mp he).resolve_right hnot)).2
  | failed hlook hload _ => exact ⟨(LoadFailed.of_load hlook hw hload he).1,_,rfl⟩

theorem Executor.DataCut.loadFailed {g : Fault} (h : DataCut o w.toWorkload data g) (hw : w.IsPlain)
    {hk : k < w.statements.length} (he : ⟨.execute w.statements[k],.error f⟩ ∈ data) :
    LoadFailed o w k f data ∧ g = f := by
  cases h with
  | looking _ hlook _ =>
    exact absurd he (hw.not_mem_own (o := o) (OwnCall.of_rowCount hlook) hk _)
  | counting hlook hload hcount _ =>
    have hnot := hw.not_mem_own (o := o) (OwnCall.of_rowCount hcount) hk (.error f)
    cases (LoadFailed.of_load hlook hw hload ((List.mem_append.mp he).resolve_right hnot)).2
  | loading hlook hload hg =>
    obtain ⟨hfailed,houtcome⟩ := LoadFailed.of_load hlook hw hload he
    obtain rfl := Except.error.inj houtcome
    rw [PatternWorkload.isFatal_describeFault] at hg
    exact ⟨hfailed,PatternWorkload.describeFault_of_isFatal w.id hg⟩

/-- An execution in which a statement of the loading failed ended there, skipped or aborted. -/
theorem Course.loadFailed {tidying : List Exchange} {turns : List Turn}
    {r : Except Fault Executor.Report} (h : Course o w.toWorkload data turns tidying r)
    (hw : w.IsPlain) (ho : o.reuseData = true) {hk : k < w.statements.length}
    (he : ⟨.execute w.statements[k],.error f⟩ ∈ data ++ turns.flatMap Turn.exchanges ++ tidying) :
    LoadFailed o w k f (data ++ turns.flatMap Turn.exchanges ++ tidying) ∧
      ((∃ report, r = .ok report ∧ report.outcome.status = .skipped) ∨
        r = .error f ∧ f.isFatal = true) := by
  rw [List.append_assoc] at he ⊢
  cases h with
  | cut hdata =>
    simp only [List.flatMap_nil,List.append_nil] at he ⊢
    obtain ⟨hfailed,rfl⟩ := hdata.loadFailed hw he
    exact ⟨hfailed,.inr ⟨rfl,hdata.isFatal⟩⟩
  | missing hdata houtcome =>
    simp only [List.flatMap_nil,List.append_nil] at he ⊢
    exact ⟨(hdata.loadFailed hw he).1,.inl ⟨_,rfl,by rw [houtcome]; rfl⟩⟩
  | lost hdata hturns | measured hdata hturns _ =>
    have hmem := (List.mem_append.mp he).resolve_right (hturns.not_mem hw ho hk _)
    obtain ⟨_,g,hg⟩ := hdata.loadFailed hw hmem
    cases hg

end

/-! ### What is left of it -/

namespace Store

variable {excused : Exchange → Prop} {s t : Store} {table : String} {k : Nat}

theorem Step.unchanged {call : Call} {f : Fault} (h : Step excused s ⟨call,.error f⟩ t) : t = s := by
  cases h <;> rfl

theorem LoadedUpTo.countable (h : s.LoadedUpTo table t k) (hs : s.Countable) : t.Countable := by
  match k with
  | 0 => exact h ▸ hs
  | 1 => exact h ▸ hs.dropTable table
  | k + 2 =>
    obtain ⟨rows,_,hbound,rfl⟩ := h
    exact (hs.dropTable table).createTable hbound table

/-- A table that was dropped, or had no rows before, has none until it is filled. -/
theorem LoadedUpTo.missing (h : s.LoadedUpTo table t k) (hk : k < 2)
    (hs : k = 0 → ∀ n, s.rows? table = some n → n = 0) : ∀ n, t.rows? table = some n → n = 0 := by
  match k with
  | 0 => exact h ▸ hs rfl
  | 1 =>
    obtain rfl := h
    simp
  | k + 2 => omega

theorem LoadedUpTo.filled (h : s.LoadedUpTo table t k) (hk : 2 ≤ k) :
    ∃ n, 0 < n ∧ t.rows? table = some n := by
  obtain ⟨j,rfl⟩ := Nat.exists_eq_add_of_le' hk
  obtain ⟨rows,hrows,_,rfl⟩ := h
  exact ⟨rows,hrows,rows?_createTable _ _ _⟩

/-- A loading that failed leaves what its first statements had made of the store. Unless the look for
rows failed too, there had been none. -/
theorem Run.loadFailed {o : TrialOptions} {w : PatternWorkload} {f : Fault} {es : List Exchange}
    (hrun : Run excused s es t) (h : LoadFailed o w k f es) (hw : w.IsPlain)
    (ho : o.reuseData = true) (hs : s.Countable) : s.LoadedUpTo w.table t k ∧
      ((∀ e ∈ es, e.call ∈ lookCalls w.table → excused e → e.fault? = none) →
        ∀ n, s.rows? w.table = some n → n = 0) := by
  obtain ⟨hk,look,before,rfl,hlook,hbefore⟩ := h
  obtain ⟨select,hstatements⟩ := hw.statements
  obtain ⟨u,hrun,hlast⟩ := hrun.split
  obtain ⟨v,hlookRun,hbeforeRun⟩ := hrun.split
  obtain rfl := hlast.step.unchanged
  obtain rfl := hlookRun.of_isQuiet hlook.isQuiet
  rw [hstatements] at hbefore
  refine ⟨hbeforeRun.load hbefore hw.table,fun hlooked => ?_⟩
  have hnever := hlookRun.unexcused fun e he => by
    have hcalls := hlook.calls_prefix.subset (List.mem_map_of_mem he)
    rw [if_pos ho] at hcalls
    exact hlooked e (by simp [he]) hcalls
  exact (hlook.missing hnever hw.table hs).2 ho

end Store

/-! ### Statements that are locked out -/

section

variable {σ : Type} {c : Client σ} {x y z : World σ} {s : σ} {f : Fault}

theorem LoadScript.play_ofStatements_ok {describe : Fault → Fault} {sql : String} {sqls : List String}
    {e : Execution} (h : c.answer (.execute sql) x.state = (.ok e,s)) :
    (ofStatements describe (sql :: sqls)).play c x =
      (ofStatements describe sqls).play c ⟨s,x.log.push ⟨.execute sql,.ok e⟩⟩ := by
  simp [ofStatements,play,Session.ask,h]

theorem LoadScript.play_ofStatements_error {describe : Fault → Fault} {sql : String}
    {sqls : List String} (h : c.answer (.execute sql) x.state = (.error f,s)) :
    (ofStatements describe (sql :: sqls)).play c x =
      (.error (describe f),⟨s,x.log.push ⟨.execute sql,.error f⟩⟩) := by
  simp [ofStatements,play,Session.ask,h]

section

variable {o : TrialOptions} {table : String}

theorem Executor.reusableRows_absent (ho : o.reuseData = true) {e : Execution}
    (he : e.scalar = some "f")
    (h : c.answer (.execute s!"SELECT to_regclass('{table}') IS NOT NULL;") x.state = (.ok e,s)) :
    reusableRows o table c x =
      (.ok none,⟨s,x.log.push ⟨.execute s!"SELECT to_regclass('{table}') IS NOT NULL;",.ok e⟩⟩) := by
  simp [reusableRows,ho,Session.attempt,Session.tableRowCount,Session.relationExists,Session.execute,
    Session.bind_run,Session.pure_run,Session.ask,h,he]

theorem Executor.reusableRows_failed (ho : o.reuseData = true) (hf : f.isFatal = false)
    (h : c.answer (.execute s!"SELECT to_regclass('{table}') IS NOT NULL;") x.state = (.error f,s)) :
    reusableRows o table c x =
      (.ok none,⟨s,x.log.push ⟨.execute s!"SELECT to_regclass('{table}') IS NOT NULL;",.error f⟩⟩) := by
  simp [reusableRows,ho,Session.attempt,Session.tableRowCount,Session.relationExists,Session.execute,
    Session.bind_run,Session.pure_run,Session.ask,h,hf]

end

theorem Executor.execute_of_failed_load {o : TrialOptions} {w : Workload}
    (hlook : reusableRows o w.table c ⟨(c.clock x.state).2,x.log⟩ = (.ok none,y))
    (hload : w.loading.play c y = (.error f,z)) (hf : f.isFatal = false) :
    ∃ report, execute o w c x = (.ok report,⟨(c.clock z.state).2,z.log⟩) ∧
      report.outcome.status = .skipped := by
  have hdata : ensureData o w c ⟨(c.clock x.state).2,x.log⟩ = (.error (f.asGeneration w.id),z) := by
    simp [ensureData,Session.bind_run,hlook,Session.mapFault,hload]
  have hkept : (f.asGeneration w.id).isFatal = false := by rwa [Fault.isFatal_asGeneration]
  exact ⟨_,by simp [execute,Session.bind_run,Session.readClock,Session.attempt,hdata,hkept,
    Session.pure_run]; rfl,rfl⟩

end

/-- A statement with one of these texts. -/
def hasAny (texts : List String) (sql : String) : Bool := texts.any (hasText sql ·)

namespace Rehearsal

/-- A rehearsal in which the statements with one of these texts fail. -/
def locked (texts : List String) (s : Store) : Rehearsal :=
  { rules := texts.map fun text => { pattern := text, reply := some (.error (.queryFailed "locked")) },
    store := s }

variable {texts : List String} {s t : Store} {sql : String}

theorem consult_locked : Rule.consult sql (locked texts s).rules =
    ((locked texts s).rules,0,
      if hasAny texts sql then some (.error (.queryFailed "locked")) else none) := by
  change Rule.consult sql (texts.map _) = (texts.map _,0,_)
  induction texts with
  | nil => rfl
  | cons text texts ih =>
    by_cases h : hasText sql text = true
    · simp [Rule.consult,Rule.isSpent,Rule.use,hasAny,h]
    · simp [Rule.consult,hasAny,h,ih]

theorem answer_locked (h : hasAny texts sql = true) :
    client.answer (.execute sql) (locked texts s) =
      (.error (.queryFailed "locked"),locked texts s) := by
  change (locked texts s).execute sql = _
  simp only [Rehearsal.execute,consult_locked,h,if_true]
  rfl

theorem answer_unlocked {q : Statement} (h : hasAny texts sql = false)
    (hq : Statement.read sql = q) (hselect : q ≠ .select) (happly : s.apply 1000 q = .ok t) :
    client.answer (.execute sql) (locked texts s) =
      (.ok ((locked texts t).answerStatement q).1,locked texts t) := by
  change (locked texts s).execute sql = _
  simp only [Rehearsal.execute,consult_locked,h,hq]
  simp only [locked,Bool.false_eq_true,if_false,happly]
  cases q <;> simp [answerStatement] at hselect ⊢

theorem honest_locked : (locked texts s).Honest fun e => ∃ sql, e.call = .execute sql ∧
    hasAny texts sql = true := by
  refine honest_of_rules s fun rule hrule reply hreply => ?_
  obtain ⟨text,htext,rfl⟩ := List.mem_map.mp hrule
  exact ⟨_,(Option.some.inj hreply).symm,fun sql hsql =>
    ⟨sql,rfl,List.any_eq_true.mpr ⟨text,htext,hsql⟩⟩⟩

variable {w : PatternWorkload}

/-- A loading from nothing ends at the statement that alters the table. -/
theorem play_locked_alter (hw : w.IsPlain)
    (htexts : w.statements.map (hasAny texts) = [false,false,true,false])
    (hk : 2 < w.statements.length) (log : Array Exchange) :
    ∃ log', w.toWorkload.loading.play client ⟨locked texts {},log⟩ =
        (.error (PatternWorkload.describeFault w.id (.queryFailed "locked")),
          ⟨locked texts ((({} : Store).dropTable w.table).createTable w.table 1000),log'⟩) ∧
      ⟨.execute w.statements[2],.error (.queryFailed "locked")⟩ ∈ log'.toList := by
  obtain ⟨select,hstatements⟩ := hw.statements
  change ∃ log', (LoadScript.ofStatements _ w.statements).play _ _ = _ ∧ _
  simp only [hstatements,PatternWorkload.loadStatements,List.map_cons,List.map_nil,List.cons.injEq]
    at htexts ⊢
  obtain ⟨hdrop,hcreate,halter,_⟩ := htexts
  have hdropped := answer_unlocked (s := {}) hdrop (Statement.read_dropTable hw.table) (by simp) rfl
  have hcreated := answer_unlocked (s := ({} : Store).dropTable w.table) hcreate
    (Statement.read_createTable hw.table select) (by simp) rfl
  rw [LoadScript.play_ofStatements_ok (x := ⟨locked _ _,log⟩) hdropped,
    LoadScript.play_ofStatements_ok (x := ⟨locked _ _,_⟩) hcreated,
    LoadScript.play_ofStatements_error (x := ⟨locked _ _,_⟩) (answer_locked halter)]
  exact ⟨_,rfl,by simp [hstatements,PatternWorkload.loadStatements]⟩

theorem play_locked_drop (hw : w.IsPlain)
    (htexts : w.statements.map (hasAny texts) = [true,false,false,false])
    (hk : 0 < w.statements.length) (s : Store) (log : Array Exchange) :
    ∃ log', w.toWorkload.loading.play client ⟨locked texts s,log⟩ =
        (.error (PatternWorkload.describeFault w.id (.queryFailed "locked")),
          ⟨locked texts s,log'⟩) ∧
      ⟨.execute w.statements[0],.error (.queryFailed "locked")⟩ ∈ log'.toList := by
  obtain ⟨select,hstatements⟩ := hw.statements
  change ∃ log', (LoadScript.ofStatements _ w.statements).play _ _ = _ ∧ _
  simp only [hstatements,PatternWorkload.loadStatements,List.map_cons,List.map_nil,List.cons.injEq]
    at htexts ⊢
  rw [LoadScript.play_ofStatements_error (x := ⟨locked _ _,log⟩) (answer_locked htexts.1)]
  exact ⟨_,rfl,by simp [hstatements,PatternWorkload.loadStatements]⟩

/-- An execution that finds no table ends at the statement that alters it. -/
theorem execute_locked_alter (hw : w.IsPlain)
    (hlook : hasAny texts s!"SELECT to_regclass('{w.table}') IS NOT NULL;" = false)
    (htexts : w.statements.map (hasAny texts) = [false,false,true,false])
    (hk : 2 < w.statements.length) :
    ∃ report log, Executor.execute {} w.toWorkload client ⟨locked texts {},#[]⟩ =
        (.ok report,⟨locked texts ((({} : Store).dropTable w.table).createTable w.table 1000),log⟩) ∧
      report.outcome.status = .skipped ∧
      ⟨.execute w.statements[2],.error (.queryFailed "locked")⟩ ∈ log.toList := by
  have hlooked := answer_unlocked (s := {}) hlook (Statement.read_hasRelation hw.table) (by simp) rfl
  obtain ⟨log,hload,hmem⟩ := play_locked_alter hw htexts hk _
  obtain ⟨report,hran,hstatus⟩ := Executor.execute_of_failed_load (x := ⟨locked texts {},#[]⟩)
    (Executor.reusableRows_absent (o := {}) rfl rfl hlooked) hload rfl
  exact ⟨report,log,hran,hstatus,hmem⟩

/-- An execution that is told nothing of its table ends at the statement that drops it. -/
theorem execute_locked_drop (hw : w.IsPlain)
    (hlook : hasAny texts s!"SELECT to_regclass('{w.table}') IS NOT NULL;" = true)
    (htexts : w.statements.map (hasAny texts) = [true,false,false,false])
    (hk : 0 < w.statements.length) (s : Store) :
    ∃ report log, Executor.execute {} w.toWorkload client ⟨locked texts s,#[]⟩ =
        (.ok report,⟨locked texts s,log⟩) ∧ report.outcome.status = .skipped ∧
      ⟨.execute w.statements[0],.error (.queryFailed "locked")⟩ ∈ log.toList := by
  have hlooked := answer_locked (s := s) hlook
  obtain ⟨log,hload,hmem⟩ := play_locked_drop hw htexts hk s _
  obtain ⟨report,hran,hstatus⟩ := Executor.execute_of_failed_load (x := ⟨locked texts s,#[]⟩)
    (Executor.reusableRows_failed (o := {}) rfl rfl hlooked) hload rfl
  exact ⟨report,log,hran,hstatus,hmem⟩

end Rehearsal

/-- Scans of a thousand rows that end early, run hot. -/
def PatternWorkload.limit : PatternWorkload := ofFixture (Pattern.limitFixture 1000) [.hot]

theorem PatternWorkload.isBuilt_limit : limit.IsBuilt := ⟨.limit,1000,[.hot],42,limit,0,rfl,rfl⟩

/-- A store with the table of these scans. -/
def Store.scanned : Store :=
  (({} : Store).dropTable PatternWorkload.limit.table).createTable PatternWorkload.limit.table 1000

theorem Store.countable_scanned : scanned.Countable := by
  have hbound : 1000 < 2 ^ 64 := by decide
  exact (Grounded.empty.countable.dropTable _).createTable hbound _

theorem Store.rows?_scanned : scanned.rows? PatternWorkload.limit.table = some 1000 :=
  rows?_createTable _ _ _

namespace Rehearsal

theorem execute_limit_alter (hk : 2 < PatternWorkload.limit.statements.length) :
    ∃ report log, Executor.execute {} PatternWorkload.limit.toWorkload client
        ⟨locked ["ALTER TABLE"] {},#[]⟩ = (.ok report,⟨locked ["ALTER TABLE"] .scanned,log⟩) ∧
      report.outcome.status = .skipped ∧
      ⟨.execute PatternWorkload.limit.statements[2],.error (.queryFailed "locked")⟩ ∈ log.toList :=
  execute_locked_alter PatternWorkload.isBuilt_limit.isPlain (by decide +kernel) (by decide +kernel) hk

theorem execute_limit_drop (hk : 0 < PatternWorkload.limit.statements.length) (s : Store) :
    ∃ report log, Executor.execute {} PatternWorkload.limit.toWorkload client
        ⟨locked ["to_regclass","DROP TABLE"] s,#[]⟩ =
          (.ok report,⟨locked ["to_regclass","DROP TABLE"] s,log⟩) ∧
      report.outcome.status = .skipped ∧
      ⟨.execute PatternWorkload.limit.statements[0],.error (.queryFailed "locked")⟩ ∈ log.toList :=
  execute_locked_drop PatternWorkload.isBuilt_limit.isPlain (by decide +kernel) (by decide +kernel)
    hk s

end Rehearsal

/-! ### The next execution -/

/-- Over a store that is left by a loading that failed, the next execution with a client that fails no
more loads the data again if there are no rows left, and takes the rows as they are if there are. None
are left if the table was dropped, nor if dropping it failed, unless the look for rows before had
failed too; and there are some if the table was created. -/
theorem execute_after_failed_load {σ τ : Type} {c : Client σ} {excused : Exchange → Prop}
    {good : σ → Prop} {view : σ → Store} (hc : c.Serves excused good view) {next : Client τ}
    {good' : τ → Prop} {view' : τ → Store} (hnext : next.Serves never good' view')
    {o : TrialOptions} (ho : o.reuseData = true)
    (hengines : ∀ engine ∈ o.engines.toList, IsWord engine) {w : PatternWorkload} (hw : w.IsBuilt)
    {s : σ} (hs : good s) (hstore : (view s).Countable) {s' : τ} (hs' : good' s')
    (hleft : view' s' = view (Executor.execute o w.toWorkload c ⟨s,#[]⟩).2.state)
    {k : Nat} (hk : k < w.statements.length) {f : Fault}
    (hfailed : ⟨.execute w.statements[k],.error f⟩ ∈
      (Executor.execute o w.toWorkload c ⟨s,#[]⟩).2.log.toList) :
    let first := Executor.execute o w.toWorkload c ⟨s,#[]⟩
    let second := Executor.execute o w.toWorkload next ⟨s',#[]⟩
    let left := ((view' s').rows? w.table).getD 0
    ((∃ report, first.1 = .ok report ∧ report.outcome.status = .skipped) ∨
      first.1 = .error f ∧ f.isFatal = true) ∧
    (k = 0 → (view' s').rows? w.table = (view s).rows? w.table) ∧
    (k < 2 → (k = 0 → ∀ e ∈ first.2.log.toList,
      e.call ∈ lookCalls w.table → excused e → e.fault? = none) → left = 0) ∧
    (2 ≤ k → 0 < left) ∧
    ∃ report, second.1 = .ok report ∧ report.outcome.status = .completed ∧
      (left = 0 → report.outcome.generated = true ∧ ∃ look rest,
        second.2.log.toList.map Exchange.call = look ++ w.statements.map .execute ++ rest ∧
        look <+: lookCalls w.table) ∧
      (0 < left → report.outcome.generated = false ∧ report.outcome.rowCount = some left ∧
        ∀ e ∈ second.2.log.toList, e.call.isLoading = false) := by
  intro first second left
  have hplain := hw.isPlain
  have hnone : left = 0 ↔ ∀ n, (view' s').rows? w.table = some n → n = 0 := by
    cases h : (view' s').rows? w.table <;> simp [left,h]
  obtain ⟨es,hlog,hanswers,data,turns,tidying,rfl,hcourse⟩ :=
    Executor.ensures_execute o w.toWorkload c ⟨s,#[]⟩
  rw [List.nil_append] at hlog
  rw [hlog] at hfailed
  obtain ⟨hloadFailed,hresult⟩ := hcourse.loadFailed hplain ho hfailed
  obtain ⟨hup,hmissing⟩ := (hc.run hanswers hs).2.loadFailed hloadFailed hplain ho hstore
  rw [← hleft] at hup
  obtain ⟨report,_,hr,hlog',_,hserved⟩ := Executor.execute_served (x := ⟨s',#[]⟩) hnext hplain
    hengines hs' (hup.countable hstore)
  rw [List.nil_append] at hlog'
  refine ⟨hresult,?_,fun hk hlooked => ?_,fun hk => ?_,report,hr,hserved.status,fun hzero => ?_,
    fun hpos => ?_⟩
  · rintro rfl
    exact congrArg (Store.rows? · w.table) hup
  · rw [hlog] at hlooked
    exact hnone.mpr (hup.missing hk fun hzero => hmissing (hlooked hzero))
  · obtain ⟨rows,hrows,hthere⟩ := hup.filled hk
    simpa [left,hthere] using hrows
  · obtain ⟨u,hsupplied,_⟩ := hserved.supplied
    have hgenerated := hsupplied.of_missing (hnone.mp hzero)
    obtain ⟨look,measured,hcalls,hlook,_⟩ := hserved.calls
    rw [if_pos hgenerated,List.append_assoc] at hcalls
    exact ⟨hgenerated,look,_,by rw [hlog',hcalls],by simpa [ho] using hlook⟩
  · have hthere : (view' s').rows? w.table = some left := by
      cases h : (view' s').rows? w.table <;> simp_all [left]
    rw [hlog']
    exact hserved.reuses hplain ho hthere hpos

/-- A table that is filled and cannot be altered: the next execution takes it. -/
theorem execute_after_failed_load_limit :
    ∃ report, (Executor.execute {} PatternWorkload.limit.toWorkload Rehearsal.client
        ⟨{ store := .scanned },#[]⟩).1 = .ok report ∧
      report.outcome.generated = false ∧ report.outcome.rowCount = some 1000 := by
  have hbuilt := PatternWorkload.isBuilt_limit
  have hk : 2 < PatternWorkload.limit.statements.length := by decide
  obtain ⟨first,log,hran,_,hfailed⟩ := Rehearsal.execute_limit_alter hk
  have hnext : ({ store := .scanned } : Rehearsal).Honest never :=
    Rehearsal.honest_of_rules .scanned (by simp)
  obtain ⟨_,_,_,hleft,report,hr,_,_,hreused⟩ := execute_after_failed_load (Rehearsal.serves _)
    (Rehearsal.serves never) (o := {}) rfl isWord_engines hbuilt Rehearsal.honest_locked
    Grounded.empty.countable hnext (by rw [hran]; rfl) hk (by rw [hran]; exact hfailed)
  obtain ⟨hgenerated,hcount,_⟩ := hreused (hleft (Nat.le_refl 2))
  have hrows : (Store.scanned.rows? PatternWorkload.limit.table).getD 0 = 1000 := by
    rw [Store.rows?_scanned]
    rfl
  exact ⟨report,hr,hgenerated,hcount.trans (congrArg some hrows)⟩

/-- A statement of the loading fails and the execution is skipped, but the next one takes the table
that is left, without any statement of a loading. -/
def Rehearsal.ReusesLeft (r : Rehearsal) : Prop :=
  ∃ first left second, Executor.execute {} PatternWorkload.limit.toWorkload client ⟨r,#[]⟩ =
      (.ok first,left) ∧ first.outcome.status = .skipped ∧
    (∃ sql ∈ PatternWorkload.limit.statements, ∃ f, ⟨.execute sql,.error f⟩ ∈ left.log.toList) ∧
    (Executor.execute {} PatternWorkload.limit.toWorkload client
      ⟨{ store := left.state.store },#[]⟩).1 = .ok second ∧ second.outcome.generated = false ∧
    ∀ e ∈ (Executor.execute {} PatternWorkload.limit.toWorkload client
      ⟨{ store := left.state.store },#[]⟩).2.log.toList, e.call.isLoading = false

/-- It does so where the table cannot be altered, and where a table from before can neither be looked
for nor dropped. -/
theorem half_loaded_limit_reused : (Rehearsal.locked ["ALTER TABLE"] {}).ReusesLeft ∧
    (Rehearsal.locked ["to_regclass","DROP TABLE"] .scanned).ReusesLeft := by
  obtain ⟨second,es,hr,hlog,_,hserved⟩ := Executor.execute_served (o := {})
    (x := ⟨{ store := .scanned },#[]⟩) (Rehearsal.serves never)
    PatternWorkload.isBuilt_limit.isPlain isWord_engines (Rehearsal.honest_of_rules _ (by simp))
    Store.countable_scanned
  obtain ⟨hgenerated,_,hquiet⟩ := hserved.reuses PatternWorkload.isBuilt_limit.isPlain rfl
    Store.rows?_scanned (Nat.succ_pos 999)
  rw [List.nil_append] at hlog
  rw [← hlog] at hquiet
  constructor
  · obtain ⟨first,log,hran,hskipped,hmem⟩ := Rehearsal.execute_limit_alter (by decide)
    exact ⟨first,_,second,hran,hskipped,⟨_,List.getElem_mem _,_,hmem⟩,hr,hgenerated,hquiet⟩
  · obtain ⟨first,log,hran,hskipped,hmem⟩ := Rehearsal.execute_limit_drop (by decide) .scanned
    exact ⟨first,_,second,hran,hskipped,⟨_,List.getElem_mem _,_,hmem⟩,hr,hgenerated,hquiet⟩

end IndexTrial
