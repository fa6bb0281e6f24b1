import IndexTrial.Proofs.Trial.Course

/-!
The calls that an executor makes of its own accord, and those of the loading among them: one
execution loads a workload's data at most once, and not at all if it may reuse rows that it finds.
-/

namespace IndexTrial

/-- The calls that an executor makes of its own accord, up to the tidying. The loading script has
no part in them. -/
inductive OwnCall (o : TrialOptions) (w : Workload) : Call → Prop
  | lookUp : OwnCall o w (.execute s!"SELECT to_regclass('{w.table}') IS NOT NULL;")
  | count : OwnCall o w (.execute s!"SELECT count(*) FROM {w.table};")
  | build {engine : String} {p : PlannedCall} (hengine : engine ∈ o.engines.toList)
      (hp : p ∈ buildPlan w engine) : OwnCall o w p.call
  | session : OwnCall o w (.execute (Executor.sessionSql w.parallelism))
  | query {engine : String} {q : Query} {evicted : String → Bool} {p : PlannedCall}
      (hq : q ∈ w.queries) (hp : p ∈ planOf o w engine q evicted) : OwnCall o w p.call
  | dropIndex {engine : String} (hengine : engine ∈ o.engines.toList) :
      OwnCall o w (.execute (dropIndexSql w engine))

namespace OwnCall

variable {o : TrialOptions} {w : Workload}

theorem of_rowCount {es : List Exchange} {r : Except Fault (Option Nat)}
    (h : RowCount w.table es r) : ∀ e ∈ es, OwnCall o w e.call := by
  cases h with
  | unknown f => simpa using lookUp
  | absent x hx => simpa using lookUp
  | uncounted x f hx => simpa using ⟨lookUp,count⟩
  | counted x y hx => simpa using ⟨lookUp,count⟩

theorem of_rowsFound {es : List Exchange} {found : Option Nat}
    (h : Executor.RowsFound o w.table es found) : ∀ e ∈ es, OwnCall o w e.call := by
  cases h with
  | unasked => simp
  | some _ hes _ => exact of_rowCount hes
  | none _ hes _ _ => exact of_rowCount hes

theorem of_queried {engine : String} {qs : List Query} {es : List Exchange} {lost : Option Fault}
    (h : Queried o w engine qs es lost) (hqs : ∀ q ∈ qs, q ∈ w.queries) :
    ∀ e ∈ es, OwnCall o w e.call := by
  intro e he
  obtain ⟨q,hq,evicted,p,hp,hcall⟩ := h.call_mem he
  rw [← hcall]
  exact query (hqs q hq) hp

theorem of_taken {t : Turn} {lost : Option Fault} (h : t.Taken o w lost)
    (hengine : t.engine ∈ o.engines.toList) : ∀ e ∈ t.exchanges, OwnCall o w e.call := by
  have hbuild : ∀ {engine es ended}, engine ∈ o.engines.toList →
      Carried (buildPlan w engine) es ended → ∀ e ∈ es, OwnCall o w e.call := by
    intro engine es ended hengine h e he
    obtain ⟨p,hp,hcall⟩ := h.call_mem he
    rw [← hcall]
    exact build hengine hp
  have hone : ∀ {sql es ended}, Carried [.optional sql] es ended → OwnCall o w (.execute sql) →
      ∀ e ∈ es, OwnCall o w e.call := by
    intro sql es ended h hsql e he
    obtain ⟨p,hp,hcall⟩ := h.call_mem he
    rw [← hcall,List.mem_singleton.mp hp]
    exact hsql
  cases h with
  | unbuilt h => simpa [Turn.exchanges] using hbuild hengine h
  | unset h hsession =>
    simpa [Turn.exchanges,or_imp,forall_and] using ⟨hbuild hengine h,hone hsession session⟩
  | stopped h hsession hqueries =>
    simpa [Turn.exchanges,or_imp,forall_and] using
      ⟨hbuild hengine h,hone hsession session,of_queried hqueries fun _ => id⟩
  | through h hsession hqueries htidying =>
    simpa [Turn.exchanges,or_imp,forall_and] using ⟨hbuild hengine h,hone hsession session,
      of_queried hqueries fun _ => id,hone htidying (dropIndex hengine)⟩

theorem of_turnsTaken {turns : List Turn} {tidying : List Exchange} {lost : Option Fault}
    (h : TurnsTaken o w turns tidying lost) :
    ∀ e ∈ turns.flatMap Turn.exchanges, OwnCall o w e.call := by
  have hturn : ∀ {t lost}, Turn.Taken o w t lost →
      t.engine = o.engines.baseline ∨ t.engine = o.engines.candidate →
      ∀ e ∈ t.exchanges, OwnCall o w e.call := fun h hengine =>
    of_taken h (by simpa [EnginePair.toList] using hengine)
  cases h with
  | first hb hbase => simpa using hturn hbase (.inl hb)
  | second hb hbase hc hcand =>
    simpa [or_imp,forall_and] using ⟨hturn hbase (.inl hb),hturn hcand (.inr hc)⟩
  | through hb hbase hc hcand _ =>
    simpa [or_imp,forall_and] using ⟨hturn hbase (.inl hb),hturn hcand (.inr hc)⟩

end OwnCall

theorem TurnsTaken.call_mem_tidying {o : TrialOptions} {w : Workload} {turns : List Turn}
    {tidying : List Exchange} {lost : Option Fault} (h : TurnsTaken o w turns tidying lost)
    {e : Exchange} (he : e ∈ tidying) : e.call ∈ (tidyPlan o w).map PlannedCall.call := by
  cases h with
  | first | second => simp at he
  | through _ _ _ _ htidying =>
    obtain ⟨p,hp,hcall⟩ := htidying.call_mem he
    exact List.mem_map.mpr ⟨p,hp,hcall⟩

theorem TurnsTaken.calls_tidying {o : TrialOptions} {w : Workload} {turns : List Turn}
    {tidying : List Exchange} (h : TurnsTaken o w turns tidying none) :
    tidying.map Exchange.call = (tidyPlan o w).map PlannedCall.call := by
  obtain ⟨_,_,_,_,_,_,_,htidying⟩ := h.complete
  exact htidying.calls_eq

/-- The exchanges of a count say what it came to. -/
theorem RowCount.unique {table : String} {es : List Exchange} {r r' : Except Fault (Option Nat)}
    (h : RowCount table es r) (h' : RowCount table es r') : r = r' := by
  cases h <;> cases h' <;> rfl

namespace Executor

variable {o : TrialOptions} {w : Workload}

/-- If data may be reused, rows are looked for first. The loading is played at most once, to its end
or cut, and not at all if there were rows. All other calls are the executor's own. -/
structure LoadsOnce (o : TrialOptions) (w : Workload) (look load rest : List Exchange) : Prop where
  looked : o.reuseData = true → ∃ r, RowCount w.table look r
  own : ∀ e ∈ look ++ rest, OwnCall o w e.call ∨ e.call ∈ (tidyPlan o w).map PlannedCall.call
  once : load = [] ∨ ∃ outcome, w.loading.Plays load outcome
  reused : o.reuseData = true → ∀ rows, RowCount w.table look (.ok (some rows)) → 0 < rows →
    load = []

theorem RowsFound.not_reusable {es : List Exchange} (h : RowsFound o w.table es .none)
    (ho : o.reuseData = true) {rows : Nat} (hrows : RowCount w.table es (.ok (.some rows))) :
    rows = 0 := by
  cases h with
  | unasked hoff => simp [ho] at hoff
  | none _ hes hr _ => exact hr rows (hes.unique hrows)

theorem RowsFound.looked {es : List Exchange} {found : Option Nat} (h : RowsFound o w.table es found)
    (ho : o.reuseData = true) : ∃ r, RowCount w.table es r := by
  cases h with
  | unasked hoff => simp [ho] at hoff
  | some _ hes _ => exact ⟨_,hes⟩
  | none _ hes _ _ => exact ⟨_,hes⟩

theorem LoadsOnce.of_load {look load rest : List Exchange} {outcome : Except Fault Unit}
    (hlook : RowsFound o w.table look none) (hload : w.loading.Plays load outcome)
    (hrest : ∀ e ∈ rest, OwnCall o w e.call ∨ e.call ∈ (tidyPlan o w).map PlannedCall.call) :
    LoadsOnce o w look load rest where
  looked := hlook.looked
  own e he := by
    rcases List.mem_append.mp he with he | he
    · exact .inl (OwnCall.of_rowsFound hlook e he)
    · exact hrest e he
  once := .inr ⟨outcome,hload⟩
  reused ho rows hes hrows := absurd (hlook.not_reusable ho hes) (Nat.ne_of_gt hrows)

theorem LoadsOnce.without {look rest : List Exchange}
    (hlooked : o.reuseData = true → ∃ r, RowCount w.table look r)
    (hlook : ∀ e ∈ look, OwnCall o w e.call)
    (hrest : ∀ e ∈ rest, OwnCall o w e.call ∨ e.call ∈ (tidyPlan o w).map PlannedCall.call) :
    LoadsOnce o w look [] rest where
  looked := hlooked
  own e he := by
    rcases List.mem_append.mp he with he | he
    · exact .inl (hlook e he)
    · exact hrest e he
  once := .inl rfl
  reused _ _ _ _ := rfl

theorem DataPhase.loadsOnce {data rest : List Exchange} {d : Except Fault (Bool × Option Nat)}
    (h : DataPhase o w data d)
    (hrest : ∀ e ∈ rest, OwnCall o w e.call ∨ e.call ∈ (tidyPlan o w).map PlannedCall.call) :
    ∃ look load more, data ++ rest = look ++ load ++ more ∧ LoadsOnce o w look load more := by
  cases h with
  | found hlook =>
      exact ⟨data,[],rest,by simp,.without hlook.looked (OwnCall.of_rowsFound hlook) hrest⟩
  | @loaded look load count r hlook hload hcount _ =>
    refine ⟨look,load,count ++ rest,by simp,.of_load hlook hload fun e he => ?_⟩
    rcases List.mem_append.mp he with he | he
    · exact .inl (OwnCall.of_rowCount hcount e he)
    · exact hrest e he
  | @failed look load f hlook hload _ => exact ⟨look,load,rest,rfl,.of_load hlook hload hrest⟩

theorem DataCut.loadsOnce {data : List Exchange} {f : Fault} (h : DataCut o w data f) :
    ∃ look load more, data = look ++ load ++ more ∧ LoadsOnce o w look load more := by
  cases h with
  | looking _ hlook _ =>
    exact ⟨data,[],[],by simp,.without (fun _ => ⟨_,hlook⟩) (OwnCall.of_rowCount hlook) (by simp)⟩
  | @loading look load f hlook hload _ =>
    exact ⟨look,load,[],by simp,.of_load hlook hload (by simp)⟩
  | @counting look load count f hlook hload hcount _ =>
    exact ⟨look,load,count,rfl,.of_load hlook hload fun e he =>
      .inl (OwnCall.of_rowCount hcount e he)⟩

theorem ensures_loadsOnce {σ : Type} (o : TrialOptions) (w : Workload) :
    (execute o w : Session σ Report).Ensures fun es _ =>
      ∃ look load rest, es = look ++ load ++ rest ∧ LoadsOnce o w look load rest := by
  refine (ensures_execute o w).mono ?_
  rintro _ r ⟨data,turns,tidying,rfl,hcourse⟩
  have hrest : ∀ {lost}, TurnsTaken o w turns tidying lost →
      ∀ e ∈ turns.flatMap Turn.exchanges ++ tidying,
        OwnCall o w e.call ∨ e.call ∈ (tidyPlan o w).map PlannedCall.call := by
    intro lost h e he
    rcases List.mem_append.mp he with he | he
    · exact .inl (OwnCall.of_turnsTaken h e he)
    · exact .inr (h.call_mem_tidying he)
  rw [List.append_assoc]
  cases hcourse with
  | cut hdata => simpa using hdata.loadsOnce
  | missing hdata _ => exact hdata.loadsOnce (by simp)
  | lost hdata hturns => exact hdata.loadsOnce (hrest hturns)
  | measured hdata hturns _ => exact hdata.loadsOnce (hrest hturns)

end Executor

end IndexTrial
