import IndexTrial.Proofs.Trial.Preparing

/-!
How one query is measured on one engine. The samples of the measurement are the durations of its
plan's measured executions, and a failed execution of the query cuts the plan.
-/

namespace IndexTrial

/-- The executions of a prepared query. Only a warm query has one more to discard: a hot one has
just run, and a cold one would find its own pages. -/
def samplingPlan (q : Query) : List PlannedCall :=
  match q.mode with
  | .hot => List.replicate q.configuredRepeat (.measured q.sql)
  | .warm =>
    (if q.warmup then [.required q.sql] else []) ++
      List.replicate q.configuredRepeat (.measured q.sql)
  | .cold => [.measured q.sql]

def queryPlan (evictFiles : Bool) (evicted : String → Bool) (index table : String) (q : Query) :
    List PlannedCall :=
  preparationPlan evictFiles evicted index table q ++ samplingPlan q

/-- The plan of a query on an engine's index of a workload. -/
def planOf (o : TrialOptions) (w : Workload) (engine : String) (q : Query)
    (evicted : String → Bool) : List PlannedCall :=
  queryPlan o.evictFiles evicted (indexName w.table engine) w.table q

/-- The samples that complete a measurement of the query. -/
def Query.sampleCount (q : Query) : Nat := if q.mode = .cold then 1 else q.configuredRepeat

/-- The recorder of a query on an engine, with what it got so far. -/
def recorderOf (w : Workload) (engine : String) (q : Query) (samples : List Sample)
    (notes : List String) : Recorder :=
  { workload := w.id, query := q.id, engine, mode := q.mode, expected := q.sampleCount, samples
    annotations := notes }

/-- What a recorder gives when the plan of its query has been carried out or cut. -/
def Recorder.close (r : Recorder) : Option Fault → Except Fault Measurement
  | none => .ok r.finish
  | some f => if f.isFatal then .error f else .ok (r.fail f)

theorem ofQuery_eq {q : Query} {p : Preparation}
    (h : q.mode ≠ .cold → p.primed = decide (q.mode = .hot)) :
    SamplingPlan.ofQuery q p = ⟨q.warmup && decide (q.mode = .warm),q.sampleCount⟩ := by
  unfold SamplingPlan.ofQuery Query.sampleCount
  cases hm : q.mode <;> simp [hm] at h <;> simp [h]

theorem samplingPlan_eq (q : Query) :
    samplingPlan q = (if q.warmup && decide (q.mode = .warm) then [.required q.sql] else []) ++
      List.replicate q.sampleCount (.measured q.sql) := by
  unfold samplingPlan Query.sampleCount
  cases q.mode <;> simp

theorem call_of_mem_samplingPlan {q : Query} {p : PlannedCall} (hp : p ∈ samplingPlan q) :
    p.call = .execute q.sql := by
  rw [samplingPlan_eq] at hp
  rcases List.mem_append.mp hp with hp | hp
  · split at hp
    · rw [List.mem_singleton.mp hp]
      rfl
    · simp at hp
  · rw [List.eq_of_mem_replicate hp]
    rfl

theorem Query.sampleCount_pos (q : Query) : 0 < q.sampleCount := by
  have h := q.configuredRepeat_pos
  unfold sampleCount
  split <;> omega

theorem repeats_ofQuery (q : Query) (p : Preparation) :
    (SamplingPlan.ofQuery q p).repeats = q.sampleCount := by
  unfold SamplingPlan.ofQuery Query.sampleCount
  cases q.mode <;> rfl

theorem start_eq (w : Workload) (engine : String) (q : Query) :
    Recorder.start w.id q.id engine q.mode q.sampleCount = recorderOf w engine q [] [] := by
  have h : max q.sampleCount 1 = q.sampleCount := Nat.max_eq_left q.sampleCount_pos
  simp [Recorder.start,recorderOf,h]

/-- The samples that the recorder got, and what it gives. -/
def Concludes (ps : List PlannedCall) (r : Recorder) (n : Nat) (es : List Exchange)
    (result : Except Fault Measurement) : Prop :=
  ∃ ended samples, Carried ps es ended ∧ samples.map Sample.duration = measuredDurations ps es ∧
    (ended = none → samples.length = n) ∧
    result = Recorder.close { r with samples := r.samples ++ samples } ended

namespace Concludes

theorem done (r : Recorder) : Concludes [] r 0 [] (.ok r.finish) :=
  ⟨none,[],.done,rfl,fun _ => rfl,by simp [Recorder.close]⟩

theorem cut {p : PlannedCall} {sql : String} (hcall : p.call = .execute sql)
    (hrole : p.role ≠ .optional) (ps : List PlannedCall) (r : Recorder) (n : Nat) (f : Fault) :
    Concludes (p :: ps) r n [⟨.execute sql,.error f⟩] (r.close (some f)) := by
  have hends : p.ending ⟨.execute sql,.error f⟩ = some f := by
    rw [ending_of_required hrole]
    rfl
  exact ⟨some f,[],.cut hcall.symm hends,by simp [measuredDurations,Exchange.duration?],by simp,
    by simp⟩

/-- An execution that is discarded leaves the recorder as it is. -/
theorem discard {ps : List PlannedCall} {r : Recorder} {n : Nat} {es : List Exchange}
    {result : Except Fault Measurement} (h : Concludes ps r n es result) (sql : String)
    (x : Execution) :
    Concludes (.required sql :: ps) r n (⟨.execute sql,.ok x⟩ :: es) result := by
  obtain ⟨ended,samples,hcarried,hdurations,hlength,hresult⟩ := h
  refine ⟨ended,samples,.next rfl (ending_of_ok rfl) hcarried,?_,hlength,hresult⟩
  simpa [measuredDurations,PlannedCall.required] using hdurations

theorem record {ps : List PlannedCall} {r : Recorder} {n : Nat} {es : List Exchange}
    {result : Except Fault Measurement} {x : Execution} {time : Moment}
    (h : Concludes ps (r.record x.durationMs time) n es result) (sql : String) :
    Concludes (.measured sql :: ps) r (n + 1) (⟨.execute sql,.ok x⟩ :: es) result := by
  obtain ⟨ended,samples,hcarried,hdurations,hlength,hresult⟩ := h
  refine ⟨ended,⟨r.workload,r.query,r.engine,r.mode,x.durationMs,time⟩ :: samples,
    .next rfl (ending_of_ok rfl) hcarried,?_,?_,?_⟩
  · simpa [measuredDurations,PlannedCall.measured,Exchange.duration?] using hdurations
  · intro hended
    rw [List.length_cons,hlength hended]
  · simpa [Recorder.record] using hresult

end Concludes

theorem Recorder.close_of_isFatal (r : Recorder) {f : Fault} (hf : f.isFatal = true) :
    r.close (some f) = .error f := by
  simp [close,hf]

theorem Recorder.close_of_not_isFatal (r : Recorder) {f : Fault} (hf : f.isFatal = false) :
    r.close (some f) = .ok (r.fail f) := by
  simp [close,hf]

/-- A recorder that gives a measurement was finished, or failed by a fault that can be contained. -/
theorem Recorder.close_eq_ok {r : Recorder} {ended : Option Fault} {m : Measurement}
    (h : r.close ended = .ok m) :
    (ended = none ∧ m = r.finish) ∨ ∃ f, ended = some f ∧ f.isFatal = false ∧ m = r.fail f := by
  cases ended with
  | none => exact .inl ⟨rfl,(Except.ok.inj h).symm⟩
  | some f =>
    cases hf : f.isFatal with
    | true =>
      rw [close_of_isFatal r hf] at h
      cases h
    | false =>
      rw [close_of_not_isFatal r hf] at h
      exact .inr ⟨f,rfl,hf,(Except.ok.inj h).symm⟩

/-- How a query came to be measured: `evicted` says what the requests to evict came to, and `ended`
is the fault that cut its plan, if any. -/
structure Measured (o : TrialOptions) (w : Workload) (engine : String) (q : Query)
    (evicted : String → Bool) (es : List Exchange) (ended : Option Fault)
    (result : Except Fault Measurement) : Prop where
  reports : Reports evicted es
  carried : Carried (planOf o w engine q evicted) es ended
  recorded : ∃ samples notes,
    samples.map Sample.duration = measuredDurations (planOf o w engine q evicted) es ∧
      (ended = none → samples.length = q.sampleCount) ∧
      result = (recorderOf w engine q samples notes).close ended

namespace Measured

variable {o : TrialOptions} {w : Workload} {engine : String} {q : Query} {evicted : String → Bool}
  {es : List Exchange}

theorem of_unprepared {f : Fault} (hreports : Reports evicted es)
    (hcarried : Carried (preparationPlan o.evictFiles evicted (indexName w.table engine) w.table q)
      es (some f)) :
    Measured o w engine q evicted es (some f) ((recorderOf w engine q [] []).close (some f)) := by
  refine ⟨hreports,hcarried.extend _,[],[],?_,by simp,rfl⟩
  rw [planOf,queryPlan,measuredDurations_extend hcarried,
    measuredDurations_eq_nil (role_preparationPlan _ _ _ _ _)]
  rfl

theorem of_prepared {fs : List Exchange} {notes : List String} {result : Except Fault Measurement}
    (hreports : Reports evicted es)
    (hcarried : Carried (preparationPlan o.evictFiles evicted (indexName w.table engine) w.table q)
      es none)
    (h : Concludes (samplingPlan q) (recorderOf w engine q [] notes) q.sampleCount fs result) :
    ∃ ended, Measured o w engine q evicted (es ++ fs) ended result := by
  obtain ⟨ended,samples,hsampled,hdurations,hlength,hresult⟩ := h
  refine ⟨ended,hreports.append ?_,hcarried.append hsampled,samples,notes,?_,hlength,hresult⟩
  · refine .of_carried hsampled (fun p hp => ?_) _
    rw [call_of_mem_samplingPlan hp]
    simp
  · rw [hdurations,planOf,queryPlan,measuredDurations_append hcarried.length_eq,
      measuredDurations_eq_nil (role_preparationPlan _ _ _ _ _)]
    rfl

/-- A plan that was cut leaves an incomplete measurement with the fault's words. -/
theorem conclude {ended : Option Fault} {m : Measurement}
    (h : Measured o w engine q evicted es ended (.ok m)) :
    ∃ samples notes,
      samples.map Sample.duration = measuredDurations (planOf o w engine q evicted) es ∧
      m = (recorderOf w engine q samples notes).conclude
        (if ended = none then .ok else .incomplete) (ended.map Fault.message) := by
  obtain ⟨samples,notes,hdurations,hlength,hresult⟩ := h.recorded
  refine ⟨samples,notes,hdurations,?_⟩
  rcases Recorder.close_eq_ok hresult.symm with ⟨rfl,hm⟩ | ⟨f,rfl,-,hm⟩
  · have hfull : ¬ samples.length < q.sampleCount := by
      rw [hlength rfl]
      exact Nat.lt_irrefl _
    simpa [Recorder.finish,recorderOf,hfull] using hm
  · simpa [Recorder.fail] using hm

theorem error_iff {ended : Option Fault} {result : Except Fault Measurement}
    (h : Measured o w engine q evicted es ended result) (f : Fault) :
    result = .error f ↔ ended = some f ∧ f.isFatal = true := by
  obtain ⟨samples,notes,_,_,rfl⟩ := h.recorded
  cases ended with
  | none => simp [Recorder.close]
  | some g => cases hg : g.isFatal <;> simp [Recorder.close,hg] <;> grind

end Measured

namespace Executor

variable {σ : Type}

/-- An execution of the query that must not fail, and what follows if it did not. -/
theorem ensures_executeQuery {p : PlannedCall} {sql : String} (hcall : p.call = .execute sql)
    (hrole : p.role ≠ .optional) {ps : List PlannedCall} {r : Recorder} {n : Nat}
    {next : Execution → Session σ Measurement}
    (hnext : ∀ x, (next x).Ensures fun es result =>
      Concludes (p :: ps) r n (⟨.execute sql,.ok x⟩ :: es) result) :
    (do
      match ← (Session.execute sql).attempt with
      | .ok x => next x
      | .error f => return r.fail f : Session σ Measurement).Ensures (Concludes (p :: ps) r n) := by
  have hcut := Concludes.cut hcall hrole ps r n
  refine Session.Ensures.bind (Session.ensures_ask (.execute sql)).handed ?_ ?_
  · rintro es f ⟨rfl,hf⟩
    have h := hcut f
    rwa [r.close_of_isFatal hf] at h
  · rintro es reply ⟨rfl,hf⟩
    cases reply with
    | ok x => exact hnext x
    | error f =>
      have h := hcut f
      rw [r.close_of_not_isFatal (hf f rfl)] at h
      exact Session.Ensures.pure h

theorem ensures_sampleQuery (sql : String) (r : Recorder) (n : Nat) :
    (sampleQuery sql r n : Session σ Measurement).Ensures
      (Concludes (List.replicate n (.measured sql)) r n) := by
  induction n generalizing r with
  | zero => exact Session.Ensures.pure (.done r)
  | succ n ih =>
    refine ensures_executeQuery (p := .measured sql) rfl (by simp [PlannedCall.measured]) fun x => ?_
    refine Session.unfailing_now.ensures_bind fun es time hes => ?_
    obtain rfl := List.map_eq_nil_iff.mp hes
    exact (ih (r.record x.durationMs time)).mono fun fs result h => h.record sql

theorem ensures_measure (q : Query) (r : Recorder) :
    (measure q.sql ⟨q.warmup && decide (q.mode = .warm),q.sampleCount⟩ r : Session σ Measurement).Ensures
      (Concludes (samplingPlan q) r q.sampleCount) := by
  have hsamples := ensures_sampleQuery (σ := σ) q.sql r q.sampleCount
  unfold measure
  rw [samplingPlan_eq]
  split
  · refine ensures_executeQuery (p := .required q.sql) rfl (by simp [PlannedCall.required]) fun x => ?_
    exact hsamples.mono fun fs result h => h.discard q.sql x
  · exact hsamples

theorem ensures_runQuery (o : TrialOptions) (w : Workload) (engine : String) (q : Query) :
    (runQuery o w engine q : Session σ Measurement).Ensures fun es result =>
      ∃ evicted ended, Measured o w engine q evicted es ended result := by
  refine Session.Ensures.bind (Caching.ensures_prepareQuery o.evictFiles
    (indexName_ne w.table engine) q).handed ?_ ?_
  · rintro es f ⟨⟨evicted,hreports,hcarried,_⟩,hf⟩
    have h := Measured.of_unprepared hreports hcarried
    rw [Recorder.close_of_isFatal _ hf] at h
    exact ⟨evicted,some f,h⟩
  · rintro es prepared ⟨⟨evicted,hreports,hcarried,hprimed⟩,hf⟩
    cases prepared with
    | error f =>
      have h := Measured.of_unprepared hreports hcarried
      rw [Recorder.close_of_not_isFatal _ (hf f rfl)] at h
      refine Session.Ensures.pure ⟨evicted,some f,?_⟩
      rw [List.append_nil,repeats_ofQuery,start_eq]
      exact h
    | ok p =>
      simp only [ofQuery_eq (hprimed p rfl),start_eq]
      refine (ensures_measure q _).mono fun fs result h => ?_
      obtain ⟨ended,h⟩ := Measured.of_prepared hreports hcarried h
      exact ⟨evicted,ended,h⟩

/-- The calls about a query are those of its plan, up to the first execution of it that fails or to
the loss of the connection. Its samples are the durations of the measured executions; a complete
cold measurement has the one sample that its query took right after both evictions. -/
theorem runQuery_carries_plan (o : TrialOptions) (w : Workload) (engine : String) (q : Query)
    (c : Client σ) (s : World σ) :
    ∃ es evicted ended, (runQuery o w engine q c s).2.log.toList = s.log.toList ++ es ∧
      c.Answers s.state es (runQuery o w engine q c s).2.state ∧
      Reports evicted es ∧ Carried (planOf o w engine q evicted) es ended ∧
      (∀ f, (runQuery o w engine q c s).1 = .error f ↔ ended = some f ∧ f.isFatal = true) ∧
      ∀ m, (runQuery o w engine q c s).1 = .ok m →
        m.samples.map Sample.duration = measuredDurations (planOf o w engine q evicted) es ∧
        (m.status = .ok ↔ ended = none) ∧
        (q.mode = .cold → m.status = .ok → ∃ before x,
          es = before ++ [⟨.execute q.sql,.ok x⟩] ∧
          Carried (coldPlan o.evictFiles (evicted (indexName w.table engine))
              (indexName w.table engine) ++ coldPlan o.evictFiles (evicted w.table) w.table)
            before none ∧
          m.samples.map Sample.duration = [x.durationMs]) := by
  obtain ⟨es,hlog,hanswers,evicted,ended,h⟩ := ensures_runQuery o w engine q c s
  refine ⟨es,evicted,ended,hlog,hanswers,h.reports,h.carried,h.error_iff,fun m hm => ?_⟩
  rw [hm] at h
  obtain ⟨samples,notes,hdurations,rfl⟩ := h.conclude
  have hstatus : (if ended = none then Status.ok else .incomplete) = .ok ↔ ended = none := by
    cases ended <;> simp
  refine ⟨hdurations,hstatus,fun hmode hok => ?_⟩
  obtain rfl := hstatus.mp hok
  have hcarried := h.carried
  simp only [planOf,queryPlan,preparationPlan,samplingPlan,hmode] at hcarried hdurations
  obtain ⟨before,last,rfl,hbefore,hlast⟩ := hcarried.split
  obtain ⟨x,rfl⟩ := hlast.measured_ok
  refine ⟨before,x,rfl,hbefore,hdurations.trans ?_⟩
  have hrole := role_preparationPlan o.evictFiles evicted (indexName w.table engine) w.table q
  simp only [preparationPlan,hmode] at hrole
  rw [measuredDurations_append hbefore.length_eq,measuredDurations_eq_nil hrole]
  rfl

end Executor

end IndexTrial
