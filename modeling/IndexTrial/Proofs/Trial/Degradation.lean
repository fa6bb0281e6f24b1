import IndexTrial.Proofs.Measure.Recording
import IndexTrial.Proofs.Trial.Loading
import IndexTrial.Proofs.Trial.Measuring

/-!
A degraded preparation is noted, and no other. Each request of a preparation leaves its note just if
it was declined; the notes of the two relations of a cold query are merged without repetition, and
sampling adds none.
-/

namespace IndexTrial

/-- The call was not granted, though the connection is still there. -/
inductive Exchange.Declined : Exchange → Prop
  | unsupportedBuffers {relation reason : String} :
    Declined ⟨.evictRelation relation,.ok (.unsupported reason)⟩
  | unsupportedFiles {relation reason : String} :
    Declined ⟨.evictFiles relation,.ok (.unsupported reason)⟩
  | failed {call : Call} {f : Fault} (hf : f.isFatal = false) : Declined ⟨call,.error f⟩

/-- The call was made and declined. -/
def Declines (es : List Exchange) (call : Call) : Prop := ∃ e ∈ es, e.call = call ∧ e.Declined

theorem declines_append {es fs : List Exchange} {call : Call} :
    Declines (es ++ fs) call ↔ Declines es call ∨ Declines fs call := by
  simp only [Declines,List.mem_append,or_and_right,exists_or]

theorem declines_single {call : Call} {reply : Except Fault call.Answer} :
    Declines [⟨call,reply⟩] call ↔ (Exchange.mk call reply).Declined := by
  simp [Declines]

theorem not_declines {es : List Exchange} {call : Call} (h : call ∉ es.map Exchange.call) :
    ¬Declines es call := by
  rintro ⟨e,he,rfl,-⟩
  exact h (List.mem_map_of_mem he)

theorem not_declined_executed (sql : String) (x : Execution) :
    ¬(Exchange.mk (.execute sql) (.ok x)).Declined := by
  rintro ⟨⟩

/-- The new notes are the old ones and those that there is a reason for, none of them twice. -/
structure Adds (old new : List String) (reason : String → Prop) : Prop where
  nodup : old.Nodup → new.Nodup
  mem_iff : ∀ n, n ∈ new ↔ n ∈ old ∨ reason n

namespace Adds

variable {old mid new : List String} {reason reason' : String → Prop}

theorem note (old : List String) (n : String) : Adds old (addNote old n) (· = n) :=
  ⟨addNote_nodup n,fun _ => mem_addNote⟩

theorem nothing (old : List String) : Adds old old (fun _ => False) :=
  ⟨id,fun _ => (or_iff_left id).symm⟩

theorem congr (h : Adds old new reason) (hreason : ∀ n, reason n ↔ reason' n) :
    Adds old new reason' :=
  ⟨h.nodup,fun n => (h.mem_iff n).trans (or_congr_right (hreason n))⟩

theorem trans (h : Adds old mid reason) (h' : Adds mid new reason') :
    Adds old new fun n => reason n ∨ reason' n := by
  refine ⟨fun hold => h'.nodup (h.nodup hold),fun n => ?_⟩
  rw [h'.mem_iff,h.mem_iff,or_assoc]

theorem merge (h : Adds [] new reason) (old : List String) : Adds old (addNotes old new) reason := by
  refine ⟨addNotes_nodup new,fun n => ?_⟩
  rw [mem_addNotes,h.mem_iff]
  simp

/-- A note is there just if the call was declined. -/
theorem of_declined {es : List Exchange} {call : Call} {n : String} (hdeclined : Declines es call) :
    Adds old (addNote old n) fun m => m = n ∧ Declines es call :=
  (note old n).congr fun _ => (and_iff_left hdeclined).symm

theorem of_granted {es : List Exchange} {call : Call} (n : String) (hgranted : ¬Declines es call) :
    Adds old old fun m => m = n ∧ Declines es call :=
  (nothing old).congr fun _ => iff_of_false id fun h => hgranted h.2

end Adds

namespace Caching

variable {σ : Type}

theorem yields_noting (p : Preparation) (n sql : String) :
    (noting p n sql : Session σ Preparation).Yields fun es p' =>
      es.map Exchange.call = [.execute sql] ∧
        Adds p.annotations p'.annotations fun m => m = n ∧ Declines es (.execute sql) := by
  refine Session.Yields.bind (Session.yields_attempt_ask (.execute sql)) ?_
  rintro _ reply ⟨rfl,hf⟩
  cases reply with
  | ok x =>
    refine Session.Yields.pure ⟨rfl,.of_granted n ?_⟩
    rw [List.append_nil,declines_single]
    exact not_declined_executed sql x
  | error f =>
    refine Session.Yields.pure ⟨rfl,.of_declined ?_⟩
    rw [List.append_nil,declines_single]
    exact .failed (hf f rfl)

theorem yields_degrade (p : Preparation) :
    (degrade p : Session σ Preparation).Yields fun es p' =>
      es.map Exchange.call = [.execute "CHECKPOINT;"] ∧
        p'.annotations = addNote p.annotations Preparation.degradedEviction := by
  refine Session.Yields.bind (Session.yields_attempt_ask (.execute "CHECKPOINT;")) ?_
  rintro _ reply ⟨rfl,-⟩
  exact Session.Yields.pure ⟨rfl,rfl⟩

theorem yields_evictBuffers (relation : String) :
    (evictBuffers relation : Session σ Preparation).Yields fun es p =>
      (∀ call ∈ es.map Exchange.call, call = .evictRelation relation ∨ call = .execute "CHECKPOINT;") ∧
        Adds [] p.annotations fun m =>
          m = Preparation.degradedEviction ∧ Declines es (.evictRelation relation) := by
  refine Session.Yields.bind (Session.yields_attempt_ask (.evictRelation relation)) ?_
  rintro _ reply ⟨rfl,hf⟩
  have hdegrade : (Exchange.mk (.evictRelation relation) reply).Declined →
      (degrade {} : Session σ Preparation).Yields fun fs p =>
        (∀ call ∈ ([Exchange.mk (.evictRelation relation) reply] ++ fs).map Exchange.call,
          call = .evictRelation relation ∨ call = .execute "CHECKPOINT;") ∧
        Adds [] p.annotations fun m => m = Preparation.degradedEviction ∧
          Declines ([Exchange.mk (.evictRelation relation) reply] ++ fs)
            (.evictRelation relation) := by
    intro hdeclined
    refine (yields_degrade {}).mono fun fs r h p hp => ?_
    obtain ⟨hcalls,hnotes⟩ := h p hp
    refine ⟨by simp [hcalls],?_⟩
    rw [hnotes]
    exact .of_declined (declines_append.mpr (.inl (declines_single.mpr hdeclined)))
  split
  · refine Session.Yields.pure ⟨by simp,.of_granted _ ?_⟩
    rw [List.append_nil,declines_single]
    rintro ⟨⟩
  · rename_i hreply
    refine hdegrade ?_
    cases reply with
    | error f => exact .failed (hf f rfl)
    | ok eviction =>
      cases eviction with
      | evicted n => exact absurd rfl (hreply n)
      | unsupported reason => exact .unsupportedBuffers

theorem yields_evictPages (relation : String) (p : Preparation) :
    (evictPages relation p : Session σ Preparation).Yields fun es p' =>
      es.map Exchange.call = [.evictFiles relation] ∧
        Adds p.annotations p'.annotations fun m =>
          m = Preparation.filesNotEvicted ∧ Declines es (.evictFiles relation) := by
  refine Session.Yields.bind (Session.yields_attempt_ask (.evictFiles relation)) ?_
  rintro _ reply ⟨rfl,hf⟩
  split
  · refine Session.Yields.pure ⟨rfl,.of_granted _ ?_⟩
    rw [List.append_nil,declines_single]
    rintro ⟨⟩
  · rename_i hreply
    refine Session.Yields.pure ⟨rfl,.of_declined ?_⟩
    rw [List.append_nil,declines_single]
    cases reply with
    | error f => exact .failed (hf f rfl)
    | ok eviction =>
      cases eviction with
      | evicted n => exact absurd rfl (hreply n)
      | unsupported reason => exact .unsupportedFiles

/-- What there is to note of one relation that is brought out of the caches. -/
def coldReason (evictFiles : Bool) (relation : String) (es : List Exchange) (n : String) : Prop :=
  (n = Preparation.degradedEviction ∧ Declines es (.evictRelation relation)) ∨
    (n = Preparation.filesNotEvicted ∧ (evictFiles = false ∨ Declines es (.evictFiles relation)))

theorem yields_prepareCold (evictFiles : Bool) (relation : String) :
    (prepareCold evictFiles relation : Session σ Preparation).Yields fun es p =>
      (∀ call ∈ es.map Exchange.call, call = .evictRelation relation ∨
        call = .execute "CHECKPOINT;" ∨ call = .evictFiles relation) ∧
        Adds [] p.annotations (coldReason evictFiles relation es) := by
  refine Session.Yields.bind (yields_evictBuffers relation) fun es p h => ?_
  obtain ⟨hcalls,hnotes⟩ := h
  have hbuffers : ¬Declines es (.evictFiles relation) :=
    not_declines fun h => by simpa using hcalls _ h
  cases evictFiles with
  | false =>
    refine Session.Yields.pure ⟨fun call hcall => ?_,(hnotes.trans (.note _ _)).congr fun n => ?_⟩
    · rw [List.append_nil] at hcall
      exact (hcalls call hcall).imp_right .inl
    · simp [coldReason]
  | true =>
    refine (yields_evictPages relation p).mono fun fs r h p' hp' => ?_
    obtain ⟨hpage,hnotes'⟩ := h p' hp'
    have hpages : ¬Declines fs (.evictRelation relation) :=
      not_declines fun h => by simp [hpage] at h
    refine ⟨fun call hcall => ?_,(hnotes.trans hnotes').congr fun n => ?_⟩
    · rw [List.map_append,hpage,List.mem_append,List.mem_singleton] at hcall
      rcases hcall with hcall | rfl
      · exact (hcalls call hcall).imp_right .inl
      · exact .inr (.inr rfl)
    · simp [coldReason,declines_append,hbuffers,hpages]

/-- What there is to note of a query's preparation. -/
def degradation (evictFiles : Bool) (index table : String) (q : Query) (es : List Exchange)
    (n : String) : Prop :=
  match q.mode with
  | .hot => False
  | .warm => n = Preparation.warmIncomplete ∧
    (Declines es (.execute "CHECKPOINT;") ∨ Declines es (.execute "DISCARD PLANS;"))
  | .cold => coldReason evictFiles index es n ∨ coldReason evictFiles table es n

section Degradation

variable {evictFiles : Bool} {index table : String} {q : Query} {es : List Exchange}

theorem degradation_degradedEviction :
    degradation evictFiles index table q es Preparation.degradedEviction ↔ q.mode = .cold ∧
      (Declines es (.evictRelation index) ∨ Declines es (.evictRelation table)) := by
  have hfiles : Preparation.degradedEviction ≠ Preparation.filesNotEvicted := by decide
  have hwarm : Preparation.degradedEviction ≠ Preparation.warmIncomplete := by decide
  unfold degradation
  cases q.mode <;> simp [coldReason,hfiles,hwarm]

theorem degradation_filesNotEvicted :
    degradation evictFiles index table q es Preparation.filesNotEvicted ↔ q.mode = .cold ∧
      (evictFiles = false ∨ Declines es (.evictFiles index) ∨ Declines es (.evictFiles table)) := by
  have hbuffers : Preparation.filesNotEvicted ≠ Preparation.degradedEviction := by decide
  have hwarm : Preparation.filesNotEvicted ≠ Preparation.warmIncomplete := by decide
  unfold degradation
  cases q.mode <;> simp [coldReason,hbuffers,hwarm,← or_or_distrib_left]

theorem degradation_warmIncomplete :
    degradation evictFiles index table q es Preparation.warmIncomplete ↔ q.mode = .warm ∧
      (Declines es (.execute "CHECKPOINT;") ∨ Declines es (.execute "DISCARD PLANS;")) := by
  have hbuffers : Preparation.warmIncomplete ≠ Preparation.degradedEviction := by decide
  have hfiles : Preparation.warmIncomplete ≠ Preparation.filesNotEvicted := by decide
  unfold degradation
  cases q.mode <;> simp [coldReason,hbuffers,hfiles]

theorem degradation_cases {n : String} (h : degradation evictFiles index table q es n) :
    n = Preparation.degradedEviction ∨ n = Preparation.filesNotEvicted ∨
      n = Preparation.warmIncomplete := by
  unfold degradation coldReason at h
  grind

end Degradation

theorem yields_prepareWarm (evictFiles : Bool) (relation sql : String) :
    (prepare evictFiles relation .warm sql : Session σ Preparation).Yields fun es p =>
      Adds [] p.annotations fun n => n = Preparation.warmIncomplete ∧
        (Declines es (.execute "CHECKPOINT;") ∨ Declines es (.execute "DISCARD PLANS;")) := by
  refine Session.Yields.bind (yields_noting {} _ "CHECKPOINT;") fun es p h => ?_
  refine (yields_noting p _ "DISCARD PLANS;").mono fun fs r h' p' hp' => ?_
  obtain ⟨hcalls,hnotes⟩ := h
  obtain ⟨hcalls',hnotes'⟩ := h' p' hp'
  have hlater : ¬Declines es (.execute "DISCARD PLANS;") :=
    not_declines fun h => by simp [hcalls] at h
  have hearlier : ¬Declines fs (.execute "CHECKPOINT;") :=
    not_declines fun h => by simp [hcalls'] at h
  refine (hnotes.trans hnotes').congr fun n => ?_
  simp [declines_append,hlater,hearlier,and_or_left]

theorem yields_prepareQuery (evictFiles : Bool) {index table : String} (hne : index ≠ table)
    (q : Query) : (prepareQuery evictFiles index table q : Session σ Preparation).Yields fun es p =>
      Adds [] p.annotations (degradation evictFiles index table q es) := by
  unfold prepareQuery degradation
  cases q.mode with
  | hot =>
    simp only [reduceCtorEq,if_false,Session.bind_pure_eq]
    refine Session.Yields.bind (Session.Ensures.yields (Session.ensures_ask (.execute q.sql))
      fun es _ h => h) fun es _ _ => ?_
    exact Session.Yields.pure (.nothing [])
  | warm =>
    simp only [reduceCtorEq,if_false,Session.bind_pure_eq]
    exact yields_prepareWarm evictFiles index q.sql
  | cold =>
    simp only [prepare,if_true]
    refine Session.Yields.bind (yields_prepareCold evictFiles index) fun es p h => ?_
    refine Session.Yields.bind (yields_prepareCold evictFiles table) fun fs heap h' => ?_
    obtain ⟨hcalls,hnotes⟩ := h
    obtain ⟨hcalls',hnotes'⟩ := h'
    -- The requests about one relation are none about the other.
    have hindex : ∀ n, coldReason evictFiles index (es ++ fs) n ↔ coldReason evictFiles index es n := by
      have hbuffers : ¬Declines fs (.evictRelation index) :=
        not_declines fun h => by simpa [hne] using hcalls' _ h
      have hpages : ¬Declines fs (.evictFiles index) :=
        not_declines fun h => by simpa [hne] using hcalls' _ h
      simp [coldReason,declines_append,hbuffers,hpages]
    have htable : ∀ n, coldReason evictFiles table (es ++ fs) n ↔ coldReason evictFiles table fs n := by
      have hbuffers : ¬Declines es (.evictRelation table) :=
        not_declines fun h => by simpa [hne.symm] using hcalls _ h
      have hpages : ¬Declines es (.evictFiles table) :=
        not_declines fun h => by simpa [hne.symm] using hcalls _ h
      simp [coldReason,declines_append,hbuffers,hpages]
    refine Session.Yields.pure ((hnotes.trans (hnotes'.merge _)).congr fun n => ?_)
    rw [List.append_nil,hindex,htable]

/-- Only a lost connection fails a warm or a cold preparation. -/
theorem isFatal_of_prepareQuery {evictFiles : Bool} {index table : String} (hne : index ≠ table)
    {q : Query} (hmode : q.mode ≠ .hot) {c : Client σ} {s : World σ} {f : Fault}
    (h : (prepareQuery evictFiles index table q c s).1 = .error f) : f.isFatal = true := by
  obtain ⟨es,-,-,evicted,-,hcarried,-⟩ := ensures_prepareQuery evictFiles hne q c s
  rw [h] at hcarried
  exact hcarried.isFatal_of_optional (optional_preparationPlan _ _ _ _ hmode) rfl

end Caching

namespace Concludes

variable {r : Recorder} {es : List Exchange} {m : Measurement}

theorem annotations {ps : List PlannedCall} {n : Nat} (h : Concludes ps r n es (.ok m)) :
    m.annotations = r.annotations := by
  obtain ⟨ended,samples,-,-,-,hresult⟩ := h
  rcases Recorder.close_eq_ok hresult.symm with ⟨-,rfl⟩ | ⟨f,-,-,rfl⟩
  · unfold Recorder.finish
    split <;> rfl
  · rfl

/-- What leaves samples missing is an execution of the query that failed. -/
theorem incomplete {q : Query} (h : Concludes (samplingPlan q) r q.sampleCount es (.ok m))
    (hexpected : r.expected = q.sampleCount) (hm : m.status = .incomplete) :
    ∃ before f, es = before ++ [⟨.execute q.sql,.error f⟩] ∧ f.isFatal = false ∧
      m.error = some f.message := by
  obtain ⟨ended,samples,hcarried,-,hlength,hresult⟩ := h
  rcases Recorder.close_eq_ok hresult.symm with ⟨rfl,rfl⟩ | ⟨f,rfl,hf,rfl⟩
  · have hfull : r.expected ≤ (r.samples ++ samples).length := by
      rw [hexpected,← hlength rfl,List.length_append]
      exact Nat.le_add_left _ _
    rw [Recorder.finish_full hfull] at hm
    cases hm
  · obtain ⟨before,⟨call,reply⟩,rfl,hfault⟩ := hcarried.last
    obtain ⟨p,hp,hcall⟩ := hcarried.call_mem (List.mem_append_right before List.mem_cons_self)
    obtain rfl : call = .execute q.sql := hcall.symm.trans (call_of_mem_samplingPlan hp)
    cases reply with
    | ok x => cases hfault
    | error g =>
      obtain rfl : g = f := Option.some.inj hfault
      exact ⟨before,g,rfl,hf,rfl⟩

end Concludes

namespace Executor

variable {σ : Type}

/-- What a query's measurement notes is what there is to note of its preparation, and a measurement
that a preparation did not fail is incomplete only for a failed execution of the query. -/
theorem runQuery_adds (o : TrialOptions) (w : Workload) (engine : String) (q : Query)
    (c : Client σ) (s : World σ) :
    ∃ prep sampled,
      (Caching.prepareQuery o.evictFiles (indexName w.table engine) w.table q c s).2.log.toList =
        s.log.toList ++ prep ∧
      (runQuery o w engine q c s).2.log.toList = s.log.toList ++ (prep ++ sampled) ∧
      c.Answers s.state (prep ++ sampled) (runQuery o w engine q c s).2.state ∧
      ∀ m, (runQuery o w engine q c s).1 = .ok m →
        Adds [] m.annotations
          (Caching.degradation o.evictFiles (indexName w.table engine) w.table q prep) ∧
        (q.mode ≠ .hot → m.status = .incomplete → ∃ before f,
          sampled = before ++ [⟨.execute q.sql,.error f⟩] ∧ f.isFatal = false ∧
          m.error = some f.message) := by
  have hne := indexName_ne w.table engine
  obtain ⟨prep,hlog,hanswers,hprepared,hnotes⟩ :=
    ((Caching.ensures_prepareQuery o.evictFiles hne q).and
      (Caching.yields_prepareQuery o.evictFiles hne q)) c s
  obtain ⟨evicted,-,hcarried,hprimed⟩ := hprepared
  unfold runQuery
  simp only [Session.bind_run,Session.attempt]
  cases hr : Caching.prepareQuery o.evictFiles (indexName w.table engine) w.table q c s with
  | mk prepared s₁ =>
    rw [hr] at hlog hanswers hnotes hcarried hprimed
    cases prepared with
    | ok p =>
      simp only [ofQuery_eq (hprimed p rfl),start_eq]
      obtain ⟨sampled,hlog',hanswers',hsampled⟩ :=
        ensures_measure q ((recorderOf w engine q [] []).annotate p.annotations) c s₁
      refine ⟨prep,sampled,hlog,?_,hanswers.append hanswers',fun m hm => ⟨?_,fun _ => ?_⟩⟩
      · rw [hlog',hlog,List.append_assoc]
      · rw [hm] at hsampled
        rw [hsampled.annotations]
        exact (hnotes p rfl).merge []
      · rw [hm] at hsampled
        exact hsampled.incomplete rfl
    | error f =>
      cases hf : f.isFatal with
      | true =>
        simp only [hf,if_true]
        exact ⟨prep,[],hlog,by simpa using hlog,by simpa using hanswers,fun m hm => by cases hm⟩
      | false =>
        -- Only the hot query itself can fail so, and then nothing is noted.
        have hmode : q.mode = .hot := Decidable.byContradiction fun hmode => by
          have h := hcarried.isFatal_of_optional (optional_preparationPlan _ _ _ _ hmode) rfl
          rw [hf] at h
          cases h
        simp only [hf,Bool.false_eq_true,if_false,Session.pure_run]
        refine ⟨prep,[],hlog,by simpa using hlog,by simpa using hanswers,fun m hm => ⟨?_,?_⟩⟩
        · cases hm
          refine (Adds.nothing []).congr fun n => ?_
          simp [Caching.degradation,hmode]
        · exact fun h => absurd hmode h

/-- The notes of a measurement are those of its preparation: each of the three is there just if a
request that it stands for was declined, or if the page cache was to be left alone. Neither a warm
nor a cold preparation leaves a measurement incomplete. -/
theorem runQuery_notes_degradation (o : TrialOptions) (w : Workload) (engine : String) (q : Query)
    (c : Client σ) (s : World σ) :
    ∃ prep sampled,
      (Caching.prepareQuery o.evictFiles (indexName w.table engine) w.table q c s).2.log.toList =
        s.log.toList ++ prep ∧
      (runQuery o w engine q c s).2.log.toList = s.log.toList ++ (prep ++ sampled) ∧
      c.Answers s.state (prep ++ sampled) (runQuery o w engine q c s).2.state ∧
      (q.mode ≠ .hot → ∀ f, (Caching.prepareQuery o.evictFiles (indexName w.table engine) w.table q
        c s).1 = .error f → f.isFatal = true) ∧
      (∀ f, (runQuery o w engine q c s).1 = .error f → f.isFatal = true) ∧
      ∀ m, (runQuery o w engine q c s).1 = .ok m →
        m.annotations.Nodup ∧
        (Preparation.degradedEviction ∈ m.annotations ↔ q.mode = .cold ∧
          (Declines prep (.evictRelation (indexName w.table engine)) ∨
            Declines prep (.evictRelation w.table))) ∧
        (Preparation.filesNotEvicted ∈ m.annotations ↔ q.mode = .cold ∧
          (o.evictFiles = false ∨ Declines prep (.evictFiles (indexName w.table engine)) ∨
            Declines prep (.evictFiles w.table))) ∧
        (Preparation.warmIncomplete ∈ m.annotations ↔ q.mode = .warm ∧
          (Declines prep (.execute "CHECKPOINT;") ∨ Declines prep (.execute "DISCARD PLANS;"))) ∧
        (∀ n ∈ m.annotations, n = Preparation.degradedEviction ∨
          n = Preparation.filesNotEvicted ∨ n = Preparation.warmIncomplete) ∧
        (q.mode = .hot → m.annotations = []) ∧
        (q.mode ≠ .hot → m.status = .incomplete → ∃ before f,
          sampled = before ++ [⟨.execute q.sql,.error f⟩] ∧ f.isFatal = false ∧
          m.error = some f.message) := by
  obtain ⟨prep,sampled,hlog,hall,hanswers,hresult⟩ := runQuery_adds o w engine q c s
  obtain ⟨es,-,-,evicted,ended,hmeasured⟩ := ensures_runQuery o w engine q c s
  refine ⟨prep,sampled,hlog,hall,hanswers,fun hmode f =>
    Caching.isFatal_of_prepareQuery (indexName_ne w.table engine) hmode,fun f hf =>
    ((hmeasured.error_iff f).mp hf).2,fun m hm => ?_⟩
  obtain ⟨hnotes,hincomplete⟩ := hresult m hm
  have hmem : ∀ n, n ∈ m.annotations ↔
      Caching.degradation o.evictFiles (indexName w.table engine) w.table q prep n := by
    simpa using hnotes.mem_iff
  refine ⟨hnotes.nodup List.nodup_nil,?_,?_,?_,fun n hn => ?_,fun hmode => ?_,hincomplete⟩
  · rw [hmem,Caching.degradation_degradedEviction]
  · rw [hmem,Caching.degradation_filesNotEvicted]
  · rw [hmem,Caching.degradation_warmIncomplete]
  · exact Caching.degradation_cases ((hmem n).mp hn)
  · refine List.eq_nil_iff_forall_not_mem.mpr fun n hn => ?_
    have h := (hmem n).mp hn
    rwa [Caching.degradation,hmode] at h

def coldQuery : Query := { id := "cold", sql := "SELECT 2;", shape := .custom 2, mode := .cold }

/-- It cannot evict the buffers of the index, and later the query times out. -/
def reluctantClient : Client Nat :=
  .failingAt [(0,.queryFailed "no such function"),(5,.queryTimeout "SELECT 2;" 5)]

theorem runQuery_notes_degradation_hotAndCold :
    ∃ m prep before f,
      (runQuery {} .hotAndCold "smol" coldQuery reluctantClient ⟨0,#[]⟩).1 = .ok m ∧
      (runQuery {} .hotAndCold "smol" coldQuery reluctantClient ⟨0,#[]⟩).2.log.toList =
        prep ++ (before ++ [⟨.execute coldQuery.sql,.error f⟩]) ∧
      m.annotations = ["degraded-eviction"] ∧ m.error = some f.message ∧
      (Declines prep (.evictRelation "idx_t_smol") ∨ Declines prep (.evictRelation "t")) := by
  obtain ⟨m,hm,hshown⟩ : ∃ m,
      (runQuery {} .hotAndCold "smol" coldQuery reluctantClient ⟨0,#[]⟩).1 = .ok m ∧
      (m.annotations,m.status) = (["degraded-eviction"],.incomplete) :=
    ok_of_toOption (f := fun m : Measurement => (m.annotations,m.status)) (by decide)
  obtain ⟨hannotations,hstatus⟩ := Prod.mk.inj hshown
  obtain ⟨prep,sampled,-,hlog,-,-,-,hresult⟩ :=
    runQuery_notes_degradation {} .hotAndCold "smol" coldQuery reluctantClient ⟨0,#[]⟩
  obtain ⟨-,hbuffers,-,-,-,-,hincomplete⟩ := hresult m hm
  obtain ⟨before,f,rfl,-,herror⟩ := hincomplete (by decide) hstatus
  refine ⟨m,prep,before,f,hm,by simpa using hlog,hannotations,herror,?_⟩
  exact (hbuffers.mp (by rw [hannotations]; decide)).2

end Executor

end IndexTrial
