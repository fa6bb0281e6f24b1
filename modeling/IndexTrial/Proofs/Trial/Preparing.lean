import IndexTrial.Proofs.Trial.Plan

/-!
How a query is brought to its mode. The plan is fixed by the mode and by what the requests to evict
buffers come to; all but the hot query itself may fail.
-/

namespace IndexTrial

/-- Whether an exchange evicted the buffers of a relation. -/
def Exchange.evicts : Exchange → Bool
  | ⟨.evictRelation _,.ok (.evicted _)⟩ => true
  | _ => false

/-- The requests to evict buffers came to what `evicted` says of their relations. -/
def Reports (evicted : String → Bool) (es : List Exchange) : Prop :=
  ∀ e ∈ es, ∀ relation, e.call = .evictRelation relation → e.evicts = evicted relation

/-- A relation is evicted from the buffers, with a checkpoint if that cannot be done, and from the
page cache if that is wanted. -/
def coldPlan (evictFiles evicted : Bool) (relation : String) : List PlannedCall :=
  [⟨.evictRelation relation,.optional⟩] ++ (if evicted then [] else [.optional "CHECKPOINT;"]) ++
    if evictFiles then [⟨.evictFiles relation,.optional⟩] else []

/-- What brings an index and its table to the mode of a query. -/
def preparationPlan (evictFiles : Bool) (evicted : String → Bool) (index table : String)
    (q : Query) : List PlannedCall :=
  match q.mode with
  | .hot => [.required q.sql]
  | .warm => [.optional "CHECKPOINT;",.optional "DISCARD PLANS;"]
  | .cold => coldPlan evictFiles (evicted index) index ++ coldPlan evictFiles (evicted table) table

theorem role_of_mem_coldPlan {evictFiles evicted : Bool} {relation : String} {p : PlannedCall}
    (hp : p ∈ coldPlan evictFiles evicted relation) : p.role = .optional := by
  cases evictFiles <;> cases evicted <;> grind [coldPlan,PlannedCall.optional]

/-- Nothing of a preparation is measured. -/
theorem role_preparationPlan (evictFiles : Bool) (evicted : String → Bool) (index table : String)
    (q : Query) : ∀ p ∈ preparationPlan evictFiles evicted index table q, p.role ≠ .measured := by
  unfold preparationPlan
  cases q.mode with
  | hot => simp [PlannedCall.required]
  | warm => simp [PlannedCall.optional]
  | cold =>
    intro p hp
    rcases List.mem_append.mp hp with hp | hp <;> simp [role_of_mem_coldPlan hp]

/-- Whatever fails, a warm or a cold preparation goes on. -/
theorem optional_preparationPlan (evictFiles : Bool) (evicted : String → Bool)
    (index table : String) {q : Query} (hmode : q.mode ≠ .hot) :
    ∀ p ∈ preparationPlan evictFiles evicted index table q, p.role = .optional := by
  unfold preparationPlan
  cases hm : q.mode with
  | hot => exact absurd hm hmode
  | warm => simp [PlannedCall.optional]
  | cold => exact fun p hp => (List.mem_append.mp hp).elim role_of_mem_coldPlan role_of_mem_coldPlan

namespace Reports

theorem append {evicted : String → Bool} {es fs : List Exchange} (h₁ : Reports evicted es)
    (h₂ : Reports evicted fs) : Reports evicted (es ++ fs) := by
  intro e he
  rcases List.mem_append.mp he with he | he
  · exact h₁ e he
  · exact h₂ e he

/-- A plan without requests to evict has nothing to report. -/
theorem of_carried {ps : List PlannedCall} {es : List Exchange} {ended : Option Fault}
    (h : Carried ps es ended) (hps : ∀ p ∈ ps, ∀ relation, p.call ≠ .evictRelation relation)
    (evicted : String → Bool) : Reports evicted es := by
  intro e he relation hcall
  obtain ⟨p,hp,hpe⟩ := h.call_mem he
  exact absurd (hpe.trans hcall) (hps p hp relation)

end Reports

theorem indexName_ne (table engine : String) : indexName table engine ≠ table := by
  intro h
  have hlen := congrArg String.length h
  have hlead : "idx_".length = 4 := rfl
  simp only [indexName,toString,String.length_append] at hlen
  omega

namespace Caching

variable {σ : Type}

theorem follows_noting (p : Preparation) (note sql : String) :
    (noting p note sql : Session σ Preparation).Follows [.optional sql] := by
  refine (Session.follows_attempt_ask (.execute sql)).bind_nil fun reply => ?_
  cases reply <;> exact Session.follows_pure _

theorem follows_degrade (p : Preparation) :
    (degrade p : Session σ Preparation).Follows [.optional "CHECKPOINT;"] :=
  (Session.follows_attempt_ask (.execute "CHECKPOINT;")).bind_nil fun _ => Session.follows_pure _

theorem follows_evictPages (relation : String) (p : Preparation) :
    (evictPages relation p : Session σ Preparation).Follows [⟨.evictFiles relation,.optional⟩] := by
  refine (Session.follows_attempt_ask (.evictFiles relation)).bind_nil fun reply => ?_
  split <;> exact Session.follows_pure _

theorem reports_single {call : Call} (reply : Except Fault call.Answer) :
    Reports (fun _ => (Exchange.mk call reply).evicts) [⟨call,reply⟩] := by
  intro e he relation _
  rw [List.mem_singleton.mp he]

theorem ensures_evictBuffers (relation : String) :
    (evictBuffers relation : Session σ Preparation).Ensures fun es r =>
      ∃ evicted, Reports (fun _ => evicted) es ∧
        Carried ([⟨.evictRelation relation,.optional⟩] ++
          if evicted then [] else [.optional "CHECKPOINT;"]) es (faultOf r) := by
  refine Session.Ensures.bind
    ((Session.ensures_ask _).handed.and (Session.follows_attempt_ask _)) ?_ ?_
  · rintro es f ⟨⟨rfl,_⟩,hcarried⟩
    exact ⟨_,reports_single (.error f),hcarried.extend _⟩
  · rintro es reply ⟨⟨rfl,_⟩,hcarried⟩
    have hdegrade : (Exchange.mk (.evictRelation relation) reply).evicts = false →
        (degrade {} : Session σ Preparation).Ensures fun fs r =>
          ∃ evicted, Reports (fun _ => evicted) ([⟨.evictRelation relation,reply⟩] ++ fs) ∧
            Carried ([⟨.evictRelation relation,.optional⟩] ++
              if evicted then [] else [.optional "CHECKPOINT;"])
              ([⟨.evictRelation relation,reply⟩] ++ fs) (faultOf r) := by
      intro hevicts
      refine (follows_degrade {}).mono fun fs r hfs => ⟨_,(reports_single reply).append ?_,?_⟩
      · exact .of_carried hfs (by simp [PlannedCall.optional]) _
      · simpa only [hevicts,Bool.false_eq_true,if_false] using hcarried.append hfs
    split
    · exact Session.Ensures.pure ⟨true,reports_single _,by simpa using hcarried⟩
    · rename_i hreply
      refine hdegrade ?_
      cases reply with
      | error f => rfl
      | ok eviction =>
        cases eviction with
        | evicted n => exact absurd rfl (hreply n)
        | unsupported reason => rfl

theorem ensures_prepareCold (evictFiles : Bool) (relation : String) :
    (prepareCold evictFiles relation : Session σ Preparation).Ensures fun es r =>
      ∃ evicted, Reports (fun _ => evicted) es ∧
        Carried (coldPlan evictFiles evicted relation) es (faultOf r) := by
  refine Session.Ensures.bind (ensures_evictBuffers relation) ?_ ?_
  · rintro es f ⟨evicted,hreports,hcarried⟩
    exact ⟨evicted,hreports,hcarried.extend _⟩
  · rintro es p ⟨evicted,hreports,hcarried⟩
    have hpages : (if evictFiles then evictPages relation p
        else pure (p.note Preparation.filesNotEvicted) : Session σ Preparation).Follows
        (if evictFiles then [⟨.evictFiles relation,.optional⟩] else []) := by
      cases evictFiles with
      | true => exact follows_evictPages relation p
      | false => exact Session.follows_pure _
    refine hpages.mono fun fs r hfs => ⟨evicted,hreports.append ?_,hcarried.append hfs⟩
    exact .of_carried hfs (by cases evictFiles <;> simp) _

theorem call_of_mem_coldPlan {evictFiles evicted : Bool} {relation other : String}
    {p : PlannedCall} (hp : p ∈ coldPlan evictFiles evicted relation)
    (hcall : p.call = .evictRelation other) : other = relation := by
  cases evictFiles <;> cases evicted <;> grind [coldPlan,PlannedCall.optional]

theorem reports_cold {evictFiles evicted : Bool} {relation : String} {es : List Exchange}
    {ended : Option Fault} (hcarried : Carried (coldPlan evictFiles evicted relation) es ended)
    (hreports : Reports (fun _ => evicted) es) {all : String → Bool} (hall : all relation = evicted) :
    Reports all es := by
  intro e he other hcall
  obtain ⟨p,hp,hpe⟩ := hcarried.call_mem he
  rw [call_of_mem_coldPlan hp (hpe.trans hcall),hall]
  exact hreports e he other hcall

theorem ensures_noting (p : Preparation) (note sql : String) :
    (noting p note sql : Session σ Preparation).Ensures fun es r =>
      Carried [.optional sql] es (faultOf r) ∧ ∀ p', r = .ok p' → p'.primed = p.primed := by
  refine (follows_noting p note sql).and (Session.Ensures.bind
    (Session.ensures_ask _).handed (fun es f h p' hp' => by cases hp') ?_)
  intro es reply h
  cases reply with
  | ok x => exact Session.Ensures.pure fun p' hp' => by cases hp'; rfl
  | error f => exact Session.Ensures.pure fun p' hp' => by cases hp'; rfl

/-- The query itself runs, so that the preparation is primed. -/
theorem ensures_prepareHot (evictFiles : Bool) (relation sql : String) :
    (prepare evictFiles relation .hot sql : Session σ Preparation).Ensures fun es r =>
      Carried [.required sql] es (faultOf r) ∧ ∀ p, r = .ok p → p.primed = true := by
  refine Session.Ensures.bind (Session.follows_execute sql) ?_ ?_
  · exact fun es f h => ⟨h,fun p hp => by cases hp⟩
  · exact fun es x h => Session.Ensures.pure ⟨by simpa using h,fun p hp => by cases hp; rfl⟩

theorem ensures_prepareWarm (evictFiles : Bool) (relation sql : String) :
    (prepare evictFiles relation .warm sql : Session σ Preparation).Ensures fun es r =>
      Carried [.optional "CHECKPOINT;",.optional "DISCARD PLANS;"] es (faultOf r) ∧
        ∀ p, r = .ok p → p.primed = false := by
  refine Session.Ensures.bind (ensures_noting {} _ "CHECKPOINT;") ?_ ?_
  · rintro es f ⟨hcarried,_⟩
    exact ⟨hcarried.extend [.optional "DISCARD PLANS;"],fun p hp => by cases hp⟩
  · rintro es p ⟨hcarried,hprimed⟩
    refine (ensures_noting p _ "DISCARD PLANS;").mono fun fs r h => ⟨hcarried.append h.1,?_⟩
    exact fun p' hp' => (h.2 p' hp').trans (hprimed p rfl)

theorem ensures_prepareQuery (evictFiles : Bool) {index table : String} (hne : index ≠ table)
    (q : Query) : (prepareQuery evictFiles index table q : Session σ Preparation).Ensures fun es r =>
      ∃ evicted, Reports evicted es ∧
        Carried (preparationPlan evictFiles evicted index table q) es (faultOf r) ∧
        ∀ p, r = .ok p → q.mode ≠ .cold → p.primed = decide (q.mode = .hot) := by
  unfold prepareQuery preparationPlan
  cases q.mode with
  | hot =>
    simp only [reduceCtorEq,if_false,Session.bind_pure_eq]
    refine (ensures_prepareHot evictFiles index q.sql).mono fun es r h => ?_
    have hreports := Reports.of_carried h.1 (by simp [PlannedCall.required]) fun _ => false
    exact ⟨_,hreports,h.1,fun p hp _ => h.2 p hp⟩
  | warm =>
    simp only [reduceCtorEq,if_false,Session.bind_pure_eq]
    refine (ensures_prepareWarm evictFiles index q.sql).mono fun es r h => ?_
    have hreports := Reports.of_carried h.1 (by simp [PlannedCall.optional]) fun _ => false
    exact ⟨_,hreports,h.1,fun p hp _ => h.2 p hp⟩
  | cold =>
    simp only [prepare,if_true]
    refine Session.Ensures.bind (ensures_prepareCold evictFiles index) ?_ ?_
    · rintro es f ⟨a,hreports,hcarried⟩
      exact ⟨fun _ => a,hreports,hcarried.extend _,by simp⟩
    · rintro es p ⟨a,hreports,hcarried⟩
      refine Session.Ensures.bind (ensures_prepareCold evictFiles table) ?_ ?_
      · rintro fs f ⟨b,hreports',hcarried'⟩
        refine ⟨fun relation => if relation = index then a else b,?_,?_,by simp⟩
        · exact (reports_cold hcarried hreports (by simp)).append
            (reports_cold hcarried' hreports' (by simp [hne.symm]))
        · simpa [hne.symm] using hcarried.append hcarried'
      · rintro fs heap ⟨b,hreports',hcarried'⟩
        refine Session.Ensures.pure ⟨fun relation => if relation = index then a else b,?_,?_,?_⟩
        · rw [List.append_nil]
          exact (reports_cold hcarried hreports (by simp)).append
            (reports_cold hcarried' hreports' (by simp [hne.symm]))
        · simpa [hne.symm] using hcarried.append hcarried'
        · exact fun _ _ hmode => absurd rfl hmode

end Caching

end IndexTrial
