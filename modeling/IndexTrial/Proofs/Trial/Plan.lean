import IndexTrial.Proofs.Session.Exchanges
import IndexTrial.Trial.Executor

/-!
Plans: sequences of calls, each of which may fail, must succeed, or must succeed and is measured.
`Carried ps es ended` says that the exchanges `es` are the calls of the plan `ps` in order, all of
them or cut right after the first one that ends the plan.
-/

namespace IndexTrial

/-- What a call is worth to its plan. A lost connection ends any plan. -/
inductive Role
  /-- A failure does not matter. -/
  | optional
  /-- A failure ends the plan. -/
  | required
  /-- A failure ends the plan, and the duration of a success counts. -/
  | measured
  deriving DecidableEq, Repr

structure PlannedCall where
  call : Call
  role : Role
  deriving DecidableEq, Repr

def PlannedCall.optional (sql : String) : PlannedCall := ⟨.execute sql,.optional⟩
def PlannedCall.required (sql : String) : PlannedCall := ⟨.execute sql,.required⟩
def PlannedCall.measured (sql : String) : PlannedCall := ⟨.execute sql,.measured⟩

/-- The fault by which an exchange ends the plan. -/
def PlannedCall.ending (p : PlannedCall) (e : Exchange) : Option Fault :=
  e.fault?.filter fun f => f.isFatal || decide (p.role ≠ .optional)

inductive Carried : List PlannedCall → List Exchange → Option Fault → Prop
  | done : Carried [] [] none
  | next {p : PlannedCall} {ps : List PlannedCall} {e : Exchange} {es : List Exchange}
      {ended : Option Fault} (hcall : e.call = p.call) (hgoes : p.ending e = none)
      (hrest : Carried ps es ended) : Carried (p :: ps) (e :: es) ended
  | cut {p : PlannedCall} {ps : List PlannedCall} {e : Exchange} {f : Fault}
      (hcall : e.call = p.call) (hends : p.ending e = some f) : Carried (p :: ps) [e] (some f)

/-- The duration that an executed statement was answered with. -/
def Exchange.duration? : Exchange → Option Binary64
  | ⟨.execute _,.ok x⟩ => some x.durationMs
  | _ => none

/-- The durations of the measured calls that succeeded, in order. -/
def measuredDurations : List PlannedCall → List Exchange → List Binary64
  | p :: ps, e :: es =>
    (if p.role = .measured then e.duration?.toList else []) ++ measuredDurations ps es
  | _, _ => []

namespace Carried

theorem append {ps qs : List PlannedCall} {es fs : List Exchange} {ended : Option Fault}
    (h₁ : Carried ps es none) (h₂ : Carried qs fs ended) : Carried (ps ++ qs) (es ++ fs) ended := by
  induction ps generalizing es with
  | nil =>
    cases h₁
    exact h₂
  | cons p ps ih =>
    cases h₁ with
    | next hcall hgoes hrest => exact .next hcall hgoes (ih hrest)

/-- A plan that was cut says nothing of what was planned after the cut. -/
theorem extend {ps : List PlannedCall} {es : List Exchange} {f : Fault}
    (h : Carried ps es (some f)) (qs : List PlannedCall) : Carried (ps ++ qs) es (some f) := by
  induction ps generalizing es with
  | nil => cases h
  | cons p ps ih =>
    cases h with
    | next hcall hgoes hrest => exact .next hcall hgoes (ih hrest)
    | cut hcall hends => exact .cut hcall hends

theorem split {ps qs : List PlannedCall} {es : List Exchange} (h : Carried (ps ++ qs) es none) :
    ∃ es₁ es₂, es = es₁ ++ es₂ ∧ Carried ps es₁ none ∧ Carried qs es₂ none := by
  induction ps generalizing es with
  | nil => exact ⟨[],es,rfl,.done,h⟩
  | cons p ps ih =>
    cases h with
    | next hcall hgoes hrest =>
      obtain ⟨es₁,es₂,rfl,h₁,h₂⟩ := ih hrest
      exact ⟨_ :: es₁,es₂,rfl,.next hcall hgoes h₁,h₂⟩

theorem call_mem {ps : List PlannedCall} {es : List Exchange} {ended : Option Fault}
    (h : Carried ps es ended) {e : Exchange} (he : e ∈ es) : ∃ p ∈ ps, p.call = e.call := by
  induction h with
  | done => simp at he
  | @next p ps e' es ended hcall hgoes hrest ih =>
    rcases List.mem_cons.mp he with rfl | he
    · exact ⟨p,by simp,hcall.symm⟩
    · obtain ⟨q,hq,hqe⟩ := ih he
      exact ⟨q,by simp [hq],hqe⟩
  | @cut p ps e' f hcall hends =>
    obtain rfl := List.mem_singleton.mp he
    exact ⟨p,by simp,hcall.symm⟩

theorem length_eq {ps : List PlannedCall} {es : List Exchange} (h : Carried ps es none) :
    es.length = ps.length := by
  induction ps generalizing es with
  | nil => cases h; rfl
  | cons p ps ih =>
    cases h with
    | next _ _ hrest => simp [ih hrest]

end Carried

theorem measuredDurations_append {ps qs : List PlannedCall} {es fs : List Exchange}
    (h : es.length = ps.length) :
    measuredDurations (ps ++ qs) (es ++ fs) = measuredDurations ps es ++ measuredDurations qs fs := by
  induction ps generalizing es with
  | nil =>
    obtain rfl := List.length_eq_zero_iff.mp h
    rfl
  | cons p ps ih =>
    cases es with
    | nil => simp at h
    | cons e es => simp [measuredDurations,ih (by simpa using h)]

theorem measuredDurations_extend {ps : List PlannedCall} {es : List Exchange} {f : Fault}
    (h : Carried ps es (some f)) (qs : List PlannedCall) :
    measuredDurations (ps ++ qs) es = measuredDurations ps es := by
  induction ps generalizing es with
  | nil => cases h
  | cons p ps ih =>
    cases h with
    | next _ _ hrest => simp [measuredDurations,ih hrest]
    | cut => cases ps <;> cases qs <;> simp [measuredDurations]

theorem measuredDurations_eq_nil {ps : List PlannedCall} (hps : ∀ p ∈ ps, p.role ≠ .measured)
    (es : List Exchange) : measuredDurations ps es = [] := by
  induction ps generalizing es with
  | nil => rfl
  | cons p ps ih =>
    cases es with
    | nil => rfl
    | cons e es =>
      have hp := hps p (by simp)
      simp [measuredDurations,hp,ih (fun q hq => hps q (by simp [hq]))]

theorem ending_of_ok {p : PlannedCall} {e : Exchange} (h : e.fault? = none) : p.ending e = none := by
  simp [PlannedCall.ending,h]

theorem ending_of_isFatal {p : PlannedCall} {e : Exchange} {f : Fault} (h : e.fault? = some f)
    (hf : f.isFatal = true) : p.ending e = some f := by
  simp [PlannedCall.ending,h,hf]

theorem ending_of_optional {p : PlannedCall} {e : Exchange} (hp : p.role = .optional)
    (h : ∀ f, e.fault? = some f → f.isFatal = false) : p.ending e = none := by
  cases he : e.fault? with
  | none => exact ending_of_ok he
  | some f => simp [PlannedCall.ending,he,hp,h f he]

theorem ending_of_required {p : PlannedCall} {e : Exchange} (hp : p.role ≠ .optional) :
    p.ending e = e.fault? := by
  cases he : e.fault? with
  | none => exact ending_of_ok he
  | some f => simp [PlannedCall.ending,he,hp]

/-- What cuts a plan, short of a lost connection, is a failure that one of its calls must not
have. -/
theorem Carried.ended_iff {ps : List PlannedCall} {es : List Exchange} {ended : Option Fault}
    (h : Carried ps es ended) (hkept : ∀ f, ended = some f → f.isFatal = false) (f : Fault) :
    ended = some f ↔ ∃ x ∈ ps.zip es, x.1.role ≠ .optional ∧ x.2.fault? = some f := by
  induction h with
  | done => simp
  | @next p ps e es ended hcall hgoes hrest ih =>
    have hhead : ¬ (p.role ≠ .optional ∧ e.fault? = some f) := by
      rintro ⟨hp,he⟩
      rw [ending_of_required hp,he] at hgoes
      cases hgoes
    rw [ih hkept]
    simp only [List.zip_cons_cons,List.mem_cons,exists_eq_or_imp,hhead,false_or]
  | @cut p ps e g hcall hends =>
    have hg : e.fault? = some g ∧ p.role ≠ .optional := by
      obtain ⟨he,hp⟩ := Option.filter_eq_some_iff.mp hends
      exact ⟨he,by simpa [hkept g rfl] using hp⟩
    simp [hg]

/-- Only a lost connection cuts a plan of optional calls. -/
theorem Carried.isFatal_of_optional {ps : List PlannedCall} {es : List Exchange}
    {ended : Option Fault} (h : Carried ps es ended) (hps : ∀ p ∈ ps, p.role = .optional)
    {f : Fault} (hf : ended = some f) : f.isFatal = true := by
  induction h with
  | done => cases hf
  | next hcall hgoes hrest ih => exact ih (fun p hp => hps p (by simp [hp])) hf
  | @cut p ps e g hcall hends =>
    cases hf
    have hp := hps p (by simp)
    obtain ⟨_,hends⟩ := Option.filter_eq_some_iff.mp hends
    simpa [hp] using hends

/-- A statement that had to succeed, did. -/
theorem Carried.measured_ok {sql : String} {es : List Exchange}
    (h : Carried [.measured sql] es none) : ∃ x, es = [⟨.execute sql,.ok x⟩] := by
  cases h with
  | @next _ _ e _ _ hcall hgoes hrest =>
    cases hrest
    obtain ⟨call,reply⟩ := e
    obtain rfl : call = .execute sql := hcall
    rw [ending_of_required (by simp [PlannedCall.measured])] at hgoes
    cases reply with
    | error f => cases hgoes
    | ok x => exact ⟨x,rfl⟩

theorem Carried.calls_eq {ps : List PlannedCall} {es : List Exchange} (h : Carried ps es none) :
    es.map Exchange.call = ps.map PlannedCall.call := by
  induction ps generalizing es with
  | nil => cases h; rfl
  | cons p ps ih =>
    cases h with
    | next hcall _ hrest => simp [hcall,ih hrest]

/-- A statement that must not fail and did is the last one. -/
theorem Carried.required_cases {sql : String} {ps : List PlannedCall} {es : List Exchange}
    {f : Fault} (h : Carried (.required sql :: ps) es (some f)) :
    es = [⟨.execute sql,.error f⟩] ∨
      ∃ x rest, es = ⟨.execute sql,.ok x⟩ :: rest ∧ Carried ps rest (some f) := by
  have hending : ∀ e, (PlannedCall.required sql).ending e = e.fault? := fun e =>
    ending_of_required (by simp [PlannedCall.required])
  cases h with
  | @next _ _ e rest _ hcall hgoes hrest =>
    obtain ⟨call,reply⟩ := e
    obtain rfl : call = .execute sql := hcall
    rw [hending] at hgoes
    cases reply with
    | error g => cases hgoes
    | ok x => exact .inr ⟨x,rest,rfl,hrest⟩
  | @cut _ _ e _ hcall hends =>
    obtain ⟨call,reply⟩ := e
    obtain rfl : call = .execute sql := hcall
    rw [hending] at hends
    cases reply with
    | ok x => cases hends
    | error g =>
      cases hends
      exact .inl rfl

theorem Carried.required_ok {sql : String} {ps : List PlannedCall} {es : List Exchange}
    (h : Carried (.required sql :: ps) es none) :
    ∃ x rest, es = ⟨.execute sql,.ok x⟩ :: rest ∧ Carried ps rest none := by
  cases h with
  | @next _ _ e rest _ hcall hgoes hrest =>
    obtain ⟨call,reply⟩ := e
    obtain rfl : call = .execute sql := hcall
    rw [ending_of_required (by simp [PlannedCall.required])] at hgoes
    cases reply with
    | error g => cases hgoes
    | ok x => exact ⟨x,rest,rfl,hrest⟩

/-- A plan of one statement that may fail. -/
theorem Carried.single {sql : String} {es : List Exchange} {ended : Option Fault}
    (h : Carried [.optional sql] es ended) : ∃ reply, es = [⟨.execute sql,reply⟩] := by
  cases h with
  | @next _ _ e _ _ hcall _ hrest =>
    cases hrest
    obtain ⟨call,reply⟩ := e
    obtain rfl : call = .execute sql := hcall
    exact ⟨reply,rfl⟩
  | @cut _ _ e f hcall _ =>
    obtain ⟨call,reply⟩ := e
    obtain rfl : call = .execute sql := hcall
    exact ⟨reply,rfl⟩

/-- What cut a plan is the fault of its last exchange. -/
theorem Carried.last {ps : List PlannedCall} {es : List Exchange} {f : Fault}
    (h : Carried ps es (some f)) : ∃ before e, es = before ++ [e] ∧ e.fault? = some f := by
  induction ps generalizing es with
  | nil => cases h
  | cons p ps ih =>
    cases h with
    | @next _ _ e _ _ _ _ hrest =>
      obtain ⟨before,last,rfl,hlast⟩ := ih hrest
      exact ⟨e :: before,last,rfl,hlast⟩
    | @cut _ _ e _ _ hends => exact ⟨[],e,rfl,(Option.filter_eq_some_iff.mp hends).1⟩

/-- Statements that must not fail, and the first that did. -/
theorem Carried.required_cut {sqls : List String} {es : List Exchange} {f : Fault}
    (h : Carried (sqls.map .required) es (some f)) :
    ∃ (k : Nat) (hk : k < sqls.length) (before : List Exchange),
      es = before ++ [⟨.execute sqls[k],.error f⟩] ∧
      Carried ((sqls.take k).map .required) before none := by
  induction sqls generalizing es with
  | nil => cases h
  | cons sql sqls ih =>
    rcases h.required_cases with rfl | ⟨x,rest,rfl,hrest⟩
    · exact ⟨0,by simp,[],rfl,.done⟩
    · obtain ⟨k,hk,before,rfl,hbefore⟩ := ih hrest
      refine ⟨k + 1,by simpa using hk,⟨.execute sql,.ok x⟩ :: before,rfl,?_⟩
      exact .next rfl (ending_of_ok rfl) hbefore

theorem Carried.required_kept {sqls : List String} {es : List Exchange}
    (h : Carried (sqls.map .required) es none) : ∀ e ∈ es, e.fault? = none := by
  induction sqls generalizing es with
  | nil =>
    cases h
    simp
  | cons sql sqls ih =>
    obtain ⟨x,rest,rfl,hrest⟩ := h.required_ok
    exact List.forall_mem_cons.mpr ⟨rfl,ih hrest⟩

/-- A statement whose faults are handed over is optional. -/
theorem Carried.relax {sql : String} {es : List Exchange} {ended : Option Fault}
    (h : Carried [.required sql] es ended) :
    Carried [.optional sql] es (ended.filter Fault.isFatal) := by
  have hrequired : ∀ e, (PlannedCall.required sql).ending e = e.fault? := fun e =>
    ending_of_required (by simp [PlannedCall.required])
  cases h with
  | next hcall hgoes hrest =>
    cases hrest
    rw [hrequired] at hgoes
    exact .next hcall (ending_of_ok hgoes) .done
  | @cut _ _ e f hcall hends =>
    rw [hrequired] at hends
    have hcall' : e.call = (PlannedCall.optional sql).call := hcall
    cases hf : f.isFatal with
    | true =>
      have h : Carried [PlannedCall.optional sql] [e] (some f) :=
        .cut hcall' (ending_of_isFatal hends hf)
      simpa [Option.filter_some,hf] using h
    | false =>
      have hgoes : (PlannedCall.optional sql).ending e = none :=
        ending_of_optional rfl fun g hg => by simp_all
      have h : Carried [PlannedCall.optional sql] [e] none := .next hcall' hgoes .done
      simpa [Option.filter_some,hf] using h

namespace Session

variable {σ α β : Type}

/-- Every run of the session carries out the plan, and gives a fault just if the plan is cut. -/
def Follows (x : Session σ α) (ps : List PlannedCall) : Prop :=
  x.Ensures fun es r => Carried ps es (faultOf r)

theorem follows_pure (a : α) : (pure a : Session σ α).Follows [] := Ensures.pure .done

theorem Follows.bind {x : Session σ α} {f : α → Session σ β} {ps qs : List PlannedCall}
    (hx : x.Follows ps) (hf : ∀ a, (f a).Follows qs) : (x >>= f).Follows (ps ++ qs) :=
  Ensures.bind hx (fun _ _ h => h.extend qs) fun _ a h => (hf a).mono fun _ _ h' => h.append h'

/-- A session that makes no call of its own after `x`. -/
theorem Follows.bind_nil {x : Session σ α} {f : α → Session σ β} {ps : List PlannedCall}
    (hx : x.Follows ps) (hf : ∀ a, (f a).Follows []) : (x >>= f).Follows ps := by
  have h := hx.bind hf
  rwa [List.append_nil] at h

theorem follows_execute (sql : String) : (execute sql : Session σ Execution).Follows [.required sql] := by
  refine (ensures_ask (.execute sql)).mono ?_
  rintro es reply rfl
  have hending : (PlannedCall.required sql).ending ⟨.execute sql,reply⟩ = faultOf reply := by
    simpa using ending_of_required (p := .required sql) (e := ⟨.execute sql,reply⟩)
      (by simp [PlannedCall.required])
  cases reply with
  | ok x => exact .next rfl hending .done
  | error f => exact .cut rfl hending

theorem follows_attempt_ask (call : Call) :
    (ask call : Session σ call.Answer).attempt.Follows [⟨call,.optional⟩] := by
  refine (ensures_ask call).handed.mono fun es r h => ?_
  cases r with
  | ok reply =>
    obtain ⟨rfl,hf⟩ := h
    refine .next rfl (ending_of_optional rfl fun f he => ?_) .done
    cases reply with
    | ok a => simp at he
    | error g => exact hf f (by simpa using he)
  | error f =>
    obtain ⟨rfl,hf⟩ := h
    exact .cut rfl (ending_of_isFatal (by simp) hf)

theorem Follows.attempt {x : Session σ α} {sql : String} (hx : x.Follows [.required sql]) :
    x.attempt.Follows [.optional sql] := by
  refine Ensures.attempt (hx.mono fun es r h => ?_)
  cases r with
  | ok a => exact h.relax
  | error f => cases hf : f.isFatal <;> simpa [Option.filter_some,hf] using h.relax

/-- The session follows the plan, but the fault that cuts it comes out in other words. -/
def FollowsWorded (x : Session σ α) (g : Fault → Fault) (ps : List PlannedCall) : Prop :=
  x.Ensures fun es r => ∃ worded : Except Fault α, Carried ps es (faultOf worded) ∧
    r = worded.mapError g

theorem Follows.mapFault {x : Session σ α} {ps : List PlannedCall} (hx : x.Follows ps)
    (g : Fault → Fault) : (x.mapFault g).FollowsWorded g ps :=
  Ensures.mapFault (hx.mono fun _ r h => ⟨r,h,rfl⟩)

/-- A lost connection is in the right words already. -/
theorem Follows.worded {x : Session σ α} {ps : List PlannedCall} (hx : x.Follows ps)
    (hps : ∀ p ∈ ps, p.role = .optional) {g : Fault → Fault}
    (hg : ∀ f, f.isFatal = true → g f = f) : x.FollowsWorded g ps := by
  refine hx.mono fun es r h => ⟨r,h,?_⟩
  cases r with
  | ok a => rfl
  | error f =>
    have hf : f.isFatal = true := h.isFatal_of_optional hps rfl
    exact congrArg Except.error (hg f hf).symm

theorem FollowsWorded.bind {x : Session σ α} {f : α → Session σ β} {g : Fault → Fault}
    {ps qs : List PlannedCall} (hx : x.FollowsWorded g ps) (hf : ∀ a, (f a).FollowsWorded g qs) :
    (x >>= f).FollowsWorded g (ps ++ qs) := by
  refine Ensures.bind hx ?_ ?_
  · rintro es e ⟨worded,hcarried,he⟩
    cases worded with
    | ok a => cases he
    | error e' =>
      cases he
      exact ⟨.error e',hcarried.extend qs,rfl⟩
  · rintro es a ⟨worded,hcarried,ha⟩
    cases worded with
    | error e => cases ha
    | ok a' => exact (hf a).mono fun fs r ⟨worded',h,hr⟩ => ⟨worded',hcarried.append h,hr⟩

theorem Follows.yields {x : Session σ α} {ps : List PlannedCall} (hx : x.Follows ps) :
    x.Yields fun es _ => Carried ps es none :=
  Ensures.yields hx fun _ _ h => h

end Session

end IndexTrial
