import IndexTrial.Proofs.Session.Exchanges

/-!
Sessions and a lost connection. A session that `PassesLoss` ends at the first call that loses the
connection, hands that fault over unchanged, and has no fatal fault of its own. A `Resilient` one
ends with no other fault at all. Both are closed under every way of building a session.
-/

namespace IndexTrial

/-- No exchange lost the connection, or the last one did and no other, with the given fault. -/
inductive LossAtEnd : List Exchange → Option Fault → Prop
  | never {es : List Exchange} (h : ∀ e ∈ es, e.isLost = false) : LossAtEnd es none
  | last {es : List Exchange} {call : Call} {f : Fault} (h : ∀ e ∈ es, e.isLost = false)
      (hf : f.isFatal = true) : LossAtEnd (es ++ [⟨call,.error f⟩]) (some f)

theorem LossAtEnd.not_lost {es : List Exchange} (h : LossAtEnd es none) :
    ∀ e ∈ es, e.isLost = false := by
  cases h with
  | never h => exact h

theorem LossAtEnd.isFatal {es : List Exchange} {f : Fault} (h : LossAtEnd es (some f)) :
    f.isFatal = true := by
  cases h with
  | last _ hf => exact hf

theorem LossAtEnd.eq_none {es : List Exchange} {lost : Option Fault} (h : LossAtEnd es lost)
    (hes : ∀ e ∈ es, e.isLost = false) : lost = none := by
  cases h with
  | never => rfl
  | @last before call f _ hf =>
    have hkept := hes ⟨call,.error f⟩ (by simp)
    cases hf.symm.trans hkept

/-- What comes before another exchange did not lose the connection. -/
theorem LossAtEnd.before {before after : List Exchange} {e : Exchange} {lost : Option Fault}
    (h : LossAtEnd (before ++ e :: after) lost) : ∀ e' ∈ before, e'.isLost = false := by
  generalize hall : before ++ e :: after = all at h
  intro e' he'
  cases h with
  | never hes => exact hes e' (by simp [← hall,he'])
  | @last es call f hes hf =>
    rcases List.append_eq_append_iff.mp hall with ⟨rest,rfl,_⟩ | ⟨rest,rfl,hrest⟩
    · exact hes e' (List.mem_append_left rest he')
    · cases rest with
      | nil => exact hes e' (by simpa using he')
      | cons f rest => simp at hrest

theorem LossAtEnd.append {es fs : List Exchange} {lost : Option Fault}
    (h₁ : LossAtEnd es none) (h₂ : LossAtEnd fs lost) : LossAtEnd (es ++ fs) lost := by
  have hes := h₁.not_lost
  cases h₂ with
  | never hfs => exact .never (by simpa [or_imp,forall_and] using ⟨hes,hfs⟩)
  | last hfs hf =>
    rw [← List.append_assoc]
    exact .last (by simpa [or_imp,forall_and] using ⟨hes,hfs⟩) hf

theorem LossAtEnd.single {call : Call} (reply : Except Fault call.Answer) :
    LossAtEnd [⟨call,reply⟩] ((faultOf reply).filter Fault.isFatal) := by
  cases reply with
  | ok a => exact .never (by simp [Exchange.isLost])
  | error f =>
    cases hf : f.isFatal with
    | true =>
      have h := @LossAtEnd.last [] call f (by simp) hf
      simpa [Option.filter_some,hf] using h
    | false =>
      have h : LossAtEnd [⟨call,.error f⟩] none := .never (by simp [Exchange.isLost,hf])
      simpa [Option.filter_some,hf] using h

namespace Session

variable {σ α β : Type}

def PassesLoss (x : Session σ α) : Prop :=
  x.Ensures fun es r => LossAtEnd es ((faultOf r).filter Fault.isFatal)

def Resilient (x : Session σ α) : Prop := x.Ensures fun es r => LossAtEnd es (faultOf r)

theorem Resilient.passesLoss {x : Session σ α} (hx : x.Resilient) : x.PassesLoss := by
  refine hx.mono fun es r h => ?_
  cases r with
  | ok a => exact h
  | error f => simpa [Option.filter_some,h.isFatal] using h

theorem resilient_pure (a : α) : (pure a : Session σ α).Resilient :=
  Ensures.pure (.never (by simp))

theorem resilient_readClock : (readClock : Session σ Nat).Resilient :=
  Ensures.readClock fun _ => .never (by simp)

theorem resilient_now : (now : Session σ Moment).Resilient :=
  Ensures.now fun _ => .never (by simp)

theorem passesLoss_ask (call : Call) : (ask call : Session σ call.Answer).PassesLoss :=
  Ensures.ask fun reply => .single reply

theorem passesLoss_execute (sql : String) : (execute sql : Session σ Execution).PassesLoss :=
  passesLoss_ask (.execute sql)

theorem PassesLoss.bind {x : Session σ α} {f : α → Session σ β} (hx : x.PassesLoss)
    (hf : ∀ a, (f a).PassesLoss) : (x >>= f).PassesLoss :=
  Ensures.bind hx (fun _ _ h => h) fun _ a h => (hf a).mono fun _ _ h' => h.append h'

theorem Resilient.bind {x : Session σ α} {f : α → Session σ β} (hx : x.Resilient)
    (hf : ∀ a, (f a).Resilient) : (x >>= f).Resilient :=
  Ensures.bind hx (fun _ _ h => h) fun _ a h => (hf a).mono fun _ _ h' => h.append h'

theorem PassesLoss.attempt {x : Session σ α} (hx : x.PassesLoss) : x.attempt.Resilient := by
  refine Ensures.attempt (hx.mono fun es r h => ?_)
  cases r with
  | ok a => exact h
  | error f => cases hf : f.isFatal <;> simpa [Option.filter_some,hf] using h

/-- A change of wording keeps a session's losses if it leaves fatal faults alone. -/
theorem PassesLoss.mapFault {x : Session σ α} {g : Fault → Fault} (hx : x.PassesLoss)
    (hg : ∀ f, (g f).isFatal = f.isFatal) (hg' : ∀ f, f.isFatal = true → g f = f) :
    (x.mapFault g).PassesLoss := by
  refine Ensures.mapFault (hx.mono fun es r h => ?_)
  cases r with
  | ok a => exact h
  | error f =>
    rw [faultOf_mapError]
    cases hf : f.isFatal with
    | true => simpa [hg' f hf] using h
    | false => simpa [Option.filter_some,hg,hf] using h

theorem resilient_collect {f : α → Session σ β} (hf : ∀ a, (f a).Resilient) (as : List α) :
    (collect f as).Resilient := by
  induction as with
  | nil => exact resilient_pure []
  | cons a as ih => exact (hf a).bind fun b => ih.bind fun bs => resilient_pure (b :: bs)

end Session

namespace Fault

theorem isFatal_iff {f : Fault} : f.isFatal = true ↔ ∃ m, f = .connection m := by
  cases f <;> simp [isFatal]

theorem asIndexBuild_of_isFatal (engine : String) {f : Fault} (hf : f.isFatal = true) :
    f.asIndexBuild engine = f := by
  simp [asIndexBuild,hf]

theorem asGeneration_of_isFatal (workload : String) {f : Fault} (hf : f.isFatal = true) :
    f.asGeneration workload = f := by
  obtain ⟨m,rfl⟩ := isFatal_iff.mp hf
  rfl

end Fault

end IndexTrial
