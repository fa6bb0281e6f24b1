import IndexTrial.Client.Basic

/-!
What a session says to its client. `x.Ensures P` speaks of all runs of a session at once: whatever
the client and its state, the exchanges that the session adds to the log and what it gives are
related by `P`. There is one rule for each way of building a session.
-/

namespace IndexTrial

/-- The client gives these answers one after the other; its clock may be read in between. -/
inductive Client.Answers {σ : Type} (c : Client σ) : σ → List Exchange → σ → Prop
  | done (s : σ) : Answers c s [] s
  | tick {s t : σ} {es : List Exchange} : Answers c (c.clock s).2 es t → Answers c s es t
  | call {s t : σ} {es : List Exchange} (call : Call) :
      Answers c (c.answer call s).2 es t → Answers c s (⟨call,(c.answer call s).1⟩ :: es) t

theorem Client.Answers.append {σ : Type} {c : Client σ} {s t u : σ} {es fs : List Exchange}
    (h₁ : c.Answers s es t) (h₂ : c.Answers t fs u) : c.Answers s (es ++ fs) u := by
  induction h₁ with
  | done s => exact h₂
  | tick _ ih => exact .tick (ih h₂)
  | call call _ ih => exact .call call (ih h₂)

theorem Client.Answers.split {σ : Type} {c : Client σ} {s t : σ} {es fs : List Exchange}
    (h : c.Answers s (es ++ fs) t) : ∃ u, c.Answers s es u ∧ c.Answers u fs t := by
  generalize hall : es ++ fs = all at h
  induction h generalizing es with
  | done s =>
    obtain ⟨rfl,rfl⟩ := List.append_eq_nil_iff.mp hall
    exact ⟨s,.done s,.done s⟩
  | tick _ ih =>
    obtain ⟨u,h₁,h₂⟩ := ih hall
    exact ⟨u,.tick h₁,h₂⟩
  | @call s t rest call h ih =>
    cases es with
    | nil =>
      rw [List.nil_append] at hall
      exact ⟨s,.done s,hall ▸ .call call h⟩
    | cons e es =>
      obtain ⟨rfl,hrest⟩ := List.cons.inj hall
      obtain ⟨u,h₁,h₂⟩ := ih hrest
      exact ⟨u,.call call h₁,h₂⟩

/-- A client that counts its calls and fails at those that are listed. -/
def Client.failingAt (faults : List (Nat × Fault)) : Client Nat where
  answer call n :=
    match faults.lookup n, call with
    | some f, _ => (.error f,n + 1)
    | none, .execute _ => (.ok ⟨.zero,[]⟩,n + 1)
    | none, .evictRelation _ => (.ok (.evicted 0),n + 1)
    | none, .evictFiles _ => (.ok (.evicted 0),n + 1)
    | none, .readCapacity => (.ok 0,n + 1)
  clock n := (n,n)

/-- The fault that an exchange was answered with. -/
def Exchange.fault? (e : Exchange) : Option Fault :=
  match e.reply with
  | .error f => some f
  | .ok _ => none

/-- The fault that a session ended with. -/
def faultOf {α : Type} : Except Fault α → Option Fault
  | .error f => some f
  | .ok _ => none

@[simp] theorem faultOf_ok {α : Type} (a : α) : faultOf (.ok a) = none := rfl
@[simp] theorem faultOf_error {α : Type} (f : Fault) :
    faultOf (.error f : Except Fault α) = some f := rfl

@[simp] theorem faultOf_mapError {α : Type} (g : Fault → Fault) (r : Except Fault α) :
    faultOf (r.mapError g) = (faultOf r).map g := by
  cases r <;> rfl

@[simp] theorem fault?_mk (call : Call) (reply : Except Fault call.Answer) :
    (Exchange.mk call reply).fault? = faultOf reply := by
  cases reply <;> rfl

/-- A run that was evaluated to its end. -/
theorem ok_of_toOption {α β : Type} {r : Except Fault α} {f : α → β} {b : β}
    (h : r.toOption.map f = some b) : ∃ a, r = .ok a ∧ f a = b := by
  cases r with
  | error e => cases h
  | ok a => exact ⟨a,rfl,Option.some.inj h⟩

theorem isLost_eq (e : Exchange) : e.isLost = e.fault?.any Fault.isFatal := by
  obtain ⟨call,reply⟩ := e
  cases reply <;> rfl

namespace Session

/-- Every run of `x` adds exchanges to the log that its client answered, and `P` holds of them and
of what the run gives. -/
def Ensures {σ α : Type} (x : Session σ α) (P : List Exchange → Except Fault α → Prop) : Prop :=
  ∀ (c : Client σ) (w : World σ), ∃ es, (x c w).2.log.toList = w.log.toList ++ es ∧
    c.Answers w.state es (x c w).2.state ∧ P es (x c w).1

variable {σ α β : Type}

theorem bind_pure_eq (x : Session σ α) : (x >>= fun a => pure a) = x := by
  funext c w
  rw [bind_run]
  cases hr : x c w with
  | mk r w₁ => cases r <;> rfl

theorem Ensures.mono {x : Session σ α} {P Q : List Exchange → Except Fault α → Prop}
    (hx : x.Ensures P) (h : ∀ es r, P es r → Q es r) : x.Ensures Q := by
  intro c w
  obtain ⟨es,hlog,hans,hp⟩ := hx c w
  exact ⟨es,hlog,hans,h es _ hp⟩

/-- Two properties of one session hold of the same exchanges. -/
theorem Ensures.and {x : Session σ α} {P Q : List Exchange → Except Fault α → Prop}
    (hp : x.Ensures P) (hq : x.Ensures Q) : x.Ensures fun es r => P es r ∧ Q es r := by
  intro c w
  obtain ⟨es,hlog,hans,hp⟩ := hp c w
  obtain ⟨fs,hlog',_,hq⟩ := hq c w
  have he : es = fs := List.append_cancel_left (hlog.symm.trans hlog')
  subst he
  exact ⟨es,hlog,hans,hp,hq⟩

theorem Ensures.pure {a : α} {P : List Exchange → Except Fault α → Prop} (h : P [] (.ok a)) :
    (pure a : Session σ α).Ensures P :=
  fun _ w => ⟨[],(List.append_nil _).symm,.done w.state,h⟩

theorem Ensures.ask {call : Call} {P : List Exchange → Except Fault call.Answer → Prop}
    (h : ∀ reply, P [⟨call,reply⟩] reply) : (ask call : Session σ call.Answer).Ensures P :=
  fun c w => ⟨[⟨call,(c.answer call w.state).1⟩],by simp [Session.ask],.call call (.done _),h _⟩

theorem Ensures.bind {x : Session σ α} {f : α → Session σ β}
    {P : List Exchange → Except Fault α → Prop} {Q : List Exchange → Except Fault β → Prop}
    (hx : x.Ensures P) (herror : ∀ es e, P es (.error e) → Q es (.error e))
    (hok : ∀ es a, P es (.ok a) → (f a).Ensures fun fs r => Q (es ++ fs) r) :
    (x >>= f).Ensures Q := by
  intro c w
  obtain ⟨es,hlog,hans,hp⟩ := hx c w
  rw [bind_run]
  cases hr : x c w with
  | mk r w₁ =>
    rw [hr] at hlog hans hp
    cases r with
    | error e => exact ⟨es,hlog,hans,herror es e hp⟩
    | ok a =>
      obtain ⟨fs,hlog',hans',hq⟩ := hok es a hp c w₁
      have hall : (f a c w₁).2.log.toList = w.log.toList ++ (es ++ fs) := by
        rw [hlog',hlog,List.append_assoc]
      exact ⟨es ++ fs,hall,hans.append hans',hq⟩

theorem Ensures.attempt {x : Session σ α} {P : List Exchange → Except Fault (Except Fault α) → Prop}
    (hx : x.Ensures fun es r =>
      P es (match r with
        | .ok a => .ok (.ok a)
        | .error e => if e.isFatal then .error e else .ok (.error e))) :
    x.attempt.Ensures P := by
  intro c w
  obtain ⟨es,hlog,hans,hp⟩ := hx c w
  unfold Session.attempt
  cases hr : x c w with
  | mk r w₁ =>
    rw [hr] at hlog hans hp
    cases r with
    | ok a => exact ⟨es,hlog,hans,hp⟩
    | error e =>
      cases he : e.isFatal with
      | true => exact ⟨es,by simpa [he] using hlog,by simpa [he] using hans,by simpa [he] using hp⟩
      | false => exact ⟨es,by simpa [he] using hlog,by simpa [he] using hans,by simpa [he] using hp⟩

/-- What an attempt gives for a session with the property `P`: a lost connection ends it, and all
else is handed over. -/
def HandedOver (P : List Exchange → Except Fault α → Prop) (es : List Exchange) :
    Except Fault (Except Fault α) → Prop
  | .ok handed => P es handed ∧ ∀ f, handed = .error f → f.isFatal = false
  | .error f => P es (.error f) ∧ f.isFatal = true

theorem Ensures.handed {x : Session σ α} {P : List Exchange → Except Fault α → Prop}
    (hx : x.Ensures P) : x.attempt.Ensures (HandedOver P) := by
  refine Ensures.attempt (hx.mono fun es r h => ?_)
  cases r with
  | ok a => exact ⟨h,by simp⟩
  | error f =>
    cases hf : f.isFatal with
    | true => simpa [HandedOver,hf] using h
    | false => simpa [HandedOver,hf] using h

theorem Ensures.attemptAny {x : Session σ α} {P : List Exchange → Except Fault (Option α) → Prop}
    (hx : x.Ensures fun es r => P es (.ok (match r with | .ok a => some a | .error _ => none))) :
    x.attemptAny.Ensures P := by
  intro c w
  obtain ⟨es,hlog,hans,hp⟩ := hx c w
  unfold Session.attemptAny
  cases hr : x c w with
  | mk r w₁ =>
    rw [hr] at hlog hans hp
    cases r <;> exact ⟨es,hlog,hans,hp⟩

theorem Ensures.mapFault {x : Session σ α} {g : Fault → Fault}
    {P : List Exchange → Except Fault α → Prop}
    (hx : x.Ensures fun es r => P es (r.mapError g)) : (x.mapFault g).Ensures P := by
  intro c w
  obtain ⟨es,hlog,hans,hp⟩ := hx c w
  unfold Session.mapFault
  cases hr : x c w with
  | mk r w₁ =>
    rw [hr] at hlog hans hp
    cases r <;> exact ⟨es,hlog,hans,hp⟩

theorem Ensures.readClock {P : List Exchange → Except Fault Nat → Prop} (h : ∀ t, P [] (.ok t)) :
    (readClock : Session σ Nat).Ensures P :=
  fun c w => ⟨[],(List.append_nil _).symm,.tick (.done (c.clock w.state).2),h _⟩

theorem Ensures.pure_bind {a : α} {f : α → Session σ β} {Q : List Exchange → Except Fault β → Prop}
    (h : (f a).Ensures Q) : (Pure.pure a >>= f).Ensures Q := h

theorem Ensures.readClock_bind {f : Nat → Session σ β} {Q : List Exchange → Except Fault β → Prop}
    (hf : ∀ t, (f t).Ensures Q) : (Session.readClock >>= f).Ensures Q := by
  refine Ensures.bind (P := fun es r => es = [] ∧ ∃ t, r = .ok t)
    (Ensures.readClock fun t => ⟨rfl,t,rfl⟩) ?_ ?_
  · rintro es e ⟨_,t,ht⟩
    cases ht
  · rintro es t ⟨rfl,_⟩
    exact hf t

theorem Ensures.now {P : List Exchange → Except Fault Moment → Prop} (h : ∀ m, P [] (.ok m)) :
    (now : Session σ Moment).Ensures P :=
  Ensures.readClock_bind fun t => Ensures.pure (h (.ofNanos t))

theorem ensures_ask (call : Call) :
    (Session.ask call : Session σ call.Answer).Ensures fun es reply => es = [⟨call,reply⟩] :=
  Ensures.ask fun _ => rfl

/-- A call, and what is made of its answer. -/
theorem ensures_ask_map (call : Call) (f : call.Answer → α) :
    (Session.ask call >>= fun x => Pure.pure (f x) : Session σ α).Ensures fun es r =>
      ∃ reply, es = [⟨call,reply⟩] ∧ r = reply.map f := by
  refine Ensures.bind (ensures_ask call) ?_ ?_
  · rintro es e rfl
    exact ⟨.error e,rfl,rfl⟩
  · rintro es x rfl
    exact Ensures.pure ⟨.ok x,rfl,rfl⟩

/-- The session makes these calls and gives a value, whatever it is answered. -/
def Unfailing (x : Session σ α) (calls : List Call) : Prop :=
  x.Ensures fun es r => es.map Exchange.call = calls ∧ ∃ a, r = .ok a

theorem unfailing_pure (a : α) : (Pure.pure a : Session σ α).Unfailing [] :=
  Ensures.pure ⟨rfl,a,rfl⟩

theorem unfailing_now : (Session.now : Session σ Moment).Unfailing [] :=
  Ensures.now fun m => ⟨rfl,m,rfl⟩

theorem unfailing_attemptAny (call : Call) :
    (Session.ask call : Session σ call.Answer).attemptAny.Unfailing [call] :=
  Ensures.attemptAny ((ensures_ask call).mono fun es reply h => ⟨by rw [h]; rfl,_,rfl⟩)

theorem Unfailing.ensures_bind {x : Session σ α} {f : α → Session σ β} {calls : List Call}
    {Q : List Exchange → Except Fault β → Prop} (hx : x.Unfailing calls)
    (hf : ∀ es a, es.map Exchange.call = calls → (f a).Ensures fun fs r => Q (es ++ fs) r) :
    (x >>= f).Ensures Q := by
  refine Ensures.bind hx ?_ fun es a h => hf es a h.1
  rintro es e ⟨_,a,ha⟩
  cases ha

theorem Unfailing.bind {x : Session σ α} {f : α → Session σ β} {calls more : List Call}
    (hx : x.Unfailing calls) (hf : ∀ a, (f a).Unfailing more) :
    (x >>= f).Unfailing (calls ++ more) := by
  refine hx.ensures_bind fun es a hes => (hf a).mono ?_
  rintro fs r ⟨hfs,hr⟩
  exact ⟨by rw [List.map_append,hes,hfs],hr⟩

/-- Every run of `x` that ends without a fault is as `P` says. -/
def Yields (x : Session σ α) (P : List Exchange → α → Prop) : Prop :=
  x.Ensures fun es r => ∀ a, r = .ok a → P es a

theorem Ensures.yields {x : Session σ α} {P : List Exchange → Except Fault α → Prop}
    {Q : List Exchange → α → Prop} (hx : x.Ensures P) (h : ∀ es a, P es (.ok a) → Q es a) :
    x.Yields Q := by
  refine hx.mono fun es r hp a ha => ?_
  subst ha
  exact h es a hp

theorem Yields.pure {a : α} {P : List Exchange → α → Prop} (h : P [] a) :
    (pure a : Session σ α).Yields P := by
  refine Ensures.pure fun b hb => ?_
  cases hb
  exact h

theorem Yields.bind {x : Session σ α} {f : α → Session σ β} {P : List Exchange → α → Prop}
    {Q : List Exchange → β → Prop} (hx : x.Yields P)
    (hf : ∀ es a, P es a → (f a).Yields fun fs b => Q (es ++ fs) b) : (x >>= f).Yields Q := by
  refine Ensures.bind hx (fun es e _ b hb => ?_) fun es a hp => hf es a (hp a rfl)
  cases hb

theorem Yields.pure_bind {a : α} {f : α → Session σ β} {Q : List Exchange → β → Prop}
    (h : (f a).Yields Q) : (Pure.pure a >>= f).Yields Q := h

/-- One call whose faults are handed over, short of a lost connection. -/
theorem yields_attempt_ask (call : Call) :
    (Session.ask call : Session σ call.Answer).attempt.Yields fun es reply =>
      es = [⟨call,reply⟩] ∧ ∀ f, reply = .error f → f.isFatal = false :=
  Ensures.yields (ensures_ask call).handed fun _ _ h => h

theorem yields_readClock : (readClock : Session σ Nat).Yields fun es _ => es = [] :=
  Ensures.readClock fun _ _ _ => rfl

end Session

end IndexTrial
