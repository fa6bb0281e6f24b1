import IndexTrial.Proofs.Session.Exchanges
import IndexTrial.Proofs.Store.Texts
import IndexTrial.Rehearsal.Client

/-!
Clients that keep a store. `Store.Run excused s es t` says that the exchanges `es` lead from the
store `s` to `t`: a statement takes effect and is answered truthfully, or it fails without effect,
because it cannot be done or because its failure is excused. Statements that cannot be done are those
on a table that is not there.
-/

namespace IndexTrial

namespace Store

/-- A truthful answer to a statement. Only what is asked about relations can be a lie. -/
structure Tells (s : Store) (q : Statement) (x : Execution) : Prop where
  relation : ∀ name, q = .hasRelation name →
    x.scalar = some (if s.hasRelation name then "t" else "f")
  count : ∀ table, q = .countRows table → x.scalar = (s.rows? table).map toString

/-- What an exchange makes of a store. A new table has rows, and not more than can be counted. -/
inductive Step (excused : Exchange → Prop) (s : Store) : Exchange → Store → Prop
  | done {sql : String} {x : Execution} {t : Store} {rows : Nat} (hrows : 0 < rows)
      (hcount : rows < 2 ^ 64) (happly : s.apply rows (.read sql) = .ok t)
      (htells : s.Tells (.read sql) x) : Step excused s ⟨.execute sql,.ok x⟩ t
  | refused {sql : String} {f g : Fault} (happly : s.apply 1 (.read sql) = .error g)
      (hf : f.isFatal = false) : Step excused s ⟨.execute sql,.error f⟩ s
  | failed {call : Call} {f : Fault} (he : excused ⟨call,.error f⟩) :
      Step excused s ⟨call,.error f⟩ s
  | aside {call : Call} {reply : Except Fault call.Answer} (hcall : ∀ sql, call ≠ .execute sql)
      (hf : ∀ f, reply = .error f → f.isFatal = false) : Step excused s ⟨call,reply⟩ s

theorem Step.mono {excused excused' : Exchange → Prop} {s t : Store} {e : Exchange}
    (h : Step excused s e t) (hmono : ∀ e, excused e → excused' e) : Step excused' s e t := by
  cases h with
  | done hrows hcount happly htells => exact .done hrows hcount happly htells
  | refused happly hf => exact .refused happly hf
  | failed he => exact .failed (hmono _ he)
  | aside hcall hf => exact .aside hcall hf

inductive Run (excused : Exchange → Prop) : Store → List Exchange → Store → Prop
  | nil (s : Store) : Run excused s [] s
  | cons {s t u : Store} {e : Exchange} {es : List Exchange} (hstep : Step excused s e t)
      (hrest : Run excused t es u) : Run excused s (e :: es) u

/-- No failure is excused. -/
def never (_ : Exchange) : Prop := False

variable {excused : Exchange → Prop} {s t u : Store} {e : Exchange} {es fs : List Exchange}

namespace Run

theorem split (h : Run excused s (es ++ fs) u) : ∃ t, Run excused s es t ∧ Run excused t fs u := by
  induction es generalizing s with
  | nil => exact ⟨s,.nil s,h⟩
  | cons e es ih =>
    cases h with
    | cons hstep hrest =>
      obtain ⟨t,h₁,h₂⟩ := ih hrest
      exact ⟨t,.cons hstep h₁,h₂⟩

theorem eq_of_nil (h : Run excused s [] t) : t = s := by
  cases h
  rfl

theorem step (h : Run excused s [e] t) : Step excused s e t := by
  cases h with
  | cons hstep hrest => rwa [hrest.eq_of_nil]

end Run

/-- Nothing else can fail if no failure among these exchanges is excused. -/
theorem Run.unexcused (h : Run excused s es t) (hes : ∀ e ∈ es, excused e → e.fault? = none) :
    Run never s es t := by
  induction h with
  | nil s => exact .nil s
  | cons hstep hrest ih =>
    obtain ⟨he,hes⟩ := List.forall_mem_cons.mp hes
    refine .cons ?_ (ih hes)
    cases hstep with
    | done hrows hcount happly htells => exact .done hrows hcount happly htells
    | refused happly hf => exact .refused happly hf
    | failed hexcused => cases he hexcused
    | aside hcall hf => exact .aside hcall hf

/-- Only an excused failure can lose the connection. -/
theorem Run.isLost (h : Run never s es t) : ∀ e ∈ es, e.isLost = false := by
  induction h with
  | nil s => simp
  | cons hstep hrest ih =>
    refine List.forall_mem_cons.mpr ⟨?_,ih⟩
    cases hstep with
    | done => rfl
    | refused _ hf => exact hf
    | failed he => exact he.elim
    | @aside call reply _ hf =>
      cases reply with
      | ok a => rfl
      | error f => exact hf f rfl

/-- Whether a statement can be done does not depend on the rows that a table would get. -/
theorem apply_error {rows : Nat} {q : Statement} {g : Fault} (h : s.apply rows q = .error g) :
    g.isFatal = false ∧ ∀ rows', s.apply rows' q = .error g := by
  cases q with
  | createIndex | countRows =>
    simp only [apply] at h ⊢
    split at h
    · cases h
    · cases h
      exact ⟨rfl,fun _ => if_neg ‹_›⟩
  | _ => cases h

/-- A quiet statement changes nothing, whatever comes of it. -/
theorem apply_of_isQuiet {rows : Nat} {q : Statement} (hq : q.isQuiet = true)
    (h : s.apply rows q = .ok t) : t = s := by
  cases q with
  | countRows table =>
    simp only [apply] at h
    split at h <;> cases h
    rfl
  | createTable | dropTable | createIndex | dropIndex => cases hq
  | _ => cases h; rfl

/-- What is asked about relations may be answered before or after. -/
theorem Tells.before {rows : Nat} {q : Statement} {x : Execution} (happly : s.apply rows q = .ok t)
    (h : t.Tells q x) : s.Tells q x := by
  constructor
  · rintro name rfl
    rw [← apply_of_isQuiet rfl happly]
    exact h.relation name rfl
  · rintro table rfl
    rw [← apply_of_isQuiet rfl happly]
    exact h.count table rfl

theorem Step.of_isQuiet (h : Step excused s e t) (he : e.call.isQuiet = true) : t = s := by
  cases h with
  | done _ _ happly _ =>
    rw [isQuiet_execute] at he
    exact apply_of_isQuiet he happly
  | refused | failed | aside => rfl

theorem Run.of_isQuiet (h : Run excused s es t) (hes : ∀ e ∈ es, e.call.isQuiet = true) : t = s := by
  induction h with
  | nil s => rfl
  | cons hstep hrest ih =>
    obtain ⟨he,hes⟩ := List.forall_mem_cons.mp hes
    rw [ih hes,hstep.of_isQuiet he]

/-- An answered statement took effect. -/
theorem Step.effect {sql : String} {q : Statement} {x : Execution}
    (h : Step excused s ⟨.execute sql,.ok x⟩ t) (hq : Statement.read sql = q) :
    ∃ rows, 0 < rows ∧ rows < 2 ^ 64 ∧ s.apply rows q = .ok t ∧ s.Tells q x := by
  subst hq
  cases h with
  | done hrows hcount happly htells => exact ⟨_,hrows,hcount,happly,htells⟩
  | aside hcall _ => exact absurd rfl (hcall sql)

/-- A statement that can be done is done. -/
theorem Step.executed {sql : String} {q : Statement} {reply : Except Fault Execution}
    (h : Step never s ⟨.execute sql,reply⟩ t) (hq : Statement.read sql = q)
    (hcan : ∃ u, s.apply 1 q = .ok u) : ∃ x, reply = .ok x := by
  subst hq
  cases h with
  | done => exact ⟨_,rfl⟩
  | refused happly _ =>
    obtain ⟨u,hu⟩ := hcan
    cases hu.symm.trans happly
  | failed he => exact he.elim
  | aside hcall _ => exact absurd rfl (hcall sql)

end Store

/-- The client keeps a store, seen by `view`, as long as its state is good. -/
structure Client.Serves {σ : Type} (c : Client σ) (excused : Exchange → Prop) (good : σ → Prop)
    (view : σ → Store) : Prop where
  answer : ∀ call s, good s → good (c.answer call s).2 ∧
    Store.Step excused (view s) ⟨call,(c.answer call s).1⟩ (view (c.answer call s).2)
  clock : ∀ s, good s → good (c.clock s).2 ∧ view (c.clock s).2 = view s

theorem Client.Serves.run {σ : Type} {c : Client σ} {excused : Exchange → Prop} {good : σ → Prop}
    {view : σ → Store} (hc : c.Serves excused good view) {s t : σ} {es : List Exchange}
    (h : c.Answers s es t) (hs : good s) : good t ∧ Store.Run excused (view s) es (view t) := by
  induction h with
  | done s => exact ⟨hs,.nil _⟩
  | @tick s t es _ ih =>
    obtain ⟨hgood,hview⟩ := hc.clock s hs
    rw [← hview]
    exact ih hgood
  | @call s t es call _ ih =>
    obtain ⟨hgood,hstep⟩ := hc.answer call s hs
    obtain ⟨ht,hrun⟩ := ih hgood
    exact ⟨ht,.cons hstep hrun⟩

end IndexTrial
