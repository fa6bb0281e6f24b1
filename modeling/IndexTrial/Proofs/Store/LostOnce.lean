import IndexTrial.Proofs.Session.Loss
import IndexTrial.Proofs.Store.Serving

/-!
A client whose connection is lost once, at the first call that its store is in a given way for. It
keeps its store all the same, and is as before when the connection is back.
-/

namespace IndexTrial

open Store

/-- The client, with a connection that is lost at the first call in such a store. The flag says that
it has not been lost yet. -/
def Client.losingOnce {σ : Type} (c : Client σ) (view : σ → Store) (p : Store → Bool) :
    Client (σ × Bool) where
  answer call s :=
    if s.2 && p (view s.1) then (.error (.connection "closed"),s.1,false)
    else ((c.answer call s.1).1,(c.answer call s.1).2,s.2)
  clock s := ((c.clock s.1).1,(c.clock s.1).2,s.2)

section

variable {σ : Type} {c : Client σ} {good : σ → Prop} {view : σ → Store} {p : Store → Bool} {call : Call}
  {s : σ}

theorem Client.answer_losingOnce_lost (hp : p (view s) = true) :
    (c.losingOnce view p).answer call (s,true) = (.error (.connection "closed"),s,false) := by
  simp [losingOnce,hp]

theorem Client.answer_losingOnce_kept {armed : Bool} (h : armed = true → p (view s) = false) :
    (c.losingOnce view p).answer call (s,armed) =
      ((c.answer call s).1,(c.answer call s).2,armed) := by
  cases armed with
  | false => rfl
  | true => simp [losingOnce,h rfl]

theorem Client.Serves.losingOnce (hc : c.Serves never good view) (p : Store → Bool) :
    (c.losingOnce view p).Serves (fun e => e.isLost = true) (fun s => good s.1)
      fun s => view s.1 where
  answer call := by
    rintro ⟨s,armed⟩ hs
    by_cases hp : armed = true ∧ p (view s) = true
    · obtain ⟨rfl,hp⟩ := hp
      rw [answer_losingOnce_lost hp]
      exact ⟨hs,.failed rfl⟩
    · rw [answer_losingOnce_kept (by simpa using hp)]
      obtain ⟨hgood,hstep⟩ := hc.answer call s hs
      exact ⟨hgood,hstep.mono fun _ => False.elim⟩
  clock s hs := hc.clock s.1 hs

/-- With the connection lost and back again, nothing fails any more. -/
theorem Client.Serves.losingOnce_back (hc : c.Serves never good view) (p : Store → Bool) :
    (c.losingOnce view p).Serves never (fun s => good s.1 ∧ s.2 = false) fun s => view s.1 where
  answer call := by
    rintro ⟨s,armed⟩ ⟨hs,rfl⟩
    rw [answer_losingOnce_kept (by simp)]
    obtain ⟨hgood,hstep⟩ := hc.answer call s hs
    exact ⟨⟨hgood,rfl⟩,hstep⟩
  clock := by
    rintro ⟨s,armed⟩ ⟨hs,rfl⟩
    obtain ⟨hgood,hview⟩ := hc.clock s hs
    exact ⟨⟨hgood,rfl⟩,hview⟩

namespace Client.Answers

variable {x y : σ × Bool} {e : Exchange} {es : List Exchange}

theorem not_lost_yet (h : (c.losingOnce view p).Answers x es y) (hx : x.2 = true)
    (hes : ∀ e ∈ es, e.isLost = false) : y.2 = true := by
  induction h with
  | done => exact hx
  | tick _ ih => exact ih hx hes
  | @call x y es call _ ih =>
    obtain ⟨s,armed⟩ := x
    obtain rfl : armed = true := hx
    obtain ⟨he,hes⟩ := List.forall_mem_cons.mp hes
    cases hp : p (view s) with
    | true =>
      rw [answer_losingOnce_lost hp] at he
      cases he
    | false =>
      refine ih ?_ hes
      rw [answer_losingOnce_kept fun _ => hp]

/-- The first call in such a store loses the connection. -/
theorem loses (hc : c.Serves never good view)
    (h : (c.losingOnce view p).Answers x (e :: es) y) (hs : good x.1) (hx : x.2 = true)
    (hp : p (view x.1) = true) : e.isLost = true := by
  generalize hall : e :: es = all at h
  induction h with
  | done => cases hall
  | @tick x y _ _ ih =>
    obtain ⟨hgood,hview⟩ := hc.clock x.1 hs
    exact ih hgood hx (hview.symm ▸ hp) hall
  | @call x y es call _ ih =>
    obtain ⟨s,armed⟩ := x
    obtain rfl : armed = true := hx
    obtain ⟨rfl,_⟩ := List.cons.inj hall
    rw [answer_losingOnce_lost hp]
    rfl

/-- The call that lost the connection was made in such a store, and the store is as it was. -/
theorem lost (hc : c.Serves never good view)
    (h : (c.losingOnce view p).Answers x [e] y) (hs : good x.1) (hx : x.2 = true)
    (he : e.isLost = true) : y.2 = false ∧ p (view y.1) = true := by
  generalize hall : [e] = all at h
  induction h with
  | done => cases hall
  | tick _ ih => exact ih (hc.clock _ hs).1 hx hall
  | @call x y es call hrest ih =>
    obtain ⟨s,armed⟩ := x
    obtain rfl : armed = true := hx
    obtain ⟨rfl,rfl⟩ := List.cons.inj hall
    cases hp : p (view s) with
    | true =>
      rw [answer_losingOnce_lost hp] at hrest
      obtain ⟨⟨_,hback⟩,hrun⟩ := (hc.losingOnce_back p).run hrest ⟨hs,rfl⟩
      exact ⟨hback,by rw [hrun.eq_of_nil]; exact hp⟩
    | false =>
      rw [answer_losingOnce_kept fun _ => hp] at he
      have hkept := (Run.cons (hc.answer call s hs).2 (.nil _)).isLost _ (List.mem_singleton_self _)
      exact absurd he (by simpa using hkept)

end Client.Answers

end

end IndexTrial
