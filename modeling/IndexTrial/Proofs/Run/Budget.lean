import IndexTrial.Proofs.Trial.Containment
import IndexTrial.Trial.Runner

/-!
The budget of a run. The clock is looked at before each workload, and the first reading at or past
the deadline cuts the suite: what comes before the cut is executed to its end, and what comes after
it is left out without a call, whatever the clock shows later.
-/

namespace IndexTrial

/-- The outcome of a workload that the budget left out. -/
def Workload.leftOut (w : Workload) : Outcome where
  workload := w.id
  description := w.description
  table := w.table
  status := .skipped
  generated := false
  rowCount := none
  error := some Runner.budgetExhausted
  elapsedSeconds := .zero

theorem Fault.message_generation_ne (workload reason : String) :
    (generation workload reason).message ≠ Runner.budgetExhausted := by
  have hmessage : (generation workload reason).message =
    "Data generation failed for " ++ workload ++ ": " ++ reason := rfl
  rw [hmessage]
  simp [Runner.budgetExhausted,← String.toList_inj]

/-- An execution reports no failure that reads as an exhausted budget. -/
theorem Executor.error_execute_ne {σ : Type} {o : TrialOptions} {w : Workload} {c : Client σ}
    {s t : World σ} {report : Report} (h : execute o w c s = (.ok report,t)) :
    report.outcome.error ≠ some Runner.budgetExhausted := by
  obtain ⟨_,_,_,hyields⟩ := yields_execute o w c s
  obtain ⟨a,_,hfits,⟨elapsed,houtcome⟩,_⟩ := hyields report (congrArg Prod.fst h)
  rw [houtcome]
  cases hloaded : a.loaded with
  | ok d => simp [outcomeOf]
  | error f =>
    have hdata := hfits.data
    rw [hloaded] at hdata
    obtain ⟨_,_,g,_,_,_,rfl⟩ := hdata.worded
    cases g <;> simpa [outcomeOf] using Fault.message_generation_ne _ _

namespace Runner

variable {σ : Type} {c : Client σ} {o : TrialOptions} {deadline : Nat}

/-- The workloads were executed to their end one after the other, and before each of them the clock
showed less than the deadline. -/
inductive InTime (c : Client σ) (o : TrialOptions) (deadline : Nat) :
    World σ → List Workload → List Executor.Report → World σ → Prop
  | done (s : World σ) : InTime c o deadline s [] [] s
  | next {s t u : World σ} {w : Workload} {ws : List Workload} {r : Executor.Report}
      {rs : List Executor.Report} (hclock : (c.clock s.state).1 < deadline)
      (hexecute : Executor.execute o w c ⟨(c.clock s.state).2,s.log⟩ = (.ok r,t))
      (hrest : InTime c o deadline t ws rs u) : InTime c o deadline s (w :: ws) (r :: rs) u

theorem InTime.length_eq {s u : World σ} {ws : List Workload} {rs : List Executor.Report}
    (h : InTime c o deadline s ws rs u) : rs.length = ws.length := by
  induction h with
  | done s => rfl
  | next _ _ _ ih => simp [ih]

theorem InTime.error_ne {s u : World σ} {ws : List Workload} {rs : List Executor.Report}
    (h : InTime c o deadline s ws rs u) :
    ∀ r ∈ rs, r.outcome.error ≠ some budgetExhausted := by
  induction h with
  | done s => simp
  | next _ hexecute _ ih => simpa using ⟨Executor.error_execute_ne hexecute,ih⟩

/-- The suite is cut after `k` workloads: those were executed in time, and if more were to come the
clock showed the deadline by then. -/
structure CutAfter (c : Client σ) (o : TrialOptions) (deadline : Nat) (suite : List Workload)
    (s : World σ) (k : Nat) (executed : List Executor.Report) (u : World σ) : Prop where
  le_length : k ≤ suite.length
  inTime : InTime c o deadline s (suite.take k) executed u
  late : k < suite.length → deadline ≤ (c.clock u.state).1

/-- Only the workloads after the cut end with the error of an exhausted budget. -/
theorem CutAfter.error_iff {suite : List Workload} {s u : World σ} {k : Nat}
    {executed : List Executor.Report} (h : CutAfter c o deadline suite s k executed u)
    {outcomes : List Outcome}
    (houtcomes : outcomes = executed.map (·.outcome) ++ (suite.drop k).map Workload.leftOut)
    (i : Nat) (hi : i < outcomes.length) :
    outcomes[i].error = some budgetExhausted ↔ k ≤ i := by
  have hlength : executed.length = k := by
    have hle := h.le_length
    simpa [hle] using h.inTime.length_eq
  subst houtcomes
  by_cases hk : i < k
  · have hne := h.inTime.error_ne executed[i] (List.getElem_mem (by omega))
    have hnot : ¬ k ≤ i := by omega
    rw [List.getElem_append_left (by simpa [hlength] using hk)]
    simpa [hnot] using hne
  · rw [List.getElem_append_right (by simpa [hlength] using hk)]
    simpa [Workload.leftOut] using hk

end Runner

end IndexTrial
