import IndexTrial.Measure.Measurement

/-!
What a recorder gives after any steps. Steps only add to it: a recorded duration becomes a sample with
the recorder's own labels, and a note is kept where it first came. A recorder that is finished is
complete if it got as many samples as it expects; one that is short, or that failed, has no summary.
-/

namespace IndexTrial

theorem addNotes_append (old new more : List String) :
    addNotes old (new ++ more) = addNotes (addNotes old new) more :=
  List.foldl_append

theorem addNote_eraseDups (old : List String) (n : String) :
    addNote old.eraseDups n = (old ++ [n]).eraseDups := by
  rw [List.eraseDups_append]
  by_cases h : n ∈ old <;> simp [addNote,List.removeAll,List.eraseDups_cons,h]

/-- Added notes are the concatenation without what came before. -/
theorem addNotes_eraseDups (old new : List String) :
    addNotes old.eraseDups new = (old ++ new).eraseDups := by
  induction new generalizing old with
  | nil => simp [addNotes]
  | cons n ns ih =>
    calc addNotes old.eraseDups (n :: ns)
        = addNotes (addNote old.eraseDups n) ns := rfl
      _ = (old ++ n :: ns).eraseDups := by
        rw [addNote_eraseDups,ih,List.append_assoc,List.singleton_append]

namespace Recorder

/-- What may be done with a recorder before it gives a measurement. -/
inductive Step
  | record (duration : Binary64) (time : Moment)
  | annotate (notes : List String)
  deriving DecidableEq, Repr

namespace Step

def duration? : Step → Option Binary64
  | record duration _ => some duration
  | annotate _ => none

def notes : Step → List String
  | record _ _ => []
  | annotate notes => notes

/-- The sample that a recorder makes of a step. -/
def sample? (r : Recorder) : Step → Option Sample
  | record duration time => some ⟨r.workload,r.query,r.engine,r.mode,duration,time⟩
  | annotate _ => none

theorem map_duration_sample? (r : Recorder) (step : Step) :
    (step.sample? r).map Sample.duration = step.duration? := by
  cases step <;> rfl

end Step

def apply (r : Recorder) : Step → Recorder
  | .record duration time => r.record duration time
  | .annotate notes => r.annotate notes

def after (r : Recorder) (steps : List Step) : Recorder := steps.foldl apply r

variable {r : Recorder} {steps : List Step}

/-- One step adds its sample and its notes. -/
theorem apply_eq (r : Recorder) (step : Step) :
    r.apply step = { r with
      samples := r.samples ++ (step.sample? r).toList
      annotations := addNotes r.annotations step.notes } := by
  cases step with
  | record duration time => rfl
  | annotate notes => simp [apply,annotate,Step.sample?,Step.notes]

theorem after_eq (r : Recorder) (steps : List Step) :
    r.after steps = { r with
      samples := r.samples ++ steps.filterMap (Step.sample? r)
      annotations := addNotes r.annotations (steps.flatMap Step.notes) } := by
  induction steps generalizing r with
  | nil => simp [after,addNotes]
  | cons step steps ih =>
    have hlabels : Step.sample? (r.apply step) = Step.sample? r := by
      funext next
      rw [apply_eq]
      cases next <;> rfl
    calc r.after (step :: steps)
        = (r.apply step).after steps := rfl
      _ = _ := by
        rw [ih,hlabels,apply_eq]
        cases step <;> simp [List.filterMap_cons,Step.sample?,addNotes_append]

theorem durations_after (r : Recorder) (steps : List Step) :
    (r.after steps).durations = r.durations ++ steps.filterMap Step.duration? := by
  rw [after_eq]
  simp only [durations,List.map_append,List.map_filterMap,Step.map_duration_sample?]

theorem length_durations (r : Recorder) : r.durations.length = r.samples.length :=
  List.length_map _

/-- What a measurement shows of a recorder's start and of the steps that it went through. -/
structure Shows (workload query engine : String) (mode : CacheMode) (expected : Nat)
    (steps : List Step) (m : Measurement) : Prop where
  labels : m.workload = workload ∧ m.query = query ∧ m.engine = engine ∧ m.mode = mode
  repeats : m.repeats = max 1 expected
  durations : m.samples.map Sample.duration = steps.filterMap Step.duration?
  sample_labels : ∀ s ∈ m.samples, s.workload = m.workload ∧ s.query = m.query ∧
    s.engine = m.engine ∧ s.mode = m.mode
  annotations : m.annotations = (steps.flatMap Step.notes).eraseDups
  index : m.index = none
  comparison : m.comparison = none

theorem exists_summary (h : 0 < r.samples.length) :
    ∃ s, LatencySummary.ofDurations r.durations = some s := by
  rw [← Option.ne_none_iff_exists',ne_eq,LatencySummary.ofDurations_eq_none_iff,
    ← List.length_eq_zero_iff,length_durations]
  omega

/-- A full recorder is finished with the summary of all that it recorded. -/
theorem finish_full (h : r.expected ≤ r.samples.length) : r.finish = r.conclude .ok none := by
  unfold finish
  rw [if_neg (Nat.not_lt.mpr h)]

theorem finish_short (h : r.samples.length < r.expected) :
    ∃ text, r.finish = r.conclude .incomplete (some text) := by
  unfold finish
  rw [if_pos h]
  exact ⟨_,rfl⟩

/-- What finishing makes of these durations, if so many are required. -/
structure Finished (required : Nat) (durations : List Binary64) (m : Measurement) : Prop where
  ok_iff : m.status = .ok ↔ required ≤ durations.length
  ok : m.status = .ok → m.error = none ∧
    ∃ s, m.summary = some s ∧ LatencySummary.ofDurations durations = some s
  short : m.status ≠ .ok → m.status = .incomplete ∧ m.summary = none ∧ m.error.isSome = true

structure Failed (f : Fault) (m : Measurement) : Prop where
  status : m.status = .incomplete
  summary : m.summary = none
  error : m.error = some f.message

theorem failed_fail (r : Recorder) (f : Fault) : Failed f (r.fail f) := ⟨rfl,rfl,rfl⟩

theorem finished_finish (hpos : 0 < r.expected) : Finished r.expected r.durations r.finish := by
  rcases Nat.lt_or_ge r.samples.length r.expected with h | h
  · obtain ⟨text,htext⟩ := finish_short h
    rw [htext]
    refine ⟨?_,fun hok => (by cases hok),fun _ => ⟨rfl,rfl,rfl⟩⟩
    simpa [conclude,length_durations] using h
  · obtain ⟨s,hs⟩ := exists_summary (Nat.lt_of_lt_of_le hpos h)
    rw [finish_full h]
    refine ⟨?_,fun _ => ⟨rfl,s,hs,hs⟩,fun hnot => absurd rfl hnot⟩
    simpa [conclude,length_durations] using h

section Start

variable (workload query engine : String) (mode : CacheMode) (expected : Nat) (steps : List Step)

theorem shows_conclude (status : Status) (error : Option String) :
    Shows workload query engine mode expected steps
      (((start workload query engine mode expected).after steps).conclude status error) := by
  have hnotes : addNotes [] (steps.flatMap Step.notes) = (steps.flatMap Step.notes).eraseDups := by
    simpa using addNotes_eraseDups [] (steps.flatMap Step.notes)
  rw [after_eq]
  refine ⟨⟨rfl,rfl,rfl,rfl⟩,Nat.max_comm _ _,?_,?_,hnotes,rfl,rfl⟩
  · simp [conclude,start,List.map_filterMap,Step.map_duration_sample?]
  · intro s hs
    obtain ⟨step,-,hstep⟩ : ∃ step ∈ steps, step.sample? _ = some s := by
      simpa [conclude,start] using hs
    cases step with
    | record duration time =>
      obtain rfl := Option.some.inj hstep
      exact ⟨rfl,rfl,rfl,rfl⟩
    | annotate notes => cases hstep

theorem shows_finish : Shows workload query engine mode expected steps
    ((start workload query engine mode expected).after steps).finish := by
  unfold finish
  split
  · exact shows_conclude ..
  · exact shows_conclude ..

theorem finished_after_start : Finished (max 1 expected) (steps.filterMap Step.duration?)
    ((start workload query engine mode expected).after steps).finish := by
  have hexpected : ((start workload query engine mode expected).after steps).expected =
      max 1 expected := by
    rw [after_eq]
    exact Nat.max_comm _ _
  have hdurations : ((start workload query engine mode expected).after steps).durations =
      steps.filterMap Step.duration? := durations_after _ steps
  rw [← hexpected,← hdurations]
  exact finished_finish (by omega)

end Start

end Recorder

end IndexTrial
