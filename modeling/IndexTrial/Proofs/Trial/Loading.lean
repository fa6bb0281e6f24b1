import IndexTrial.Proofs.Session.Loss
import IndexTrial.Trial.Executor

/-!
The data of a workload, read off the exchanges: what a script comes to with the replies that it got,
what a count of rows says, and when the data are found, loaded, or missing.
-/

namespace IndexTrial

namespace LoadScript

/-- With these exchanges the script comes to this outcome. -/
inductive Plays : LoadScript → List Exchange → Except Fault Unit → Prop
  | stop (outcome : Except Fault Unit) : Plays (stop outcome) [] outcome
  | run {call : Call} {next : Except Fault call.Answer → LoadScript}
      {reply : Except Fault call.Answer} {es : List Exchange} {outcome : Except Fault Unit}
      (h : Plays (next reply) es outcome) : Plays (run call next) (⟨call,reply⟩ :: es) outcome

theorem ensures_play {σ : Type} (s : LoadScript) : (s.play : Session σ Unit).Ensures s.Plays := by
  induction s with
  | stop outcome => exact fun _ w => ⟨[],(List.append_nil _).symm,.done w.state,.stop outcome⟩
  | run call next ih =>
    intro c w
    obtain ⟨es,hlog,hans,hp⟩ := ih (Session.ask call c w).1 c (Session.ask call c w).2
    have hrun : play (run call next) c w =
        play (next (Session.ask call c w).1) c (Session.ask call c w).2 := rfl
    rw [hrun]
    refine ⟨_ :: es,?_,.call call hans,.run hp⟩
    rw [hlog]
    simp [Session.ask]

/-- The script stops at a lost connection with its very fault, and never comes to a fatal fault
by itself. Other faults it may pass on, reword or pass over. -/
inductive Forwards : LoadScript → Prop
  | stop {outcome : Except Fault Unit} (h : ∀ f, outcome = .error f → f.isFatal = false) :
      Forwards (stop outcome)
  | run {call : Call} {next : Except Fault call.Answer → LoadScript}
      (hlost : ∀ f, f.isFatal = true → next (.error f) = stop (.error f))
      (hnext : ∀ reply, (∀ f, reply = .error f → f.isFatal = false) → Forwards (next reply)) :
      Forwards (run call next)

theorem forwards_ofStatements {describe : Fault → Fault}
    (hd : ∀ f, (describe f).isFatal = f.isFatal) (hd' : ∀ f, f.isFatal = true → describe f = f)
    (statements : List String) : Forwards (ofStatements describe statements) := by
  induction statements with
  | nil => exact .stop (by simp)
  | cons sql rest ih =>
    refine .run (fun f hf => by simp [hd' f hf]) fun reply hreply => ?_
    cases reply with
    | ok a => exact ih
    | error f =>
      refine .stop fun g hg => ?_
      cases hg
      rw [hd]
      exact hreply f rfl

theorem Forwards.lossAtEnd {s : LoadScript} {es : List Exchange} {outcome : Except Fault Unit}
    (hs : s.Forwards) (h : s.Plays es outcome) :
    LossAtEnd es ((faultOf outcome).filter Fault.isFatal) := by
  induction h with
  | stop outcome =>
    cases hs with
    | stop hstop =>
      cases outcome with
      | ok u => exact .never (by simp)
      | error f =>
        have hnever : LossAtEnd [] none := .never (by simp)
        simpa [Option.filter_some,hstop f rfl] using hnever
  | @run call next reply es outcome h ih =>
    cases hs with
    | run hlost hnext =>
      by_cases hf : ∃ f, reply = .error f ∧ f.isFatal = true
      · obtain ⟨f,rfl,hf⟩ := hf
        rw [hlost f hf] at h
        cases h
        exact LossAtEnd.single (.error f)
      · have hkeeps : ∀ f, reply = .error f → f.isFatal = false := by simpa using hf
        have hone := LossAtEnd.single reply
        have hnone : (faultOf reply).filter Fault.isFatal = none := by
          cases reply with
          | ok a => rfl
          | error f => simp [Option.filter_some,hkeeps f rfl]
        rw [hnone] at hone
        exact hone.append (ih (hnext reply hkeeps))

theorem Forwards.passesLoss {σ : Type} {s : LoadScript} (hs : s.Forwards) :
    (s.play : Session σ Unit).PassesLoss :=
  s.ensures_play.mono fun _ _ h => hs.lossAtEnd h

end LoadScript

/-- What a count of a table's rows comes to: the table is looked up first, and counted if there. -/
inductive RowCount (table : String) : List Exchange → Except Fault (Option Nat) → Prop
  | unknown (f : Fault) :
      RowCount table [⟨.execute s!"SELECT to_regclass('{table}') IS NOT NULL;",.error f⟩] (.error f)
  | absent (x : Execution) (hx : x.scalar ≠ some "t" ∧ x.scalar ≠ some "true") :
      RowCount table [⟨.execute s!"SELECT to_regclass('{table}') IS NOT NULL;",.ok x⟩] (.ok none)
  | uncounted (x : Execution) (f : Fault) (hx : x.scalar = some "t" ∨ x.scalar = some "true") :
      RowCount table [⟨.execute s!"SELECT to_regclass('{table}') IS NOT NULL;",.ok x⟩,
        ⟨.execute s!"SELECT count(*) FROM {table};",.error f⟩] (.error f)
  | counted (x y : Execution) (hx : x.scalar = some "t" ∨ x.scalar = some "true") :
      RowCount table [⟨.execute s!"SELECT to_regclass('{table}') IS NOT NULL;",.ok x⟩,
        ⟨.execute s!"SELECT count(*) FROM {table};",.ok y⟩] (.ok (some (Session.countOf y.scalar)))

theorem ensures_relationExists {σ : Type} (relation : String) :
    (Session.relationExists relation : Session σ Bool).Ensures fun es r =>
      ∃ reply : Except Fault Execution,
        es = [⟨.execute s!"SELECT to_regclass('{relation}') IS NOT NULL;",reply⟩] ∧
        r = reply.map fun x => x.scalar == some "t" || x.scalar == some "true" :=
  Session.ensures_ask_map (.execute _) _

theorem ensures_tableRowCount {σ : Type} (table : String) :
    (Session.tableRowCount table : Session σ (Option Nat)).Ensures (RowCount table) := by
  refine Session.Ensures.bind (ensures_relationExists table) ?_ ?_
  · rintro es f ⟨reply,rfl,hr⟩
    cases reply with
    | ok x => cases hr
    | error g =>
      cases hr
      exact .unknown f
  · rintro es there ⟨reply,rfl,hr⟩
    cases reply with
    | error g => cases hr
    | ok x =>
      obtain rfl : there = _ := Except.ok.inj hr
      split
      · rename_i hx
        have hx' : x.scalar = some "t" ∨ x.scalar = some "true" := by simpa using hx
        refine Session.Ensures.bind (Session.ensures_ask _) ?_ ?_
        · rintro fs f rfl
          exact .uncounted x f hx'
        · rintro fs y rfl
          exact Session.Ensures.pure (.counted x y hx')
      · rename_i hx
        exact Session.Ensures.pure (.absent x (by simpa using hx))

/-- A workload of one statement to load and two queries. -/
def Workload.hotAndCold : Workload where
  id := "lookup"
  description := ""
  table := "t"
  indexColumns := "k"
  queries := [{ id := "hot", sql := "SELECT 1;", shape := .custom 2 },
    { id := "cold", sql := "SELECT 2;", shape := .custom 2, mode := .cold }]
  loading := .ofStatements (Fault.asGeneration "lookup") ["CREATE TABLE t AS SELECT 1 AS k;"]

namespace Executor

/-- The rows that a workload finds before it loads any. -/
inductive RowsFound (o : TrialOptions) (table : String) : List Exchange → Option Nat → Prop
  | unasked (h : o.reuseData = false) : RowsFound o table [] none
  | some {es : List Exchange} {rows : Nat} (h : o.reuseData = true)
      (hes : RowCount table es (.ok (some rows))) (hrows : 0 < rows) :
      RowsFound o table es (some rows)
  | none {es : List Exchange} {r : Except Fault (Option Nat)} (h : o.reuseData = true)
      (hes : RowCount table es r) (hr : ∀ rows, r = .ok (some rows) → rows = 0)
      (hf : ∀ f, r = .error f → f.isFatal = false) : RowsFound o table es none

/-- The data of a workload: found, loaded and counted, or not to be had. Only the loading can fail,
and a failure that is not one of loading already is worded as one. -/
inductive DataPhase (o : TrialOptions) (w : Workload) :
    List Exchange → Except Fault (Bool × Option Nat) → Prop
  | found {look : List Exchange} {rows : Nat} (hlook : RowsFound o w.table look (.some rows)) :
      DataPhase o w look (.ok (false,.some rows))
  | loaded {look load count : List Exchange} {r : Except Fault (Option Nat)}
      (hlook : RowsFound o w.table look .none) (hload : w.loading.Plays load (.ok ()))
      (hcount : RowCount w.table count r) (hf : ∀ f, r = .error f → f.isFatal = false) :
      DataPhase o w (look ++ load ++ count) (.ok (true,r.toOption.join))
  | failed {look load : List Exchange} {f : Fault} (hlook : RowsFound o w.table look .none)
      (hload : w.loading.Plays load (.error f)) (hf : f.isFatal = false) :
      DataPhase o w (look ++ load) (.error (f.asGeneration w.id))

/-- The connection was lost over the data: while they were looked for, loaded, or counted. -/
inductive DataCut (o : TrialOptions) (w : Workload) : List Exchange → Fault → Prop
  | looking {look : List Exchange} {f : Fault} (h : o.reuseData = true)
      (hlook : RowCount w.table look (.error f)) (hf : f.isFatal = true) : DataCut o w look f
  | loading {look load : List Exchange} {f : Fault} (hlook : RowsFound o w.table look .none)
      (hload : w.loading.Plays load (.error f)) (hf : f.isFatal = true) :
      DataCut o w (look ++ load) f
  | counting {look load count : List Exchange} {f : Fault}
      (hlook : RowsFound o w.table look .none) (hload : w.loading.Plays load (.ok ()))
      (hcount : RowCount w.table count (.error f)) (hf : f.isFatal = true) :
      DataCut o w (look ++ load ++ count) f

theorem DataCut.isFatal {o : TrialOptions} {w : Workload} {es : List Exchange} {f : Fault}
    (h : DataCut o w es f) : f.isFatal = true := by
  cases h <;> assumption

theorem ensures_reusableRows {σ : Type} (o : TrialOptions) (table : String) :
    (reusableRows o table : Session σ (Option Nat)).Ensures fun es r =>
      match r with
      | .ok found => RowsFound o table es found
      | .error f => o.reuseData = true ∧ RowCount table es (.error f) ∧ f.isFatal = true := by
  unfold reusableRows
  split
  · rename_i ho
    refine Session.Ensures.bind (ensures_tableRowCount table).handed
      (fun es f h => ⟨ho,h.1,h.2⟩) ?_
    intro es handed h
    obtain ⟨hes,hf⟩ := h
    cases handed with
    | error f => exact Session.Ensures.pure (.none ho (by simpa using hes) (by simp) hf)
    | ok there =>
      cases there with
      | none => exact Session.Ensures.pure (.none ho (by simpa using hes) (by simp) hf)
      | some rows =>
        refine Session.Ensures.pure ?_
        rw [List.append_nil]
        by_cases hrows : 0 < rows
        · simpa [hrows] using RowsFound.some ho hes hrows
        · simpa [hrows] using RowsFound.none ho hes (fun n hn => by simp at hn; omega) hf
  · rename_i ho
    exact Session.Ensures.pure (.unasked (by simpa using ho))

theorem ensures_ensureData {σ : Type} (o : TrialOptions) (w : Workload) :
    (ensureData o w : Session σ (Bool × Option Nat)).Ensures fun es r =>
      DataPhase o w es r ∨ ∃ f, r = .error f ∧ DataCut o w es f := by
  refine Session.Ensures.bind (ensures_reusableRows o w.table)
    (fun es f h => .inr ⟨f,rfl,.looking h.1 h.2.1 h.2.2⟩) ?_
  intro look found hlook
  cases found with
  | some rows =>
    refine Session.Ensures.pure (.inl ?_)
    rw [List.append_nil]
    exact .found hlook
  | none =>
    refine Session.Ensures.bind (Session.Ensures.mapFault
      (P := fun load r => ∃ outcome, w.loading.Plays load outcome ∧
        r = outcome.mapError (Fault.asGeneration w.id))
      (w.loading.ensures_play.mono fun load outcome h => ⟨outcome,h,rfl⟩)) ?_ ?_
    · rintro load f ⟨outcome,hload,hr⟩
      cases outcome with
      | ok u => cases hr
      | error g =>
        cases hr
        cases hg : g.isFatal with
        | true =>
          rw [Fault.asGeneration_of_isFatal w.id hg]
          exact .inr ⟨_,rfl,.loading hlook hload hg⟩
        | false => exact .inl (.failed hlook hload hg)
    · rintro load u ⟨outcome,hload,hr⟩
      cases outcome with
      | error g => cases hr
      | ok u =>
        refine Session.Ensures.bind (ensures_tableRowCount w.table).handed
          (fun count f h => .inr ⟨f,rfl,?_⟩) ?_
        · rw [← List.append_assoc]
          exact .counting hlook hload h.1 h.2
        intro count handed h
        obtain ⟨hcount,hf⟩ := h
        have hphase := DataPhase.loaded hlook hload hcount hf
        have hes : look ++ (load ++ (count ++ [])) = look ++ load ++ count := by simp
        cases handed <;> exact Session.Ensures.pure (.inl (by rw [hes]; exact hphase))

end Executor

end IndexTrial
