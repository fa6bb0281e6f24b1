import IndexTrial.Proofs.Store.Serving

/-!
A rehearsal keeps a store. Its rules come first, so they must leave the store and the truth alone:
those that answer at all answer with faults that are excused.
-/

namespace IndexTrial

namespace Rule

/-- The first rule stays in force, up to its counts. Either it replies, to a statement that it
matches, or the rules after it are consulted. -/
theorem consult_cons (sql : String) (r : Rule) (rules : List Rule) :
    ∃ r' t, r'.pattern = r.pattern ∧ r'.reply = r.reply ∧
      ((∃ reply, hasText sql r.pattern = true ∧ r.reply = some reply ∧
        consult sql (r :: rules) = (r' :: rules,t,some reply)) ∨
      consult sql (r :: rules) = (r' :: (consult sql rules).1,t,(consult sql rules).2.2)) := by
  rw [consult]
  split
  · exact ⟨r,_,rfl,rfl,.inr rfl⟩
  · rename_i hmatch
    split
    · exact ⟨{ r with pass := r.pass - 1 },_,rfl,rfl,.inr rfl⟩
    · split
      · exact ⟨r,_,rfl,rfl,.inr rfl⟩
      · split
        · rename_i reply hreply
          exact ⟨r.use,_,rfl,rfl,.inl ⟨reply,by simpa using hmatch,hreply,rfl⟩⟩
        · exact ⟨r.use,_,rfl,rfl,.inr rfl⟩

/-- A rule that stays in force is one of those before, up to its counts. -/
theorem mem_consult {sql : String} {rules : List Rule} {r : Rule}
    (h : r ∈ (consult sql rules).1) : ∃ r' ∈ rules, r'.pattern = r.pattern ∧ r'.reply = r.reply := by
  induction rules with
  | nil => simp [consult] at h
  | cons r' rules ih =>
    obtain ⟨used,t,hpattern,hreply,⟨_,_,_,hconsult⟩ | hconsult⟩ := consult_cons sql r' rules
    · rw [hconsult] at h
      rcases List.mem_cons.mp h with rfl | h
      · exact ⟨r',List.mem_cons_self,hpattern.symm,hreply.symm⟩
      · exact ⟨r,List.mem_cons_of_mem r' h,rfl,rfl⟩
    · rw [hconsult] at h
      rcases List.mem_cons.mp h with rfl | h
      · exact ⟨r',List.mem_cons_self,hpattern.symm,hreply.symm⟩
      · obtain ⟨r'',hr'',hsame⟩ := ih h
        exact ⟨r'',List.mem_cons_of_mem r' hr'',hsame⟩

/-- A reply comes from a rule that matches the statement. -/
theorem matches_of_consult {sql : String} {rules : List Rule} {reply : Except Fault Execution}
    (h : (consult sql rules).2.2 = some reply) :
    ∃ r ∈ rules, hasText sql r.pattern = true ∧ r.reply = some reply := by
  induction rules with
  | nil => simp [consult] at h
  | cons r rules ih =>
    obtain ⟨used,t,-,-,⟨reply',hmatch,hreply,hconsult⟩ | hconsult⟩ := consult_cons sql r rules
    · rw [hconsult] at h
      cases h
      exact ⟨r,List.mem_cons_self,hmatch,hreply⟩
    · rw [hconsult] at h
      obtain ⟨r',hr',hfound⟩ := ih h
      exact ⟨r',List.mem_cons_of_mem r hr',hfound⟩

end Rule

namespace Rehearsal

/-- A rehearsal without lies, whose failures are excused. -/
structure Honest (excused : Exchange → Prop) (r : Rehearsal) : Prop where
  rows : 0 < r.createRows ∧ r.createRows < 2 ^ 64
  capacity : ∀ f, r.capacity = .error f → f.isFatal = false
  evictions : ∀ reply ∈ r.evictions, ∀ f, reply = .error f → f.isFatal = false
  fileEvictions : ∀ reply ∈ r.fileEvictions, ∀ f, reply = .error f → f.isFatal = false
  rules : ∀ rule ∈ r.rules, ∀ reply, rule.reply = some reply →
    ∃ f, reply = .error f ∧ ∀ sql, hasText sql rule.pattern = true → excused ⟨.execute sql,.error f⟩

/-- Of a rehearsal that is as usual but for its rules, only the rules matter. -/
theorem honest_of_rules {excused : Exchange → Prop} (store : Store) {rules : List Rule}
    (hrules : ∀ rule ∈ rules, ∀ reply, rule.reply = some reply →
      ∃ f, reply = .error f ∧ ∀ sql, hasText sql rule.pattern = true → excused ⟨.execute sql,.error f⟩) :
    ({ rules, store } : Rehearsal).Honest excused where
  rows := by simp
  capacity := by simp
  evictions := by simp
  fileEvictions := by simp
  rules := hrules

theorem nextReply_mem {replies : List (Except Fault Eviction)} {f : Fault}
    (h : (nextReply replies).1 = .error f) : .error f ∈ replies := by
  unfold nextReply at h
  split at h
  · cases h
  · simp [← h]
  · simp [← h]

theorem nextReply_subset {replies : List (Except Fault Eviction)} :
    ∀ reply ∈ (nextReply replies).2, reply ∈ replies := by
  unfold nextReply
  split <;> simp_all

/-- What a statement returns is the truth, and of the rehearsal only the count of its queries
changes. -/
theorem answerStatement_honest {excused : Exchange → Prop} {r : Rehearsal} (hr : r.Honest excused)
    (q : Statement) : (r.answerStatement q).2.Honest excused ∧
      (r.answerStatement q).2.store = r.store ∧ r.store.Tells q (r.answerStatement q).1 := by
  have hquiet : ∀ x : Execution, (∀ name, q ≠ .hasRelation name) → (∀ table, q ≠ .countRows table) →
      r.store.Tells q x := fun x h₁ h₂ =>
    ⟨fun name h => absurd h (h₁ name),fun table h => absurd h (h₂ table)⟩
  cases q with
  | hasRelation name =>
    refine ⟨hr,rfl,fun _ h => ?_,by simp⟩
    cases h
    rfl
  | countRows table =>
    refine ⟨hr,rfl,by simp,fun _ h => ?_⟩
    cases h
    rfl
  | select =>
    refine ⟨?_,?_,hquiet _ (by simp) (by simp)⟩
    · change r.answerSelect.2.Honest excused
      unfold answerSelect
      split
      · exact hr
      · exact ⟨hr.rows,hr.capacity,hr.evictions,hr.fileEvictions,hr.rules⟩
    · change r.answerSelect.2.store = r.store
      unfold answerSelect
      split <;> rfl
  | _ => exact ⟨hr,rfl,hquiet _ (by simp) (by simp)⟩

theorem execute_honest {excused : Exchange → Prop} {r : Rehearsal} (hr : r.Honest excused)
    (sql : String) : (r.execute sql).2.Honest excused ∧
      Store.Step excused r.store ⟨.execute sql,(r.execute sql).1⟩ (r.execute sql).2.store := by
  have hconsult := @Rule.mem_consult sql r.rules
  have hmatches := @Rule.matches_of_consult sql r.rules
  unfold Rehearsal.execute
  generalize Rule.consult sql r.rules = consulted at hconsult hmatches
  obtain ⟨rules,slept,reply⟩ := consulted
  have hconsulted : ({ r with rules, clock := r.clock + slept } : Rehearsal).Honest excused := by
    refine ⟨hr.rows,hr.capacity,hr.evictions,hr.fileEvictions,fun rule hrule reply hreply => ?_⟩
    obtain ⟨rule',hrule',hpattern,hreply'⟩ := hconsult hrule
    rw [← hpattern]
    exact hr.rules rule' hrule' reply (hreply'.trans hreply)
  cases reply with
  | some reply =>
    obtain ⟨rule,hrule,hmatch,hreply⟩ := hmatches rfl
    obtain ⟨f,rfl,hexcused⟩ := hr.rules rule hrule _ hreply
    exact ⟨hconsulted,.failed (hexcused sql hmatch)⟩
  | none =>
    dsimp only
    cases happly : r.store.apply r.createRows (.read sql) with
    | error g =>
      obtain ⟨hg,hrows⟩ := Store.apply_error happly
      exact ⟨hconsulted,.refused (hrows 1) hg⟩
    | ok store =>
      have hstored : ({ r with rules, clock := r.clock + slept, store } : Rehearsal).Honest excused :=
        ⟨hr.rows,hr.capacity,hr.evictions,hr.fileEvictions,hconsulted.rules⟩
      obtain ⟨hafter,hstore,htells⟩ := answerStatement_honest hstored (.read sql)
      dsimp only
      generalize Rehearsal.answerStatement _ _ = answered at hafter hstore htells ⊢
      exact ⟨hafter,.done hr.rows.1 hr.rows.2 (hstore ▸ happly) (htells.before happly)⟩

/-- A rehearsal without lies serves its store. -/
theorem serves (excused : Exchange → Prop) :
    client.Serves excused (Honest excused) Rehearsal.store where
  answer call r hr := by
    cases call with
    | execute sql => exact execute_honest hr sql
    | evictRelation relation =>
      exact ⟨⟨hr.rows,hr.capacity,fun reply h => hr.evictions reply (nextReply_subset reply h),
        hr.fileEvictions,hr.rules⟩,.aside (by simp) fun f h => hr.evictions _ (nextReply_mem h) f rfl⟩
    | evictFiles relation =>
      exact ⟨⟨hr.rows,hr.capacity,hr.evictions,fun reply h => hr.fileEvictions reply
        (nextReply_subset reply h),hr.rules⟩,.aside (by simp) fun f h =>
          hr.fileEvictions _ (nextReply_mem h) f rfl⟩
    | readCapacity => exact ⟨hr,.aside (by simp) hr.capacity⟩
  clock r hr := ⟨hr,rfl⟩

end Rehearsal

end IndexTrial
