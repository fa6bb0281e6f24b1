import IndexTrial.Proofs.Workload.Expansion
import IndexTrial.Proofs.Workload.Overflow
import IndexTrial.Proofs.Workload.Sources

/-!
Lists of keys in queries. The keys are spaced over the rows by a quotient that is at least one, so
none is zero or comes twice, and where there are as many rows as keys the table has them all. What
is written is read back from the tokens of the query.
-/

namespace IndexTrial

/-! ### Reading a list -/

/-- The numbers of a list, up to the bracket that closes it at the end of the statement. -/
def listed? : List String → Option (List Nat)
  | t :: "," :: rest => (number? t).bind fun k => (listed? rest).map (k :: ·)
  | [t,")"] => (number? t).map ([·])
  | _ => none

/-- The keys that a query lists for a column. -/
def listedKeys? (column sql : String) : Option (List Nat) :=
  match cutLast? "WHERE" (tokens sql) with
  | some (_,c :: "IN" :: "(" :: list) => if c = column then listed? list else none
  | _ => none

/-- A list holds no words. -/
theorem not_mem_of_listed? {token : String} (hnumber : number? token = none) (hcomma : token ≠ ",")
    (hclose : token ≠ ")") {list : List String} {keys : List Nat} (h : listed? list = some keys) :
    token ∉ list := by
  have hne : ∀ {t k}, number? t = some k → token ≠ t := by
    rintro t k ht rfl
    cases hnumber.symm.trans ht
  fun_induction listed? list generalizing keys with
  | case1 t rest ih =>
    obtain ⟨k,hk,h⟩ := Option.bind_eq_some_iff.mp h
    obtain ⟨ks,hks,-⟩ := Option.map_eq_some_iff.mp h
    simp [hne hk,hcomma,ih hks]
  | case2 t =>
    obtain ⟨k,hk,-⟩ := Option.map_eq_some_iff.mp h
    simp [hne hk,hclose]
  | case3 => cases h

theorem listedKeys?_of_where {column sql : String} {before list : List String} {keys : List Nat}
    (h : tokens sql = before ++ "WHERE" :: column :: "IN" :: "(" :: list) (hcolumn : column ≠ "WHERE")
    (hlist : listed? list = some keys) : listedKeys? column sql = some keys := by
  have hwords : "WHERE" ∉ list := not_mem_of_listed? (by decide) (by decide) (by decide) hlist
  have hafter : "WHERE" ∉ column :: "IN" :: "(" :: list := by simp [hcolumn.symm,hwords]
  rw [listedKeys?,h,cutLast?_append hafter]
  simpa using hlist

/-! ### Writing a list -/

namespace Pattern

theorem tokens_keyList (keys : List Nat) :
    tokens (keyList keys) = [","].intercalate (keys.map fun k => [toString k]) := by
  refine (tokens_intercalate (by decide : IsFrame [','] [","]) _).trans ?_
  rw [List.map_map]
  exact congrArg _ (List.map_congr_left fun k _ => (isRun_toString k).tokens)

theorem listed?_intercalate {keys : List Nat} (h : keys ≠ []) :
    listed? ([","].intercalate (keys.map fun k => [toString k]) ++ [")"]) = some keys := by
  induction keys with
  | nil => exact absurd rfl h
  | cons k keys ih =>
    cases keys with
    | nil =>
      change (number? (toString k)).map ([·]) = _
      rw [number?_toString,Option.map_some]
    | cons next rest =>
      have hrest := ih (List.cons_ne_nil next rest)
      rw [List.map_cons,List.intercalate_cons_of_ne_nil (by simp)]
      simp only [List.cons_append,List.nil_append,listed?,number?_toString,hrest,Option.bind_some,
        Option.map_some]

theorem listedKeys?_keyList {table before : String} (hbefore : IsLead before) (hrun : IsRun table)
    {keys : List Nat} (h : keys ≠ []) : listedKeys? "id" (replaceText tableSlot table
      (before ++ tableSlot ++ " WHERE id IN (" ++ keyList keys ++ ")")) = some keys := by
  have hstart : ReadsOn table (before ++ tableSlot ++ " WHERE id IN (")
      (tokens before ++ [table,"WHERE","id","IN","("]) :=
    .start hbefore hrun (by decide +kernel) (by decide)
  have hopen := hstart.isOpen.append (isClosed_keyList keys)
  have htokens : tokens (replaceText tableSlot table
      (before ++ tableSlot ++ " WHERE id IN (" ++ keyList keys ++ ")")) =
        (tokens before ++ [table]) ++ "WHERE" :: "id" :: "IN" :: "(" ::
          ([","].intercalate (keys.map fun k => [toString k]) ++ [")"]) := by
    rw [hopen.replaceText_append (isClosed_ofList (by decide)),
      hstart.isOpen.replaceText_append (isClosed_keyList keys)]
    refine (tokens_tail _ (by decide : IsTail [')'] [")"])).trans ?_
    rw [tokens_append (.inl hstart.reads.apart),hstart.reads.tokens,tokens_keyList]
    simp
  exact listedKeys?_of_where htokens (by decide) (listed?_intercalate h)

/-! ### The keys of a list -/

/-- The first multiples of a distance, as many as given. -/
def multiples (distance n : Nat) : List Nat := (List.range n).map fun i => (i + 1) * distance

section

variable {distance n : Nat}

@[simp] theorem length_multiples : (multiples distance n).length = n := by simp [multiples]

theorem pairwise_multiples (h : 0 < distance) : (multiples distance n).Pairwise (· < ·) := by
  refine List.pairwise_map.mpr (List.pairwise_lt_range.imp fun hij => ?_)
  exact Nat.mul_lt_mul_of_pos_right (Nat.succ_lt_succ hij) h

theorem pos_of_mem_multiples (h : 0 < distance) : ∀ k ∈ multiples distance n, 0 < k := by
  intro k hk
  obtain ⟨i,-,rfl⟩ := List.mem_map.mp hk
  exact Nat.mul_pos i.succ_pos h

theorem le_of_mem_multiples : ∀ k ∈ multiples distance n, k ≤ n * distance := by
  intro k hk
  obtain ⟨i,hi,rfl⟩ := List.mem_map.mp hk
  exact Nat.mul_le_mul_right _ (List.mem_range.mp hi)

end

/-- There are `n` keys, from one up and in order. A table of at least as many rows has them all, at
the distance of the quotient; for a smaller table they are the first `n` numbers. -/
structure IsSpaced (rows n : Nat) (keys : List Nat) : Prop where
  length : keys.length = n
  ascending : keys.Pairwise (· < ·)
  positive : ∀ k ∈ keys, 0 < k
  even : n ≤ rows → keys = multiples (rows / n) n
  gives : n ≤ rows → ∀ k ∈ keys, KeySource.Gives ⟨.counter,rows⟩ k
  first : rows < n → keys = multiples 1 n

theorem isSpaced_spacedKeys {rows n : Nat} {keys : List Nat} (hrows : rows < 2 ^ 64) (hpos : 0 < n)
    (hn : n < 2 ^ 64) (h : spacedKeys rows n = .ok keys) : IsSpaced rows n keys := by
  obtain rfl : multiples (max (rows / n) 1) n = keys :=
    Except.ok.inj ((spacedKeys_eq hrows hpos hn).symm.trans h)
  have hdistance : 0 < max (rows / n) 1 := by omega
  have hquotient : n ≤ rows → max (rows / n) 1 = rows / n :=
    fun hle => Nat.max_eq_left (Nat.div_pos hle hpos)
  exact {
    length := length_multiples
    ascending := pairwise_multiples hdistance
    positive := pos_of_mem_multiples hdistance
    even := fun hle => by rw [hquotient hle]
    gives := fun hle k hk => by
      have hlast : k ≤ n * (rows / n) := le_of_mem_multiples k (hquotient hle ▸ hk)
      exact ⟨pos_of_mem_multiples hdistance k hk,hlast.trans (Nat.mul_div_le rows n)⟩
    first := fun hlt => by rw [Nat.div_eq_of_lt hlt]; rfl }

/-- The table's rows are counted by its key, and each query lists spaced keys. -/
structure ListsKeys (rows : Nat) (f : Fixture) : Prop where
  indexColumns : f.indexColumns = "id"
  ids : f.templates.map Query.id = ["in_5","in_500"]
  keys? : ∀ modes, (PatternWorkload.ofFixture f modes).keys? = some ⟨.counter,rows⟩
  lists : ∀ t ∈ f.templates, ∃ n keys, (t.id = "in_5" ∧ n = 5 ∨ t.id = "in_500" ∧ n = 500) ∧
    IsSpaced rows n keys ∧ ∀ table, IsRun table →
      listedKeys? "id" (replaceText tableSlot table t.sql) = some keys

theorem listsKeys_inClauseFixture {rows : Nat} {f : Fixture} (hrows : rows < 2 ^ 64)
    (h : inClauseFixture rows = .ok f) : ListsKeys rows f := by
  obtain ⟨few,hfew,h⟩ := ok_of_bind h
  obtain ⟨many,hmany,h⟩ := ok_of_bind h
  cases h
  have hfew := isSpaced_spacedKeys hrows (by decide) (by decide) hfew
  have hmany := isSpaced_spacedKeys hrows (by decide) (by decide) hmany
  have hkey : Reads "SELECT i::int4 AS id, 'data_' || i AS payload "
      ("SELECT" :: ["i",":",":","int4"] ++ ["AS","id"] ++ [",","'","data_","'","|","|","i","AS",
        "payload"]) := reads_ofList (by decide +kernel)
  refine ⟨rfl,rfl,keys?_of_text rfl rfl hkey (by decide) rfl (by decide),
    List.forall_mem_cons.mpr ⟨?_,List.forall_mem_singleton.mpr ?_⟩⟩
  · have hlist : few ≠ [] := List.ne_nil_of_length_pos (by rw [hfew.length]; decide)
    exact ⟨5,few,.inl ⟨rfl,rfl⟩,hfew,fun _ hrun => listedKeys?_keyList isLead_all hrun hlist⟩
  · have hlist : many ≠ [] := List.ne_nil_of_length_pos (by rw [hmany.length]; decide)
    exact ⟨500,many,.inr ⟨rfl,rfl⟩,hmany,fun _ hrun => listedKeys?_keyList isLead_all hrun hlist⟩

end Pattern

namespace PatternWorkload

open Pattern

/-- At every row count the workload is built, has both queries in each of the modes, and its queries
list as many spaced keys as their ids say. -/
theorem build_lists_spaced_keys {rows : Nat} (hrows : rows < 2 ^ 64) (modes : List CacheMode)
    (seed : Nat) : ∃ w, build .inClause rows modes seed = .ok w ∧
      w.keys? = some ⟨.counter,rows⟩ ∧
      w.queryKeys = ["in_5","in_500"] ×ˢ modes ∧
      ∀ q ∈ w.queries, ∃ n keys, (q.id = "in_5" ∧ n = 5 ∨ q.id = "in_500" ∧ n = 500) ∧
        listedKeys? w.indexColumns q.sql = some keys ∧ IsSpaced rows n keys := by
  have hfits : ¬Pattern.inClause.Overflows rows := by simp [Overflows]
  obtain ⟨w,hw⟩ := exists_build_of_fits hrows hfits modes seed
  obtain ⟨f,hf,rfl⟩ := build_eq_ok hw
  have hlists : ListsKeys rows f := listsKeys_inClauseFixture hrows hf
  have hkeys : (ofFixture f modes).queryKeys = ["in_5","in_500"] ×ˢ modes := by
    rw [queryKeys_ofFixture,hlists.ids]
  refine ⟨_,hw,hlists.keys? modes,hkeys,fun q hq => ?_⟩
  obtain ⟨t,ht,hq⟩ := List.mem_flatMap.mp hq
  obtain ⟨mode,_,rfl⟩ := List.mem_map.mp hq
  obtain ⟨n,keys,hn,hspaced,hread⟩ := hlists.lists t ht
  refine ⟨n,keys,hn,?_,hspaced⟩
  rw [show (ofFixture f modes).indexColumns = "id" from hlists.indexColumns]
  exact hread _ (isRun_tableName f.id)

/-- On the longest table the last of five hundred keys is one of the last rows, and on an empty one
the keys are the first five numbers. -/
theorem build_lists_spaced_keys_ends :
    (∃ w, build .inClause 18446744073709551615 [.hot] 42 = .ok w ∧ ∃ q ∈ w.queries,
      q.id = "in_500" ∧ ∃ keys, listedKeys? w.indexColumns q.sql = some keys ∧
        keys.getLast? = some 18446744073709551500) ∧
    ∃ w, build .inClause 0 [.cold] 42 = .ok w ∧ ∃ q ∈ w.queries, q.id = "in_5" ∧
      listedKeys? w.indexColumns q.sql = some [1,2,3,4,5] := by
  obtain ⟨w,hw,-,hmost,hlists⟩ :=
    build_lists_spaced_keys (by decide : 18446744073709551615 < 2 ^ 64) [.hot] 42
  obtain ⟨v,hv,-,hnone,hfew⟩ := build_lists_spaced_keys (by decide : 0 < 2 ^ 64) [.cold] 42
  have hmany : ("in_500",CacheMode.hot) ∈ w.queryKeys := by simp [hmost]
  have hfive : ("in_5",CacheMode.cold) ∈ v.queryKeys := by simp [hnone]
  obtain ⟨q,hq,hid⟩ := List.mem_map.mp hmany
  obtain ⟨r,hr,hrid⟩ := List.mem_map.mp hfive
  obtain ⟨n,keys,hn,hread,hspaced⟩ := hlists q hq
  obtain ⟨m,others,hm,hothers,hfirst⟩ := hfew r hr
  simp only [Prod.mk.injEq] at hid hrid
  obtain rfl : n = 500 := by simpa [hid.1] using hn
  obtain rfl : m = 5 := by simpa [hrid.1] using hm
  refine ⟨⟨w,hw,q,hq,hid.1,keys,hread,?_⟩,v,hv,r,hr,hrid.1,?_⟩
  · rw [hspaced.even (by decide),multiples,List.getLast?_map,List.getLast?_range]
    rfl
  · rw [hothers,hfirst.first (by decide)]
    rfl

end PatternWorkload

end IndexTrial
