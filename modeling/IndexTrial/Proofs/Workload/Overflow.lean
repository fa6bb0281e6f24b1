import IndexTrial.Proofs.Store.Texts
import IndexTrial.Workload.Suite

/-!
The arithmetic of a workload's construction. Two products may leave the 64-bit words; every other
product, sum, quotient and slice has a result, at every row count that is a word.
-/

namespace IndexTrial

theorem bind_eq_error_iff {ε α β : Type} {x : Except ε α} {f : α → Except ε β} {e : ε} :
    x >>= f = .error e ↔ x = .error e ∨ ∃ a, x = .ok a ∧ f a = .error e := by
  cases x with
  | error d => simp [bind,Except.bind]
  | ok a => simp [bind,Except.bind]

theorem mapM_eq_ok {ε α β : Type} {f : α → Except ε β} {g : α → β} {xs : List α}
    (h : ∀ x ∈ xs, f x = .ok (g x)) : xs.mapM f = .ok (xs.map g) := by
  induction xs with
  | nil => rfl
  | cons x xs ih =>
    obtain ⟨hx,hxs⟩ := List.forall_mem_cons.mp h
    rw [List.mapM_cons,hx,ih hxs]
    rfl

theorem exists_of_mapM {ε α β : Type} {f : α → Except ε β} {xs : List α} {ys : List β}
    (h : xs.mapM f = .ok ys) : ∀ x ∈ xs, ∃ y ∈ ys, f x = .ok y := by
  induction xs generalizing ys with
  | nil => simp
  | cons x xs ih =>
    rw [List.mapM_cons] at h
    obtain ⟨y,hy,h⟩ := ok_of_bind h
    obtain ⟨rest,hrest,h⟩ := ok_of_bind h
    cases h
    refine List.forall_mem_cons.mpr ⟨⟨y,List.mem_cons_self,hy⟩,fun z hz => ?_⟩
    obtain ⟨v,hv,hvz⟩ := ih hrest z hz
    exact ⟨v,List.mem_cons_of_mem _ hv,hvz⟩

theorem mulWord_eq_error_iff {a b : Nat} {e : WordFault} :
    mulWord a b = .error e ↔ e = .multiplicationOverflow ∧ 2 ^ 64 ≤ a * b := by
  grind [mulWord]

theorem addWord64_of_lt {a b : Nat} (h : a + b < 2 ^ 64) : addWord64 a b = .ok (a + b) := if_pos h

namespace Pattern

variable {rows : Nat}

/-- The products that may leave the words. -/
def Overflows (p : Pattern) (rows : Nat) : Prop :=
  p = .backwardScan ∧ 2 ^ 64 ≤ rows * 9 ∨ p = .dataType .int8 ∧ 2 ^ 64 ≤ rows * 2

/-- The last of the spaced keys is at most the number of rows, or their number if there are fewer
rows than keys. -/
theorem spacedKeys_eq {n : Nat} (hrows : rows < 2 ^ 64) (hpos : 0 < n) (hn : n < 2 ^ 64) :
    spacedKeys rows n = .ok ((List.range n).map fun i => (i + 1) * max (rows / n) 1) := by
  have hlast : n * max (rows / n) 1 < 2 ^ 64 := by
    rcases Nat.eq_zero_or_pos (rows / n) with hzero | hquotient
    · simpa [hzero] using hn
    · rw [Nat.max_eq_left hquotient]
      exact Nat.lt_of_le_of_lt (Nat.mul_div_le rows n) hrows
  rw [spacedKeys,divWord_of_pos hpos]
  refine mapM_eq_ok fun i hi => mulWord_eq_ok_iff.mpr ⟨?_,rfl⟩
  exact Nat.lt_of_le_of_lt (Nat.mul_le_mul_right _ (List.mem_range.mp hi)) hlast

theorem keyDomain_eq_error_iff {key : KeyType} {fault : WordFault} :
    keyDomain key rows = .error fault ↔
      fault = .multiplicationOverflow ∧ key ≠ .int2 ∧ 2 ^ 64 ≤ rows * 2 := by
  cases key with
  | int2 => simp [keyDomain,pure,Except.pure,bind,Except.bind]
  | int8 | date =>
    simp [keyDomain,bind_eq_error_iff,mulWord_eq_error_iff,pure,Except.pure]

/-- The middle of a domain and a hundredth of the rows do not go beyond the rows. -/
theorem addWord64_middle (hrows : rows < 2 ^ 64) (domain : Nat) :
    addWord64 (min domain rows / 2) (rows / 100) = .ok (min domain rows / 2 + rows / 100) :=
  addWord64_of_lt (by omega)

theorem integerKeyTemplates_eq_error_iff {key : KeyType} {fault : WordFault}
    (hrows : rows < 2 ^ 64) : integerKeyTemplates key rows = .error fault ↔
      fault = .multiplicationOverflow ∧ key ≠ .int2 ∧ 2 ^ 64 ≤ rows * 2 := by
  rw [integerKeyTemplates,bind_eq_error_iff,keyDomain_eq_error_iff,or_iff_left]
  rintro ⟨domain,-,hfault⟩
  simp [addWord64_middle hrows,pure,Except.pure,bind,Except.bind] at hfault

theorem fixture_eq_error_iff {p : Pattern} {seed : Nat} {fault : WordFault}
    (hrows : rows < 2 ^ 64) : p.fixture rows seed = .error fault ↔
      fault = .multiplicationOverflow ∧ p.Overflows rows := by
  cases p with
  | backwardScan =>
    simp [fixture,Overflows,backwardScanFixture,bind_eq_error_iff,mulWord_eq_error_iff,pure,
      Except.pure]
  | inClause =>
    have hfew := spacedKeys_eq hrows (n := 5) (by decide) (by decide)
    have hmany := spacedKeys_eq hrows (n := 500) (by decide) (by decide)
    simp [fixture,Overflows,inClauseFixture,hfew,hmany,pure,Except.pure,bind,Except.bind]
  | includeOverhead columns => simp [fixture,Overflows,includeOverheadFixture_eq]
  | dataType key =>
    cases key with
    | date => simp [fixture,Overflows,dataTypeFixture,pure,Except.pure,bind,Except.bind]
    | int2 | int8 =>
      simp [fixture,Overflows,dataTypeFixture,bind_eq_error_iff,
        integerKeyTemplates_eq_error_iff hrows,pure,Except.pure]
  | indexOnly =>
    have hnear : addWord64 (rows / 10) (rows / 100) = .ok (rows / 10 + rows / 100) :=
      addWord64_of_lt (by omega)
    simp [fixture,Overflows,indexOnlyFixture,hnear,pure,Except.pure,bind,Except.bind]
  | _ => simp [fixture,Overflows]

end Pattern

namespace PatternWorkload

theorem build_eq_error_iff {p : Pattern} {rows seed : Nat} {modes : List CacheMode}
    {fault : WordFault} :
    build p rows modes seed = .error fault ↔ p.fixture rows seed = .error fault := by
  cases hfixture : p.fixture rows seed <;> simp [build,hfixture,Except.map]

theorem exists_build_of_fits {p : Pattern} {rows : Nat} (hrows : rows < 2 ^ 64)
    (h : ¬p.Overflows rows) (modes : List CacheMode) (seed : Nat) :
    ∃ w, build p rows modes seed = .ok w := by
  cases hbuild : build p rows modes seed with
  | ok w => exact ⟨w,rfl⟩
  | error fault =>
    exact absurd ((Pattern.fixture_eq_error_iff hrows).mp (build_eq_error_iff.mp hbuild)).2 h

/-- A ninth of the words leaves room for every product. -/
theorem exists_build {rows : Nat} (h : rows * 9 < 2 ^ 64) (p : Pattern) (modes : List CacheMode)
    (seed : Nat) : ∃ w, build p rows modes seed = .ok w := by
  refine exists_build_of_fits (by omega) ?_ modes seed
  rintro (⟨-,hover⟩ | ⟨-,hover⟩)
  · omega
  · omega

theorem mul_nine_lt {s : Scale} {rows : Nat} (h : rows ∈ s.profile.rowCounts) :
    rows * 9 < 2 ^ 64 := by
  have hcounts : ∀ n ∈ s.profile.rowCounts, n * 9 < 2 ^ 64 := by
    cases s <;> decide
  exact hcounts rows h

/-- The only faults of a construction are the products that leave the words, and no row count of a
scale comes near them. -/
theorem build_fails_iff_overflows {rows : Nat} (hrows : rows < 2 ^ 64) (p : Pattern)
    (modes : List CacheMode) (seed : Nat) :
    (∀ fault, build p rows modes seed = .error fault ↔
      fault = .multiplicationOverflow ∧ p.Overflows rows) ∧
    ∀ s : Scale, ∀ n ∈ s.profile.rowCounts, ∃ w, build p n modes seed = .ok w :=
  ⟨fun _ => build_eq_error_iff.trans (Pattern.fixture_eq_error_iff hrows),
    fun _ _ hn => exists_build (mul_nine_lt hn) p modes seed⟩

/-- The least row count at which backward scans overflow, and the one before. -/
theorem build_fails_iff_overflows_backwardScan :
    2049638230412172402 < 2 ^ 64 ∧
    build .backwardScan 2049638230412172402 [.hot] 42 = .error .multiplicationOverflow ∧
    ∃ w, build .backwardScan 2049638230412172401 [.hot] 42 = .ok w := by
  refine ⟨by decide,?_,exists_build (by decide) _ _ _⟩
  exact ((build_fails_iff_overflows (by decide) _ _ _).1 _).mpr ⟨rfl,.inl ⟨rfl,by decide⟩⟩

end PatternWorkload

namespace Suite

theorem exists_buildAll {rows : Nat} (h : rows * 9 < 2 ^ 64) (seed : Nat)
    (patterns : List (Pattern × List CacheMode)) :
    ∃ suite, buildAll rows seed patterns = .ok suite := by
  have heach : ∀ x : Pattern × List CacheMode, ∃ w,
      PatternWorkload.build x.1 rows x.2 seed = .ok w :=
    fun x => PatternWorkload.exists_build h x.1 x.2 seed
  choose built hbuilt using heach
  exact ⟨_,mapM_eq_ok fun x _ => hbuilt x⟩

theorem exists_quick (env : Environment) (seed : Nat) : ∃ suite, quick env seed = .ok suite := by
  have hrows : env.scale.profile.rowCounts.headD 100000 * 9 < 2 ^ 64 := by
    cases env.scale <;> decide
  rw [quick]
  generalize env.scale.profile.rowCounts.headD 100000 = rows at hrows ⊢
  obtain ⟨head,hhead⟩ := exists_buildAll hrows seed quickHead
  obtain ⟨tail,htail⟩ := exists_buildAll hrows seed quickTail
  obtain ⟨w,hw⟩ := PatternWorkload.exists_build hrows quickParallel [.hot] seed
  by_cases hworkers : 0 < quickWorkers env
  · simp [hhead,htail,hw,hworkers,pure,Except.pure,bind,Except.bind]
  · simp [hhead,htail,hworkers,pure,Except.pure,bind,Except.bind]

/-- The last workloads of a quick run. -/
theorem exists_quickTail {env : Environment} {seed : Nat} {suite : List PatternWorkload}
    (h : quick env seed = .ok suite) : ∃ front tail,
      buildAll (env.scale.profile.rowCounts.headD 100000) seed quickTail = .ok tail ∧
        suite = front ++ tail := by
  obtain ⟨head,_,h⟩ := ok_of_bind h
  dsimp only at h
  split at h
  · obtain ⟨parallel,_,h⟩ := ok_of_bind h
    obtain ⟨middle,_,h⟩ := ok_of_bind h
    obtain ⟨tail,htail,h⟩ := ok_of_bind h
    cases h
    exact ⟨_,tail,htail,rfl⟩
  · obtain ⟨middle,_,h⟩ := ok_of_bind h
    obtain ⟨tail,htail,h⟩ := ok_of_bind h
    cases h
    exact ⟨_,tail,htail,rfl⟩

theorem exists_addCore {rows : Nat} (h : rows * 9 < 2 ^ 64) (modes : List CacheMode) (seed : Nat)
    (suite : List PatternWorkload) : ∃ extended, addCore modes seed suite rows = .ok extended := by
  have hsmall : dimensionRows rows * 9 < 2 ^ 64 := by
    unfold dimensionRows
    omega
  obtain ⟨series,hseries⟩ := PatternWorkload.exists_build h (.timeSeries 50) modes seed
  obtain ⟨dimension,hdimension⟩ := PatternWorkload.exists_build hsmall .dimension modes seed
  obtain ⟨others,hothers⟩ := exists_buildAll h seed
    [(.events (rows / 100),modes),(.sparse,modes),(.composite,modes)]
  simp [addCore,hseries,hdimension,hothers,pure,Except.pure,bind,Except.bind]

theorem exists_full (env : Environment) (seed : Nat) : ∃ suite, full env seed = .ok suite := by
  have hrounds : ∀ (counts : List Nat) (suite : List PatternWorkload),
      (∀ n ∈ counts, n * 9 < 2 ^ 64) →
        ∃ extended, counts.foldlM (addCore env.scale.profile.cacheModes seed) suite =
          .ok extended := by
    intro counts
    induction counts with
    | nil => exact fun suite _ => ⟨suite,rfl⟩
    | cons n counts ih =>
      intro suite hcounts
      obtain ⟨hn,hcounts⟩ := List.forall_mem_cons.mp hcounts
      obtain ⟨extended,hextended⟩ := exists_addCore hn env.scale.profile.cacheModes seed suite
      rw [List.foldlM_cons,hextended]
      exact ih extended hcounts
  exact hrounds _ [] fun n hn => PatternWorkload.mul_nine_lt hn

/-- Every suite of a run can be built. -/
theorem exists_build (mode : SuiteMode) (env : Environment) (seed : Nat) :
    ∃ suite, build mode env seed = .ok suite := by
  cases mode with
  | quick => exact exists_quick env seed
  | full => exact exists_full env seed

end Suite

end IndexTrial
