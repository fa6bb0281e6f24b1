import IndexTrial.Proofs.Workload.Overflow
import IndexTrial.Proofs.Workload.Sources

/-!
Lookups of the narrow integer column. Its keys end below the maximum of the type, and the lookups
start from the middle of the keys; but the width of the range is a hundredth of all rows, and from
some number of rows on the range ends beyond the keys.
-/

namespace IndexTrial

theorem number?_tableName (id : String) : number? (PatternWorkload.tableName id) = none := by
  refine if_neg fun h => ?_
  have hfirst := List.all_eq_true.mp h.2 'b' (by simp [PatternWorkload.tableName])
  exact absurd hfirst (by decide)

section

variable {table before : String} (hbefore : IsLead before) (hrun : IsRun table)
  (hfree : literals before = []) (htable : number? table = none)
include hbefore hrun hfree htable

theorem literals_equals (k : Nat) : literals (replaceText tableSlot table
    (before ++ tableSlot ++ " WHERE id = " ++ toString k)) = [k] := by
  have hwords : (["WHERE","id","="] ++ [toString k]).filterMap number? = [k] := by
    rw [List.filterMap_append,List.filterMap_cons_some (number?_toString k)]
    rfl
  rw [literals,KeyCondition.tokens_equals hbefore hrun,List.filterMap_append,
    List.filterMap_cons_none htable]
  exact congrArg₂ (· ++ ·) hfree hwords

theorem literals_between (low high : Nat) : literals (replaceText tableSlot table
    (before ++ tableSlot ++ " WHERE id BETWEEN " ++ toString low ++ " AND " ++ toString high)) =
      [low,high] := by
  have hwords : (["WHERE","id","BETWEEN"] ++ (toString low :: "AND" :: [toString high])).filterMap
      number? = [low,high] := by
    have hand : number? "AND" = none := by decide
    rw [List.filterMap_append,List.filterMap_cons_some (number?_toString low),
      List.filterMap_cons_none hand,List.filterMap_cons_some (number?_toString high)]
    rfl
  rw [literals,KeyCondition.tokens_between hbefore hrun,List.filterMap_append,
    List.filterMap_cons_none htable]
  exact congrArg₂ (· ++ ·) hfree hwords

end

namespace Pattern

/-- Number of keys of the narrow column. -/
def narrowDomain (rows : Nat) : Nat := max 1 (min rows 32767)

variable {rows : Nat}

theorem keyDomain_int2 (rows : Nat) : keyDomain .int2 rows = .ok (narrowDomain rows) :=
  congrArg Except.ok (Nat.max_comm ..)

theorem narrowDomain_le (rows : Nat) : narrowDomain rows ≤ 32767 := by
  unfold narrowDomain
  omega

theorem middle_lt (rows : Nat) : min (narrowDomain rows) rows / 2 < narrowDomain rows := by
  unfold narrowDomain
  omega

/-- The end of the range is a key up to the row count whose hundredth is half of the keys. -/
theorem middle_add_hundredth_lt_iff :
    min (narrowDomain rows) rows / 2 + rows / 100 < narrowDomain rows ↔ rows < 1638400 := by
  unfold narrowDomain
  omega

end Pattern

namespace PatternWorkload

open Pattern

theorem literals_all : literals "SELECT * FROM " = [] := by
  rw [literals,tokens_ofList (by decide : _ = ["SELECT","*","FROM"].map String.toList)]
  decide

/-- What is said of a text by the numbers in it, of which the middle of the keys is the first. -/
theorem lookup_inside_iff {rows : Nat} {text : String} {others : List Nat} {inside : Prop}
    (hliterals : literals text = min (narrowDomain rows) rows / 2 :: others)
    (hothers : (∀ n ∈ others, n < narrowDomain rows) ↔ inside) :
    min (narrowDomain rows) rows / 2 ∈ literals text ∧
      ((∀ n ∈ literals text, n ≤ 32767 ∧ n < narrowDomain rows) ↔ inside) := by
  have htype : ∀ n, (n ≤ 32767 ∧ n < narrowDomain rows) ↔ n < narrowDomain rows :=
    fun n => and_iff_right_of_imp fun hn => Nat.le_of_lt (Nat.lt_of_lt_of_le hn (narrowDomain_le rows))
  rw [hliterals]
  simp only [htype,List.forall_mem_cons,middle_lt,true_and,hothers,List.mem_cons_self]

theorem lookups_inside_iff {rows : Nat} (id : String) : ∀ t ∈ middleLookups (narrowDomain rows) rows,
    min (narrowDomain rows) rows / 2 ∈ literals (replaceText tableSlot (tableName id) t.sql) ∧
      ((∀ n ∈ literals (replaceText tableSlot (tableName id) t.sql),
        n ≤ 32767 ∧ n < narrowDomain rows) ↔ (t.id = "range_1pct" → rows < 1638400)) := by
  refine List.forall_mem_cons.mpr ⟨?_,List.forall_mem_singleton.mpr ?_⟩
  · refine lookup_inside_iff (literals_between isLead_all (isRun_tableName id) literals_all
      (number?_tableName id) _ _) ?_
    rw [List.forall_mem_singleton,middle_add_hundredth_lt_iff]
    exact ⟨fun hrows _ => hrows,fun h => h rfl⟩
  · refine lookup_inside_iff (literals_equals isLead_all (isRun_tableName id) literals_all
      (number?_tableName id) _) ?_
    exact iff_of_true (by simp) fun hid => absurd hid (by decide : "point" ≠ "range_1pct")

theorem narrow_lookups {rows seed : Nat} {modes : List CacheMode} {w : PatternWorkload}
    (h : build (.dataType .int2) rows modes seed = .ok w) :
    w.keys? = some ⟨.residue (narrowDomain rows),rows⟩ ∧
      ∀ q ∈ w.queries, min (narrowDomain rows) rows / 2 ∈ literals q.sql ∧
        ((∀ n ∈ literals q.sql, n ≤ 32767 ∧ n < narrowDomain rows) ↔
          (q.id = "range_1pct" → rows < 1638400)) := by
  obtain ⟨f,hf,rfl⟩ := build_eq_ok h
  obtain ⟨domain,hinteger⟩ := exists_isInteger (by decide : KeyType.int2 ≠ .date) hf
  obtain rfl : narrowDomain rows = domain :=
    Except.ok.inj ((keyDomain_int2 rows).symm.trans hinteger.keys)
  refine ⟨hinteger.keys? modes,fun q hq => ?_⟩
  obtain ⟨t,ht,hq⟩ := List.mem_flatMap.mp hq
  obtain ⟨mode,_,rfl⟩ := List.mem_map.mp hq
  exact lookups_inside_iff f.id t (hinteger.templates ▸ ht)

theorem exists_range {rows seed : Nat} {mode : CacheMode} {modes : List CacheMode}
    {w : PatternWorkload} (h : build (.dataType .int2) rows (mode :: modes) seed = .ok w) :
    ∃ q ∈ w.queries, q.id = "range_1pct" := by
  obtain ⟨f,hf,rfl⟩ := build_eq_ok h
  obtain ⟨domain,hinteger⟩ := exists_isInteger (by decide : KeyType.int2 ≠ .date) hf
  obtain ⟨t,ht,hid⟩ : ∃ t ∈ f.templates, t.id = "range_1pct" := by
    rw [hinteger.templates]
    exact ⟨_,List.mem_cons_self,rfl⟩
  exact ⟨_,List.mem_flatMap.mpr ⟨t,ht,List.mem_map.mpr ⟨mode,List.mem_cons_self,rfl⟩⟩,hid⟩

/-- The narrow workload is built at every row count. The numbers in its lookups are keys of its
table and in the type, but for the end of the range on tables of many rows. -/
theorem build_narrow_lookups {rows : Nat} (hrows : rows < 2 ^ 64) (modes : List CacheMode)
    (seed : Nat) : ∃ w, build (.dataType .int2) rows modes seed = .ok w ∧
      w.keys? = some ⟨.residue (narrowDomain rows),rows⟩ ∧
      ∀ q ∈ w.queries, min (narrowDomain rows) rows / 2 ∈ literals q.sql ∧
        ((∀ n ∈ literals q.sql, n ≤ 32767 ∧ n < narrowDomain rows) ↔
          (q.id = "range_1pct" → rows < 1638400)) := by
  have hfits : ¬(dataType .int2).Overflows rows := by simp [Overflows]
  obtain ⟨w,hw⟩ := exists_build_of_fits hrows hfits modes seed
  exact ⟨w,hw,narrow_lookups hw⟩

/-- The last row count whose range ends at a key, and the first whose range does not. -/
theorem build_narrow_lookups_bound : 1638399 < 2 ^ 64 ∧ 1638400 < 2 ^ 64 ∧
    (∃ w, build (.dataType .int2) 1638399 [.hot] 42 = .ok w ∧
      ∀ q ∈ w.queries, ∀ n ∈ literals q.sql, n ≤ 32767 ∧ n < narrowDomain 1638399) ∧
    ∃ w, build (.dataType .int2) 1638400 [.hot] 42 = .ok w ∧
      ∀ q ∈ w.queries, q.id = "range_1pct" →
        ¬∀ n ∈ literals q.sql, n ≤ 32767 ∧ n < narrowDomain 1638400 := by
  obtain ⟨w,hw,_,hbelow⟩ := build_narrow_lookups (by decide : 1638399 < 2 ^ 64) [.hot] 42
  obtain ⟨v,hv,_,hfrom⟩ := build_narrow_lookups (by decide : 1638400 < 2 ^ 64) [.hot] 42
  refine ⟨by decide,by decide,⟨w,hw,fun q hq => (hbelow q hq).2.mpr fun _ => by decide⟩,v,hv,?_⟩
  exact fun q hq hid hinside => absurd ((hfrom q hq).2.mp hinside hid) (by decide)

/-- On the smallest table of the large scale the range ends beyond the keys, and beyond the type. -/
theorem not_every_narrow_lookup_inside : Scale.large.profile.rowCounts.head? = some 20000000 ∧
    ∃ w, build (.dataType .int2) 20000000 [.hot] 42 = .ok w ∧
      ∃ q ∈ w.queries, literals q.sql = [16383,216383] ∧ narrowDomain 20000000 = 32767 := by
  refine ⟨rfl,_,rfl,_,List.mem_cons_self,?_,by decide⟩
  exact literals_between isLead_all (isRun_tableName _) literals_all (number?_tableName _) 16383 216383

end PatternWorkload

/-- The narrow lookups of a quick run stay among the keys at every scale but the large one. -/
theorem Suite.quick_inside_iff {env : Environment} {seed : Nat} {suite : List PatternWorkload}
    (h : Suite.build .quick env seed = .ok suite) : ∃ w ∈ suite, ∃ domain rows,
      w.keys? = some ⟨.residue domain,rows⟩ ∧
        ((∀ q ∈ w.queries, ∀ n ∈ literals q.sql, n ≤ 32767 ∧ n < domain) ↔ env.scale ≠ .large) := by
  obtain ⟨front,tail,htail,rfl⟩ := exists_quickTail h
  have hscale : env.scale.profile.rowCounts.headD 100000 < 1638400 ↔ env.scale ≠ .large := by
    cases env.scale <;> decide
  obtain ⟨w,hw,hbuild⟩ := exists_of_mapM htail (.dataType .int2,[.hot]) (by simp [quickTail])
  obtain ⟨hkeys,hlookups⟩ := PatternWorkload.narrow_lookups hbuild
  refine ⟨w,List.mem_append_right _ hw,_,_,hkeys,?_⟩
  rw [← hscale]
  refine ⟨fun hinside => ?_,fun hrows q hq => (hlookups q hq).2.mpr fun _ => hrows⟩
  obtain ⟨q,hq,hid⟩ := PatternWorkload.exists_range hbuild
  exact (hlookups q hq).2.mp (hinside q hq) hid

end IndexTrial
