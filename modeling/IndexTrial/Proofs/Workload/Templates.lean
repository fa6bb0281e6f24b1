import IndexTrial.Proofs.Store.Reading
import IndexTrial.Workload.PatternWorkload

/-!
The templates of a pattern. Each is the text of a query that leaves the name of the table open in
one place, and a query on a table names it there and leaves nothing open.
-/

namespace IndexTrial

theorem ok_of_bind {ε α β : Type} {x : Except ε α} {f : α → Except ε β} {b : β}
    (h : x >>= f = .ok b) : ∃ a, x = .ok a ∧ f a = .ok b := by
  cases x with
  | error e => cases h
  | ok a => exact ⟨a,rfl,h⟩

theorem forall_ascii {P : Char → Prop} (h : ∀ n : Fin 128, P (Char.ofNat n)) {c : Char}
    (hc : c.toNat < 128) : P c := by
  have hn := h ⟨c.toNat,hc⟩
  rwa [Char.ofNat_toNat] at hn

theorem PatternWorkload.toNat_of_isAlphanum {c : Char} (h : c.isAlphanum = true) : c.toNat < 128 := by
  change ((decide (c.val ≥ 'A'.val ∧ c.val ≤ 'Z'.val) ||
    (decide (c.val ≥ 'a'.val) && decide (c.val ≤ 'z'.val))) ||
    (decide (c.val ≥ '0'.val) && decide (c.val ≤ '9'.val))) = true at h
  simp only [Bool.or_eq_true,Bool.and_eq_true,decide_eq_true_eq,UInt32.le_iff_toNat_le,
    ge_iff_le] at h
  have hvalue : c.toNat = c.val.toNat := rfl
  have hupper : 'Z'.val.toNat = 90 := rfl
  have hlower : 'z'.val.toNat = 122 := rfl
  have hdigit : '9'.val.toNat = 57 := rfl
  omega

/-! ### Open texts -/

/-- A text that leaves nothing open. -/
def IsClosed (text : String) : Prop := '\x7b' ∉ text.toList

theorem isClosed_ofList {cs : List Char} (h : '\x7b' ∉ cs) : IsClosed (String.ofList cs) := by
  rwa [IsClosed,String.toList_ofList]

theorem IsClosed.append {a b : String} (ha : IsClosed a) (hb : IsClosed b) : IsClosed (a ++ b) := by
  simpa [IsClosed] using ⟨ha,hb⟩

theorem isClosed_toString (n : Nat) : IsClosed (toString n) := by
  intro h
  exact absurd (areDigits_toDigits n _ (by simpa using h)) (by decide)

theorem isClosed_intercalate {separator : String} (hseparator : IsClosed separator)
    {texts : List String} (h : ∀ text ∈ texts, IsClosed text) :
    IsClosed (separator.intercalate texts) := by
  induction texts with
  | nil => exact isClosed_ofList (by decide)
  | cons text texts ih =>
    obtain ⟨htext,htexts⟩ := List.forall_mem_cons.mp h
    cases texts with
    | nil => simpa using htext
    | cons next rest =>
      rw [String.intercalate_cons_cons]
      exact (htext.append hseparator).append (ih htexts)

theorem isClosed_tableName (id : String) : IsClosed (PatternWorkload.tableName id) := by
  have hplain : ∀ c : Char, (if c.isAlphanum then c.toLower else '_') ≠ '\x7b' := by
    intro c
    by_cases hc : c.isAlphanum = true
    · rw [if_pos hc]
      exact forall_ascii (P := fun c => c.isAlphanum = true → c.toLower ≠ '\x7b')
        (by decide +kernel) (PatternWorkload.toNat_of_isAlphanum hc) hc
    · rw [if_neg hc]
      decide
  have hlead : IsClosed "bench_" := isClosed_ofList (by decide)
  refine hlead.append (isClosed_ofList fun h => ?_)
  obtain ⟨c,-,hc⟩ := List.mem_map.mp h
  exact hplain c hc

/-- A text that names the table in one place, still open, and leaves nothing else open. -/
def IsOpenOnce (text : String) : Prop :=
  ∃ before after, IsClosed before ∧ IsClosed after ∧ text = before ++ tableSlot ++ after

theorem isOpenOnce_text {before : String} {after : List Char} (hbefore : IsClosed before)
    (hafter : '\x7b' ∉ after) : IsOpenOnce (before ++ tableSlot ++ String.ofList after) :=
  ⟨before,String.ofList after,hbefore,isClosed_ofList hafter,rfl⟩

theorem IsOpenOnce.append {a b : String} (ha : IsOpenOnce a) (hb : IsClosed b) :
    IsOpenOnce (a ++ b) := by
  obtain ⟨before,after,hbefore,hafter,rfl⟩ := ha
  exact ⟨before,after ++ b,hbefore,hafter.append hb,by simp [String.append_assoc]⟩

theorem IsOpenOnce.number {a : String} (h : IsOpenOnce a) (n : Nat) : IsOpenOnce (a ++ toString n) :=
  h.append (isClosed_toString n)

/-! ### Filling the open place -/

theorem IsClosed.hasText {text : String} (h : IsClosed text) : hasText text tableSlot = false := by
  rw [← Bool.not_eq_true,hasText_iff]
  exact fun hslot => h (hslot.subset (by decide))

/-- What is open in one place is filled in that place. -/
theorem replaceText_slot {before after : String} (hbefore : IsClosed before) (hafter : IsClosed after)
    (table : String) :
    replaceText tableSlot table (before ++ tableSlot ++ after) = before ++ table ++ after := by
  obtain ⟨passed,hslot⟩ : ∃ passed, tableSlot.toList = '\x7b' :: passed := ⟨_,rfl⟩
  have hclosed : ∀ {text : String}, IsClosed text → ∀ c ∈ text.toList,
      tableSlot.toList.head? ≠ some c := by
    intro text h c hc heq
    rw [hslot] at heq
    exact h (Option.some.inj heq ▸ hc)
  have hend : replaceFrom tableSlot.toList table.toList 0 after.toList = after.toList := by
    conv => lhs; rw [← List.append_nil after.toList,replaceFrom_append (hclosed hafter)]
    simp [replaceFrom]
  have hfill := replaceFrom_pattern '\x7b' passed table.toList after.toList
  rw [← hslot,hend] at hfill
  rw [replaceText,String.toList_append,String.toList_append,List.append_assoc,
    replaceFrom_append (hclosed hbefore),hfill]
  simp [← String.toList_inj]

/-- What follows the open place stays as it is. -/
theorem IsOpenOnce.replaceText_append {a b : String} (ha : IsOpenOnce a) (hb : IsClosed b)
    (table : String) :
    replaceText tableSlot table (a ++ b) = replaceText tableSlot table a ++ b := by
  obtain ⟨before,after,hbefore,hafter,rfl⟩ := ha
  have hwhole := replaceText_slot hbefore (hafter.append hb) table
  rw [← String.append_assoc,← String.append_assoc] at hwhole
  rw [hwhole,replaceText_slot hbefore hafter]

/-! ### The templates of a pattern -/

/-- What a query says up to its table. -/
structure IsQueryStart (text : String) : Prop where
  closed : IsClosed text
  selects : startsWithText text "SELECT" = true

/-- A query whose table is still open. -/
structure IsQueryTemplate (text : String) : Prop where
  isOpen : IsOpenOnce text
  selects : startsWithText text "SELECT" = true

theorem startsWithText_append {text lead : String} (h : startsWithText text lead = true)
    (more : String) : startsWithText (text ++ more) lead = true := by
  obtain ⟨rest,rfl⟩ := startsWithText_iff.mp h
  exact startsWithText_iff.mpr ⟨rest ++ more,String.append_assoc ..⟩

theorem isQueryStart_ofList {cs : List Char} (h : '\x7b' ∉ cs ∧ "SELECT".toList <+: cs) :
    IsQueryStart (String.ofList cs) where
  closed := isClosed_ofList h.1
  selects := by
    have hchars : (String.ofList cs).toList = cs := String.toList_ofList
    rw [startsWithText,List.isPrefixOf_iff_prefix,hchars]
    exact h.2

namespace IsQueryTemplate

theorem text {before : String} {after : List Char} (hbefore : IsQueryStart before)
    (hafter : '\x7b' ∉ after) : IsQueryTemplate (before ++ tableSlot ++ String.ofList after) where
  isOpen := isOpenOnce_text hbefore.closed hafter
  selects := startsWithText_append (startsWithText_append hbefore.selects _) _

theorem append {a b : String} (ha : IsQueryTemplate a) (hb : IsClosed b) :
    IsQueryTemplate (a ++ b) where
  isOpen := ha.isOpen.append hb
  selects := startsWithText_append ha.selects b

theorem number {a : String} (h : IsQueryTemplate a) (n : Nat) : IsQueryTemplate (a ++ toString n) :=
  h.append (isClosed_toString n)

theorem between {a : String} (h : IsQueryTemplate a) (low high : Nat) :
    IsQueryTemplate (a ++ toString low ++ " AND " ++ toString high) :=
  ((h.number low).append (isClosed_ofList (by decide))).number high

theorem pair {a b : Query} (ha : IsQueryTemplate a.sql) (hb : IsQueryTemplate b.sql) :
    ∀ q ∈ [a,b], IsQueryTemplate q.sql :=
  List.forall_mem_cons.mpr ⟨ha,List.forall_mem_singleton.mpr hb⟩

theorem all {after : List Char} (hafter : '\x7b' ∉ after) :
    IsQueryTemplate ("SELECT * FROM " ++ tableSlot ++ String.ofList after) :=
  text (isQueryStart_ofList (by decide)) hafter

theorem count {after : List Char} (hafter : '\x7b' ∉ after) :
    IsQueryTemplate ("SELECT count(*) FROM " ++ tableSlot ++ String.ofList after) :=
  text (isQueryStart_ofList (by decide)) hafter

end IsQueryTemplate

namespace Pattern

theorem isClosed_keyList (keys : List Nat) : IsClosed (keyList keys) := by
  refine isClosed_intercalate (isClosed_ofList (by decide)) fun text htext => ?_
  obtain ⟨n,-,rfl⟩ := List.mem_map.mp htext
  exact isClosed_toString n

theorem isClosed_sums (columns : Nat) : IsClosed (", ".intercalate
    ((payloadColumns.take columns).map (fun c => s!"sum({c})") ++ ["count(*)"])) := by
  have hcolumns : ∀ c ∈ payloadColumns, IsClosed c := by
    simp [payloadColumns,IsClosed]
  refine isClosed_intercalate (isClosed_ofList (by decide)) fun text htext => ?_
  rcases List.mem_append.mp htext with htext | htext
  · obtain ⟨c,hc,rfl⟩ := List.mem_map.mp htext
    exact ((isClosed_ofList (by decide)).append (hcolumns c (List.mem_of_mem_take hc))).append
      (isClosed_ofList (by decide))
  · rw [List.mem_singleton.mp htext]
    exact isClosed_ofList (by decide)

theorem isQueryStart_sums (columns : Nat) : IsQueryStart ("SELECT " ++ ", ".intercalate
    ((payloadColumns.take columns).map (fun c => s!"sum({c})") ++ ["count(*)"]) ++ " FROM ") where
  closed := ((isClosed_ofList (by decide)).append (isClosed_sums columns)).append
    (isClosed_ofList (by decide))
  selects := by
    have hselect : IsQueryStart "SELECT " := isQueryStart_ofList (by decide)
    exact startsWithText_append (startsWithText_append hselect.selects _) _

/-- What a fixture over a column of a type is made of. -/
structure IsOver (key : KeyType) (rows : Nat) (keys : String × List Query) (f : Fixture) : Prop where
  id : f.id = s!"dtype_{key.name}_{rows / 1000}k"
  indexColumns : f.indexColumns = "id"
  select : f.select = s!"SELECT {keys.1} AS id, (i % 1000)::int4 AS payload " ++
    s!"FROM generate_series(1, {rows}) i"
  templates : f.templates = keys.2

theorem exists_isOver {key : KeyType} {rows : Nat} {f : Fixture}
    (h : dataTypeFixture key rows = .ok f) : ∃ keys, IsOver key rows keys f ∧
      (key = .date ∧ keys = dateKeyTemplates ∨
        key ≠ .date ∧ integerKeyTemplates key rows = .ok keys) := by
  cases key with
  | date =>
    cases h
    exact ⟨dateKeyTemplates,⟨rfl,rfl,rfl,rfl⟩,.inl ⟨rfl,rfl⟩⟩
  | int2 | int8 =>
    obtain ⟨keys,hkeys,h⟩ := ok_of_bind (x := integerKeyTemplates _ rows) h
    cases h
    exact ⟨keys,⟨rfl,rfl,rfl,rfl⟩,.inr ⟨by decide,hkeys⟩⟩

theorem isQueryTemplate_dateKeyTemplates : ∀ q ∈ dateKeyTemplates.2, IsQueryTemplate q.sql := by
  refine IsQueryTemplate.pair ?_ ?_
  · exact IsQueryTemplate.all (by decide)
  · exact IsQueryTemplate.all (by decide)

theorem isQueryTemplate_integerKeyTemplates {key : KeyType} {rows : Nat} {keys : String × List Query}
    (h : integerKeyTemplates key rows = .ok keys) : ∀ q ∈ keys.2, IsQueryTemplate q.sql := by
  obtain ⟨domain,_,h⟩ := ok_of_bind h
  obtain ⟨upper,_,h⟩ := ok_of_bind h
  cases h
  refine IsQueryTemplate.pair ?_ ?_
  · exact (IsQueryTemplate.all (by decide)).between _ _
  · exact (IsQueryTemplate.all (by decide)).number _

theorem isQueryTemplate_dataTypeFixture {key : KeyType} {rows : Nat} {f : Fixture}
    (h : dataTypeFixture key rows = .ok f) : ∀ q ∈ f.templates, IsQueryTemplate q.sql := by
  obtain ⟨keys,hover,hkeys⟩ := exists_isOver h
  rw [hover.templates]
  rcases hkeys with ⟨-,rfl⟩ | ⟨-,hkeys⟩
  · exact isQueryTemplate_dateKeyTemplates
  · exact isQueryTemplate_integerKeyTemplates hkeys

/-- Every template of a pattern is a query with its table open. -/
theorem isQueryTemplate_templates {p : Pattern} {rows seed : Nat} {f : Fixture}
    (h : p.fixture rows seed = .ok f) : ∀ q ∈ f.templates, IsQueryTemplate q.sql := by
  cases p with
  | timeSeries metrics =>
    cases h
    have hmean : IsQueryStart "SELECT count(*), avg(value) FROM " := isQueryStart_ofList (by decide)
    refine IsQueryTemplate.pair ?_ ?_
    · exact IsQueryTemplate.text hmean (by decide)
    · exact IsQueryTemplate.text hmean (by decide)
  | dimension =>
    cases h
    refine IsQueryTemplate.pair ?_ ?_
    · exact (IsQueryTemplate.all (by decide)).number _
    · exact (IsQueryTemplate.count (by decide)).number _
  | events users =>
    cases h
    refine IsQueryTemplate.pair ?_ ?_
    · exact IsQueryTemplate.text (isQueryStart_ofList (by decide)) (by decide)
    · exact IsQueryTemplate.count (by decide)
  | sparse =>
    cases h
    refine IsQueryTemplate.pair ?_ ?_
    · exact IsQueryTemplate.text (isQueryStart_ofList (by decide)) (by decide)
    · exact IsQueryTemplate.count (by decide)
  | composite =>
    cases h
    refine IsQueryTemplate.pair ?_ ?_
    · exact IsQueryTemplate.text (isQueryStart_ofList (by decide)) (by decide)
    · exact (IsQueryTemplate.count (by decide)).append (isClosed_ofList (by decide))
  | selectivity fraction =>
    cases h
    refine List.forall_mem_singleton.mpr ?_
    exact (IsQueryTemplate.text (isQueryStart_ofList (by decide)) (by decide)).number _
  | backwardScan =>
    obtain ⟨ninefold,_,h⟩ := ok_of_bind h
    cases h
    refine IsQueryTemplate.pair ?_ ?_
    · exact IsQueryTemplate.all (by decide)
    · exact ((IsQueryTemplate.all (by decide)).number _).append (isClosed_ofList (by decide))
  | limit =>
    cases h
    refine IsQueryTemplate.pair ?_ ?_
    · exact ((IsQueryTemplate.all (by decide)).number _).append (isClosed_ofList (by decide))
    · exact ((IsQueryTemplate.all (by decide)).number _).append (isClosed_ofList (by decide))
  | inClause =>
    obtain ⟨few,_,h⟩ := ok_of_bind h
    obtain ⟨many,_,h⟩ := ok_of_bind h
    cases h
    have hend : IsClosed ")" := isClosed_ofList (by decide)
    refine IsQueryTemplate.pair ?_ ?_
    · exact ((IsQueryTemplate.all (by decide)).append (isClosed_keyList few)).append hend
    · exact ((IsQueryTemplate.all (by decide)).append (isClosed_keyList many)).append hend
  | textKeys key =>
    cases h
    have hends : IsClosed (textKeyParts key).2.2.1 ∧ IsClosed (textKeyParts key).2.2.2 := by
      cases key <;> exact ⟨isClosed_ofList (by decide),isClosed_ofList (by decide)⟩
    refine IsQueryTemplate.pair ?_ ?_
    · exact (IsQueryTemplate.count (by decide)).append hends.1
    · exact (((IsQueryTemplate.count (by decide)).append hends.1).append
        (isClosed_ofList (by decide))).append hends.2
  | includeOverhead columns =>
    cases (includeOverheadFixture_eq columns rows).symm.trans h
    refine List.forall_mem_singleton.mpr ?_
    exact (IsQueryTemplate.text (isQueryStart_sums columns) (by decide)).number _
  | dataType key => exact isQueryTemplate_dataTypeFixture h
  | indexOnly =>
    obtain ⟨near,_,h⟩ := ok_of_bind h
    cases h
    have hid : IsQueryStart "SELECT id FROM " := isQueryStart_ofList (by decide)
    refine IsQueryTemplate.pair ?_ ?_
    · exact (IsQueryTemplate.text hid (by decide)).between _ _
    · exact (IsQueryTemplate.text hid (by decide)).between _ _
  | partialIndex =>
    cases h
    have hand : IsClosed " AND " := isClosed_ofList (by decide)
    have hrange : IsClosed s!"AND id BETWEEN {rows / 10} AND {rows / 5}" :=
      (((isClosed_ofList (by decide)).append (isClosed_toString _)).append hand).append
        (isClosed_toString _)
    refine IsQueryTemplate.pair ?_ ?_
    · exact IsQueryTemplate.all (by decide)
    · exact (IsQueryTemplate.all (by decide)).append hrange

end Pattern
end IndexTrial
