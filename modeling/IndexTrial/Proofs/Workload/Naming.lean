import IndexTrial.Proofs.Run.Identity
import IndexTrial.Proofs.Store.Texts

/-!
Tables are named for their data. The words of a table's name say which pattern its data follow, with
the parameters that they depend on, and how many thousands of rows there are; so workloads that share
a table would load it by the same statements.
-/

namespace IndexTrial

/-! ### The words of a name -/

/-- What stands for a character in the name of a table. -/
def plainChar (c : Char) : Char := if c.isAlphanum then c.toLower else '_'

/-- A word that a name holds as it is. -/
def IsNameWord (word : String) : Prop := ∀ c ∈ word.toList, plainChar c = c ∧ c ≠ '_'

instance (word : String) : Decidable (IsNameWord word) :=
  List.decidableBAll (fun c => plainChar c = c ∧ c ≠ '_') word.toList

theorem IsNameWord.append {a b : String} (ha : IsNameWord a) (hb : IsNameWord b) :
    IsNameWord (a ++ b) := by
  intro c hc
  rcases List.mem_append.mp (String.toList_append ▸ hc) with hc | hc
  · exact ha c hc
  · exact hb c hc

theorem isNameWord_toString (n : Nat) : IsNameWord (toString n) := by
  have hdigit : ∀ c : Char, c.isDigit = true → plainChar c = c ∧ c ≠ '_' := by
    intro c hc
    have hascii : c.toNat < 128 :=
      PatternWorkload.toNat_of_isAlphanum (by simp [Char.isAlphanum,hc])
    exact forall_ascii (P := fun c => c.isDigit = true → plainChar c = c ∧ c ≠ '_')
      (by decide +kernel) hascii hc
  intro c hc
  exact hdigit c (areDigits_toDigits n c (by simpa using hc))

/-- The words of an id, as they stand in the name of its table. -/
def nameWords (id : String) : List String :=
  (splitAtChar '_' (id.toList.map plainChar)).map String.ofList

theorem map_plainChar {word : String} (h : IsNameWord word) :
    word.toList.map plainChar = word.toList := by
  conv => rhs; rw [← List.map_id word.toList]
  exact List.map_congr_left fun c hc => (h c hc).1

theorem nameWords_cons {word : String} (h : IsNameWord word) (rest : String) :
    nameWords (word ++ "_" ++ rest) = word :: nameWords rest := by
  have hgap : plainChar '_' = '_' := by decide
  have hword : '_' ∉ word.toList := fun hc => (h _ hc).2 rfl
  simp [nameWords,map_plainChar h,hgap,splitAtChar_append hword]

theorem nameWords_single {word : String} (h : IsNameWord word) : nameWords word = [word] := by
  have hword : '_' ∉ word.toList := fun hc => (h _ hc).2 rfl
  simp [nameWords,map_plainChar h,splitAtChar_of_not_mem hword]

theorem splitText_tableName (id : String) :
    splitText '_' (PatternWorkload.tableName id) = "bench" :: nameWords id := by
  have hbench : '_' ∉ "bench".toList := by decide
  have hname : (PatternWorkload.tableName id).toList =
      "bench".toList ++ '_' :: id.toList.map plainChar := by
    simp [PatternWorkload.tableName,plainChar]
  rw [splitText,hname,splitAtChar_append hbench]
  simp [nameWords]

/-- A number with its unit. -/
def withUnit (n : Nat) (unit : String) : String := toString n ++ unit

theorem isNameWord_withUnit (n : Nat) {unit : String} (h : IsNameWord unit) :
    IsNameWord (withUnit n unit) := (isNameWord_toString n).append h

/-- The number that a word starts with. -/
def leadingNumber (word : String) : Nat := digitsValue (spanDigits word.toList).1

theorem leadingNumber_withUnit (n : Nat) {unit : String} (h : NoDigitNext unit.toList) :
    leadingNumber (withUnit n unit) = n := by
  have hspan := spanDigits_eq (areDigits_toDigits n) h
  simp [leadingNumber,withUnit,hspan]

namespace Pattern

/-! ### What a name says -/

/-- The pattern up to the parameters that its data do not depend on. -/
def canonical : Pattern → Pattern
  | .events users => .events (max users 100)
  | .selectivity _ => .selectivity .zero
  | .includeOverhead _ => .includeOverhead 0
  | p => p

/-- The words that the id of a pattern's workload starts with, at so many thousands of rows. -/
def leadWords (k : Nat) : Pattern → List String
  | .timeSeries metrics => ["timeseries",withUnit k "k",withUnit metrics "m"]
  | .dimension => ["dimension",withUnit k "k"]
  | .events users => ["events",withUnit k "k",withUnit (max users 100) ""]
  | .sparse => ["sparse",withUnit k "k"]
  | .composite => ["composite",withUnit k "k"]
  | .selectivity _ => ["selectivity",withUnit k "k"]
  | .backwardScan => ["backward",withUnit k "k"]
  | .limit => ["limit",withUnit k "k"]
  | .inClause => ["inclause",withUnit k "k"]
  | .textKeys .uuid => ["textkeys","uuid",withUnit k "k"]
  | .textKeys .utf8 => ["textkeys","text","utf8","enusxi",withUnit k "k"]
  | .includeOverhead columns =>
    ["include",withUnit (payloadColumns.take columns).length "cols",withUnit k "k"]
  | .dataType key => ["dtype",key.name,withUnit k "k"]
  | .indexOnly => ["ios",withUnit k "k"]
  | .partialIndex => ["partial",withUnit k "k"]

/-- The pattern and the thousands of rows that the words of an id tell. -/
def ofWords? : List String → Option (Pattern × Nat)
  | "timeseries" :: k :: metrics :: _ => some (.timeSeries (leadingNumber metrics),leadingNumber k)
  | "dimension" :: k :: _ => some (.dimension,leadingNumber k)
  | "events" :: k :: users :: _ => some (.events (leadingNumber users),leadingNumber k)
  | "sparse" :: k :: _ => some (.sparse,leadingNumber k)
  | "composite" :: k :: _ => some (.composite,leadingNumber k)
  | "selectivity" :: k :: _ => some (.selectivity .zero,leadingNumber k)
  | "backward" :: k :: _ => some (.backwardScan,leadingNumber k)
  | "limit" :: k :: _ => some (.limit,leadingNumber k)
  | "inclause" :: k :: _ => some (.inClause,leadingNumber k)
  | "textkeys" :: "uuid" :: k :: _ => some (.textKeys .uuid,leadingNumber k)
  | "textkeys" :: "text" :: "utf8" :: _ :: k :: _ => some (.textKeys .utf8,leadingNumber k)
  | "include" :: _ :: k :: _ => some (.includeOverhead 0,leadingNumber k)
  | "dtype" :: "int2" :: k :: _ => some (.dataType .int2,leadingNumber k)
  | "dtype" :: "int8" :: k :: _ => some (.dataType .int8,leadingNumber k)
  | "dtype" :: "date" :: k :: _ => some (.dataType .date,leadingNumber k)
  | "ios" :: k :: _ => some (.indexOnly,leadingNumber k)
  | "partial" :: k :: _ => some (.partialIndex,leadingNumber k)
  | _ => none

/-- What the name of a table tells of its data. -/
def ofTable? (table : String) : Option (Pattern × Nat) := ofWords? ((splitText '_' table).drop 1)

theorem ofWords?_leadWords (p : Pattern) (k : Nat) (tail : List String) :
    ofWords? (p.leadWords k ++ tail) = some (p.canonical,k) := by
  have hk : leadingNumber (withUnit k "k") = k :=
    leadingNumber_withUnit k (noDigitNext_cons (by decide) [])
  cases p with
  | timeSeries metrics =>
    have hmetrics : leadingNumber (withUnit metrics "m") = metrics :=
      leadingNumber_withUnit metrics (noDigitNext_cons (by decide) [])
    simp [leadWords,ofWords?,canonical,hk,hmetrics]
  | events users =>
    have husers : leadingNumber (withUnit (max users 100) "") = max users 100 :=
      leadingNumber_withUnit (max users 100) noDigitNext_nil
    simp [leadWords,ofWords?,canonical,hk,husers]
  | textKeys key => cases key <;> simp [leadWords,ofWords?,canonical,hk]
  | dataType key => cases key <;> simp [leadWords,ofWords?,canonical,hk,KeyType.name]
  | _ => simp [leadWords,ofWords?,canonical,hk]

/-- An id of nothing but a word and the thousands of rows. -/
theorem nameWords_thousands (lead : String) {family : String} (hlead : lead = family ++ "_")
    (h : IsNameWord family) (k : Nat) :
    nameWords s!"{lead}{k}k" = [family,withUnit k "k"] := by
  have hid : s!"{lead}{k}k" = family ++ "_" ++ withUnit k "k" := by
    simp [hlead,withUnit,toString,← String.toList_inj]
  have hk : IsNameWord (withUnit k "k") := isNameWord_withUnit k (by decide)
  rw [hid,nameWords_cons h,nameWords_single hk]

theorem isNameWord_thousands (rows : Nat) : IsNameWord (withUnit (rows / 1000) "k") :=
  isNameWord_withUnit _ (by decide)

/-! Ids with parameters. -/

theorem nameWords_timeSeries (metrics rows : Nat) : nameWords (timeSeriesFixture metrics rows).id =
    (timeSeries metrics).leadWords (rows / 1000) ++ nameWords (cardinality metrics ++ "_card") := by
  have hmetrics : IsNameWord (withUnit metrics "m") := isNameWord_withUnit _ (by decide)
  have hname : (timeSeriesFixture metrics rows).id =
      s!"timeseries_{rows / 1000}k_{metrics}m_{cardinality metrics}_card" := rfl
  have hid : s!"timeseries_{rows / 1000}k_{metrics}m_{cardinality metrics}_card" =
      "timeseries" ++ "_" ++ (withUnit (rows / 1000) "k" ++ "_" ++ (withUnit metrics "m" ++ "_" ++
        (cardinality metrics ++ "_card"))) := by
    simp [withUnit,toString,← String.toList_inj]
  rw [hname,hid,nameWords_cons (by decide),nameWords_cons (isNameWord_thousands rows),
    nameWords_cons hmetrics]
  rfl

theorem nameWords_events (users rows : Nat) : nameWords (eventsFixture users rows).id =
    (events users).leadWords (rows / 1000) ++ nameWords "users" := by
  have husers : IsNameWord (withUnit (max users 100) "") := isNameWord_withUnit _ (by decide)
  have hname : (eventsFixture users rows).id =
      s!"events_{rows / 1000}k_{max users 100}_users" := rfl
  have hid : s!"events_{rows / 1000}k_{max users 100}_users" = "events" ++ "_" ++
      (withUnit (rows / 1000) "k" ++ "_" ++ (withUnit (max users 100) "" ++ "_" ++ "users")) := by
    simp [withUnit,toString,← String.toList_inj]
  rw [hname,hid,nameWords_cons (by decide),nameWords_cons (isNameWord_thousands rows),
    nameWords_cons husers]
  rfl

theorem nameWords_selectivity (fraction : Binary64) (rows : Nat) :
    ∃ tail, nameWords (selectivityFixture fraction rows).id =
      (selectivity fraction).leadWords (rows / 1000) ++ tail := by
  obtain ⟨tag,htag⟩ : ∃ tag, (selectivityFixture fraction rows).id =
      s!"selectivity_{rows / 1000}k_{tag}pct" := ⟨_,rfl⟩
  have hid : s!"selectivity_{rows / 1000}k_{tag}pct" = "selectivity" ++ "_" ++
      (withUnit (rows / 1000) "k" ++ "_" ++ (tag ++ "pct")) := by
    simp [withUnit,toString,← String.toList_inj]
  rw [htag,hid,nameWords_cons (by decide),nameWords_cons (isNameWord_thousands rows)]
  exact ⟨_,rfl⟩

theorem nameWords_textKeys (key : TextKey) (rows : Nat) :
    nameWords (textKeysFixture key rows).id = (textKeys key).leadWords (rows / 1000) := by
  have hk := isNameWord_thousands rows
  have hname : (textKeysFixture key rows).id =
      s!"textkeys_{(textKeyParts key).1}_{rows / 1000}k" := rfl
  have hid : ∀ tag : String, s!"textkeys_{tag}_{rows / 1000}k" =
      "textkeys" ++ "_" ++ (tag ++ "_" ++ withUnit (rows / 1000) "k") := by
    simp [withUnit,toString,← String.toList_inj]
  rw [hname,hid,nameWords_cons (by decide)]
  cases key with
  | uuid =>
    have htag : (textKeyParts .uuid).1 = "uuid" := rfl
    rw [htag,nameWords_cons (by decide),nameWords_single hk]
    rfl
  | utf8 =>
    have htag : (textKeyParts .utf8).1 = "text" ++ "_" ++ "utf8" ++ "_" ++ "enusxi" := by
      decide +kernel
    have hjoin : (textKeyParts .utf8).1 ++ "_" ++ withUnit (rows / 1000) "k" = "text" ++ "_" ++
        ("utf8" ++ "_" ++ ("enusxi" ++ "_" ++ withUnit (rows / 1000) "k")) := by
      simp only [htag,String.append_assoc]
    rw [hjoin,nameWords_cons (by decide),nameWords_cons (by decide),nameWords_cons (by decide),
      nameWords_single hk]
    rfl

theorem nameWords_includeOverhead (columns rows : Nat) :
    nameWords (coveringFixture (payloadColumns.take columns) rows).id =
      (includeOverhead columns).leadWords (rows / 1000) := by
  have hcolumns : IsNameWord (withUnit (payloadColumns.take columns).length "cols") :=
    isNameWord_withUnit _ (by decide)
  have hname : (coveringFixture (payloadColumns.take columns) rows).id =
      s!"include_{(payloadColumns.take columns).length}cols_{rows / 1000}k" := rfl
  have hid : ∀ n : Nat, s!"include_{n}cols_{rows / 1000}k" = "include" ++ "_" ++
      (withUnit n "cols" ++ "_" ++ withUnit (rows / 1000) "k") := by
    simp [withUnit,toString,← String.toList_inj]
  rw [hname,hid,nameWords_cons (by decide),nameWords_cons hcolumns,
    nameWords_single (isNameWord_thousands rows)]
  rfl

theorem nameWords_dataType {key : KeyType} {rows : Nat} {f : Fixture}
    (h : dataTypeFixture key rows = .ok f) :
    nameWords f.id = (dataType key).leadWords (rows / 1000) := by
  have hkey : IsNameWord key.name := by cases key <;> decide
  obtain ⟨keys,hover,-⟩ := exists_isOver h
  have hid : s!"dtype_{key.name}_{rows / 1000}k" = "dtype" ++ "_" ++ (key.name ++ "_" ++
      withUnit (rows / 1000) "k") := by
    simp [withUnit,toString,← String.toList_inj]
  rw [hover.id,hid,nameWords_cons (by decide),nameWords_cons hkey,
    nameWords_single (isNameWord_thousands rows)]
  rfl

/-- The id of a pattern's workload starts with the pattern's words. -/
theorem nameWords_id {p : Pattern} {rows seed : Nat} {f : Fixture}
    (h : p.fixture rows seed = .ok f) :
    ∃ tail, nameWords f.id = p.leadWords (rows / 1000) ++ tail := by
  cases p with
  | timeSeries metrics =>
    cases h
    exact ⟨_,nameWords_timeSeries metrics rows⟩
  | dimension =>
    cases h
    exact ⟨[],nameWords_thousands "dimension_" (by decide) (by decide) _⟩
  | events users =>
    cases h
    exact ⟨_,nameWords_events users rows⟩
  | sparse =>
    cases h
    exact ⟨[],nameWords_thousands "sparse_" (by decide) (by decide) _⟩
  | composite =>
    cases h
    exact ⟨[],nameWords_thousands "composite_" (by decide) (by decide) _⟩
  | selectivity fraction =>
    cases h
    exact nameWords_selectivity fraction rows
  | backwardScan =>
    obtain ⟨ninefold,_,h⟩ := ok_of_bind h
    cases h
    exact ⟨[],nameWords_thousands "backward_" (by decide) (by decide) _⟩
  | limit =>
    cases h
    exact ⟨[],nameWords_thousands "limit_" (by decide) (by decide) _⟩
  | inClause =>
    obtain ⟨few,_,h⟩ := ok_of_bind h
    obtain ⟨many,_,h⟩ := ok_of_bind h
    cases h
    exact ⟨[],nameWords_thousands "inclause_" (by decide) (by decide) _⟩
  | textKeys key =>
    cases h
    exact ⟨[],(nameWords_textKeys key rows).trans (List.append_nil _).symm⟩
  | includeOverhead columns =>
    cases (includeOverheadFixture_eq columns rows).symm.trans h
    exact ⟨[],(nameWords_includeOverhead columns rows).trans (List.append_nil _).symm⟩
  | dataType key => exact ⟨[],(nameWords_dataType h).trans (List.append_nil _).symm⟩
  | indexOnly =>
    obtain ⟨near,_,h⟩ := ok_of_bind h
    cases h
    exact ⟨[],nameWords_thousands "ios_" (by decide) (by decide) _⟩
  | partialIndex =>
    cases h
    exact ⟨[],nameWords_thousands "partial_" (by decide) (by decide) _⟩

/-- The name of a table tells its pattern and its thousands of rows. -/
theorem ofTable?_tableName {p : Pattern} {rows seed : Nat} {f : Fixture}
    (h : p.fixture rows seed = .ok f) :
    ofTable? (PatternWorkload.tableName f.id) = some (p.canonical,rows / 1000) := by
  obtain ⟨tail,hid⟩ := nameWords_id h
  rw [ofTable?,splitText_tableName,List.drop_one,List.tail_cons,hid]
  exact ofWords?_leadWords p (rows / 1000) tail

/-- The data of a table depend on what its name tells only. -/
theorem select_canonical {p : Pattern} {rows seed : Nat} {f : Fixture}
    (h : p.fixture rows seed = .ok f) :
    ∃ g, p.canonical.fixture rows 0 = .ok g ∧ g.select = f.select := by
  cases p with
  | events users =>
    have husers : eventsFixture (max users 100) rows = eventsFixture users rows := by
      simp [eventsFixture]
    cases h
    exact ⟨_,congrArg Except.ok husers,rfl⟩
  | dimension | selectivity =>
    cases h
    exact ⟨_,rfl,rfl⟩
  | includeOverhead columns =>
    cases (includeOverheadFixture_eq columns rows).symm.trans h
    exact ⟨_,includeOverheadFixture_eq 0 rows,rfl⟩
  | _ => exact ⟨f,h,rfl⟩

theorem select_eq_of_tableName_eq {p q : Pattern} {k l seed seed' : Nat} {f g : Fixture}
    (hf : p.fixture (1000 * k) seed = .ok f) (hg : q.fixture (1000 * l) seed' = .ok g)
    (h : PatternWorkload.tableName f.id = PatternWorkload.tableName g.id) : f.select = g.select := by
  have htold : some (p.canonical,k) = some (q.canonical,l) := by
    have hf' := ofTable?_tableName hf
    have hg' := ofTable?_tableName hg
    rw [Nat.mul_div_cancel_left _ (by decide)] at hf' hg'
    rw [← hf',h,hg']
  obtain ⟨hpattern,rfl⟩ := Prod.mk.inj (Option.some.inj htold)
  obtain ⟨f',hf',hselect⟩ := select_canonical hf
  obtain ⟨g',hg',hselect'⟩ := select_canonical hg
  rw [← hpattern,hf'] at hg'
  cases hg'
  exact hselect.symm.trans hselect'

end Pattern

namespace PatternWorkload

/-- A workload as patterns are built into over some thousands of rows, with any parallelism. -/
def IsRound (w : PatternWorkload) : Prop :=
  ∃ p k modes seed built workers,
    build p (1000 * k) modes seed = .ok built ∧ w = built.withParallelism workers

theorem IsRound.isBuilt {w : PatternWorkload} (h : w.IsRound) : w.IsBuilt := by
  obtain ⟨p,k,modes,seed,built,workers,hbuild,hw⟩ := h
  exact ⟨p,1000 * k,modes,seed,built,workers,hbuild,hw⟩

/-- What a workload is built from. -/
theorem IsRound.fixture {w : PatternWorkload} (h : w.IsRound) :
    ∃ p k seed f, Pattern.fixture p (1000 * k) seed = .ok f ∧ w.table = tableName f.id ∧
      w.statements = loadStatements w.table f.select := by
  obtain ⟨p,k,modes,seed,built,workers,hbuild,rfl⟩ := h
  obtain ⟨f,hfixture,rfl⟩ := build_eq_ok hbuild
  exact ⟨p,k,seed,f,hfixture,rfl,rfl⟩

/-- Workloads that share a table load it by the same statements. -/
theorem IsRound.statements_eq {v w : PatternWorkload} (hv : v.IsRound) (hw : w.IsRound)
    (h : v.table = w.table) : v.statements = w.statements := by
  obtain ⟨p,k,seed,f,hf,hvtable,hvstatements⟩ := hv.fixture
  obtain ⟨q,l,seed',g,hg,hwtable,hwstatements⟩ := hw.fixture
  have hselect : f.select = g.select :=
    Pattern.select_eq_of_tableName_eq hf hg (by rw [← hvtable,h,hwtable])
  rw [hvstatements,hwstatements,h,hselect]

end PatternWorkload

/-- Indexes of one engine are named apart if their tables are. -/
theorem table_eq_of_indexName_eq {table other engine : String}
    (h : indexName table engine = indexName other engine) : table = other := by
  simpa [indexName,toString,← String.toList_inj] using h

end IndexTrial
