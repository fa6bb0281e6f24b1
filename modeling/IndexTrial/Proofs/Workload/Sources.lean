import IndexTrial.Proofs.Workload.Keys

/-!
The keys that the fillings of the patterns give: every row has its number as the key where the key
is the counter of the series, and a residue or a draw where it is not.
-/

namespace IndexTrial

namespace Pattern

open PatternWorkload

/-- The key is the first column that is selected. -/
theorem keys?_of_first {f : Fixture} {n : Nat} {expression : KeyExpression}
    {item middle : List String} (hindex : f.indexColumns = "id")
    (hselect : tokens f.select = "SELECT" :: item ++ ["AS","id"] ++ middle ++
      "FROM" :: KeySource.series (toString n))
    (hitem : ∀ t ∈ item, KeySource.startsItem t = false)
    (hread : KeyExpression.read? item = some expression) (hmiddle : "id" ∉ middle)
    (modes : List CacheMode) : (ofFixture f modes).keys? = some ⟨expression,n⟩ := by
  have hsplit : tokens f.select = ([] ++ "SELECT" :: item ++ ["AS"]) ++ "id" ::
      ((middle ++ ["FROM"]) ++ KeySource.series (toString n) ++ []) := by
    rw [hselect]
    simp
  exact keys?_ofFixture hindex hsplit rfl hitem hread (by decide) (by decide) (by simp [hmiddle])
    (by simp) modes

/-- The series stands after a text that selects the key. -/
theorem keys?_of_text {f : Fixture} {n : Nat} {expression : KeyExpression} {text : String}
    {item middle : List String} (hindex : f.indexColumns = "id")
    (htext : f.select = text ++ s!"FROM generate_series(1, {n}) i")
    (hreads : Reads text ("SELECT" :: item ++ ["AS","id"] ++ middle))
    (hitem : ∀ t ∈ item, KeySource.startsItem t = false)
    (hread : KeyExpression.read? item = some expression) (hmiddle : "id" ∉ middle)
    (modes : List CacheMode) : (ofFixture f modes).keys? = some ⟨expression,n⟩ := by
  refine keys?_of_first hindex ?_ hitem hread hmiddle modes
  rw [htext,tokens_append (.inl hreads.apart),hreads.tokens,tokens_series]
  rfl

/-- The key is selected on a line of its own, and the series on the last line. -/
theorem keys?_of_lines {f : Fixture} {n depth margin : Nat} {expression : KeyExpression}
    {key : String} {item : List String} {lines : List (Nat × String)}
    (hindex : f.indexColumns = "id")
    (hlines : f.select = setOut ((0,"SELECT") :: (depth,key) :: lines))
    (hlast : lines.getLast? = some (margin,s!"FROM generate_series(1, {n}) i"))
    (hkey : tokens key = item ++ ["AS","id",","])
    (hitem : ∀ t ∈ item, KeySource.startsItem t = false)
    (hread : KeyExpression.read? item = some expression)
    (hothers : ∀ line ∈ lines.dropLast, "id" ∉ tokens line.2) (modes : List CacheMode) :
    (ofFixture f modes).keys? = some ⟨expression,n⟩ := by
  have hselect : tokens "SELECT" = ["SELECT"] := tokens_ofList (by decide)
  have hjoin : tokens f.select = "SELECT" :: item ++ ["AS","id"] ++
      ("," :: lines.dropLast.flatMap fun line => tokens line.2) ++
        "FROM" :: KeySource.series (toString n) := by
    obtain ⟨init,rfl⟩ := List.getLast?_eq_some_iff.mp hlast
    rw [hlines,tokens_setOut,List.flatMap_cons,List.flatMap_cons,List.flatMap_append,
      List.flatMap_singleton,tokens_series,hselect,hkey,List.dropLast_concat]
    simp [KeySource.series]
  refine keys?_of_first hindex hjoin hitem hread ?_ modes
  simpa using hothers

theorem tokens_payload : tokens (", ".intercalate
    (payloadColumns.map fun c => s!"(random() * 1000)::int AS {c}")) =
      List.intercalate [","] (payloadColumns.map fun c =>
        ["(","random","(",")","*","1000",")",":",":","int","AS",c]) := by
  have hcast : Reads "(random() * 1000)::int AS "
      ["(","random","(",")","*","1000",")",":",":","int","AS"] := reads_ofList (by decide +kernel)
  have hrun : ∀ c ∈ payloadColumns, IsRun c := by
    have hplain : ∀ c ∈ payloadColumns, c.toList ≠ [] ∧ isIdentifier c = true := by decide
    exact fun c hc => ⟨(hplain c hc).1,(hplain c hc).2⟩
  refine (tokens_intercalate (by decide +kernel : IsFrame [',',' '] [","]) _).trans ?_
  rw [List.map_map]
  exact congrArg _ (List.map_congr_left fun c hc => hcast.run (hrun c hc))

theorem keys?_dimension (rows seed : Nat) (modes : List CacheMode) :
    (ofFixture (dimensionFixture rows seed) modes).keys? = some ⟨.counter,rows⟩ := by
  have hkey : tokens "i AS id," = ["i"] ++ ["AS","id",","] := tokens_ofList (by decide +kernel)
  have hcountry : Reads
      "(ARRAY['US','CN','IN','BR','ID','PK','NG','BD','RU','MX'])[1 + (i % 10)] " _ :=
    ⟨rfl,by rw [String.toList_ofList]; decide +kernel⟩
  refine keys?_of_lines rfl rfl rfl hkey (by decide) rfl ?_ modes
  refine List.forall_mem_cons.mpr ⟨?_,List.forall_mem_cons.mpr ⟨?_,List.forall_mem_cons.mpr ⟨?_,
    List.forall_mem_singleton.mpr ?_⟩⟩⟩
  · rw [tokens_append (.inl hcountry.apart)]
    exact List.not_mem_append (not_mem_tokens (by decide +kernel)) (not_mem_tokens (by decide +kernel))
  · exact not_mem_tokens (by decide +kernel)
  · exact not_mem_tokens (by decide +kernel)
  · exact not_mem_tokens (by decide +kernel)

theorem keys?_indexOnly {rows : Nat} {f : Fixture} (h : indexOnlyFixture rows = .ok f)
    (modes : List CacheMode) : (ofFixture f modes).keys? = some ⟨.counter,rows⟩ := by
  obtain ⟨near,_,h⟩ := ok_of_bind h
  cases h
  have hkey : tokens "i::int4 AS id," = ["i",":",":","int4"] ++ ["AS","id",","] :=
    tokens_ofList (by decide +kernel)
  refine keys?_of_lines rfl rfl rfl hkey (by decide) rfl ?_ modes
  refine List.forall_mem_cons.mpr ⟨?_,List.forall_mem_cons.mpr ⟨?_,List.forall_mem_singleton.mpr ?_⟩⟩
  · exact not_mem_tokens (by decide +kernel)
  · exact not_mem_tokens (by decide +kernel)
  · exact not_mem_tokens (by decide +kernel)

theorem keys?_limit (rows : Nat) (modes : List CacheMode) :
    (ofFixture (limitFixture rows) modes).keys? = some ⟨.counter,rows⟩ := by
  have hkey : Reads "SELECT i::int4 AS id, (i % 100)::int4 AS category, "
      ["SELECT","i",":",":","int4","AS","id",",","(","i","%","100",")",":",":","int4","AS",
        "category",","] := reads_ofList (by decide +kernel)
  have hvalue : tokens "(random() * 1000)::int4 AS value" =
      ["(","random","(",")","*","1000",")",":",":","int4","AS","value"] :=
    tokens_ofList (by decide +kernel)
  have hselect : tokens (limitFixture rows).select = "SELECT" :: ["i",":",":","int4"] ++
      ["AS","id"] ++ [",","(","i","%","100",")",":",":","int4","AS","category",",","(","random",
        "(",")","*","1000",")",":",":","int4","AS","value"] ++
          "FROM" :: KeySource.series (toString rows) := by
    refine (tokens_setOut _).trans ?_
    rw [List.flatMap_cons,List.flatMap_singleton,tokens_append (.inl hkey.apart),hkey.tokens,
      hvalue,tokens_series]
    rfl
  exact keys?_of_first rfl hselect (by decide) rfl (by decide) modes

theorem keys?_backwardScan {rows : Nat} {f : Fixture} (h : backwardScanFixture rows = .ok f)
    (modes : List CacheMode) : (ofFixture f modes).keys? = some ⟨.counter,rows⟩ := by
  obtain ⟨ninefold,_,h⟩ := ok_of_bind h
  cases h
  have hkey : Reads "SELECT i::int4 AS id, (i % 1000)::int4 AS payload "
      ("SELECT" :: ["i",":",":","int4"] ++ ["AS","id"] ++ [",","(","i","%","1000",")",":",":","int4",
        "AS","payload"]) := reads_ofList (by decide +kernel)
  exact keys?_of_text rfl rfl hkey (by decide) rfl (by decide) modes

/-- The counter modulo the number of keys, cast to the type of the column. -/
def residueText (key : KeyType) (domain : Nat) : String := s!"(i % {domain})::{key.name}"

/-- The lookups of an integer column: around the middle of its keys, and at it. -/
def middleLookups (domain rows : Nat) : List Query :=
  let middle := min domain rows / 2
  [template "range_1pct" "Range scan (1% of rows)" .rangeScan
      s!"SELECT * FROM {tableSlot} WHERE id BETWEEN {middle} AND {middle + rows / 100}",
    { template "point" "Point lookup" .pointLookup
        s!"SELECT * FROM {tableSlot} WHERE id = {middle}" with repeats := some 5 }]

/-- What a fixture over an integer column is made of. -/
structure IsInteger (key : KeyType) (rows domain : Nat) (f : Fixture) : Prop where
  keys : keyDomain key rows = .ok domain
  indexColumns : f.indexColumns = "id"
  select : f.select = "SELECT " ++ residueText key domain ++
    " AS id, (i % 1000)::int4 AS payload " ++ s!"FROM generate_series(1, {rows}) i"
  templates : f.templates = middleLookups domain rows

theorem exists_isInteger {key : KeyType} {rows : Nat} {f : Fixture} (hkey : key ≠ .date)
    (h : dataTypeFixture key rows = .ok f) : ∃ domain, IsInteger key rows domain f := by
  obtain ⟨keys,hover,⟨hdate,-⟩ | ⟨-,hkeys⟩⟩ := exists_isOver h
  · exact absurd hdate hkey
  obtain ⟨domain,hdomain,hkeys⟩ := ok_of_bind hkeys
  obtain ⟨upper,hupper,hkeys⟩ := ok_of_bind hkeys
  obtain rfl := (addWord_eq_ok_iff.mp hupper).2
  cases hkeys
  exact ⟨domain,hdomain,hover.indexColumns,hover.select,hover.templates⟩

theorem tokens_residueText (key : KeyType) (domain : Nat) : tokens (residueText key domain) =
    ["(","i","%",toString domain,")",":",":",key.name] := by
  have hrun : IsRun key.name := by cases key <;> exact ⟨by decide,by decide⟩
  have hopen : Reads "(i % " ["(","i","%"] := reads_ofList (by decide)
  have hresidue : Reads ("(i % " ++ toString domain ++ ")::")
      (["(","i","%"] ++ [toString domain,")",":",":"]) :=
    hopen.hole (isRun_toString domain) (by decide)
  exact hresidue.run hrun

theorem IsInteger.keys? {key : KeyType} {rows domain : Nat} {f : Fixture}
    (h : IsInteger key rows domain f) (modes : List CacheMode) :
    (ofFixture f modes).keys? = some ⟨.residue domain,rows⟩ := by
  have hselect : Reads "SELECT " ["SELECT"] := reads_ofList (by decide)
  have hcolumn : tokens ("SELECT " ++ residueText key domain) =
      "SELECT" :: ["(","i","%",toString domain,")",":",":",key.name] := by
    rw [tokens_append (.inl hselect.apart),hselect.tokens,tokens_residueText]
    rfl
  have hkey : Reads ("SELECT " ++ residueText key domain ++ " AS id, (i % 1000)::int4 AS payload ")
      (tokens ("SELECT " ++ residueText key domain) ++ (["AS","id"] ++
        [",","(","i","%","1000",")",":",":","int4","AS","payload"])) :=
    reads_frame _ (by decide +kernel)
  rw [hcolumn,← List.append_assoc] at hkey
  have hitem : ∀ t ∈ ["(","i","%",toString domain,")",":",":",key.name],
      KeySource.startsItem t = false := by
    have hname : KeySource.startsItem key.name = false := by cases key <;> decide
    simp only [List.forall_mem_cons,KeySource.startsItem_toString,hname]
    decide
  refine keys?_of_text h.indexColumns h.select hkey hitem ?_ (by decide) modes
  rw [KeyExpression.read?,number?_toString,Option.map_some]

theorem keys?_covering (covered : List String) (rows : Nat) (modes : List CacheMode) :
    (ofFixture (coveringFixture covered rows) modes).keys? = some ⟨.counter,rows⟩ := by
  have htext : (coveringFixture covered rows).select = "SELECT i AS id, " ++ ", ".intercalate
      (payloadColumns.map fun c => s!"(random() * 1000)::int AS {c}") ++
        " FROM generate_series(1, " ++ toString rows ++ ") i" := rfl
  have hkey : Reads "SELECT i AS id, " ["SELECT","i","AS","id",","] :=
    reads_ofList (by decide +kernel)
  have hfrom : ∀ text, tokens (text ++ " FROM generate_series(1, " ++ toString rows ++ ") i") =
      tokens text ++ "FROM" :: KeySource.series (toString rows) := by
    intro text
    have hframe : Reads (text ++ " FROM generate_series(1, ")
        (tokens text ++ ["FROM","generate_series","(","1",","]) := reads_frame _ (by decide +kernel)
    exact (hframe.lastHole (isRun_toString rows) (by decide)).trans (List.append_assoc ..)
  have hselect : tokens (coveringFixture covered rows).select = "SELECT" :: ["i"] ++ ["AS","id"] ++
      ("," :: List.intercalate [","] (payloadColumns.map fun c =>
        ["(","random","(",")","*","1000",")",":",":","int","AS",c])) ++
          "FROM" :: KeySource.series (toString rows) := by
    rw [htext,hfrom,tokens_append (.inl hkey.apart),hkey.tokens,tokens_payload]
    rfl
  exact keys?_of_first rfl hselect (by decide) rfl (by decide) modes

theorem keys?_timeSeries (metrics rows : Nat) (modes : List CacheMode) :
    (ofFixture (timeSeriesFixture metrics rows) modes).keys? = some ⟨.drawn metrics,rows⟩ := by
  have hlines : (timeSeriesFixture metrics rows).select = setOut
      [(0,"SELECT"),
        (24,"CURRENT_TIMESTAMP - (random() * 0.49 * INTERVAL '365 days') AS ts,"),
        (24,"(CASE WHEN random() < 0.8"),
        (28,s!"THEN floor(random() * {metrics} * 0.2)::int"),
        (28,s!"ELSE floor(random() * {metrics})::int END) AS metric_id,"),
        (24,"(random() * 100 + 10 * sin(i::float / 10000.0))::float4 AS value,"),
        (24,"(random() * 10000)::int AS customer_id,"),
        (24,"(random() * 5)::smallint AS severity"),
        (20,s!"FROM generate_series(1, {rows}) i"),
        (20,"ORDER BY 2")] := rfl
  have hselect : tokens "SELECT" = ["SELECT"] := tokens_ofList (by decide)
  have htime : tokens "CURRENT_TIMESTAMP - (random() * 0.49 * INTERVAL '365 days') AS ts," =
      ["CURRENT_TIMESTAMP","-","(","random","(",")","*","0",".","49","*","INTERVAL","'","365",
        "days","'",")","AS","ts",","] := tokens_ofList (by decide +kernel)
  have hcase : tokens "(CASE WHEN random() < 0.8" =
      ["(","CASE","WHEN","random","(",")","<","0",".","8"] := tokens_ofList (by decide +kernel)
  have hfew : tokens s!"THEN floor(random() * {metrics} * 0.2)::int" =
      ["THEN","floor","(","random","(",")","*"] ++
        toString metrics :: ["*","0",".","2",")",":",":","int"] :=
    (reads_ofList (by decide +kernel)).lastHole (isRun_toString metrics) (by decide +kernel)
  have hall : tokens s!"ELSE floor(random() * {metrics})::int END) AS metric_id," =
      ["ELSE","floor","(","random","(",")","*"] ++
        toString metrics :: [")",":",":","int","END",")","AS","metric_id",","] :=
    (reads_ofList (by decide +kernel)).lastHole (isRun_toString metrics) (by decide +kernel)
  have horder : tokens "ORDER BY 2" = ["ORDER","BY","2"] := tokens_ofList (by decide)
  let value := tokens "(random() * 100 + 10 * sin(i::float / 10000.0))::float4 AS value,"
  let customer := tokens "(random() * 10000)::int AS customer_id,"
  let severity := tokens "(random() * 5)::smallint AS severity"
  have hsplit : tokens (timeSeriesFixture metrics rows).select = (["SELECT","CURRENT_TIMESTAMP","-",
      "(","random","(",")","*","0",".","49","*","INTERVAL","'","365","days","'",")","AS","ts"] ++
        "," :: skewedDraw (toString metrics) ++ ["AS"]) ++
          "metric_id" :: (("," :: value ++ customer ++ severity ++ ["FROM"]) ++
            KeySource.series (toString rows) ++ ["ORDER","BY","2"]) := by
    rw [hlines,tokens_setOut]
    simp only [List.flatMap_cons,List.flatMap_nil,hselect,htime,hcase,hfew,hall,horder,tokens_series]
    simp [skewedDraw,KeySource.series,value,customer,severity]
  have hvalue : "metric_id" ∉ value := not_mem_tokens (by decide +kernel)
  have hcustomer : "metric_id" ∉ customer := not_mem_tokens (by decide +kernel)
  have hseverity : "metric_id" ∉ severity := not_mem_tokens (by decide +kernel)
  have hindex : (timeSeriesFixture metrics rows).indexColumns = "metric_id" := rfl
  exact keys?_ofFixture hindex hsplit rfl (KeySource.startsItem_skewedDraw metrics)
    (KeyExpression.read?_skewedDraw metrics) (by decide) (by decide)
    (by simp [hvalue,hcustomer,hseverity]) (by decide) modes

end Pattern
end IndexTrial
