import IndexTrial.Binary64.Spelling
import IndexTrial.Random.Keystream
import IndexTrial.Text.Search
import IndexTrial.Workload.Basic

/-!
The data shapes that a suite is made of. A pattern with a row count and a seed gives the SQL that
loads its table, the columns to index, and its queries. Row counts are 64-bit words, and so are all
numbers computed from them; a product that leaves the word is a fault.
-/

namespace IndexTrial

inductive TextKey
  | uuid
  | utf8
  deriving DecidableEq, Repr

inductive KeyType
  | int2
  | int8
  | date
  deriving DecidableEq, Repr

def KeyType.name : KeyType → String
  | int2 => "int2"
  | int8 => "int8"
  | date => "date"

inductive Pattern
  /-- Ordered timestamps, few distinct metrics. -/
  | timeSeries (metrics : Nat)
  | dimension
  /-- Skewed user ids: few of them take most of the traffic. -/
  | events (distinctUsers : Nat)
  /-- Only active orders are kept, with a tiny domain of states. -/
  | sparse
  /-- Orders by date, many rows for each key. -/
  | composite
  /-- One range returning a fraction of the rows. -/
  | selectivity (fraction : Binary64)
  | backwardScan
  | limit
  | inClause
  /-- Text keys, sorted beforehand. -/
  | textKeys (key : TextKey)
  /-- Range scans carrying payload columns, eight at most. -/
  | includeOverhead (columns : Nat)
  /-- The same access over keys of different types. -/
  | dataType (key : KeyType)
  /-- Scans answered from the index alone. -/
  | indexOnly
  /-- An index on the tenth of the rows that is active. -/
  | partialIndex
  deriving DecidableEq, Repr

/-- What a pattern comes to at a row count. In the SQL of the templates the table's name is still
open. -/
structure Fixture where
  id : String
  description : String
  indexColumns : String := "id"
  includeColumns : List String := []
  predicate : Option String := none
  select : String
  templates : List Query

/-- Stands for the table's name in a template. -/
def tableSlot : String := "\x7btable\x7d"

def setOut (lines : List (Nat × String)) : String :=
  "\n".intercalate (lines.map fun (depth,line) => spaces depth ++ line)

def addWord64 (a b : Nat) : Except WordFault Nat := addWord 64 a b

def template (id description : String) (shape : QueryShape) (sql : String) : Query :=
  { id, description, shape, sql }

namespace Pattern

def cardinality (metrics : Nat) : String :=
  if metrics < 100 then "ultra_low" else if metrics < 500 then "low" else "med"

def timeSeriesFixture (metrics rows : Nat) : Fixture where
  id := s!"timeseries_{rows / 1000}k_{metrics}m_{cardinality metrics}_card"
  description := s!"Time-series: {rows} rows, {metrics} metrics"
  indexColumns := "metric_id"
  includeColumns := ["customer_id","severity"]
  select := setOut
    [(0,"SELECT"),
      (24,"CURRENT_TIMESTAMP - (random() * 0.49 * INTERVAL '365 days') AS ts,"),
      (24,"(CASE WHEN random() < 0.8"),
      (28,s!"THEN floor(random() * {metrics} * 0.2)::int"),
      (28,s!"ELSE floor(random() * {metrics})::int END) AS metric_id,"),
      (24,"(random() * 100 + 10 * sin(i::float / 10000.0))::float4 AS value,"),
      (24,"(random() * 10000)::int AS customer_id,"),
      (24,"(random() * 5)::smallint AS severity"),
      (20,s!"FROM generate_series(1, {rows}) i"),
      (20,"ORDER BY 2")]
  templates :=
    [template "hot_metric" "Single hot metric (equality)" .aggregation
        s!"SELECT count(*), avg(value) FROM {tableSlot} WHERE metric_id = 5",
      template "metric_range" "Metric range scan" .rangeScan
        s!"SELECT count(*), avg(value) FROM {tableSlot} WHERE metric_id BETWEEN 10 AND 20"]

def dimensionFixture (rows seed : Nat) : Fixture where
  id := s!"dimension_{rows / 1000}k"
  description := s!"Dimension table: {rows} rows"
  includeColumns := ["country_code","name"]
  select := setOut
    [(0,"SELECT"),
      (24,"i AS id,"),
      (24,"(ARRAY['US','CN','IN','BR','ID','PK','NG','BD','RU','MX'])[1 + (i % 10)] " ++
        "AS country_code,"),
      (24,"'Customer ' || i AS name,"),
      (24,"(ARRAY['active','inactive','suspended'])[1 + (i % 3)] AS status,"),
      (24,"('2020-01-01'::date + (i % 1000)) AS created_date"),
      (20,s!"FROM generate_series(1, {rows}) i")]
  templates :=
    [template "point_lookup" "Point lookup (seeded random id)" .pointLookup
        s!"SELECT * FROM {tableSlot} WHERE id = {drawUpTo seed (max rows 1)}",
      template "range_scan" "Range scan (50% selectivity)" .rangeScan
        s!"SELECT count(*) FROM {tableSlot} WHERE id >= {rows / 2}"]

def eventsFixture (distinctUsers rows : Nat) : Fixture :=
  let users := max distinctUsers 100
  { id := s!"events_{rows / 1000}k_{users}_users"
    description := s!"Event stream: {rows} rows, {users} users"
    indexColumns := "user_id"
    includeColumns := ["event_type","session_id"]
    select := setOut
      [(0,"SELECT"),
        (24,"CASE"),
        (28,s!"WHEN random() < 0.5 THEN floor(random() * ({users} * 0.01))::int"),
        (28,s!"WHEN random() < 0.8 THEN floor(random() * ({users} * 0.2))::int"),
        (28,s!"ELSE floor(random() * {users})::int"),
        (24,"END AS user_id,"),
        (24,"(ARRAY['click','view','purchase','cart_add'])[1 + floor(random() * 4)::int] " ++
          "AS event_type,"),
        (24,"NOW() - (random() * INTERVAL '30 days') AS event_time,"),
        (24,"(random() * 1000)::int AS session_id"),
        (20,s!"FROM generate_series(1, {rows}) i"),
        (20,"ORDER BY 1")]
    templates :=
      [template "hot_user" "Hot user events (high duplicate key)" .aggregation
          s!"SELECT count(*), event_type FROM {tableSlot} WHERE user_id = 5 GROUP BY 2",
        template "user_range" "User range scan" .rangeScan
          s!"SELECT count(*) FROM {tableSlot} WHERE user_id < 100"] }

def sparseFixture (rows : Nat) : Fixture where
  id := s!"sparse_{rows / 1000}k"
  description := s!"Sparse index: {rows} rows filtered to active orders"
  indexColumns := "status"
  includeColumns := ["order_date","total"]
  select := setOut
    [(0,"SELECT * FROM ("),
      (20,"SELECT"),
      (24,"i AS order_id,"),
      (24,"(ARRAY['pending','processing','shipped','delivered','cancelled'])" ++
        "[1 + floor(random() * 5)::int] AS status,"),
      (24,"NOW() - (random() * INTERVAL '90 days') AS order_date,"),
      (24,"(random() * 10000)::numeric(10,2) AS total"),
      (20,s!"FROM generate_series(1, {rows}) i"),
      (16,") o WHERE status IN ('pending', 'processing')")]
  templates :=
    [template "pending_orders" "Pending orders (small key domain)" .aggregation
        s!"SELECT count(*), sum(total) FROM {tableSlot} WHERE status = 'pending'",
      template "all_active" "All active orders" .fullScan
        s!"SELECT count(*) FROM {tableSlot} WHERE status IN ('pending', 'processing')"]

def compositeFixture (rows : Nat) : Fixture where
  id := s!"composite_{rows / 1000}k"
  description := s!"Composite key (date, id): {rows} rows"
  indexColumns := "order_date"
  includeColumns := ["order_id","amount"]
  select := setOut
    [(0,"SELECT"),
      (20,"('2024-01-01'::date + (i % 365)) AS order_date,"),
      (20,"i AS order_id,"),
      (20,"(random() * 5000)::int AS amount,"),
      (20,"(random() * 1000)::int AS customer_id"),
      (16,s!"FROM generate_series(1, {rows}) i"),
      (16,"ORDER BY 1, 2")]
  templates :=
    [template "recent_orders" "Recent orders (Q4 2024)" .aggregation
        s!"SELECT count(*), sum(amount) FROM {tableSlot} WHERE order_date >= '2024-10-01'",
      template "single_day" "Single day orders" .rangeScan
        (s!"SELECT count(*) FROM {tableSlot} WHERE order_date >= '2024-06-15' " ++
          "AND order_date < '2024-06-16'")]

def hundred : Binary64 := .ofNat 100

def selectivityFixture (fraction : Binary64) (rows : Nat) : Fixture :=
  let fraction := fraction.clamp .zero .one
  let threshold := ((Binary64.ofNat rows).mul (Binary64.one.sub fraction)).toWord
  let percent := (fraction.mul hundred).fixedPlaces 1
  let tag := String.ofList (percent.toList.map fun c => if c = '.' then '_' else c)
  { id := s!"selectivity_{rows / 1000}k_{tag}pct"
    description := s!"Selectivity {percent}%: {rows} rows"
    includeColumns := ["value"]
    select := s!"SELECT i AS id, (random() * 1000)::int AS value " ++
      s!"FROM generate_series(1, {rows}) i"
    templates :=
      [template s!"sel_{tag}pct" s!"Range scan returning {percent}% of rows" .rangeScan
        s!"SELECT count(*), sum(value) FROM {tableSlot} WHERE id >= {threshold}"] }

def backwardScanFixture (rows : Nat) : Except WordFault Fixture := do
  let ninefold ← mulWord rows 9
  return {
    id := s!"backward_{rows / 1000}k"
    description := s!"Backward scans: {rows} rows"
    includeColumns := ["payload"]
    select := s!"SELECT i::int4 AS id, (i % 1000)::int4 AS payload " ++
      s!"FROM generate_series(1, {rows}) i"
    templates :=
      [{ template "desc_limit100" "Last 100 rows (backward)" .pointLookup
          s!"SELECT * FROM {tableSlot} ORDER BY id DESC LIMIT 100" with repeats := some 5 },
        template "desc_range" "Range + backward scan" .rangeScan
          s!"SELECT * FROM {tableSlot} WHERE id > {ninefold / 10} ORDER BY id DESC"] }

def limitFixture (rows : Nat) : Fixture where
  id := s!"limit_{rows / 1000}k"
  description := s!"LIMIT queries: {rows} rows"
  includeColumns := ["category","value"]
  select := setOut
    [(0,"SELECT i::int4 AS id, (i % 100)::int4 AS category, " ++
        "(random() * 1000)::int4 AS value"),
      (16,s!"FROM generate_series(1, {rows}) i")]
  templates :=
    [{ template "range_limit100" "Range scan + LIMIT 100" .pointLookup
        s!"SELECT * FROM {tableSlot} WHERE id > {rows / 2} ORDER BY id LIMIT 100"
        with repeats := some 5 },
      template "range_limit10k" "Range scan + LIMIT 10000" .rangeScan
        s!"SELECT * FROM {tableSlot} WHERE id > {rows / 2} ORDER BY id LIMIT 10000"]

/-- `n` keys, evenly spaced over the rows. -/
def spacedKeys (rows n : Nat) : Except WordFault (List Nat) := do
  let spacing ← divWord rows n
  (List.range n).mapM fun i => mulWord (i + 1) (max spacing 1)

def keyList (keys : List Nat) : String := ",".intercalate (keys.map toString)

def inClauseFixture (rows : Nat) : Except WordFault Fixture := do
  let few ← spacedKeys rows 5
  let many ← spacedKeys rows 500
  return {
    id := s!"inclause_{rows / 1000}k"
    description := s!"IN clause queries: {rows} rows"
    select := s!"SELECT i::int4 AS id, 'data_' || i AS payload " ++
      s!"FROM generate_series(1, {rows}) i"
    templates :=
      [template "in_5" "IN clause with 5 values" .pointLookup
          s!"SELECT * FROM {tableSlot} WHERE id IN ({keyList few})",
        template "in_500" "IN clause with 500 values" .rangeScan
          s!"SELECT * FROM {tableSlot} WHERE id IN ({keyList many})"] }

def textCollation : String := "en-US-x-icu"

/-- The first six letters and digits of a collation, in lower case. -/
def collationTag (collation : String) : String :=
  String.ofList (((collation.toList.filter Char.isAlphanum).take 6).map Char.toLower)

/-- The tag, the expression of the keys, and the ends of the range that is queried. -/
def textKeyParts : TextKey → String × String × String × String
  | .uuid =>
    ("uuid","('00000000-0000-0000-0000-' || lpad((i % 10000)::text, 12, '0'))::uuid",
      "'00000000-0000-0000-0000-000000005000'::uuid",
      "'00000000-0000-0000-0000-000000007000'::uuid")
  | .utf8 =>
    (s!"text_utf8_{collationTag textCollation}",
      setOut
        [(0,"(CASE (i % 5)"),
          (28,"WHEN 0 THEN 'café-' || (i % 10000)::text"),
          (28,"WHEN 1 THEN 'naïve-' || (i % 10000)::text"),
          (28,"WHEN 2 THEN 'résumé-' || (i % 10000)::text"),
          (28,"WHEN 3 THEN 'Zürich-' || (i % 10000)::text"),
          (28,"ELSE 'élève-' || (i % 10000)::text"),
          (24,s!"END) COLLATE \"{textCollation}\"")],
      "'café-5000'","'café-7000'")

def textKeysFixture (key : TextKey) (rows : Nat) : Fixture :=
  let (tag,keys,low,high) := textKeyParts key
  { id := s!"textkeys_{tag}_{rows / 1000}k"
    description := s!"Text keys ({tag}): {rows} rows"
    indexColumns := "key_col"
    includeColumns := ["value1","value2"]
    select := setOut
      [(0,"SELECT"),
        (24,s!"{keys} AS key_col,"),
        (24,"(random() * 1000)::int AS value1,"),
        (24,"(random() * 1000)::int AS value2"),
        (20,s!"FROM generate_series(1, {rows}) i"),
        (20,"ORDER BY 1")]
    templates :=
      [template "equality" "Equality on text key" .aggregation
          s!"SELECT count(*) FROM {tableSlot} WHERE key_col = {low}",
        template "range" "Range scan on text key" .rangeScan
          s!"SELECT count(*) FROM {tableSlot} WHERE key_col >= {low} AND key_col < {high}"] }

def payloadColumns : List String :=
  ["inc1","inc2","inc3","inc4","inc5","inc6","inc7","inc8"]

def coveringFixture (covered : List String) (rows : Nat) : Fixture :=
  let n := covered.length
  let sums := ", ".intercalate (covered.map (fun c => s!"sum({c})") ++ ["count(*)"])
  let payload := ", ".intercalate
    (payloadColumns.map fun c => s!"(random() * 1000)::int AS {c}")
  { id := s!"include_{n}cols_{rows / 1000}k"
    description := s!"INCLUDE overhead ({n} cols): {rows} rows"
    includeColumns := covered
    select := s!"SELECT i AS id, {payload} FROM generate_series(1, {rows}) i"
    templates :=
      [template s!"scan_{n}inc" s!"Range scan with {n} INCLUDE columns" .rangeScan
        s!"SELECT {sums} FROM {tableSlot} WHERE id >= {rows / 2}"] }

def includeOverheadFixture (columns rows : Nat) : Except WordFault Fixture := do
  let covered ← sliceTo payloadColumns (min columns payloadColumns.length)
  return coveringFixture covered rows

theorem includeOverheadFixture_eq (columns rows : Nat) : includeOverheadFixture columns rows =
    .ok (coveringFixture (payloadColumns.take columns) rows) := by
  rw [includeOverheadFixture,sliceTo_min]
  rfl

/-- Number of distinct keys of an integer column; the narrow type ends at its maximum. -/
def keyDomain (key : KeyType) (rows : Nat) : Except WordFault Nat := do
  let n ← match key with
    | .int2 => pure (min rows 32767)
    | _ => mulWord rows 2
  return max n 1

def integerKeyTemplates (key : KeyType) (rows : Nat) : Except WordFault (String × List Query) := do
  let domain ← keyDomain key rows
  let middle := min domain rows / 2
  let upper ← addWord64 middle (rows / 100)
  return (s!"(i % {domain})::{key.name}",
    [template "range_1pct" "Range scan (1% of rows)" .rangeScan
        s!"SELECT * FROM {tableSlot} WHERE id BETWEEN {middle} AND {upper}",
      { template "point" "Point lookup" .pointLookup
          s!"SELECT * FROM {tableSlot} WHERE id = {middle}" with repeats := some 5 }])

def dateKeyTemplates : String × List Query :=
  ("('2020-01-01'::date + i)",
    [template "range_1month" "Date range (1 month)" .rangeScan
        s!"SELECT * FROM {tableSlot} WHERE id BETWEEN '2020-06-01' AND '2020-06-30'",
      template "recent" "Recent dates (backward scan)" .rangeScan
        s!"SELECT * FROM {tableSlot} WHERE id > '2022-01-01' ORDER BY id DESC LIMIT 1000"])

def dataTypeFixture (key : KeyType) (rows : Nat) : Except WordFault Fixture := do
  let (keys,templates) ← match key with
    | .date => pure dateKeyTemplates
    | _ => integerKeyTemplates key rows
  return {
    id := s!"dtype_{key.name}_{rows / 1000}k"
    description := s!"Data type ({key.name}): {rows} rows"
    select := s!"SELECT {keys} AS id, (i % 1000)::int4 AS payload " ++
      s!"FROM generate_series(1, {rows}) i"
    templates }

def indexOnlyFixture (rows : Nat) : Except WordFault Fixture := do
  let near ← addWord64 (rows / 10) (rows / 100)
  return {
    id := s!"ios_{rows / 1000}k"
    description := s!"Index-only scans: {rows} rows"
    select := setOut
      [(0,"SELECT"),
        (20,"i::int4 AS id,"),
        (20,"(ARRAY['active','pending','completed'])[1 + (i % 3)] AS status,"),
        (20,"(i % 1000)::int4 AS value,"),
        (20,"'padding_' || i AS extra"),
        (16,s!"FROM generate_series(1, {rows}) i")]
    templates :=
      [template "ios_range" "Index-only scan (10% of rows)" .rangeScan
          s!"SELECT id FROM {tableSlot} WHERE id BETWEEN {rows / 10} AND {rows / 5}",
        template "ios_small" "Index-only scan (1% of rows)" .rangeScan
          s!"SELECT id FROM {tableSlot} WHERE id BETWEEN {rows / 10} AND {near}"] }

def partialIndexFixture (rows : Nat) : Fixture where
  id := s!"partial_{rows / 1000}k"
  description := s!"Partial index: {rows} rows (10% indexed)"
  predicate := some "status = 'active'"
  select := setOut
    [(0,"SELECT"),
      (20,"i::int4 AS id,"),
      (20,"CASE WHEN i % 10 = 0 THEN 'active' ELSE 'inactive' END AS status,"),
      (20,"(i % 100)::int4 AS category"),
      (16,s!"FROM generate_series(1, {rows}) i")]
  templates :=
    [template "active_category" "Partial index scan (small result)" .rangeScan
        s!"SELECT * FROM {tableSlot} WHERE status = 'active' AND category = 40",
      template "active_range" "Partial index range scan" .rangeScan
        (s!"SELECT * FROM {tableSlot} WHERE status = 'active' " ++
          s!"AND id BETWEEN {rows / 10} AND {rows / 5}")]

def fixture (p : Pattern) (rows seed : Nat) : Except WordFault Fixture :=
  match p with
  | timeSeries metrics => .ok (timeSeriesFixture metrics rows)
  | dimension => .ok (dimensionFixture rows seed)
  | events users => .ok (eventsFixture users rows)
  | sparse => .ok (sparseFixture rows)
  | composite => .ok (compositeFixture rows)
  | selectivity fraction => .ok (selectivityFixture fraction rows)
  | backwardScan => backwardScanFixture rows
  | limit => .ok (limitFixture rows)
  | inClause => inClauseFixture rows
  | textKeys key => .ok (textKeysFixture key rows)
  | includeOverhead columns => includeOverheadFixture columns rows
  | dataType key => dataTypeFixture key rows
  | indexOnly => indexOnlyFixture rows
  | partialIndex => .ok (partialIndexFixture rows)

end Pattern

end IndexTrial
