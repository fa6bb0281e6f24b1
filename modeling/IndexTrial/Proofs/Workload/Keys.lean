import IndexTrial.Proofs.Store.Filling
import IndexTrial.Proofs.Workload.Tokens

/-!
Keys in statements: the keys that a filling gives a column, and the condition that a query puts on
them, both read from the tokens. A query hits its table if one of the keys meets the condition.
-/

namespace IndexTrial

/-! ### Conditions -/

/-- What a query asks of the key. -/
inductive KeyCondition
  | any
  | equals (k : Nat)
  | between (low high : Nat)
  | atLeast (low : Nat)
  | above (low : Nat)
  deriving DecidableEq, Repr

namespace KeyCondition

def Holds : KeyCondition → Nat → Prop
  | any, _ => True
  | equals n, k => k = n
  | between low high, k => low ≤ k ∧ k ≤ high
  | atLeast low, k => low ≤ k
  | above low, k => low < k

/-- A condition ends with its statement, or where the rows are put in order. -/
def endsAt (ts : List String) : Bool := ts.head?.all (· == "ORDER")

/-- What is asked of a column, from the tokens after its name. -/
def ofComparison? : List String → Option KeyCondition
  | "=" :: t :: rest => if endsAt rest then (number? t).map equals else none
  | "BETWEEN" :: t :: "AND" :: u :: rest =>
    match number? t, number? u with
    | some low, some high => if endsAt rest then some (between low high) else none
    | _, _ => none
  | ">" :: t :: rest =>
    match number? t, rest with
    | some low, _ => if endsAt rest then some (above low) else none
    | none, u :: rest => if t = "=" ∧ endsAt rest then (number? u).map atLeast else none
    | none, [] => none
  | _ => none

/-- What a query asks of a column; a query without a clause takes every row. -/
def read? (column sql : String) : Option KeyCondition :=
  match cutLast? "WHERE" (tokens sql) with
  | none => some any
  | some (_,[]) => none
  | some (_,c :: comparison) => if c = column then ofComparison? comparison else none

variable {sql table column : String} {before comparison : List String}

theorem read?_of_where (h : tokens sql = before ++ table :: "WHERE" :: column :: comparison)
    (hclause : "WHERE" ∉ column :: comparison) : read? column sql = ofComparison? comparison := by
  rw [List.append_cons] at h
  rw [read?,h,cutLast?_append hclause]
  simp

theorem read?_of_not_mem (h : "WHERE" ∉ tokens sql) : read? column sql = some any := by
  simp [read?,cutLast?_eq_none h]

theorem ofComparison?_equals (k : Nat) : ofComparison? ["=",toString k] = some (equals k) := by
  simp only [ofComparison?,number?_toString]
  rfl

theorem ofComparison?_atLeast (k : Nat) :
    ofComparison? [">","=",toString k] = some (atLeast k) := by
  have hsign : number? "=" = none := by decide
  simp only [ofComparison?,number?_toString,hsign]
  rfl

theorem ofComparison?_above (k : Nat) {rest : List String} (h : endsAt rest = true) :
    ofComparison? (">" :: toString k :: rest) = some (above k) := by
  simp only [ofComparison?,number?_toString,h]
  rfl

theorem ofComparison?_between (low high : Nat) :
    ofComparison? ["BETWEEN",toString low,"AND",toString high] = some (between low high) := by
  simp only [ofComparison?,number?_toString]
  rfl

end KeyCondition

/-! ### Sources -/

/-- What the filling of a table makes of the counter of its series. -/
inductive KeyExpression
  | counter
  | residue (modulus : Nat)
  /-- Any number below the bound. -/
  | drawn (bound : Nat)
  deriving DecidableEq, Repr

/-- A draw that prefers the first fifth of the numbers below a bound. -/
def skewedDraw (bound : String) : List String :=
  ["(","CASE","WHEN","random","(",")","<","0",".","8","THEN","floor","(","random","(",")","*",bound,
    "*","0",".","2",")",":",":","int","ELSE","floor","(","random","(",")","*",bound,")",":",":",
    "int","END",")"]

def KeyExpression.read? : List String → Option KeyExpression
  | ["i"] => some counter
  | ["i",":",":","int4"] => some counter
  | ["(","i","%",m,")",":",":",_] => (number? m).map residue
  | "(" :: "CASE" :: rest =>
    match rest[15]? with
    | none => none
    | some bound =>
      if "(" :: "CASE" :: rest = skewedDraw bound then (number? bound).map drawn else none
  | _ => none

theorem KeyExpression.read?_skewedDraw (bound : Nat) :
    read? (skewedDraw (toString bound)) = some (.drawn bound) := by
  change (if skewedDraw (toString bound) = skewedDraw (toString bound) then
    (number? (toString bound)).map drawn else none) = _
  rw [if_pos rfl,number?_toString,Option.map_some]

/-- The keys of a table: an expression over a series from 1 to a count. -/
structure KeySource where
  expression : KeyExpression
  count : Nat
  deriving DecidableEq, Repr

namespace KeySource

/-- The keys that a table may have. -/
def Gives (s : KeySource) (k : Nat) : Prop :=
  match s.expression with
  | .counter => 1 ≤ k ∧ k ≤ s.count
  | .residue m => ∃ i, 1 ≤ i ∧ i ≤ s.count ∧ i % m = k
  | .drawn bound => 0 < s.count ∧ k < bound

/-- Some key meets the condition. -/
def Hits (s : KeySource) (c : KeyCondition) : Prop := ∃ k, s.Gives k ∧ c.Holds k

def startsItem (t : String) : Bool := t == "," || t == "SELECT"

/-- The expression of a column, from the tokens before its name. -/
def item? (before : List String) : Option (List String) :=
  match before.reverse with
  | "AS" :: ts => some (ts.takeWhile fun t => !startsItem t).reverse
  | _ => none

/-- A series from 1 to a count, with its counter. -/
def series (count : String) : List String := ["generate_series","(","1",",",count,")","i"]

/-- The last number of the series that a statement selects from. -/
def count? (ts : List String) : Option Nat :=
  match cutLast? "generate_series" ts with
  | some (_,"(" :: "1" :: "," :: n :: ")" :: "i" :: _) => number? n
  | _ => none

/-- The keys that a filling gives a column. -/
def read? (column sql : String) : Option KeySource :=
  match cutLast? column (tokens sql) with
  | none => none
  | some (before,after) =>
    match (item? before).bind KeyExpression.read?, count? after with
    | some expression, some count => some ⟨expression,count⟩
    | _, _ => none

theorem startsItem_toString (n : Nat) : startsItem (toString n) = false := by
  have hcomma : toString n ≠ "," := (ne_repr (by decide) n).symm
  have hselect : toString n ≠ "SELECT" := (ne_repr (by decide) n).symm
  rw [startsItem,beq_false_of_ne hcomma,beq_false_of_ne hselect,Bool.or_false]

theorem startsItem_skewedDraw (bound : Nat) :
    ∀ t ∈ skewedDraw (toString bound), startsItem t = false := by
  simp only [skewedDraw,List.forall_mem_cons,startsItem_toString]
  decide

theorem item?_append {start : String} {item : List String} (before : List String)
    (hstart : startsItem start = true) (hitem : ∀ t ∈ item, startsItem t = false) :
    item? (before ++ start :: item ++ ["AS"]) = some item := by
  have htake : (item.reverse ++ start :: before.reverse).takeWhile (fun t => !startsItem t) =
      item.reverse := by
    rw [List.takeWhile_append_of_pos fun t ht => by simp [hitem t (List.mem_reverse.mp ht)]]
    simp [hstart]
  simp [item?,htake]

theorem not_mem_series {token : String} (hname : number? token = none)
    (h : token ∉ ["generate_series","(","1",",",")","i"]) (n : Nat) :
    token ∉ series (toString n) := by
  simp only [List.mem_cons,List.not_mem_nil,or_false,not_or] at h
  simp [series,h,ne_repr hname n]

theorem count?_append (before : List String) (n : Nat) {rest : List String}
    (h : "generate_series" ∉ rest) : count? (before ++ series (toString n) ++ rest) = some n := by
  have hrest : "generate_series" ∉ ["(","1",",",toString n,")","i"] ++ rest := by
    simp [ne_repr (by decide : number? "generate_series" = none) n,h]
  rw [List.append_assoc]
  change count? (before ++ "generate_series" :: (["(","1",",",toString n,")","i"] ++ rest)) = _
  rw [count?,cutLast?_append hrest]
  exact number?_toString n

end KeySource

/-! ### Conditions of templates -/

/-- A text that leaves nothing open, and that the name of a table may follow. -/
structure IsLead (text : String) : Prop where
  closed : IsClosed text
  apart : EndsApart text.toList

theorem isLead_ofList {cs : List Char} (h : '\x7b' ∉ cs ∧ EndsApart cs) :
    IsLead (String.ofList cs) where
  closed := isClosed_ofList h.1
  apart := by
    rw [String.toList_ofList]
    exact h.2

theorem isLead_all : IsLead "SELECT * FROM " := isLead_ofList (by decide)

/-- A template whose text on a table has the given tokens, and in which a run may go on from
there. -/
structure ReadsOn (table text : String) (ts : List String) : Prop where
  isOpen : IsOpenOnce text
  reads : Reads (replaceText tableSlot table text) ts

namespace ReadsOn

variable {table text : String} {ts us : List String} {cs : List Char}

theorem start {before : String} (hbefore : IsLead before) (hrun : IsRun table)
    (hframe : IsFrame cs us) (hclosed : '\x7b' ∉ cs) :
    ReadsOn table (before ++ tableSlot ++ String.ofList cs) (tokens before ++ table :: us) where
  isOpen := isOpenOnce_text hbefore.closed hclosed
  reads := by
    rw [replaceText_slot hbefore.closed (isClosed_ofList hclosed)]
    exact Reads.hole ⟨rfl,hbefore.apart⟩ hrun hframe

/-- A template that leaves nothing open after its table. -/
theorem tokens_start {before : String} (hbefore : IsLead before) (hrun : IsRun table)
    (htail : IsTail cs us) (hclosed : '\x7b' ∉ cs) :
    tokens (replaceText tableSlot table (before ++ tableSlot ++ String.ofList cs)) =
      tokens before ++ table :: us := by
  rw [replaceText_slot hbefore.closed (isClosed_ofList hclosed)]
  exact Reads.lastHole ⟨rfl,hbefore.apart⟩ hrun htail

theorem number (h : ReadsOn table text ts) (n : Nat) :
    tokens (replaceText tableSlot table (text ++ toString n)) = ts ++ [toString n] := by
  rw [h.isOpen.replaceText_append (isClosed_toString n)]
  exact h.reads.run (isRun_toString n)

theorem lastHole (h : ReadsOn table text ts) (n : Nat) (htail : IsTail cs us)
    (hclosed : '\x7b' ∉ cs) :
    tokens (replaceText tableSlot table (text ++ toString n ++ String.ofList cs)) =
      ts ++ toString n :: us := by
  rw [(h.isOpen.number n).replaceText_append (isClosed_ofList hclosed),
    h.isOpen.replaceText_append (isClosed_toString n)]
  exact h.reads.lastHole (isRun_toString n) htail

theorem hole (h : ReadsOn table text ts) (n : Nat) (hframe : IsFrame cs us)
    (hclosed : '\x7b' ∉ cs) :
    ReadsOn table (text ++ toString n ++ String.ofList cs) (ts ++ toString n :: us) where
  isOpen := (h.isOpen.number n).append (isClosed_ofList hclosed)
  reads := by
    rw [(h.isOpen.number n).replaceText_append (isClosed_ofList hclosed),
      h.isOpen.replaceText_append (isClosed_toString n)]
    exact h.reads.hole (isRun_toString n) hframe

end ReadsOn

namespace KeyCondition

theorem where_ne_repr (n : Nat) : "WHERE" ≠ n.repr := ne_repr (by decide) n

variable {table before : String} (hbefore : IsLead before) (hrun : IsRun table)
include hbefore hrun

/-- Without a condition: just the order of the rows. -/
theorem read?_any {cs : List Char} (order : List String) (hfree : "WHERE" ∉ tokens before)
    (htable : table ≠ "WHERE") (htail : IsTail cs order) (hclosed : '\x7b' ∉ cs)
    (horder : "WHERE" ∉ order) :
    read? "id" (replaceText tableSlot table (before ++ tableSlot ++ String.ofList cs)) =
      some any := by
  refine read?_of_not_mem ?_
  rw [ReadsOn.tokens_start hbefore hrun htail hclosed]
  simp [hfree,htable.symm,horder]

theorem tokens_equals (k : Nat) : tokens (replaceText tableSlot table
    (before ++ tableSlot ++ " WHERE id = " ++ toString k)) =
      tokens before ++ [table,"WHERE","id","=",toString k] := by
  have hstart : ReadsOn table (before ++ tableSlot ++ " WHERE id = ")
      (tokens before ++ [table,"WHERE","id","="]) :=
    .start hbefore hrun (by decide +kernel) (by decide)
  exact (hstart.number k).trans (List.append_assoc ..)

theorem read?_equals (k : Nat) : read? "id" (replaceText tableSlot table
    (before ++ tableSlot ++ " WHERE id = " ++ toString k)) = some (equals k) :=
  (read?_of_where (tokens_equals hbefore hrun k) (by simp [where_ne_repr])).trans
    (ofComparison?_equals k)

theorem read?_atLeast (k : Nat) : read? "id" (replaceText tableSlot table
    (before ++ tableSlot ++ " WHERE id >= " ++ toString k)) = some (atLeast k) := by
  have hstart : ReadsOn table (before ++ tableSlot ++ " WHERE id >= ")
      (tokens before ++ [table,"WHERE","id",">","="]) :=
    .start hbefore hrun (by decide +kernel) (by decide)
  have htokens := (hstart.number k).trans (List.append_assoc ..)
  exact (read?_of_where htokens (by simp [where_ne_repr])).trans (ofComparison?_atLeast k)

/-- A bound from below, followed by the order of the rows. -/
theorem read?_above (k : Nat) {cs : List Char} (order : List String)
    (htail : IsTail cs ("ORDER" :: order)) (hclosed : '\x7b' ∉ cs) (horder : "WHERE" ∉ order) :
    read? "id" (replaceText tableSlot table
      (before ++ tableSlot ++ " WHERE id > " ++ toString k ++ String.ofList cs)) =
        some (above k) := by
  have hstart : ReadsOn table (before ++ tableSlot ++ " WHERE id > ")
      (tokens before ++ [table,"WHERE","id",">"]) :=
    .start hbefore hrun (by decide +kernel) (by decide)
  have htokens := (hstart.lastHole k htail hclosed).trans (List.append_assoc ..)
  exact (read?_of_where htokens (by simp [where_ne_repr,horder])).trans (ofComparison?_above k rfl)

theorem tokens_between (low high : Nat) : tokens (replaceText tableSlot table
    (before ++ tableSlot ++ " WHERE id BETWEEN " ++ toString low ++ " AND " ++ toString high)) =
      tokens before ++ [table,"WHERE","id","BETWEEN",toString low,"AND",toString high] := by
  have hstart : ReadsOn table (before ++ tableSlot ++ " WHERE id BETWEEN ")
      (tokens before ++ [table,"WHERE","id","BETWEEN"]) :=
    .start hbefore hrun (by decide +kernel) (by decide)
  have hlow : ReadsOn table (before ++ tableSlot ++ " WHERE id BETWEEN " ++ toString low ++ " AND ")
      (tokens before ++ [table,"WHERE","id","BETWEEN"] ++ [toString low,"AND"]) :=
    hstart.hole low (by decide +kernel) (by decide)
  rw [hlow.number high,List.append_assoc,List.append_assoc]
  rfl

theorem read?_between (low high : Nat) : read? "id" (replaceText tableSlot table
    (before ++ tableSlot ++ " WHERE id BETWEEN " ++ toString low ++ " AND " ++ toString high)) =
      some (between low high) :=
  (read?_of_where (tokens_between hbefore hrun low high) (by simp [where_ne_repr])).trans
    (ofComparison?_between low high)

end KeyCondition

/-! ### Keys of workloads -/

theorem tokens_series (rows : Nat) : tokens s!"FROM generate_series(1, {rows}) i" =
    ["FROM","generate_series","(","1",",",toString rows,")","i"] := by
  have hfrom : Reads "FROM generate_series(1, " ["FROM","generate_series","(","1",","] :=
    reads_ofList (by decide +kernel)
  exact hfrom.lastHole (isRun_toString rows) (by decide +kernel)

namespace PatternWorkload

/-- The keys that the filling of a workload's table gives its index. -/
def keys? (w : PatternWorkload) : Option KeySource :=
  w.filling.bind (KeySource.read? w.indexColumns)

theorem tokens_createTable {table : String} (hrun : IsRun table) (select : String) :
    tokens s!"CREATE UNLOGGED TABLE {table} AS {select};" =
      ["CREATE","UNLOGGED","TABLE",table,"AS"] ++ tokens select ++ [";"] := by
  have hcreate : Reads "CREATE UNLOGGED TABLE " ["CREATE","UNLOGGED","TABLE"] :=
    reads_ofList (by decide +kernel)
  have has : Reads ("CREATE UNLOGGED TABLE " ++ table ++ " AS ")
      (["CREATE","UNLOGGED","TABLE"] ++ [table,"AS"]) := hcreate.hole hrun (by decide +kernel)
  refine (tokens_tail _ (by decide +kernel : IsTail [';'] [";"])).trans ?_
  exact congrArg (· ++ [";"]) ((tokens_append (.inl has.apart)).trans (by rw [has.tokens]; rfl))

/-- A fixture whose rows are selected from one series gives its index the keys of one expression. -/
theorem keys?_ofFixture {f : Fixture} {n : Nat} {column start : String} {expression : KeyExpression}
    {before item middle rest : List String} (hindex : f.indexColumns = column)
    (hselect : tokens f.select = (before ++ start :: item ++ ["AS"]) ++ column ::
      (middle ++ KeySource.series (toString n) ++ rest))
    (hstart : KeySource.startsItem start = true)
    (hitem : ∀ t ∈ item, KeySource.startsItem t = false)
    (hread : KeyExpression.read? item = some expression) (hname : number? column = none)
    (hseries : column ∉ ["generate_series","(","1",",",")","i"])
    (hcolumn : column ∉ middle ++ rest ++ [";"]) (hrest : "generate_series" ∉ rest)
    (modes : List CacheMode) : (ofFixture f modes).keys? = some ⟨expression,n⟩ := by
  have hafter : column ∉ middle ++ KeySource.series (toString n) ++ (rest ++ [";"]) := by
    simp only [List.mem_append,not_or] at hcolumn ⊢
    exact ⟨⟨hcolumn.1.1,KeySource.not_mem_series hname hseries n⟩,hcolumn.1.2,hcolumn.2⟩
  have hjoin : tokens s!"CREATE UNLOGGED TABLE {tableName f.id} AS {f.select};" =
      ((["CREATE","UNLOGGED","TABLE",tableName f.id,"AS"] ++ before) ++ start :: item ++ ["AS"]) ++
        column :: (middle ++ KeySource.series (toString n) ++ (rest ++ [";"])) := by
    rw [tokens_createTable (isRun_tableName f.id),hselect]
    simp only [List.append_assoc,List.cons_append]
  have hfilling : (ofFixture f modes).filling =
      some s!"CREATE UNLOGGED TABLE {tableName f.id} AS {f.select};" := rfl
  have hkey : (ofFixture f modes).indexColumns = column := hindex
  have hcount : KeySource.count? (middle ++ KeySource.series (toString n) ++ (rest ++ [";"])) =
      some n := KeySource.count?_append middle n (by simp [hrest])
  rw [keys?,hfilling,Option.bind_some,hkey,KeySource.read?,hjoin,cutLast?_append hafter]
  simp only [KeySource.item?_append _ hstart hitem,hcount,Option.bind_some,hread]

end PatternWorkload

end IndexTrial
