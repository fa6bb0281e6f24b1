import IndexTrial.Client.Catalog
import IndexTrial.Proofs.Text.Digits
import IndexTrial.Proofs.Text.Search
import IndexTrial.Proofs.Text.Trimming
import IndexTrial.Rehearsal.Statement
import IndexTrial.Workload.Basic
import Mathlib.Data.List.Basic

/-!
What a database reads in a statement. A reading is settled by the words that the text starts with;
names are words themselves, and nothing in them ends a statement.
-/

namespace IndexTrial

/-- A name that a statement may hold as it is. -/
structure IsWord (name : String) : Prop where
  ne_nil : name.toList ≠ []
  solid : ∀ c ∈ name.toList, isBlank c = false ∧ c ≠ ';' ∧ c ≠ '(' ∧ c ≠ '\''

theorem isWord_iff {name : String} : IsWord name ↔ name.toList ≠ [] ∧
    (name.toList.all fun c => !isBlank c && c != ';' && c != '(' && c != '\'') = true := by
  simp only [List.all_eq_true,Bool.and_eq_true,Bool.not_eq_true',bne_iff_ne,and_assoc]
  exact ⟨fun h => ⟨h.ne_nil,h.solid⟩,fun h => ⟨h.1,h.2⟩⟩

instance (name : String) : Decidable (IsWord name) := decidable_of_iff _ isWord_iff.symm

theorem IsWord.append {a b : String} (ha : IsWord a) (hb : IsWord b) : IsWord (a ++ b) where
  ne_nil := by simp [ha.ne_nil]
  solid c hc := by
    rcases List.mem_append.mp (String.toList_append ▸ hc) with hc | hc
    · exact ha.solid c hc
    · exact hb.solid c hc

/-! ### Words -/

/-- A run without blanks joins the open word. -/
theorem wordsFrom_append {run : List Char} (hrun : ∀ c ∈ run, isBlank c = false)
    (current rest : List Char) :
    wordsFrom current (run ++ rest) = wordsFrom (run.reverse ++ current) rest := by
  induction run generalizing current with
  | nil => rfl
  | cons c cs ih =>
    obtain ⟨hc,hcs⟩ := List.forall_mem_cons.mp hrun
    simp [wordsFrom,hc,ih hcs]

/-- An open word goes on to the next blank. -/
theorem wordsFrom_open (current : List Char) (hcurrent : current ≠ []) (cs : List Char) :
    ∃ more, wordsFrom current cs = (current.reverse ++ cs.takeWhile (!isBlank ·)) :: more := by
  induction cs generalizing current with
  | nil => exact ⟨[],by simp [wordsFrom,hcurrent]⟩
  | cons c cs ih =>
    cases hc : isBlank c with
    | true => exact ⟨wordsFrom [] cs,by simp [wordsFrom,hc,hcurrent]⟩
    | false =>
      obtain ⟨more,hmore⟩ := ih (c :: current) (by simp)
      exact ⟨more,by simp [wordsFrom,hc,hmore]⟩

theorem words_append {name : String} (h : IsWord name) (rest : String) :
    words (name ++ " " ++ rest) = name :: words rest := by
  have hrun : ∀ c ∈ name.toList, isBlank c = false := fun c hc => (h.solid c hc).1
  have hblank : isBlank ' ' = true := by decide
  simp [words,wordsFrom_append hrun,wordsFrom,hblank,h.ne_nil]

theorem words_open {name : String} (h : IsWord name) (rest : String) :
    ∃ more, words (name ++ rest) = (name ++ String.ofList (rest.toList.takeWhile (!isBlank ·))) ::
      more := by
  have hrun : ∀ c ∈ name.toList, isBlank c = false := fun c hc => (h.solid c hc).1
  obtain ⟨more,hmore⟩ := wordsFrom_open name.toList.reverse (by simp [h.ne_nil])
    rest.toList
  refine ⟨more.map String.ofList,?_⟩
  simp [words,wordsFrom_append hrun,hmore,String.ofList_append]

namespace Statement

theorem firstWord_of_isWord {name : String} (h : IsWord name) : firstWord name = name := by
  obtain ⟨more,hmore⟩ := words_open h ""
  simpa [firstWord] using congrArg (List.headD · "") hmore

theorem firstWord_append {name : String} (h : IsWord name) (rest : String) :
    firstWord (name ++ " " ++ rest) = name := by
  simp [firstWord,words_append h]

theorem upTo_append {stop : Char} {name : String} (h : ∀ c ∈ name.toList, c ≠ stop) (rest : String) :
    upTo stop (name ++ String.singleton stop ++ rest) = name := by
  have hname : ∀ c ∈ name.toList, decide (c ≠ stop) = true := by simpa using h
  rw [upTo,String.toList_append,String.toList_append,List.append_assoc,
    List.takeWhile_append_of_pos hname]
  simp

/-! ### The bare text -/

/-- Something that is neither blank nor the end of a statement stands at either end. -/
structure Solid (text : String) : Prop where
  starts : text.toList.head?.any (!isBlank ·) = true
  ends : text.toList.getLast?.any (fun c => !isBlank c && c != ';') = true

/-- What is left of the tail of a statement. -/
def bareEnd (text : String) : String :=
  String.ofList ((((text.toList.reverse.dropWhile isBlank)).dropWhile (· = ';')).reverse)

theorem bare_append {text : String} (h : Solid text) (rest : String) :
    bare (text ++ rest) = text ++ bareEnd rest := by
  have hends : text.toList.reverse.head?.any (fun c => !isBlank c && c != ';') = true := by
    rw [List.head?_reverse]
    exact h.ends
  have hblank : text.toList.reverse.head?.any (!isBlank ·) = true := by
    cases hlast : text.toList.reverse.head? <;> simp_all
  have hstop : text.toList.reverse.head?.any (fun c => !decide (c = ';')) = true := by
    cases hlast : text.toList.reverse.head? <;> simp_all
  have htrim : trimBlanks (text.toList ++ rest.toList) =
      text.toList ++ (rest.toList.reverse.dropWhile isBlank).reverse := by
    simp [trimBlanks,trimBlankStart,dropWhile_append_of_head h.starts,dropWhile_before hblank]
  simp [bare,trimmed,htrim,dropWhile_before hstop,bareEnd,String.ofList_append]

/-! ### Leads -/

/-- Whether no text starts with both. -/
def clashes (a b : String) : Bool := !startsWithText a b && !startsWithText b a

theorem afterLead?_of_clashes {lead start : String} (h : clashes lead start = true)
    (rest : String) : afterLead? lead (start ++ rest) = none := by
  rw [Option.eq_none_iff_forall_ne_some]
  intro r hr
  have htext := congrArg String.toList (afterLead?_eq_some_iff.mp hr)
  simp only [String.toList_append] at htext
  have hprefix : start.toList <+: lead.toList ++ r.toList := ⟨rest.toList,htext⟩
  simp only [clashes,startsWithText,Bool.and_eq_true,Bool.not_eq_true',← Bool.not_eq_true,
    List.isPrefixOf_iff_prefix] at h
  rcases List.prefix_or_prefix_of_prefix hprefix (List.prefix_append _ _) with hstart | hlead
  · exact h.1 hstart
  · exact h.2 hlead

theorem not_startsWithText {lead start text : String} (htext : startsWithText text start = true)
    (h : clashes lead start = true) : startsWithText text lead = false := by
  obtain ⟨rest,rfl⟩ := startsWithText_iff.mp htext
  rw [← Bool.not_eq_true]
  intro hlead
  obtain ⟨more,hmore⟩ := startsWithText_iff.mp hlead
  have hnone := afterLead?_of_clashes h rest
  rw [afterLead?_eq_some_iff.mpr hmore] at hnone
  cases hnone

/-- Forms whose leads the text cannot have are passed over. -/
theorem firstOf_append {start : String} {passed : List (String × (String → Option Statement))}
    (h : passed.all (fun form => clashes form.1 start) = true) (rest : String)
    (more : List (String × (String → Option Statement))) :
    firstOf (start ++ rest) (passed ++ more) = firstOf (start ++ rest) more := by
  induction passed with
  | nil => rfl
  | cons form forms ih =>
    obtain ⟨hform,hforms⟩ := Bool.and_eq_true_iff.mp (List.all_cons ▸ h)
    simp [firstOf,afterLead?_of_clashes hform,ih hforms]

/-- No text starts as two forms, except as a query and as the last. -/
theorem leads_clash : ∀ n ∈ List.range 9, ∀ form ∈ forms[n]?,
    (forms.take n).all (fun passed => clashes passed.1 form.1) = true := by
  decide +kernel

/-- Each form but the last reads the text that starts with its lead. -/
theorem read_of_lead (n : Nat) (hn : n < 9) {lead body rest sql : String}
    {form : String → Option Statement} {s : Statement} (hform : forms[n]? = some (lead,form))
    (hsolid : Solid (lead ++ body)) (hsql : sql = lead ++ body ++ rest)
    (hs : form (body ++ bareEnd rest) = some s) : read sql = s := by
  have hpassed := leads_clash n (List.mem_range.mpr hn) (lead,form) hform
  obtain ⟨hlt,hget⟩ := List.getElem?_eq_some_iff.mp hform
  have hform : forms.drop n = (lead,form) :: forms.drop (n + 1) := by
    rw [List.drop_eq_getElem_cons hlt,hget]
  have hlead : afterLead? lead (lead ++ (body ++ bareEnd rest)) = some (body ++ bareEnd rest) :=
    afterLead?_eq_some_iff.mpr rfl
  rw [read,hsql,bare_append hsolid,String.append_assoc,← List.take_append_drop n forms,
    firstOf_append hpassed,hform]
  simp [firstOf,hlead,hs]

/-- A text that starts as no form does is taken note of only. -/
theorem read_eq_other (start : String) {sql : String} (hsolid : Solid start)
    (hsql : startsWithText sql start = true)
    (hforms : forms.all (fun form => clashes form.1 start) = true) : read sql = other := by
  obtain ⟨rest,rfl⟩ := startsWithText_iff.mp hsql
  rw [read,bare_append hsolid,← List.append_nil forms,firstOf_append hforms]
  rfl

/-- How the statements start that a database takes note of only. -/
def notedLeads : List String := ["SET","RESET","ALTER","VACUUM","CHECKPOINT","DISCARD"]

theorem notedLeads_clash : ∀ start ∈ notedLeads,
    forms.all (fun form => clashes form.1 start) = true := by
  decide +kernel

theorem read_of_noted (start : String) {sql : String} (hsolid : Solid start)
    (hsql : startsWithText sql start = true) (hstart : start ∈ notedLeads) : read sql = other :=
  read_eq_other start hsolid hsql (notedLeads_clash start hstart)

/-- Whether a statement leaves all tables and indexes as they are. -/
def isQuiet : Statement → Bool
  | createTable _ | dropTable _ | createIndex _ _ _ | dropIndex _ => false
  | _ => true

theorem isQuiet_firstOf {text : String} {fs : List (String × (String → Option Statement))}
    (h : ∀ form ∈ fs, ∀ rest s, text = form.1 ++ rest → form.2 rest = some s → s.isQuiet = true) :
    (firstOf text fs).isQuiet = true := by
  induction fs with
  | nil => rfl
  | cons form fs ih =>
    obtain ⟨hform,hfs⟩ := List.forall_mem_cons.mp h
    cases hread : (afterLead? form.1 text).bind form.2 with
    | none => simpa [firstOf,hread] using ih hfs
    | some s =>
      obtain ⟨rest,hrest,hs⟩ := Option.bind_eq_some_iff.mp hread
      simpa [firstOf,hread] using hform rest s (afterLead?_eq_some_iff.mp hrest) hs

/-- A form is quiet, or no query has it. -/
theorem quiet_or_clashes :
    ∀ form ∈ forms, (∀ rest s, form.2 rest = some s → s.isQuiet = true) ∨
      clashes form.1 "SELECT" = true := by
  simp only [forms,List.forall_mem_cons,List.not_mem_nil,false_imp_iff,implies_true,and_true]
  refine ⟨.inl ?_,.inl ?_,.inl ?_,.inr ?_,.inr ?_,.inr ?_,.inr ?_,.inl ?_,.inl ?_,.inl ?_⟩
  all_goals first
    | decide +kernel
    | grind [isQuiet]

/-- A query leaves everything as it is, whatever it asks for. -/
theorem isQuiet_read_select {sql : String} (h : startsWithText sql "SELECT" = true) :
    (read sql).isQuiet = true := by
  obtain ⟨rest,rfl⟩ := startsWithText_iff.mp h
  rw [read,bare_append ⟨by decide,by decide⟩]
  refine isQuiet_firstOf fun form hform r s htext hs => ?_
  rcases quiet_or_clashes form hform with hquiet | hclashes
  · exact hquiet r s hs
  · have hnone := afterLead?_of_clashes hclashes (bareEnd rest)
    rw [afterLead?_eq_some_iff.mpr htext] at hnone
    cases hnone

/-! ### The statements of a trial -/

theorem solid_append {lead tail : String} (hlead : lead.toList.head?.any (!isBlank ·) = true)
    (htail : tail.toList.getLast?.any (fun c => !isBlank c && c != ';') = true) :
    Solid (lead ++ tail) where
  starts := by
    cases h : lead.toList.head? with
    | none => simp [h] at hlead
    | some c => simpa [h] using hlead
  ends := by
    cases h : tail.toList.getLast? with
    | none => simp [h] at htail
    | some c => simpa [h] using htail

theorem solid_word {lead name : String} (hlead : lead.toList.head?.any (!isBlank ·) = true)
    (hname : IsWord name) : Solid (lead ++ name) := by
  have hlast := hname.solid _ (List.getLast_mem hname.ne_nil)
  exact solid_append hlead (by simp [List.getLast?_eq_some_getLast hname.ne_nil,hlast])

@[simp] theorem bareEnd_semicolon : bareEnd ";" = "" := by decide

theorem read_dropIndex {name : String} (h : IsWord name) :
    read s!"DROP INDEX IF EXISTS {name};" = dropIndex name := by
  refine read_of_lead 6 (by decide) rfl (solid_word (by decide) h) rfl ?_
  simp [toString,firstWord_of_isWord h]

theorem read_dropTable {table : String} (h : IsWord table) :
    read s!"DROP TABLE IF EXISTS {table} CASCADE;" = dropTable table := by
  have hend : bareEnd (toString " CASCADE;") = " " ++ "CASCADE" := by decide
  refine read_of_lead 4 (by decide) rfl (solid_word (by decide) h) rfl ?_
  rw [hend,← String.append_assoc,firstWord_append h]

theorem read_createTable {table : String} (h : IsWord table) (select : String) :
    read s!"CREATE UNLOGGED TABLE {table} AS {select};" = createTable table := by
  have hsql : s!"CREATE UNLOGGED TABLE {table} AS {select};" =
      "CREATE UNLOGGED TABLE " ++ (table ++ " " ++ "AS") ++ (" " ++ select ++ ";") := by
    simp [toString,← String.toList_inj]
  refine read_of_lead 3 (by decide) rfl (solid_append (by decide) ?_) hsql ?_
  · simp
    decide
  · rw [String.append_assoc,firstWord_append h]

theorem read_hasRelation {relation : String} (h : IsWord relation) :
    read s!"SELECT to_regclass('{relation}') IS NOT NULL;" = hasRelation relation := by
  have hsql : s!"SELECT to_regclass('{relation}') IS NOT NULL;" =
      "SELECT to_regclass('" ++ (relation ++ String.singleton '\'' ++ ") IS NOT NULL") ++ ";" := by
    simp [toString,← String.toList_inj]
  have hquote : ∀ c ∈ relation.toList, c ≠ '\'' := fun c hc => (h.solid c hc).2.2.2
  refine read_of_lead 0 (by decide) rfl (solid_append (by decide) ?_) hsql ?_
  · simp
    decide
  · rw [bareEnd_semicolon,String.append_empty,upTo_append hquote]

theorem read_countRows {table : String} (h : IsWord table) :
    read s!"SELECT count(*) FROM {table};" = countRows table := by
  have hblank : ' ' ∉ table.toList := fun hc => absurd (h.solid ' ' hc).1 (by decide)
  refine read_of_lead 1 (by decide) rfl (solid_word (by decide) h) rfl ?_
  simp [toString,hblank]

theorem isWord_indexName {table engine : String} (htable : IsWord table) (hengine : IsWord engine) :
    IsWord (indexName table engine) := by
  have hlead : IsWord "idx_" := by decide
  have hjoin : IsWord "_" := by decide
  exact ((hlead.append htable).append hjoin).append hengine

theorem read_createIndex {w : Workload} {engine : String} (htable : IsWord w.table)
    (hengine : IsWord engine) :
    read (w.createIndexSql engine) = createIndex (indexName w.table engine) w.table engine := by
  have hname := isWord_indexName htable hengine
  have hon : IsWord "ON" := by decide
  have husing : IsWord "USING" := by decide
  obtain ⟨rest,hsql⟩ : ∃ rest, w.createIndexSql engine = "CREATE INDEX " ++
      (indexName w.table engine ++ " " ++ "ON" ++ " " ++ w.table ++ " " ++ "USING" ++ " " ++ engine ++
        String.singleton '(') ++ rest := by
    have hon : " ON " = " " ++ "ON" ++ " " := by decide
    have husing : " USING " = " " ++ "USING" ++ " " := by decide
    have hopen : "(" = String.singleton '(' := by decide
    unfold Workload.createIndexSql
    simp only [toString,hon,husing,hopen,String.append_assoc]
    exact ⟨_,rfl⟩
  refine read_of_lead 5 (by decide) rfl (solid_append (by decide) ?_) hsql ?_
  · simp only [String.toList_append,List.getLast?_append]
    rfl
  · obtain ⟨more,hmethod⟩ := words_open hengine (String.singleton '(' ++ bareEnd rest)
    have hmethod' : engine ++ String.ofList ((String.singleton '(' ++ bareEnd rest).toList.takeWhile
        (!isBlank ·)) = engine ++ String.singleton '(' ++
          String.ofList ((bareEnd rest).toList.takeWhile (!isBlank ·)) := by
      have hblank : isBlank '(' = false := by decide
      simp [hblank,← String.toList_inj]
    have hwords : indexName w.table engine ++ " " ++ "ON" ++ " " ++ w.table ++ " " ++ "USING" ++ " " ++
        engine ++ String.singleton '(' ++ bareEnd rest = indexName w.table engine ++ " " ++ ("ON" ++
          " " ++ (w.table ++ " " ++ ("USING" ++ " " ++
            (engine ++ (String.singleton '(' ++ bareEnd rest))))) := by
      simp only [String.append_assoc]
    have hopen : ∀ c ∈ engine.toList, c ≠ '(' := fun c hc => (hengine.solid c hc).2.2.1
    simp only [readCreateIndex]
    rw [hwords,words_append hname,words_append hon,words_append htable,words_append husing,hmethod,
      hmethod']
    simp only [upTo_append hopen]

end Statement

/-! ### Counts -/

theorem readUnsigned?_toString {n bits : Nat} (h : n < 2 ^ bits) :
    readUnsigned? bits (toString n) = some n := by
  have htext : (toString n).toList = Nat.toDigits 10 n := by simp
  have hdigits := areDigits_toDigits n
  have hne : Nat.toDigits 10 n ≠ [] := Nat.toDigits_ne_nil
  unfold readUnsigned?
  rw [htext]
  split
  · rename_i r hr
    exact absurd (hdigits '+' (by simp [hr])) (by decide)
  · simp [hne,h]
    exact hdigits

/-- A count that was written out is read back, if it is a 64-bit word. -/
theorem countOf_toString {n : Nat} (h : n < 2 ^ 64) : Session.countOf (some (toString n)) = n := by
  have hsolid : ∀ c ∈ (toString n).toList, isBlank c = false := by
    intro c hc
    have hc' : c ∈ Nat.toDigits 10 n := by simpa using hc
    exact isBlank_of_isDigit (areDigits_toDigits n c hc')
  have htrimmed : trimmed (toString n) = toString n := by
    rw [trimmed,trimBlanks_of_solid hsolid,String.ofList_toList]
  rw [Session.countOf,Option.bind_some,htrimmed,readUnsigned?_toString h,Option.getD_some]

end IndexTrial
