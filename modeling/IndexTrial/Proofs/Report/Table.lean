import IndexTrial.Proofs.Text.Digits
import IndexTrial.Report.Table
import Mathlib.Data.List.Forall2

/-!
The table of measurements, read back. A field is written as it is or between quotes, where each of
its own quotes stands twice; commas separate the fields of a record, and a newline outside quotes
ends it. A reader that goes through a text character by character finds the records of every text
of this grammar and of no other, so that no text has two readings. What is read from the table of
some measurements is the header and what is known about each of them.
-/

namespace IndexTrial

namespace Table

/-! ### The grammar -/

/-- A character that a field may have outside quotes. -/
def IsPlain (c : Char) : Prop := c ≠ ',' ∧ c ≠ '"' ∧ c ≠ '\n' ∧ c ≠ '\r'

instance (c : Char) : Decidable (IsPlain c) :=
  inferInstanceAs (Decidable (c ≠ ',' ∧ c ≠ '"' ∧ c ≠ '\n' ∧ c ≠ '\r'))

/-- What stands between the quotes of a field. -/
inductive IsQuoted : List Char → List Char → Prop
  | nil : IsQuoted [] []
  | char {c : Char} {t f : List Char} : c ≠ '"' → IsQuoted t f → IsQuoted (c :: t) (c :: f)
  | quote {t f : List Char} : IsQuoted t f → IsQuoted ('"' :: '"' :: t) ('"' :: f)

inductive IsField : List Char → List Char → Prop
  | plain {f : List Char} : (∀ c ∈ f, IsPlain c) → IsField f f
  | quoted {t f : List Char} : IsQuoted t f → IsField ('"' :: t ++ ['"']) f

inductive IsRecord : List Char → List (List Char) → Prop
  | last {t f : List Char} : IsField t f → IsRecord (t ++ ['\n']) [f]
  | cons {t f u : List Char} {fs : List (List Char)} :
      IsField t f → IsRecord u fs → IsRecord (t ++ ',' :: u) (f :: fs)

inductive IsTable : List Char → List (List (List Char)) → Prop
  | nil : IsTable [] []
  | cons {t u : List Char} {r : List (List Char)} {rs : List (List (List Char))} :
      IsRecord t r → IsTable u rs → IsTable (t ++ u) (r :: rs)

/-- The text is a table of these records. -/
def Holds (text : String) (records : List (List String)) : Prop :=
  IsTable text.toList (records.map (·.map String.toList))

/-! ### A reader -/

/-- Where in a field a reader stands. -/
inductive Place
  | start
  | plain
  | quoted
  /-- After a quote that ends the field unless another follows. -/
  | closed
  deriving DecidableEq, Repr

/-- The records, the fields of the open record, and the open field. -/
structure Reading where
  records : List (List (List Char)) := []
  fields : List (List Char) := []
  place : Place := .start
  field : List Char := []
  deriving DecidableEq, Repr

namespace Reading

def push (s : Reading) (place : Place) (c : Char) : Reading :=
  { s with place, field := s.field ++ [c] }

/-- The end of a field, and with a newline that of its record. -/
def separate? (s : Reading) (c : Char) : Option Reading :=
  if c = ',' then some ⟨s.records,s.fields ++ [s.field],.start,[]⟩
  else if c = '\n' then some ⟨s.records ++ [s.fields ++ [s.field]],[],.start,[]⟩
  else none

def outside? (s : Reading) (c : Char) : Option Reading :=
  if IsPlain c then some (s.push .plain c) else s.separate? c

def step? (s : Reading) (c : Char) : Option Reading :=
  match s.place with
  | .start => if c = '"' then some { s with place := .quoted } else s.outside? c
  | .plain => s.outside? c
  | .quoted => some (if c = '"' then { s with place := .closed } else s.push .quoted c)
  | .closed => if c = '"' then some (s.push .quoted c) else s.separate? c

end Reading

/-- The records of a text, if the last one is ended. -/
def readChars? (cs : List Char) : Option (List (List (List Char))) :=
  (cs.foldlM Reading.step? {}).bind fun s =>
    if s.place = .start ∧ s.fields = [] then some s.records else none

def read? (text : String) : Option (List (List String)) :=
  (readChars? text.toList).map (·.map (·.map String.ofList))

/-! ### What is in the grammar is read -/

section

variable {rs : List (List (List Char))} {fs r : List (List Char)} {t f : List Char} {place : Place}

theorem scan_quoted (h : IsQuoted t f) (g : List Char) :
    t.foldlM Reading.step? ⟨rs,fs,.quoted,g⟩ = some ⟨rs,fs,.quoted,g ++ f⟩ := by
  induction h generalizing g with
  | nil => simp
  | @char c _ _ hc _ ih => simpa [Reading.step?,Reading.push,hc] using ih (g ++ [c])
  | quote _ ih => simpa [Reading.step?,Reading.push] using ih (g ++ ['"'])

theorem scan_plain (h : ∀ c ∈ f, IsPlain c) (g : List Char) :
    f.foldlM Reading.step? ⟨rs,fs,.plain,g⟩ = some ⟨rs,fs,.plain,g ++ f⟩ := by
  induction f generalizing g with
  | nil => simp
  | cons c f ih =>
    obtain ⟨hc,hf⟩ := List.forall_mem_cons.mp h
    simpa [Reading.step?,Reading.outside?,Reading.push,hc] using ih hf (g ++ [c])

/-- After a field the reader stands where the field may end. -/
theorem scan_field (h : IsField t f) (rs : List (List (List Char))) (fs : List (List Char)) :
    ∃ place ≠ .quoted, t.foldlM Reading.step? ⟨rs,fs,.start,[]⟩ = some ⟨rs,fs,place,f⟩ := by
  cases h with
  | plain h =>
    cases t with
    | nil => exact ⟨.start,by decide,rfl⟩
    | cons c t =>
      obtain ⟨hc,ht⟩ := List.forall_mem_cons.mp h
      refine ⟨.plain,by decide,?_⟩
      simpa [Reading.step?,Reading.outside?,Reading.push,hc,hc.2.1] using scan_plain ht [c]
  | quoted h =>
    refine ⟨.closed,by decide,?_⟩
    simp [Reading.step?,List.foldlM_append,scan_quoted h]

theorem step_comma (hplace : place ≠ .quoted) :
    Reading.step? ⟨rs,fs,place,f⟩ ',' = some ⟨rs,fs ++ [f],.start,[]⟩ := by
  cases place with
  | quoted => exact absurd rfl hplace
  | _ => rfl

theorem step_newline (hplace : place ≠ .quoted) :
    Reading.step? ⟨rs,fs,place,f⟩ '\n' = some ⟨rs ++ [fs ++ [f]],[],.start,[]⟩ := by
  cases place with
  | quoted => exact absurd rfl hplace
  | _ => rfl

theorem scan_record (h : IsRecord t r) (fs : List (List Char)) :
    t.foldlM Reading.step? ⟨rs,fs,.start,[]⟩ = some ⟨rs ++ [fs ++ r],[],.start,[]⟩ := by
  induction h generalizing fs with
  | last h =>
    obtain ⟨place,hplace,hscan⟩ := scan_field h rs fs
    simp [List.foldlM_append,hscan,step_newline hplace]
  | cons h _ ih =>
    obtain ⟨place,hplace,hscan⟩ := scan_field h rs fs
    simp [List.foldlM_append,hscan,step_comma hplace,ih]

theorem scan_table (h : IsTable t rs) (done : List (List (List Char))) :
    t.foldlM Reading.step? ⟨done,[],.start,[]⟩ = some ⟨done ++ rs,[],.start,[]⟩ := by
  induction h generalizing done with
  | nil => simp
  | cons h _ ih => simp [List.foldlM_append,scan_record h,ih]

end

/-! ### What is read is in the grammar -/

/-- The fields of an open record, each with its comma. -/
inductive AreFields : List Char → List (List Char) → Prop
  | nil : AreFields [] []
  | snoc {u t f : List Char} {fs : List (List Char)} :
      AreFields u fs → IsField t f → AreFields (u ++ (t ++ [','])) (fs ++ [f])

/-- An open field. -/
inductive IsPart : Place → List Char → List Char → Prop
  | start : IsPart .start [] []
  | plain {f : List Char} : (∀ c ∈ f, IsPlain c) → IsPart .plain f f
  | quoted {t f : List Char} : IsQuoted t f → IsPart .quoted ('"' :: t) f
  | closed {t f : List Char} : IsQuoted t f → IsPart .closed ('"' :: t ++ ['"']) f

/-- The text is what the reader went through: records that are ended, fields that are ended, and a
part of a field. -/
def Reached (text : List Char) (s : Reading) : Prop :=
  ∃ done current part, text = done ++ current ++ part ∧ IsTable done s.records ∧
    AreFields current s.fields ∧ IsPart s.place part s.field

section

variable {rs : List (List (List Char))} {fs r : List (List Char)} {t u f g text : List Char}
  {place : Place} {s s' : Reading} {c : Char}

theorem IsQuoted.append (h : IsQuoted t f) (h' : IsQuoted u g) : IsQuoted (t ++ u) (f ++ g) := by
  induction h with
  | nil => exact h'
  | char hc _ ih => exact .char hc ih
  | quote _ ih => exact .quote ih

theorem IsTable.snoc (h : IsTable t rs) (hr : IsRecord u r) : IsTable (t ++ u) (rs ++ [r]) := by
  induction h with
  | nil => simpa using IsTable.cons hr .nil
  | cons h _ ih => simpa using IsTable.cons h ih

theorem AreFields.record (h : AreFields u fs) (hr : IsRecord t r) :
    IsRecord (u ++ t) (fs ++ r) := by
  induction h generalizing t r with
  | nil => exact hr
  | snoc _ hf ih => simpa using ih (.cons hf hr)

theorem IsPart.field (h : IsPart place t f) (hplace : place ≠ .quoted) : IsField t f := by
  cases h with
  | start => exact .plain (by simp)
  | plain h => exact .plain h
  | quoted => exact absurd rfl hplace
  | closed h => exact .quoted h

theorem Reached.separate (h : Reached text s) (hplace : s.place ≠ .quoted)
    (hs : s.separate? c = some s') : Reached (text ++ [c]) s' := by
  obtain ⟨done,current,part,rfl,hdone,hcurrent,hpart⟩ := h
  have hfield := hpart.field hplace
  unfold Reading.separate? at hs
  split at hs
  · obtain rfl := Option.some.inj hs
    subst c
    exact ⟨done,current ++ (part ++ [',']),[],by simp,hdone,hcurrent.snoc hfield,.start⟩
  · split at hs
    · obtain rfl := Option.some.inj hs
      subst c
      exact ⟨done ++ (current ++ (part ++ ['\n'])),[],[],by simp,
        hdone.snoc (hcurrent.record (.last hfield)),.nil,.start⟩
    · cases hs

theorem Reached.step (h : Reached text s) (hs : s.step? c = some s') : Reached (text ++ [c]) s' := by
  have hseparate : s.place ≠ .quoted → s.separate? c = some s' → Reached (text ++ [c]) s' :=
    h.separate
  obtain ⟨done,current,part,rfl,hdone,hcurrent,hpart⟩ := h
  obtain ⟨records,fields,place,field⟩ := s
  have hgoOn : ∀ {place field}, IsPart place (part ++ [c]) field →
      Reached (done ++ current ++ part ++ [c]) ⟨records,fields,place,field⟩ :=
    fun hpart => ⟨done,current,part ++ [c],by simp,hdone,hcurrent,hpart⟩
  have hone : ∀ {f : List Char}, (∀ c ∈ f, IsPlain c) → IsPlain c → ∀ d ∈ f ++ [c], IsPlain d :=
    fun hf hc => List.forall_mem_append.mpr ⟨hf,List.forall_mem_singleton.mpr hc⟩
  dsimp only at hpart hseparate
  cases hpart with
  | start =>
    simp only [Reading.step?,Reading.outside?,Reading.push] at hs
    split at hs
    · obtain rfl := Option.some.inj hs
      subst c
      exact hgoOn (.quoted .nil)
    · split at hs
      · rename_i hc
        obtain rfl := Option.some.inj hs
        exact hgoOn (.plain (hone (by simp) hc))
      · exact hseparate (by decide) hs
  | plain hplain =>
    simp only [Reading.step?,Reading.outside?,Reading.push] at hs
    split at hs
    · rename_i hc
      obtain rfl := Option.some.inj hs
      exact hgoOn (.plain (hone hplain hc))
    · exact hseparate (by decide) hs
  | quoted hquoted =>
    obtain rfl := Option.some.inj hs
    split
    · subst c
      exact hgoOn (.closed hquoted)
    · rename_i hc
      exact hgoOn (.quoted (hquoted.append (.char hc .nil)))
  | closed hquoted =>
    simp only [Reading.step?,Reading.push] at hs
    split at hs
    · obtain rfl := Option.some.inj hs
      subst c
      refine hgoOn ?_
      simpa using IsPart.quoted (hquoted.append (.quote .nil))
    · exact hseparate (by decide) hs

/-- Character by character the reader goes through the whole text. -/
theorem Reached.scan (h : Reached text s) (hs : t.foldlM Reading.step? s = some s') :
    Reached (text ++ t) s' := by
  induction t generalizing text s with
  | nil =>
    obtain rfl : s = s' := Option.some.inj hs
    simpa using h
  | cons c t ih =>
    rw [List.foldlM_cons] at hs
    obtain ⟨s₁,hs₁,hs⟩ := Option.bind_eq_some_iff.mp hs
    simpa using ih (h.step hs₁) hs

theorem AreFields.eq_nil (h : AreFields t fs) (hfs : fs = []) : t = [] := by
  cases h with
  | nil => rfl
  | snoc => simp at hfs

theorem readChars?_eq_some_iff : readChars? t = some rs ↔ IsTable t rs := by
  constructor
  · intro h
    obtain ⟨⟨records,fields,place,field⟩,hs,hend⟩ := Option.bind_eq_some_iff.mp h
    obtain ⟨⟨rfl,rfl⟩,hrecords⟩ := Option.ite_none_right_eq_some.mp hend
    have hstart : Reached [] {} := ⟨[],[],[],rfl,.nil,.nil,.start⟩
    obtain ⟨done,current,part,htext,hdone,hcurrent,hpart⟩ := hstart.scan hs
    obtain rfl := hcurrent.eq_nil rfl
    obtain rfl := Option.some.inj hrecords
    cases hpart with
    | start =>
      rw [List.nil_append,List.append_nil,List.append_nil] at htext
      exact htext ▸ hdone
  · intro h
    rw [readChars?,scan_table h]
    simp

end

/-- The reader finds the records of a text just if it is a table of these records. -/
theorem read?_eq_some_iff {text : String} {records : List (List String)} :
    read? text = some records ↔ Holds text records := by
  rw [read?,Option.map_eq_some_iff,Holds]
  constructor
  · rintro ⟨rs,hrs,rfl⟩
    simpa [Function.comp_def] using readChars?_eq_some_iff.mp hrs
  · intro h
    exact ⟨_,readChars?_eq_some_iff.mpr h,by simp [Function.comp_def]⟩

/-- A quoted field goes on after a newline, and a comma at the end opens one more field. -/
example : read? "a,\"b\"\"c,\nd\",\n" = some [["a","b\"c,\nd",""]] := by decide +kernel

/-! ### What is written is in the grammar -/

theorem needsQuotes_iff {f : List Char} :
    needsQuotes f = true ↔ ',' ∈ f ∨ '"' ∈ f ∨ '\n' ∈ f ∨ '\r' ∈ f := by
  simp only [needsQuotes,List.any_eq_true,Bool.or_eq_true,beq_iff_eq]
  grind

theorem isQuoted_doubleQuotes (f : List Char) : IsQuoted (doubleQuotes f) f := by
  induction f with
  | nil => exact .nil
  | cons c f ih =>
    by_cases hc : c = '"'
    · subst c
      exact .quote ih
    · rw [doubleQuotes,if_neg hc]
      exact .char hc ih

theorem isField_writeField (f : List Char) : IsField (writeField f) f := by
  unfold writeField
  split
  · exact .quoted (isQuoted_doubleQuotes f)
  · rename_i hf
    rw [needsQuotes_iff] at hf
    refine .plain fun c hc => ⟨?_,?_,?_,?_⟩
    · rintro rfl
      exact hf (.inl hc)
    · rintro rfl
      exact hf (.inr (.inl hc))
    · rintro rfl
      exact hf (.inr (.inr (.inl hc)))
    · rintro rfl
      exact hf (.inr (.inr (.inr hc)))

theorem isRecord_writeFields {fs : List (List Char)} (h : fs ≠ []) :
    IsRecord (writeFields fs ++ ['\n']) fs := by
  induction fs with
  | nil => exact absurd rfl h
  | cons f fs ih =>
    cases fs with
    | nil => exact .last (isField_writeField f)
    | cons g fs =>
      rw [writeFields,List.append_assoc]
      · exact .cons (isField_writeField f) (ih (by simp))
      · simp

theorem holds_writeRecord {records : List (List String)} (h : ∀ r ∈ records, r ≠ []) :
    Holds (String.ofList (records.flatMap writeRecord)) records := by
  rw [Holds,String.toList_ofList]
  induction records with
  | nil => exact .nil
  | cons r rs ih =>
    obtain ⟨hr,hrs⟩ := List.forall_mem_cons.mp h
    exact .cons (isRecord_writeFields (by simpa using hr)) (ih hrs)

/-! ### The columns -/

/-- The field of a record in a column of the header. -/
def cell? (column : String) (record : List String) : Option String :=
  (header.zip record).lookup column

theorem msField_eq_empty_iff (value : Option Binary64) : msField value = "" ↔ value = none := by
  cases value with
  | none => simp [msField]
  | some x =>
    have hlength := x.one_lt_length_fixedPlaces (by decide : 0 < 3)
    refine iff_of_false (fun hempty => ?_) (by simp)
    rw [msField,Option.elim_some] at hempty
    simp [hempty] at hlength

/-- The column has the milliseconds with three places, and is empty just if there are none. -/
def TellsTime (record : List String) (column : String) (value : Option Binary64) : Prop :=
  cell? column record = some (msField value) ∧ (cell? column record = some "" ↔ value = none)

theorem tellsTime {record : List String} {column : String} {value : Option Binary64}
    (h : cell? column record = some (msField value)) : TellsTime record column value :=
  ⟨h,by rw [h,Option.some_inj,msField_eq_empty_iff]⟩

/-- What a record says of a measurement. -/
structure Tells (record : List String) (m : Measurement) : Prop where
  workload : cell? "workload_id" record = some m.workload
  query : cell? "query_id" record = some m.query
  engine : cell? "engine" record = some m.engine
  mode : cell? "cache_mode" record = some m.mode.name
  status : cell? "status" record = some m.status.name
  repeats : cell? "repeat" record = some (toString m.repeats)
  samples : cell? "samples" record = some (toString m.samples.length)
  p50 : TellsTime record "p50_ms" (m.summary.map (·.p50))
  p95 : TellsTime record "p95_ms" (m.summary.map (·.p95))
  p99 : TellsTime record "p99_ms" (m.summary.bind (·.p99))
  mean : TellsTime record "mean_ms" (m.summary.map (·.mean))
  size : cell? "index_size_bytes" record = some (m.indexSize.elim "" toString)
  buildTime : TellsTime record "build_time_ms" (m.index.bind (·.buildMs))
  regression : cell? "regression" record = some (m.comparison.elim "" (·.worst.label))
  annotations : cell? "annotations" record = some (";".intercalate m.annotations)

theorem tells_row (m : Measurement) : Tells (row m) m where
  workload := rfl
  query := rfl
  engine := rfl
  mode := rfl
  status := rfl
  repeats := rfl
  samples := rfl
  p50 := tellsTime rfl
  p95 := tellsTime rfl
  p99 := tellsTime rfl
  mean := tellsTime rfl
  size := rfl
  buildTime := tellsTime rfl
  regression := rfl
  annotations := rfl

/-- The table of some measurements has one reading, character by character as well as by the
grammar: the header, and then in their order a record for each measurement. -/
theorem document_reads_back (ms : List Measurement) : ∃ rows,
    read? (document ms) = some (header :: rows) ∧
    (∀ records, Holds (document ms) records ↔ records = header :: rows) ∧
    (header :: rows).length = 1 + ms.length ∧ (∀ record ∈ header :: rows, record.length = 15) ∧
    List.Forall₂ Tells rows ms := by
  have hholds : Holds (document ms) (header :: ms.map row) :=
    holds_writeRecord (by simp [header,row])
  have hread := read?_eq_some_iff.mpr hholds
  have hrows : List.Forall₂ Tells (ms.map row) ms := by
    rw [List.forall₂_map_left_iff,List.forall₂_same]
    exact fun m _ => tells_row m
  refine ⟨ms.map row,hread,fun records => ?_,by simp [Nat.add_comm],?_,hrows⟩
  · rw [← read?_eq_some_iff,hread,Option.some_inj,eq_comm]
  · simp [header,row]

end Table

end IndexTrial
