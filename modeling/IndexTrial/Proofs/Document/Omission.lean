import IndexTrial.Document.Decode

/-!
Fields that may be left out. Whatever object a record is read from, taking such a field out of it
changes that field alone: it is read as nothing, or as the empty list.
-/

namespace IndexTrial

open Json

namespace Json

/-- What remains of the fields when those of a name are left out. -/
def without (name : String) (fs : List (String × Json)) : List (String × Json) :=
  fs.filter fun f => f.1 != name

theorem uniqueField?_without_self (name : String) (fs : List (String × Json)) :
    uniqueField? name (without name fs) = some none := by
  have hnone : (without name fs).filter (fun f => f.1 == name) = [] := by
    simp [without,List.filter_eq_nil_iff]
  rw [uniqueField?,hnone]

theorem uniqueField?_without {name other : String} (h : other ≠ name) (fs : List (String × Json)) :
    uniqueField? other (without name fs) = uniqueField? other fs := by
  have hsame : (without name fs).filter (fun f => f.1 == other) = fs.filter (·.1 == other) := by
    rw [without,List.filter_filter]
    refine List.filter_congr fun f _ => ?_
    by_cases hf : f.1 = other
    · simp [hf,h]
    · simp [hf]
  rw [uniqueField?,hsame,uniqueField?]

theorem uniqueFields_without {name : String} {names : List String} (h : name ∉ names)
    (fs : List (String × Json)) :
    names.mapM (uniqueField? · (without name fs)) = names.mapM (uniqueField? · fs) := by
  induction names with
  | nil => rfl
  | cons other names ih =>
    obtain ⟨hne,hnot⟩ := not_or.mp (mt List.mem_cons.mpr h)
    rw [List.mapM_cons,List.mapM_cons,uniqueField?_without (Ne.symm hne),ih hnot]

end Json

namespace Record

/-- The record with nothing at a position. -/
def clear (r : Record) (i : Nat) : Record := { r with fields := r.fields.set i none }

theorem get?_clear_self (r : Record) (i : Nat) : (r.clear i).get? i = none := by
  by_cases hi : i < r.fields.length <;> simp [get?,clear,hi]

theorem get?_clear {i j : Nat} (h : i ≠ j) (r : Record) : (r.clear i).get? j = r.get? j := by
  simp [get?,clear,List.getElem?_set_ne h]

section

variable {α : Type} {decode : Json → Option α} {i j : Nat} {r : Record}

@[simp] theorem required_clear (h : i ≠ j) : (r.clear i).required j decode = r.required j decode := by
  simp [required,get?_clear h]

@[simp] theorem optional_clear (h : i ≠ j) : (r.clear i).optional j decode = r.optional j decode := by
  simp [optional,defaulted,get?_clear h]

@[simp] theorem nullable_clear (h : i ≠ j) : (r.clear i).nullable j decode = r.nullable j decode := by
  rw [nullable,get?_clear h,nullable]
  rfl

@[simp] theorem defaulted_clear (h : i ≠ j) (default : α) :
    (r.clear i).defaulted j decode default = r.defaulted j decode default := by
  simp [defaulted,get?_clear h]

@[simp] theorem optional_clear_self : (r.clear i).optional i decode = some none := by
  simp [optional,defaulted,get?_clear_self]

@[simp] theorem nullable_clear_self (h : r.positional = false) :
    (r.clear i).nullable i decode = some none := by
  rw [nullable,get?_clear_self]
  exact if_neg (by simp [clear,h])

@[simp] theorem defaulted_clear_self (default : α) :
    (r.clear i).defaulted i decode default = some default := by
  simp [defaulted,get?_clear_self]

end

end Record

namespace Json

theorem positional_of_object {names : List String} {fs : List (String × Json)} {r : Record}
    (h : record? names (.object fs) = some r) : r.positional = false := by
  obtain ⟨fields,_,rfl⟩ := Option.map_eq_some_iff.mp h
  rfl

/-- Leaving out a field clears its position. -/
theorem record?_without {names : List String} {fs : List (String × Json)} {r : Record}
    (hnodup : names.Nodup) {i : Nat} {name : String} (hi : names[i]? = some name)
    (h : record? names (.object fs) = some r) :
    record? names (.object (without name fs)) = some (r.clear i) := by
  obtain ⟨fields,hfields,rfl⟩ := Option.map_eq_some_iff.mp h
  have hread : names.mapM (uniqueField? · (without name fs)) = some (fields.set i none) := by
    clear h
    induction names generalizing i fields with
    | nil => simp at hi
    | cons other names ih =>
      obtain ⟨hother,hnodup⟩ := List.nodup_cons.mp hnodup
      simp only [List.mapM_cons,Option.bind_eq_bind,Option.bind_eq_some_iff,Option.pure_def,
        Option.some.injEq] at hfields
      obtain ⟨field,hfield,rest,hrest,rfl⟩ := hfields
      cases i with
      | zero =>
        obtain rfl : other = name := by simpa using hi
        simp [uniqueField?_without_self,uniqueFields_without hother,hrest]
      | succ i =>
        have hi : names[i]? = some name := by simpa using hi
        have hne : other ≠ name := fun he => hother (he ▸ List.mem_of_getElem? hi)
        simp [uniqueField?_without hne,hfield,ih hnodup hi rest hrest]
  rw [record?,hread]
  rfl

/-- Each field that is listed may be left out of an object: it is then read as cleared, and all else
as before. -/
def Omittable {α : Type} (decode : Json → Option α) (fields : List (String × (α → α))) : Prop :=
  ∀ f ∈ fields, ∀ fs a, decode (.object fs) = some a →
    decode (.object (without f.1 fs)) = some (f.2 a)

end Json

/-- The fields of each record that may be left out. -/
def LatencySummary.optionalFields : List (String × (LatencySummary → LatencySummary)) :=
  [("p99_ms",fun s => { s with p99 := none })]

def IndexFigures.optionalFields : List (String × (IndexFigures → IndexFigures)) :=
  [("size_bytes",fun i => { i with sizeBytes := none }),
    ("build_time_ms",fun i => { i with buildMs := none })]

def Comparison.optionalFields : List (String × (Comparison → Comparison)) :=
  [("latency",fun c => { c with latency := none }),
    ("latency_ratio",fun c => { c with latencyRatio := none }),
    ("size",fun c => { c with size := none }),
    ("size_ratio",fun c => { c with sizeRatio := none })]

def Measurement.optionalFields : List (String × (Measurement → Measurement)) :=
  [("summary",fun m => { m with summary := none }),("index",fun m => { m with index := none }),
    ("annotations",fun m => { m with annotations := [] }),
    ("error",fun m => { m with error := none }),
    ("regression",fun m => { m with comparison := none })]

def Outcome.optionalFields : List (String × (Outcome → Outcome)) :=
  [("row_count",fun x => { x with rowCount := none }),("error",fun x => { x with error := none })]

def WorkloadAdvice.optionalFields : List (String × (WorkloadAdvice → WorkloadAdvice)) :=
  [("recommendation",fun a => { a with advice := none }),
    ("query_id",fun a => { a with query := none }),("cache_mode",fun a => { a with mode := none }),
    ("speedup",fun a => { a with speedup := none }),
    ("compression",fun a => { a with compression := none })]

def Environment.optionalFields : List (String × (Environment → Environment)) :=
  [("capacity_bytes",fun e => { e with capacityBytes := none }),
    ("server_version",fun e => { e with serverVersion := none }),
    ("max_parallel_workers",fun e => { e with maxParallelWorkers := none })]

theorem LatencySummary.omittable : Omittable ofJson? optionalFields := by
  intro f hf fs a h
  obtain ⟨r,hr,h⟩ := Option.bind_eq_some_iff.mp h
  simp only [Option.bind_eq_bind,Option.bind_eq_some_iff] at h
  obtain ⟨_,h₀,_,h₁,_,h₂,_,h₃,_,h₄,_,h₅,_,h₆,⟨⟩⟩ := h
  obtain rfl := List.mem_singleton.mp hf
  rw [ofJson?,record?_without (i := 3) (by decide) rfl hr]
  simp [*]

theorem IndexFigures.omittable : Omittable ofJson? optionalFields := by
  intro f hf fs a h
  obtain ⟨r,hr,h⟩ := Option.bind_eq_some_iff.mp h
  have hobject := positional_of_object hr
  simp only [Option.bind_eq_bind,Option.bind_eq_some_iff] at h
  obtain ⟨_,h₀,_,h₁,_,h₂,_,h₃,⟨⟩⟩ := h
  simp only [optionalFields,List.mem_cons,List.not_mem_nil,or_false] at hf
  rcases hf with rfl | rfl
  · rw [ofJson?,record?_without (i := 2) (by decide) rfl hr]
    simp [*]
  · rw [ofJson?,record?_without (i := 3) (by decide) rfl hr]
    simp [*]

theorem Comparison.omittable : Omittable ofJson? optionalFields := by
  intro f hf fs a h
  obtain ⟨r,hr,h⟩ := Option.bind_eq_some_iff.mp h
  simp only [Option.bind_eq_bind,Option.bind_eq_some_iff] at h
  obtain ⟨_,h₀,_,h₁,_,h₂,_,h₃,⟨⟩⟩ := h
  simp only [optionalFields,List.mem_cons,List.not_mem_nil,or_false] at hf
  rcases hf with rfl | rfl | rfl | rfl
  · rw [ofJson?,record?_without (i := 0) (by decide) rfl hr]
    simp [*]
  · rw [ofJson?,record?_without (i := 1) (by decide) rfl hr]
    simp [*]
  · rw [ofJson?,record?_without (i := 2) (by decide) rfl hr]
    simp [*]
  · rw [ofJson?,record?_without (i := 3) (by decide) rfl hr]
    simp [*]

/-- What a measurement has from each field of a record. -/
structure Measurement.ReadFrom (r : Record) (m : Measurement) : Prop where
  workload : r.required 0 asText? = some m.workload
  query : r.required 1 asText? = some m.query
  engine : r.required 2 asText? = some m.engine
  mode : r.required 3 CacheMode.ofJson? = some m.mode
  repeats : r.required 4 (asUnsigned? 32) = some m.repeats
  status : r.required 5 (asConstant? Status.named) = some m.status
  samples : r.required 6 (asList? Sample.ofJson?) = some m.samples
  summary : r.optional 7 LatencySummary.ofJson? = some m.summary
  index : r.optional 8 IndexFigures.ofJson? = some m.index
  annotations : r.defaulted 9 (asList? asText?) [] = some m.annotations
  error : r.optional 10 asText? = some m.error
  comparison : r.optional 11 Comparison.ofJson? = some m.comparison

/-- A measurement is read if each of its fields is. There are too many for one call of `simp`. -/
theorem Measurement.ofJson?_eq_some_iff {j : Json} {m : Measurement} : ofJson? j = some m ↔
    ∃ r, record? ["workload_id","query_id","engine","cache_mode","repeat","status","samples",
      "summary","index","annotations","error","regression"] j = some r ∧ m.ReadFrom r := by
  constructor
  · intro h
    obtain ⟨r,hr,h⟩ := Option.bind_eq_some_iff.mp h
    obtain ⟨_,hworkload,h⟩ := Option.bind_eq_some_iff.mp h
    obtain ⟨_,hquery,h⟩ := Option.bind_eq_some_iff.mp h
    obtain ⟨_,hengine,h⟩ := Option.bind_eq_some_iff.mp h
    obtain ⟨_,hmode,h⟩ := Option.bind_eq_some_iff.mp h
    obtain ⟨_,hrepeats,h⟩ := Option.bind_eq_some_iff.mp h
    obtain ⟨_,hstatus,h⟩ := Option.bind_eq_some_iff.mp h
    obtain ⟨_,hsamples,h⟩ := Option.bind_eq_some_iff.mp h
    obtain ⟨_,hsummary,h⟩ := Option.bind_eq_some_iff.mp h
    obtain ⟨_,hindex,h⟩ := Option.bind_eq_some_iff.mp h
    obtain ⟨_,hannotations,h⟩ := Option.bind_eq_some_iff.mp h
    obtain ⟨_,herror,h⟩ := Option.bind_eq_some_iff.mp h
    obtain ⟨_,hcomparison,⟨⟩⟩ := Option.bind_eq_some_iff.mp h
    exact ⟨r,hr,hworkload,hquery,hengine,hmode,hrepeats,hstatus,hsamples,hsummary,hindex,
      hannotations,herror,hcomparison⟩
  · rintro ⟨r,hr,hworkload,hquery,hengine,hmode,hrepeats,hstatus,hsamples,hsummary,hindex,
      hannotations,herror,hcomparison⟩
    unfold ofJson?
    rw [hr,Option.bind_eq_bind,Option.bind_some]
    iterate 12 refine Option.bind_eq_some_iff.mpr ⟨_,by assumption,?_⟩
    rfl

theorem Measurement.omittable : Omittable ofJson? optionalFields := by
  intro f hf fs m h
  obtain ⟨r,hr,hm⟩ := ofJson?_eq_some_iff.mp h
  obtain ⟨h₀,h₁,h₂,h₃,h₄,h₅,h₆,h₇,h₈,h₉,h₁₀,h₁₁⟩ := hm
  simp only [optionalFields,List.mem_cons,List.not_mem_nil,or_false] at hf
  rcases hf with rfl | rfl | rfl | rfl | rfl
  · refine ofJson?_eq_some_iff.mpr ⟨_,record?_without (i := 7) (by decide) rfl hr,?_⟩
    constructor <;> simp [*]
  · refine ofJson?_eq_some_iff.mpr ⟨_,record?_without (i := 8) (by decide) rfl hr,?_⟩
    constructor <;> simp [*]
  · refine ofJson?_eq_some_iff.mpr ⟨_,record?_without (i := 9) (by decide) rfl hr,?_⟩
    constructor <;> simp [*]
  · refine ofJson?_eq_some_iff.mpr ⟨_,record?_without (i := 10) (by decide) rfl hr,?_⟩
    constructor <;> simp [*]
  · refine ofJson?_eq_some_iff.mpr ⟨_,record?_without (i := 11) (by decide) rfl hr,?_⟩
    constructor <;> simp [*]

theorem Outcome.omittable : Omittable ofJson? optionalFields := by
  intro f hf fs a h
  obtain ⟨r,hr,h⟩ := Option.bind_eq_some_iff.mp h
  simp only [Option.bind_eq_bind,Option.bind_eq_some_iff] at h
  obtain ⟨_,h₀,_,h₁,_,h₂,_,h₃,_,h₄,_,h₅,_,h₆,_,h₇,⟨⟩⟩ := h
  simp only [optionalFields,List.mem_cons,List.not_mem_nil,or_false] at hf
  rcases hf with rfl | rfl
  · rw [ofJson?,record?_without (i := 5) (by decide) rfl hr]
    simp [*]
  · rw [ofJson?,record?_without (i := 6) (by decide) rfl hr]
    simp [*]

theorem WorkloadAdvice.omittable : Omittable ofJson? optionalFields := by
  intro f hf fs a h
  obtain ⟨r,hr,h⟩ := Option.bind_eq_some_iff.mp h
  simp only [Option.bind_eq_bind,Option.bind_eq_some_iff] at h
  obtain ⟨_,h₀,_,h₁,_,h₂,_,h₃,_,h₄,_,h₅,_,h₆,⟨⟩⟩ := h
  simp only [optionalFields,List.mem_cons,List.not_mem_nil,or_false] at hf
  rcases hf with rfl | rfl | rfl | rfl | rfl
  · rw [ofJson?,record?_without (i := 1) (by decide) rfl hr]
    simp [*]
  · rw [ofJson?,record?_without (i := 2) (by decide) rfl hr]
    simp [*]
  · rw [ofJson?,record?_without (i := 3) (by decide) rfl hr]
    simp [*]
  · rw [ofJson?,record?_without (i := 4) (by decide) rfl hr]
    simp [*]
  · rw [ofJson?,record?_without (i := 5) (by decide) rfl hr]
    simp [*]

theorem Environment.omittable : Omittable ofJson? optionalFields := by
  intro f hf fs a h
  obtain ⟨r,hr,h⟩ := Option.bind_eq_some_iff.mp h
  have hobject := positional_of_object hr
  simp only [Option.bind_eq_bind,Option.bind_eq_some_iff] at h
  obtain ⟨_,h₀,_,h₁,_,h₂,_,h₃,_,h₄,_,h₅,_,h₆,_,h₇,⟨⟩⟩ := h
  simp only [optionalFields,List.mem_cons,List.not_mem_nil,or_false] at hf
  rcases hf with rfl | rfl | rfl
  · rw [ofJson?,record?_without (i := 2) (by decide) rfl hr]
    simp [*]
  · rw [ofJson?,record?_without (i := 5) (by decide) rfl hr]
    simp [*]
  · rw [ofJson?,record?_without (i := 6) (by decide) rfl hr]
    simp [*]

end IndexTrial
