import IndexTrial.Proofs.Document.RoundTrip
import IndexTrial.Proofs.Regression.Entries
import IndexTrial.Regression.Document

/-!
A baseline is read back from its file: the list of entries gives back the map, since it is written
in the order of the keys.
-/

namespace IndexTrial

namespace Baseline

open Json

variable {b : Baseline} {createdAt : Moment}

/-- What a baseline must satisfy to be read back. -/
structure Storable (b : Baseline) : Prop where
  ascending : b.entries.Ascending
  p50 : ∀ f ∈ b.entries, f.2.p50.isFinite = true
  indexBytes : ∀ f ∈ b.entries, f.2.indexBytes < 2 ^ 64

/-- The fields that the text of an entry stands for. Infinity and a NaN have no number. -/
def entrySlots (k : BaselineKey) (e : BaselineEntry) : List (String × Option Json) :=
  [("workload_id",some (.text k.workload)),("query_id",some (.text k.query)),
    ("cache_mode",some k.mode.toJson),
    ("latency_p50_ms",some (if e.p50.isFinite then .float e.p50 else .null)),
    ("index_size_bytes",some (.nat e.indexBytes))]

def entryWritten (f : BaselineKey × BaselineEntry) : Json :=
  .object (presentFields (entrySlots f.1 f.2))

theorem render_entryToJson (layout : Layout) (depth : Nat) (f : BaselineKey × BaselineEntry) :
    render layout Binary64.json depth (entryToJson f.1 f.2) =
      render layout Binary64.json depth (entryWritten f) := by
  by_cases hp50 : f.2.p50.isFinite = true
  · simp [entryToJson,entryWritten,entrySlots,hp50]
  · have hnull : f.2.p50.json = "null" := by simp [Binary64.json,hp50]
    simp [entryToJson,entryWritten,entrySlots,hp50,render,renderFields,hnull]

theorem kept_entry {f : BaselineKey × BaselineEntry} (hp50 : f.2.p50.isFinite = true)
    (hbytes : f.2.indexBytes < 2 ^ 64) : Kept entryWritten entryOfJson? f := by
  refine ⟨?_,by simp [entryWritten]⟩
  rw [entryWritten,entryOfJson?]
  refine record_step (by decide) rfl ?_
  refine required_step (kept_text f.1.workload) rfl ?_
  refine required_step (kept_text f.1.query) rfl ?_
  refine defaulted_step (kept_mode f.1.mode) rfl ?_
  refine required_step (kept_float hp50) (by simp [Record.get?,entrySlots,hp50]) ?_
  exact required_step (kept_nat hbytes) rfl rfl

theorem entryOfJson?_eq_none {f : BaselineKey × BaselineEntry} (hp50 : f.2.p50.isFinite = false) :
    entryOfJson? (entryWritten f) = none := by
  rw [entryWritten,entryOfJson?]
  refine record_step (by decide) rfl ?_
  refine required_step (kept_text f.1.workload) rfl ?_
  refine required_step (kept_text f.1.query) rfl ?_
  refine defaulted_step (kept_mode f.1.mode) rfl ?_
  simp [Record.required,Record.get?,entrySlots,hp50,asBinary64?]

theorem writable_entry {f : BaselineKey × BaselineEntry} (hbytes : f.2.indexBytes < 2 ^ 64) :
    Writable (entryWritten f) := by
  refine writable_present ?_
  by_cases hp50 : f.2.p50.isFinite = true <;>
    simpa [entrySlots,CacheMode.toJson,hp50] using hbytes

def slots (b : Baseline) (createdAt : Moment) : List (String × Option Json) :=
  [("version",some (.nat formatVersion)),("created_at",some createdAt.toJson),
    ("engine",some (.text b.engine)),("results",some (.array (b.entries.map entryWritten)))]

/-- What the text of a file stands for. -/
def written (b : Baseline) (createdAt : Moment) : Json := .object (presentFields (b.slots createdAt))

theorem document_eq (b : Baseline) (createdAt : Moment) :
    b.document createdAt = (b.written createdAt).pretty := by
  have hentries := render_map_congr b.entries .indented 1 fun f _ depth =>
    render_entryToJson .indented depth f
  simp [document,pretty,toJson,written,slots,render,renderFields,hentries]

theorem writable_written (hbytes : ∀ f ∈ b.entries, f.2.indexBytes < 2 ^ 64) (createdAt : Moment) :
    Writable (b.written createdAt) := by
  refine writable_present ?_
  have hentries : ∀ j ∈ b.entries.map entryWritten, Writable j := by
    intro j hj
    obtain ⟨f,hf,rfl⟩ := List.mem_map.mp hj
    exact writable_entry (hbytes f hf)
  have hversion : formatVersion < 2 ^ 64 := by decide
  simpa [slots,Moment.toJson,hversion] using hentries

theorem ofDocument?_eq (hbytes : ∀ f ∈ b.entries, f.2.indexBytes < 2 ^ 64) (createdAt : Moment) :
    ofDocument? (b.document createdAt) = ofJson? (b.written createdAt) := by
  rw [ofDocument?,document_eq,(writable_written hbytes createdAt).read?_pretty,Option.bind_some]

theorem Storable.ofJson?_written (h : b.Storable) (hcreated : createdAt.Valid) :
    ofJson? (b.written createdAt) = some { b with createdAt := some createdAt } := by
  rw [written,ofJson?]
  refine record_step (by decide) rfl ?_
  refine required_step (kept_nat (n := formatVersion) (by decide)) rfl ?_
  refine required_step (kept_moment hcreated) rfl ?_
  refine required_step (kept_text b.engine) rfl ?_
  refine required_step (kept_list fun f hf => kept_entry (h.p50 f hf) (h.indexBytes f hf)) rfl ?_
  rw [h.ascending.ofList_eq]
  rfl

/-- The file of a baseline is read back as the baseline and the moment of writing. -/
theorem Storable.ofDocument?_document (h : b.Storable) (hcreated : createdAt.Valid) :
    ofDocument? (b.document createdAt) = some { b with createdAt := some createdAt } := by
  rw [ofDocument?_eq h.indexBytes,h.ofJson?_written hcreated]

/-- A latency that is not finite makes the whole file unreadable. -/
theorem ofDocument?_document_eq_none (hbytes : ∀ f ∈ b.entries, f.2.indexBytes < 2 ^ 64)
    (hcreated : createdAt.Valid) {f : BaselineKey × BaselineEntry} (hf : f ∈ b.entries)
    (hp50 : f.2.p50.isFinite = false) : ofDocument? (b.document createdAt) = none := by
  rw [ofDocument?_eq hbytes,written,ofJson?]
  refine record_step (by decide) rfl ?_
  refine required_step (kept_nat (n := formatVersion) (by decide)) rfl ?_
  refine required_step (kept_moment hcreated) rfl ?_
  refine required_step (kept_text b.engine) rfl ?_
  have hentries := asList?_eq_none hf (entryOfJson?_eq_none hp50)
  simp [Record.required,Record.get?,slots,hentries]

theorem indexBytes_ofMeasurements {engine : String} {ms : List Measurement}
    (hsize : ∀ m ∈ ms, ∀ n ∈ m.indexSize, n < 2 ^ 64) :
    ∀ f ∈ (ofMeasurements engine ms).entries, f.2.indexBytes < 2 ^ 64 := by
  intro f hf
  obtain ⟨m,hm,heq⟩ := mem_ofMeasurements hf
  unfold entryOf? at heq
  split at heq
  · obtain ⟨s,-,rfl⟩ := Option.map_eq_some_iff.mp heq
    dsimp only
    cases hn : m.indexSize with
    | none => decide
    | some n => exact hsize m hm n hn
  · simp at heq

end Baseline

end IndexTrial
