import IndexTrial.Document.Decode
import IndexTrial.Document.Encode
import IndexTrial.Regression.Baseline

/-!
The baseline file: a flat list of entries, since the keys of a JSON object are single strings.
Files of version 1 held hot results only and name no cache mode.
-/

namespace IndexTrial

namespace Baseline

def formatVersion : Nat := 2

def entryToJson (k : BaselineKey) (e : BaselineEntry) : Json :=
  .object
    [("workload_id",.text k.workload),("query_id",.text k.query),
      ("cache_mode",k.mode.toJson),("latency_p50_ms",.float e.p50),
      ("index_size_bytes",.nat e.indexBytes)]

def toJson (b : Baseline) (createdAt : Moment) : Json :=
  .object
    [("version",.nat formatVersion),("created_at",createdAt.toJson),
      ("engine",.text b.engine),("results",.array (b.entries.map fun (k,e) => entryToJson k e))]

def document (b : Baseline) (createdAt : Moment) : String := (b.toJson createdAt).pretty

def entryOfJson? (j : Json) : Option (BaselineKey × BaselineEntry) := do
  let r ← Json.record? ["workload_id","query_id","cache_mode","latency_p50_ms",
    "index_size_bytes"] j
  let workload ← r.required 0 Json.asText?
  let query ← r.required 1 Json.asText?
  let mode ← r.defaulted 2 CacheMode.ofJson? .hot
  let p50 ← r.required 3 Json.asBinary64?
  let indexBytes ← r.required 4 (Json.asUnsigned? 64)
  return (⟨workload,query,mode⟩,⟨p50,indexBytes⟩)

def ofJson? (j : Json) : Option Baseline := do
  let r ← Json.record? ["version","created_at","engine","results"] j
  let _ ← r.required 0 (Json.asUnsigned? 32)
  let createdAt ← r.required 1 Moment.ofJson?
  let engine ← r.required 2 Json.asText?
  let entries ← r.required 3 (Json.asList? entryOfJson?)
  return ⟨engine,some createdAt,.ofList entries⟩

def ofDocument? (text : String) : Option Baseline := (Json.read? text).bind ofJson?

end Baseline

end IndexTrial
