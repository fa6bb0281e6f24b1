import IndexTrial.Binary64.Spelling
import IndexTrial.Run.Artifact

/-!
The table of measurements in comma-separated form. A field that holds a comma, a quote or a line
break is quoted, with its quotes doubled; a record ends with a newline.
-/

namespace IndexTrial

namespace Table

def needsQuotes (field : List Char) : Bool :=
  field.any fun c => c == ',' || c == '"' || c == '\n' || c == '\r'

def doubleQuotes : List Char → List Char
  | [] => []
  | c :: cs => if c = '"' then '"' :: '"' :: doubleQuotes cs else c :: doubleQuotes cs

def writeField (field : List Char) : List Char :=
  if needsQuotes field then '"' :: doubleQuotes field ++ ['"'] else field

def writeFields : List (List Char) → List Char
  | [] => []
  | [f] => writeField f
  | f :: fs => writeField f ++ ',' :: writeFields fs

def writeRecord (fields : List String) : List Char :=
  writeFields (fields.map String.toList) ++ ['\n']

def header : List String :=
  ["workload_id","query_id","engine","cache_mode","status","repeat","samples","p50_ms",
    "p95_ms","p99_ms","mean_ms","index_size_bytes","build_time_ms","regression",
    "annotations"]

/-- Milliseconds with three places; nothing if there is no value. -/
def msField (value : Option Binary64) : String := value.elim "" (·.fixedPlaces 3)

def row (m : Measurement) : List String :=
  [m.workload,m.query,m.engine,m.mode.name,m.status.name,toString m.repeats,
    toString m.samples.length,msField (m.summary.map (·.p50)),msField (m.summary.map (·.p95)),
    msField (m.summary.bind (·.p99)),msField (m.summary.map (·.mean)),
    m.indexSize.elim "" toString,msField (m.index.bind (·.buildMs)),
    m.comparison.elim "" (·.worst.label),";".intercalate m.annotations]

def document (ms : List Measurement) : String :=
  String.ofList ((header :: ms.map row).flatMap writeRecord)

end Table

end IndexTrial
