import IndexTrial.Binary64.Rounding
import IndexTrial.CacheMode

/-!
The scale of a run. The size of the server's buffer pool picks one of three scales, and the scale
fixes the row counts, the cache modes of a full run and the wall-clock budget.
-/

namespace IndexTrial

def mebibyte : Nat := 2 ^ 20
def gibibyte : Nat := 2 ^ 30

inductive Scale
  | micro
  | standard
  | large
  deriving DecidableEq, Inhabited, Repr

/-- What a scale fixes; row counts come smallest first. -/
structure ScaleProfile where
  name : String
  rowCounts : List Nat
  cacheModes : List CacheMode
  timeoutSeconds : Nat
  deriving DecidableEq, Repr

namespace Scale

/-- Below 256 MiB micro, up to 2 GiB standard, above it large. -/
def ofCapacity (bytes : Nat) : Scale :=
  if bytes < 256 * mebibyte then micro
  else if bytes ≤ 2 * gibibyte then standard
  else large

def name : Scale → String
  | micro => "micro"
  | standard => "standard"
  | large => "large"

def named : List (String × Scale) :=
  [("micro",micro),("standard",standard),("large",large)]

theorem named_name (s : Scale) : named.lookup s.name = some s := by cases s <;> rfl

def profile : Scale → ScaleProfile
  | micro => ⟨"CI/Small VM",[100000,500000],[.hot],3 * 60⟩
  | standard => ⟨"Developer Workstation",[1000000,5000000],[.hot,.cold],15 * 60⟩
  | large => ⟨"Production-like",[20000000,50000000],[.hot,.warm,.cold],45 * 60⟩

end Scale

/-- What was seen of the server before the run. -/
structure Environment where
  scale : Scale
  scaleName : String
  capacityBytes : Option Nat
  rowCounts : List Nat
  timeoutSeconds : Nat
  serverVersion : Option String
  maxParallelWorkers : Option Nat
  annotations : List String
  deriving DecidableEq, Inhabited, Repr

namespace Environment

def capacityUnknown : String := "capacity-signal-unavailable: defaulted to micro tier"

/-- An unknown capacity counts as the smallest scale, with a note. -/
def ofCapacity (capacity : Option Nat) : Environment :=
  let scale := capacity.elim .micro Scale.ofCapacity
  let p := scale.profile
  { scale
    scaleName := p.name
    capacityBytes := capacity
    rowCounts := p.rowCounts
    timeoutSeconds := p.timeoutSeconds
    serverVersion := none
    maxParallelWorkers := none
    annotations := if capacity.isSome then [] else [capacityUnknown] }

def capacityMb (e : Environment) : Option Binary64 :=
  e.capacityBytes.map fun b => (Binary64.ofNat b).div (.ofNat mebibyte)

end Environment

end IndexTrial
