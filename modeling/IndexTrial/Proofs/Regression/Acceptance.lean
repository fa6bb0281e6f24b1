import IndexTrial.Proofs.Regression.File

/-!
Accepting the results of a run as the next baseline. The new baseline has an entry for exactly the
keys of the complete candidate measurements, from the first measurement of each key; what was in
the file before has no say in it.
-/

namespace IndexTrial

/-- Complete, of the engine, and with a summary to take values from. -/
def Measurement.isAccepted (engine : String) (m : Measurement) : Bool :=
  m.engine == engine && m.status == .ok && m.summary.isSome

namespace Baseline

/-- The keys of the measurements that are taken. -/
def acceptedKeys (engine : String) (ms : List Measurement) : Finset BaselineKey :=
  ((ms.filter (·.isAccepted engine)).map (·.key)).toFinset

/-- The first measurement of a key that is taken. -/
def firstAccepted? (engine : String) (ms : List Measurement) (k : BaselineKey) :
    Option Measurement := ms.find? fun m => m.isAccepted engine && m.key == k

/-- The values of a measurement that a baseline keeps. -/
def valuesOf? (m : Measurement) : Option BaselineEntry :=
  m.summary.map fun s => ⟨s.p50,m.indexSize.getD 0⟩

variable {engine : String} {ms : List Measurement} {k : BaselineKey} {a : Artifact} {t : FileTree}
  {results path : String} {now : Moment}

theorem entryOf?_eq (engine : String) (m : Measurement) : entryOf? engine m =
    if m.isAccepted engine then (valuesOf? m).map (m.key,·) else none := by
  unfold entryOf? valuesOf? Measurement.isAccepted
  cases hsummary : m.summary with
  | none => simp
  | some s => by_cases h : m.engine = engine ∧ m.status = .ok <;> simp_all

theorem find?_eq_firstAccepted? (engine : String) (ms : List Measurement) (k : BaselineKey) :
    (ofMeasurements engine ms).find? k = (firstAccepted? engine ms k).bind valuesOf? := by
  rw [find?_ofMeasurements]
  induction ms with
  | nil => rfl
  | cons m ms ih =>
    unfold firstAccepted? at ih ⊢
    rw [List.find?_cons]
    cases haccepted : m.isAccepted engine with
    | false =>
      have hentry : entryOf? engine m = none := by simp [entryOf?_eq,haccepted]
      simpa [hentry] using ih
    | true =>
      obtain ⟨s,hsummary⟩ : ∃ s, m.summary = some s := by
        simp only [Measurement.isAccepted,Bool.and_eq_true] at haccepted
        exact Option.isSome_iff_exists.mp haccepted.2
      have hentry : entryOf? engine m = some (m.key,⟨s.p50,m.indexSize.getD 0⟩) := by
        simp [entryOf?_eq,haccepted,valuesOf?,hsummary]
      rw [List.filterMap_cons_some hentry,BaselineEntries.find?_cons]
      by_cases hk : k = m.key
      · simp [hk,valuesOf?,hsummary]
      · have hne : (m.key == k) = false := beq_eq_false_iff_ne.mpr (Ne.symm hk)
        simpa [hk,hne] using ih

theorem mem_acceptedKeys : k ∈ acceptedKeys engine ms ↔ (firstAccepted? engine ms k).isSome := by
  simp [acceptedKeys,firstAccepted?,and_assoc]

theorem toFinset_keys (engine : String) (ms : List Measurement) :
    ((ofMeasurements engine ms).entries.map (·.1)).toFinset = acceptedKeys engine ms := by
  ext k
  rw [List.mem_toFinset,BaselineEntries.mem_keys_iff,mem_acceptedKeys]
  change ((ofMeasurements engine ms).find? k).isSome = true ↔ _
  rw [find?_eq_firstAccepted?]
  cases hfirst : firstAccepted? engine ms k with
  | none => simp
  | some m =>
    have haccepted := List.find?_some hfirst
    simp only [Measurement.isAccepted,Bool.and_eq_true] at haccepted
    simpa [valuesOf?] using haccepted.1.2

theorem size_ofMeasurements (engine : String) (ms : List Measurement) :
    (ofMeasurements engine ms).size = (acceptedKeys engine ms).card := by
  rw [← toFinset_keys,List.toFinset_card_of_nodup (ascending_ofMeasurements engine ms).nodup,
    List.length_map]
  rfl

theorem isEmpty_ofMeasurements : (ofMeasurements engine ms).isEmpty = true ↔
    acceptedKeys engine ms = ∅ := by
  rw [← Finset.card_eq_zero,← size_ofMeasurements,isEmpty,List.isEmpty_iff,size,
    List.length_eq_zero_iff]

/-- The latency of an entry is that of the first measurement of its key. -/
theorem exists_firstAccepted?_of_mem {f : BaselineKey × BaselineEntry}
    (hf : f ∈ (ofMeasurements engine ms).entries) :
    ∃ m, firstAccepted? engine ms f.1 = some m ∧ m.p50 = some f.2.p50 := by
  have hfind : (ofMeasurements engine ms).find? f.1 = some f.2 :=
    (ascending_ofMeasurements engine ms).find?_of_mem hf
  rw [find?_eq_firstAccepted?] at hfind
  obtain ⟨m,hfirst,hvalues⟩ := Option.bind_eq_some_iff.mp hfind
  obtain ⟨s,hs,hentry⟩ := Option.map_eq_some_iff.mp hvalues
  exact ⟨m,hfirst,by simp [Measurement.p50,hs,← hentry]⟩

/-- What is taken can be stored if the latencies that are taken are finite. -/
theorem storable_ofMeasurements
    (hp50 : ∀ k m, firstAccepted? engine ms k = some m → ∀ x ∈ m.p50, x.isFinite = true)
    (hsize : ∀ m ∈ ms, ∀ n ∈ m.indexSize, n < 2 ^ 64) : (ofMeasurements engine ms).Storable where
  ascending := ascending_ofMeasurements engine ms
  p50 f hf := by
    obtain ⟨m,hfirst,hm⟩ := exists_firstAccepted?_of_mem hf
    exact hp50 f.1 m hfirst f.2.p50 hm
  indexBytes := indexBytes_ofMeasurements hsize

/-- A summary that can be stored has a finite median, and a size that can be stored is a word. -/
theorem storable_of_results (ha : a.Storable) (engine : String) :
    (ofMeasurements engine a.results).Storable := by
  refine storable_ofMeasurements (fun k m hfirst x hx => ?_) fun m hm n hn => ?_
  · obtain ⟨s,hs,rfl⟩ := Option.map_eq_some_iff.mp hx
    exact ((ha.results m (List.mem_of_find?_eq_some hfirst)).summary s hs).p50
  · obtain ⟨i,hi,hsize⟩ := Option.bind_eq_some_iff.mp hn
    exact ((ha.results m hm).index i hi).sizeBytes n hsize

/-- What the results give as baseline. -/
def accepted (t : FileTree) (results : String) : Except Failure Baseline :=
  (Artifact.load t results).bind (ofArtifact results)

theorem accept_of_refused {e : Failure} (h : accepted t results = .error e) :
    accept now results path t = (.error e,t) := by
  unfold accepted at h
  rw [accept,h]

theorem accept_of_accepted {b : Baseline} (h : accepted t results = .ok b) :
    accept now results path t =
      ((match (t.perform (replacement (.read path) (b.document now))).2 with
        | none => .ok b.size
        | some step => .error (stepFailure step)),
        (t.perform (replacement (.read path) (b.document now))).1) := by
  unfold accepted at h
  rw [accept,h]
  dsimp only
  rw [commit]
  rcases t.perform (replacement (.read path) (b.document now)) with ⟨u,_ | step⟩ <;> rfl

theorem refused_of_keys (ha : a.Storable) (hfile : t.contents? (.read results) = some a.document)
    (hkeys : acceptedKeys a.engines.candidate a.results = ∅) :
    accepted t results = .error (.nothingToAccept results a.engines.candidate) := by
  have hempty := isEmpty_ofMeasurements.mpr hkeys
  simp [accepted,Artifact.load,hfile,ha.ofDocument?_document,Except.bind,ofArtifact,hempty]

theorem accepted_of_keys (ha : a.Storable) (hfile : t.contents? (.read results) = some a.document)
    (hkeys : acceptedKeys a.engines.candidate a.results ≠ ∅) :
    accepted t results = .ok (ofMeasurements a.engines.candidate a.results) := by
  have hsome := mt isEmpty_ofMeasurements.mp hkeys
  simp [accepted,Artifact.load,hfile,ha.ofDocument?_document,Except.bind,ofArtifact,hsome]

/-- A complete measurement of one sample, with an index of a known size or none. -/
def sampled (query engine : String) (mode : CacheMode) (p50 : Binary64) (size : Option Nat) :
    Measurement :=
  { workload := "dimension_1k", query, engine, mode, repeats := 1, status := .ok
    summary := some ⟨1,p50,p50,none,p50,p50,p50⟩
    index := size.map fun n => ⟨engine,"idx",some n,none⟩ }

/-- Candidate results of two keys, one of them twice, behind one of the baseline engine. -/
def repeatedKey : Artifact where
  id := ⟨0⟩
  mode := .quick
  startedAt := ⟨0,0⟩
  finishedAt := ⟨1,0⟩
  environment := .ofCapacity none
  engines := ⟨"btree","smol"⟩
  baselineLoaded := false
  budget := ⟨180,.one,false⟩
  outcomes := []
  results := [sampled "point" "btree" .hot .one (some 8192),sampled "point" "smol" .hot .one none,
    sampled "point" "smol" .cold .zero (some 8192),sampled "point" "smol" .hot .zero (some 1)]
  summary := ⟨⟨4,0,0⟩,0,0,⟨0,0,0,3⟩,false,[]⟩

theorem storable_sampled (query engine : String) (mode : CacheMode) {p50 : Binary64}
    (hp50 : p50.isFinite = true) {size : Option Nat} (hsize : ∀ n ∈ size, n < 2 ^ 64) :
    (sampled query engine mode p50 size).Storable where
  repeats := (by decide : 1 < 2 ^ 32)
  samples := by simp [sampled]
  summary := by
    simp only [sampled,Option.mem_some_iff,forall_eq']
    exact ⟨(by decide : 1 < 2 ^ 64),hp50,hp50,by simp,hp50,hp50,hp50⟩
  index := by
    rintro i hi
    obtain ⟨n,hn,rfl⟩ := Option.map_eq_some_iff.mp hi
    exact ⟨by simpa using hsize n hn,by simp⟩
  comparison := by simp [sampled]

theorem storable_repeatedKey : repeatedKey.Storable where
  id := by decide
  startedAt := ⟨by decide,by decide,by decide⟩
  finishedAt := ⟨by decide,by decide,by decide⟩
  environment := ⟨by decide,by decide,by decide,by decide⟩
  budget := ⟨by decide,by decide⟩
  outcomes := by simp [repeatedKey]
  results := by
    intro m hm
    simp only [repeatedKey,List.mem_cons,List.not_mem_nil,or_false] at hm
    rcases hm with rfl | rfl | rfl | rfl <;> exact storable_sampled _ _ _ (by decide) (by simp)
  summary := ⟨⟨by decide,by decide,by decide⟩,by decide,by decide,
    ⟨by decide,by decide,by decide,by decide⟩,by simp [repeatedKey]⟩

/-- The baseline of a saved artifact. Nothing is written if no candidate measurement is complete;
otherwise, when the file operations succeed, the file holds one entry for each key. -/
theorem accept_stores_accepted {a : Artifact} (ha : a.Storable) {t : FileTree} {results : String}
    (hfile : t.contents? (.read results) = some a.document) {now : Moment} (hnow : now.Valid)
    (path : String) :
    (acceptedKeys a.engines.candidate a.results = ∅ → accept now results path t =
      (.error (.nothingToAccept results a.engines.candidate),t)) ∧
    (acceptedKeys a.engines.candidate a.results ≠ ∅ → ∀ u, t.perform (replacement (.read path)
        ((ofMeasurements a.engines.candidate a.results).document now)) = (u,none) →
      accept now results path t =
        (.ok (acceptedKeys a.engines.candidate a.results).card,u) ∧
      ∃ b, load u path = .ok (some b) ∧ b.engine = a.engines.candidate ∧
        (b.entries.map (·.1)).Nodup ∧
        (b.entries.map (·.1)).toFinset = acceptedKeys a.engines.candidate a.results ∧
        ∀ k, b.find? k = (firstAccepted? a.engines.candidate a.results k).bind valuesOf?) := by
  constructor
  · intro hempty
    exact accept_of_refused (refused_of_keys ha hfile hempty)
  · intro hkeys u hsteps
    have hstorable := storable_of_results ha a.engines.candidate
    refine ⟨?_,_,hstorable.load_of_perform hnow hsteps,rfl,
      (ascending_ofMeasurements _ _).nodup,toFinset_keys _ _,find?_eq_firstAccepted? _ _⟩
    rw [accept_of_accepted (accepted_of_keys ha hfile hkeys),hsteps]
    simp [size_ofMeasurements]

theorem accept_stores_accepted_repeatedKey :
    ∃ u b, accept ⟨2,0⟩ "r.json" "b.json" ⟨[(["r.json"],.file repeatedKey.document),
        (["b.json"],.file "old")]⟩ = (.ok 2,u) ∧ load u "b.json" = .ok (some b) ∧
      b.find? ⟨"dimension_1k","point",.hot⟩ = some ⟨.one,0⟩ := by
  have hsteps : ∀ text, ∃ u, (FileTree.mk [(["r.json"],.file repeatedKey.document),
      (["b.json"],.file "old")]).perform (replacement (.read "b.json") text) = (u,none) :=
    fun _ => ⟨_,rfl⟩
  have hkeys : acceptedKeys repeatedKey.engines.candidate repeatedKey.results ≠ ∅ := by decide
  have hcard : (acceptedKeys repeatedKey.engines.candidate repeatedKey.results).card = 2 := by decide
  obtain ⟨u,hu⟩ := hsteps _
  have hnow : (Moment.mk 2 0).Valid := ⟨by decide,by decide,by decide⟩
  have hfile : (FileTree.mk [(["r.json"],.file repeatedKey.document),
      (["b.json"],.file "old")]).contents? (.read "r.json") = some repeatedKey.document := rfl
  obtain ⟨haccept,b,hload,-,-,-,hfind⟩ :=
    (accept_stores_accepted storable_repeatedKey hfile hnow "b.json").2 hkeys u hu
  refine ⟨u,b,hcard ▸ haccept,hload,?_⟩
  rw [hfind]
  rfl

end Baseline

end IndexTrial
