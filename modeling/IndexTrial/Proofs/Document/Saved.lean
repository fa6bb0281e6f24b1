import IndexTrial.Proofs.Document.Omission
import IndexTrial.Proofs.Document.RoundTrip
import IndexTrial.Proofs.Files.Path
import IndexTrial.Proofs.Files.Tree
import IndexTrial.Regression.File
import IndexTrial.Report.Files

/-!
What is saved of a run can be loaded again. The artifact is written first of three files, and the
other two, whose names end otherwise, leave it as it is.
-/

namespace IndexTrial

theorem write?_of_writeFile {failure : Failure} {path text : String} {t u : FileTree}
    (h : writeFile failure path text t = .ok u) : t.write? (.read path) text = some u := by
  unfold writeFile at h
  cases hwrite : t.write? (.read path) text with
  | none => simp [hwrite] at h
  | some v => simpa [hwrite] using h

theorem getLast?_appended {text : String} {c : Char} (h : text.toList.getLast? = some c)
    (lead : String) : (lead ++ text).toList.getLast? = some c := by
  simp [List.getLast?_append,h]

theorem getLast?_joinPath {name : String} {c : Char} (h : name.toList.getLast? = some c)
    (directory : String) : (joinPath directory name).toList.getLast? = some c := by
  unfold joinPath
  split <;> exact getLast?_appended h _

namespace Artifact

variable {a : Artifact} {directory : String} {t u : FileTree}

/-- The path of a file of a run. -/
def pathOf (a : Artifact) (directory extension : String) : String :=
  joinPath directory s!"{a.stem}.{extension}"

theorem getLast?_pathOf (a : Artifact) (directory : String) {extension : String} {c : Char}
    (h : extension.toList.getLast? = some c) :
    (a.pathOf directory extension).toList.getLast? = some c :=
  getLast?_joinPath (getLast?_appended h _) directory

/-- The other files of a run are not at the path of its artifact. -/
theorem read_pathOf_ne (a : Artifact) (directory : String) {extension : String} {c : Char}
    (h : extension.toList.getLast? = some c) (hn : c ≠ 'n') (hc : c ≠ '/' ∧ c ≠ '.') :
    FilePath.read (a.pathOf directory "json") ≠ .read (a.pathOf directory extension) := by
  have hjson : (a.pathOf directory "json").toList.getLast? = some 'n' :=
    a.getLast?_pathOf directory (by decide)
  exact FilePath.read_ne hjson (a.getLast?_pathOf directory h) hn.symm (by decide) hc

/-- What a save that succeeds has written, one file after the other. -/
theorem save_eq_ok {paths : List String} (h : a.save directory t = (.ok paths,u)) :
    paths = a.paths directory ∧ ∃ made saved reported,
      t.makeDirectories? (.read directory) = some made ∧
      made.write? (.read (a.pathOf directory "json")) a.document = some saved ∧
      saved.write? (.read (a.pathOf directory "md")) (Markdown.render a) = some reported ∧
      reported.write? (.read (a.pathOf directory "csv")) (Table.document a.results) = some u := by
  unfold save at h
  cases hmade : t.makeDirectories? (.read directory) with
  | none => simp [hmade] at h
  | some made =>
    simp only [hmade] at h
    split at h
    · simp at h
    · rename_i saved hsaved
      split at h
      · simp at h
      · rename_i reported hreported
        split at h
        · simp at h
        · rename_i tabled htabled
          obtain ⟨hpaths,rfl⟩ := Prod.mk.inj h
          exact ⟨(Except.ok.inj hpaths).symm,made,saved,reported,rfl,write?_of_writeFile hsaved,
            write?_of_writeFile hreported,write?_of_writeFile htabled⟩

theorem contents?_save {paths : List String} (h : a.save directory t = (.ok paths,u)) :
    u.contents? (.read (a.pathOf directory "json")) = some a.document := by
  obtain ⟨-,made,saved,reported,-,hsaved,hreported,htabled⟩ := save_eq_ok h
  have hmd : FilePath.read (a.pathOf directory "json") ≠ .read (a.pathOf directory "md") :=
    a.read_pathOf_ne directory (c := 'd') (by decide) (by decide) (by decide)
  have hcsv : FilePath.read (a.pathOf directory "json") ≠ .read (a.pathOf directory "csv") :=
    a.read_pathOf_ne directory (c := 'v') (by decide) (by decide) (by decide)
  rw [FileTree.contents?,FileTree.entryAt?_write?_of_ne htabled hcsv,
    FileTree.entryAt?_write?_of_ne hreported hmd,FileTree.entryAt?_write? hsaved]

theorem Storable.load_of_contents (ha : a.Storable) {path : String}
    (h : t.contents? (.read path) = some a.document) : load t path = .ok a := by
  rw [load,h]
  dsimp only
  rw [ha.ofDocument?_document]

/-- In no record of an artifact does it matter that a field without a value is not there. -/
structure OmissionsRead : Prop where
  summary : Json.Omittable LatencySummary.ofJson? LatencySummary.optionalFields
  index : Json.Omittable IndexFigures.ofJson? IndexFigures.optionalFields
  comparison : Json.Omittable Comparison.ofJson? Comparison.optionalFields
  measurement : Json.Omittable Measurement.ofJson? Measurement.optionalFields
  outcome : Json.Omittable Outcome.ofJson? Outcome.optionalFields
  advice : Json.Omittable WorkloadAdvice.ofJson? WorkloadAdvice.optionalFields
  environment : Json.Omittable Environment.ofJson? Environment.optionalFields

/-- An artifact is loaded as it was from the file that was written of it, alone or with the other
files of its run; and a field that may be absent is read as nothing when it is. -/
theorem load_written (ha : a.Storable) :
    (∀ failure path t u, writeFile failure path a.document t = .ok u → load u path = .ok a) ∧
    (∀ directory t paths u, a.save directory t = (.ok paths,u) →
      ∃ path, paths.head? = some path ∧ load u path = .ok a) ∧
    OmissionsRead := by
  refine ⟨fun failure path t u h => ?_,fun directory t paths u h => ?_,?_⟩
  · exact ha.load_of_contents (FileTree.contents?_write? (write?_of_writeFile h))
  · refine ⟨a.pathOf directory "json",?_,ha.load_of_contents (contents?_save h)⟩
    rw [(save_eq_ok h).1]
    rfl
  · exact ⟨LatencySummary.omittable,IndexFigures.omittable,Comparison.omittable,
      Measurement.omittable,Outcome.omittable,WorkloadAdvice.omittable,Environment.omittable⟩

/-- Two results with everything that a result can have, one that broke off and one that was never
taken; and a workload of each kind, the second without an advice. -/
def varied : Artifact where
  id := ⟨1⟩
  mode := .full
  startedAt := ⟨1709647629,250000000⟩
  finishedAt := ⟨1709647800,0⟩
  environment := { Environment.ofCapacity (some 134217728) with serverVersion := some "16.2" }
  engines := ⟨"btree","smol"⟩
  baselineLoaded := true
  budget := ⟨180,.one,true⟩
  outcomes :=
    [{ workload := "sparse_1k", description := "Sparse", table := "bench_sparse_1k"
       status := .completed, generated := true, rowCount := some 1000, elapsedSeconds := .one },
      { workload := "limit_1k", description := "Limit", table := "bench_limit_1k"
        status := .skipped, error := some "run budget exhausted" }]
  results :=
    [measured (.critical (.ofNat 2)) (some .zero),measured (.warning .one) none,
      { workload := "sparse_1k", query := "q", engine := "smol", mode := .cold, repeats := 1
        status := .incomplete, annotations := ["not evicted"], error := some "timeout" },
      .unmeasured "limit_1k" "q" "smol" .hot 20 "run budget exhausted"]
  summary := ⟨⟨2,1,1⟩,1,1,⟨0,1,1,0⟩,true,
    [{ workload := "sparse_1k", advice := some .neutral, query := some "q", mode := some .hot
       speedup := some .one, compression := none, reason := "1.00x faster, size unknown" },
      { workload := "limit_1k", reason := "no query completed on both engines" }]⟩
where
  measured (latency : Verdict) (p99 : Option Binary64) : Measurement :=
    { workload := "sparse_1k", query := "q", engine := "smol", mode := .hot, repeats := 2
      status := .ok
      samples := [⟨"sparse_1k","q","smol",.hot,.one,⟨1709647630,0⟩⟩,
        ⟨"sparse_1k","q","smol",.hot,.zero,⟨1709647631,0⟩⟩]
      summary := some ⟨2,.zero,.one,p99,.one,.zero,.one⟩
      index := some ⟨"smol","idx_bench_sparse_1k_smol",some 8192,none⟩
      comparison := some ⟨some latency,some .one,some .ok,none⟩ }

theorem storable_measured {latency : Verdict} (hlatency : latency.Storable) {p99 : Option Binary64}
    (hp99 : ∀ x ∈ p99, x.isFinite = true) : (varied.measured latency p99).Storable := by
  have hzero : Binary64.zero.isFinite = true := by decide
  have hone : Binary64.one.isFinite = true := by decide
  have hsamples : ∀ s ∈ (varied.measured latency p99).samples, s.Storable := by
    intro s hs
    simp only [varied.measured,List.mem_cons,List.not_mem_nil,or_false] at hs
    rcases hs with rfl | rfl
    · exact ⟨hone,by decide,by decide,by decide⟩
    · exact ⟨hzero,by decide,by decide,by decide⟩
  refine ⟨(by decide : 2 < 2 ^ 32),hsamples,?_,?_,?_⟩
  · rintro s ⟨⟩
    exact ⟨(by decide : 2 < 2 ^ 64),hzero,hone,hp99,hone,hzero,hone⟩
  · rintro i ⟨⟩
    exact ⟨by simp,by simp⟩
  · rintro c ⟨⟩
    exact ⟨by simpa using hlatency,by simpa using hone,by simp [Verdict.Storable],by simp⟩

theorem storable_varied : varied.Storable where
  id := by decide
  startedAt := ⟨by decide,by decide,by decide⟩
  finishedAt := ⟨by decide,by decide,by decide⟩
  environment := ⟨by decide,by decide,by decide,by decide⟩
  budget := ⟨by decide,by decide⟩
  outcomes := by
    intro x hx
    simp only [varied,List.mem_cons,List.not_mem_nil,or_false] at hx
    rcases hx with rfl | rfl
    · exact ⟨by simp,by decide⟩
    · exact ⟨by simp,by decide⟩
  results := by
    intro m hm
    simp only [varied,List.mem_cons,List.not_mem_nil,or_false] at hm
    rcases hm with rfl | rfl | rfl | rfl
    · have hcritical : (Verdict.critical (.ofNat 2)).Storable :=
        (by decide : (Binary64.ofNat 2).isFinite = true)
      exact storable_measured hcritical (by decide)
    · have hwarning : (Verdict.warning .one).Storable := (by decide : Binary64.one.isFinite = true)
      exact storable_measured hwarning (by simp)
    · exact ⟨by decide,by simp,by simp,by simp,by simp⟩
    · exact ⟨by decide,by simp [Measurement.unmeasured],by simp [Measurement.unmeasured],
        by simp [Measurement.unmeasured],by simp [Measurement.unmeasured]⟩
  summary := ⟨⟨by decide,by decide,by decide⟩,by decide,by decide,
    ⟨by decide,by decide,by decide,by decide⟩,by
      intro x hx
      simp only [varied,List.mem_cons,List.not_mem_nil,or_false] at hx
      rcases hx with rfl | rfl
      · exact ⟨by decide,by simp⟩
      · exact ⟨by simp,by simp⟩⟩

/-- All three files of this artifact can be written, and the first is read back. -/
theorem load_written_varied :
    varied.Storable ∧ ∃ u, varied.save "out" ⟨[]⟩ =
        (.ok ["out/full-20240305-140709.json","out/full-20240305-140709.md",
          "out/full-20240305-140709.csv"],u) ∧
      load u "out/full-20240305-140709.json" = .ok varied := by
  have hpaths : varied.paths "out" = ["out/full-20240305-140709.json",
      "out/full-20240305-140709.md","out/full-20240305-140709.csv"] := by decide +kernel
  have hsaved : (varied.save "out" ⟨[]⟩).1.toOption.isSome = true := by decide +kernel
  rcases hsave : varied.save "out" ⟨[]⟩ with ⟨_ | paths,u⟩
  · simp [hsave,Except.toOption] at hsaved
  · obtain rfl := (save_eq_ok hsave).1
    obtain ⟨path,hpath,hload⟩ := (load_written storable_varied).2.1 _ _ _ _ hsave
    rw [hpaths] at hpath ⊢
    obtain rfl := Option.some.inj hpath
    exact ⟨storable_varied,u,rfl,hload⟩

end Artifact

end IndexTrial
