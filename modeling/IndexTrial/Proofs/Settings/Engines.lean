import IndexTrial.Proofs.Store.Indexes
import IndexTrial.Settings.Check

/-!
Engine names in accepted settings. The names are looked at without the white space around them and
used with it, so that a statement has the engine as one identifier just if there is none.
-/

namespace IndexTrial

/-! ### Identifiers of a text -/

/-- The maximal runs of letters, digits and underscores. -/
def identifiersIn (cs : List Char) : List (List Char) :=
  (cs.splitOnP (!isIdentifierChar ·)).filter (!·.isEmpty)

def identifiers (text : String) : List String := (identifiersIn text.toList).map String.ofList

theorem identifiersIn_gap {c : Char} (hc : isIdentifierChar c = false) (before after : List Char) :
    identifiersIn (before ++ c :: after) = identifiersIn before ++ identifiersIn after := by
  rw [identifiersIn,List.splitOnP_append_cons _ _ (by simp [hc]),List.filter_append]
  rfl

theorem identifiersIn_of_plain {name : String} (hne : name ≠ "") (h : isIdentifier name = true) :
    identifiersIn name.toList = [name.toList] := by
  have hplain : ∀ c ∈ name.toList, (!isIdentifierChar c) = false := by
    simpa using List.all_eq_true.mp h
  rw [identifiersIn,List.splitOnP_eq_singleton hplain]
  simpa using hne

theorem identifiersIn_append_gap {gap : List Char} (h : ∀ c ∈ gap, isIdentifierChar c = false)
    (cs : List Char) : identifiersIn (cs ++ gap) = identifiersIn cs := by
  induction gap generalizing cs with
  | nil => rw [List.append_nil]
  | cons c gap ih =>
    have hgap : identifiersIn gap = [] := ih (fun d hd => h d (by simp [hd])) []
    rw [identifiersIn_gap (h c (by simp)),hgap,List.append_nil]

theorem identifiersIn_gap_append {gap : List Char} (h : ∀ c ∈ gap, isIdentifierChar c = false)
    (cs : List Char) : identifiersIn (gap ++ cs) = identifiersIn cs := by
  induction gap with
  | nil => rfl
  | cons c gap ih =>
    have hrest := ih fun d hd => h d (by simp [hd])
    calc identifiersIn (c :: gap ++ cs)
        = identifiersIn [] ++ identifiersIn (gap ++ cs) := identifiersIn_gap (h c (by simp)) [] _
      _ = identifiersIn cs := by rw [hrest]; rfl

theorem isBlank_of_isIdentifierChar {c : Char} (h : isIdentifierChar c = true) :
    isBlank c = false := by
  have hascii : c.toNat < 128 := by
    rcases Bool.or_eq_true_iff.mp h with hc | hc
    · exact PatternWorkload.toNat_of_isAlphanum hc
    · rw [beq_iff_eq.mp hc]
      decide
  exact forall_ascii (P := fun c => isIdentifierChar c = true → isBlank c = false)
    (by decide +kernel) hascii h

/-! ### Trimmed names -/

theorem trimmed_of_isIdentifier {name : String} (h : isIdentifier name = true) :
    trimmed name = name := by
  have hsolid : ∀ c ∈ name.toList, isBlank c = false := fun c hc =>
    isBlank_of_isIdentifierChar (List.all_eq_true.mp h c hc)
  rw [trimmed,trimBlanks_of_solid hsolid,String.ofList_toList]

/-- The white space around a name is no part of an identifier. -/
theorem identifiers_of_trimmed {name : String} (hne : trimmed name ≠ "")
    (h : isIdentifier (trimmed name) = true) : identifiers name = [trimmed name] := by
  obtain ⟨front,back,hfront,hback,hname⟩ := toList_eq_trimmed name
  have hgap : ∀ c, isBlank c = true → isIdentifierChar c = false := by
    intro c hc
    by_contra hplain
    simp [isBlank_of_isIdentifierChar (by simpa using hplain)] at hc
  rw [identifiers,hname,identifiersIn_append_gap fun c hc => hgap c (hback c hc),
    identifiersIn_gap_append fun c hc => hgap c (hfront c hc),identifiersIn_of_plain hne h]
  simp

/-! ### Statements -/

namespace Workload

variable (w : Workload) (engine : String)

/-- The statement up to the name of the engine. -/
def createIndexHead : String := s!"CREATE INDEX {indexName w.table engine} ON {w.table}"

/-- The engine of an index is one identifier of the statement that creates it, the one right after
`USING`. -/
def NamesEngine : Prop :=
  identifiers (w.createIndexHead engine) ++ ["USING",engine] <+: identifiers (w.createIndexSql engine)

theorem identifiers_createIndexSql : ∃ rest, identifiers (w.createIndexSql engine) =
    identifiers (w.createIndexHead engine) ++ "USING" :: identifiers engine ++ rest := by
  obtain ⟨rest,hsql⟩ : ∃ rest, (w.createIndexSql engine).toList =
      (w.createIndexHead engine).toList ++ ' ' :: ("USING".toList ++ ' ' ::
        (engine.toList ++ '(' :: rest)) := by
    unfold createIndexSql createIndexHead
    simp only [toString,String.toList_append,List.append_assoc]
    exact ⟨_,rfl⟩
  have husing : identifiersIn "USING".toList = ["USING".toList] :=
    identifiersIn_of_plain (by decide) (by decide)
  refine ⟨(identifiersIn rest).map String.ofList,?_⟩
  rw [identifiers,hsql,identifiersIn_gap (by decide),identifiersIn_gap (by decide),
    identifiersIn_gap (by decide),husing]
  simp [identifiers]

variable {w engine}

theorem namesEngine_iff (hne : trimmed engine ≠ "") (h : isIdentifier (trimmed engine) = true) :
    w.NamesEngine engine ↔ trimmed engine = engine := by
  obtain ⟨rest,hrest⟩ := w.identifiers_createIndexSql engine
  rw [NamesEngine,hrest,identifiers_of_trimmed hne h,List.append_assoc,
    List.prefix_append_right_inj]
  simp [eq_comm]

end Workload

/-! ### Accepted settings -/

namespace Settings

/-- What the rules say of the engines' names. -/
theorem engines_of_accepted {s : Settings} (h : s.problem? = none) :
    trimmed s.engines.baseline ≠ trimmed s.engines.candidate ∧
      ∀ e ∈ s.engines.toList, trimmed e ≠ "" ∧ isIdentifier (trimmed e) = true := by
  have hrules := problem?_eq_none_iff.mp h
  simp only [rules,List.forall_mem_cons,Bool.and_eq_true,bne_iff_ne,ne_eq] at hrules
  obtain ⟨-,-,-,⟨hbase,hcand⟩,hdiffer,hbase',hcand',-⟩ := hrules
  refine ⟨hdiffer,fun e he => ?_⟩
  rcases EnginePair.mem_toList.mp he with rfl | rfl
  · exact ⟨hbase,hbase'⟩
  · exact ⟨hcand,hcand'⟩

/-- Accepted settings hand over two engines that differ, and so do their indexes. Either is an
identifier, and one of the statement that creates its index, just if there is no white space around
it. -/
theorem engines_plain_iff_trimmed {s : Settings} (h : s.problem? = none) (mode : SuiteMode)
    (b : Option Baseline) :
    (s.detector b).engine = (s.runner mode).trial.engines.candidate ∧
    (s.runner mode).trial.engines.baseline ≠ (s.runner mode).trial.engines.candidate ∧
    (∀ table, indexName table (s.runner mode).trial.engines.baseline ≠
      indexName table (s.runner mode).trial.engines.candidate) ∧
    ∀ e ∈ (s.runner mode).trial.engines.toList,
      e ≠ "" ∧ isIdentifier (trimmed e) = true ∧ (∀ w : Workload, w.NamesEngine (trimmed e)) ∧
      (isIdentifier e = true ↔ trimmed e = e) ∧ ∀ w : Workload, w.NamesEngine e ↔ trimmed e = e := by
  obtain ⟨hdiffer,hplain⟩ := engines_of_accepted h
  have hne : s.engines.baseline ≠ s.engines.candidate := fun h => hdiffer (congrArg trimmed h)
  refine ⟨rfl,hne,fun table h => hne (Store.indexName_inj.mp h),fun e he => ?_⟩
  obtain ⟨hne,hidentifier⟩ := hplain e he
  have hagain : trimmed (trimmed e) = trimmed e := trimmed_of_isIdentifier hidentifier
  refine ⟨?_,hidentifier,fun w => ?_,⟨trimmed_of_isIdentifier,fun h => h ▸ hidentifier⟩,fun w =>
    Workload.namesEngine_iff hne hidentifier⟩
  · rintro rfl
    exact hne (by decide)
  · exact (Workload.namesEngine_iff (hagain.symm ▸ hne) (hagain.symm ▸ hidentifier)).mpr hagain

/-- The candidate is accepted with a blank in front of it, which the statement then does not
name. -/
theorem engines_plain_iff_trimmed_padded :
    ({ engines := ⟨"btree"," smol"⟩ } : Settings).problem? = none ∧
    (∀ w : Workload, w.NamesEngine "btree") ∧ (∀ w : Workload, w.NamesEngine "smol") ∧
    ∀ w : Workload, ¬w.NamesEngine " smol" := by
  have haccepted : ({ engines := ⟨"btree"," smol"⟩ } : Settings).problem? = none := by decide
  obtain ⟨-,-,-,hengines⟩ := engines_plain_iff_trimmed haccepted .quick none
  obtain ⟨-,-,hbtree,-⟩ := hengines "btree" (by decide)
  obtain ⟨-,-,hsmol,-,hpadded⟩ := hengines " smol" (by decide)
  exact ⟨haccepted,hbtree,hsmol,fun w h => absurd ((hpadded w).mp h) (by decide)⟩

/-- Not every engine of accepted settings is a plain identifier. -/
theorem not_every_engine_plain :
    ¬∀ s : Settings, s.problem? = none → ∀ mode, ∀ e ∈ (s.runner mode).trial.engines.toList,
      e ≠ "" ∧ isIdentifier e = true := by
  intro h
  have hplain := h { engines := ⟨"btree"," smol"⟩ } (by decide) .quick " smol" (by decide)
  exact absurd hplain.2 (by decide)

end Settings

end IndexTrial
