import IndexTrial.Regression.Baseline
import Mathlib.Data.Finset.Card
import Mathlib.Data.Prod.Lex
import Mathlib.Data.String.Basic

/-!
Baseline entries as a finite map. The list is kept in the order of the keys, so that no key occurs
twice and a list that is already in order is built up as it is.
-/

namespace IndexTrial

namespace BaselineKey

/-- The place of a key in the order of entries. -/
def place (k : BaselineKey) : String ×ₗ String ×ₗ Nat :=
  toLex (k.workload,toLex (k.query,k.mode.rank))

theorem compare_cases (a b : BaselineKey) :
    a.compare b = .lt ∧ a.place < b.place ∨ a.compare b = .eq ∧ a = b ∨
      a.compare b = .gt ∧ b.place < a.place := by
  obtain ⟨aw,aq,am⟩ := a
  obtain ⟨bw,bq,bm⟩ := b
  have hmode : am.rank = bm.rank → am = bm := by cases am <;> cases bm <;> simp [CacheMode.rank]
  unfold compare place compareOfLessAndEq
  simp only [Prod.Lex.toLex_lt_toLex,mk.injEq]
  rcases lt_trichotomy aw bw with hw | rfl | hw
  · simp [hw]
  · rcases lt_trichotomy aq bq with hq | rfl | hq
    · simp [hq]
    · rcases lt_trichotomy am.rank bm.rank with hm | hm | hm
      · simp [hm]
      · simp [hmode hm]
      · simp [hm,hm.ne',not_lt_of_gt hm]
    · simp [hq,hq.ne',not_lt_of_gt hq]
  · simp [hw,hw.ne',not_lt_of_gt hw]

end BaselineKey

namespace BaselineEntries

variable {es : BaselineEntries} {k k' : BaselineKey} {e : BaselineEntry}

/-- By ascending key; then no key occurs twice. -/
def Ascending (es : BaselineEntries) : Prop := es.Pairwise fun a b => a.1.place < b.1.place

theorem Ascending.nodup (h : es.Ascending) : (es.map (·.1)).Nodup := by
  refine List.Pairwise.map _ (fun a b hab => ?_) h
  rintro heq
  rw [heq] at hab
  exact lt_irrefl _ hab

@[simp] theorem find?_nil (k : BaselineKey) : find? [] k = none := rfl

theorem find?_cons (j : BaselineKey) (d : BaselineEntry) (es : BaselineEntries) (k : BaselineKey) :
    find? ((j,d) :: es) k = if k = j then some d else es.find? k := by
  by_cases h : k = j
  · simp [find?,h]
  · have hne : (k == j) = false := beq_eq_false_iff_ne.mpr h
    simp [find?,List.lookup_cons,h,hne]

theorem mem_keys_iff : k ∈ es.map (·.1) ↔ (es.find? k).isSome = true := by
  induction es with
  | nil => simp
  | cons f es ih =>
    rw [find?_cons,List.map_cons,List.mem_cons,ih]
    by_cases h : k = f.1 <;> simp [h]

theorem find?_insert (es : BaselineEntries) (k k' : BaselineKey) (e : BaselineEntry) :
    (es.insert k e).find? k' = if k' = k then some e else es.find? k' := by
  induction es with
  | nil => exact find?_cons k e [] k'
  | cons f es ih =>
    obtain ⟨j,d⟩ := f
    rcases k.compare_cases j with ⟨hc,-⟩ | ⟨hc,rfl⟩ | ⟨hc,hlt⟩
    · simp [insert,hc,find?_cons]
    · by_cases h : k' = k <;> simp [insert,hc,find?_cons,h]
    · have hne : j ≠ k := by
        rintro rfl
        exact lt_irrefl _ hlt
      by_cases hj : k' = j
      · simp [insert,hc,find?_cons,hj,hne]
      · simp [insert,hc,find?_cons,hj,ih]

theorem mem_insert {f : BaselineKey × BaselineEntry} (h : f ∈ es.insert k e) :
    f = (k,e) ∨ f ∈ es := by
  induction es with
  | nil => simpa [insert] using h
  | cons g es ih =>
    obtain ⟨j,d⟩ := g
    unfold insert at h
    split at h
    · simpa using h
    · exact (List.mem_cons.mp h).imp_right (List.mem_cons_of_mem _)
    · rcases List.mem_cons.mp h with rfl | h
      · exact .inr (by simp)
      · exact (ih h).imp_right (List.mem_cons_of_mem _)

theorem Ascending.insert (h : es.Ascending) (k : BaselineKey) (e : BaselineEntry) :
    (es.insert k e).Ascending := by
  induction es with
  | nil => exact List.pairwise_singleton _ _
  | cons f es ih =>
    obtain ⟨j,d⟩ := f
    obtain ⟨hhead,htail⟩ := List.pairwise_cons.mp h
    rcases k.compare_cases j with ⟨hc,hlt⟩ | ⟨hc,rfl⟩ | ⟨hc,hlt⟩
    · rw [BaselineEntries.insert,hc]
      refine List.pairwise_cons.mpr ⟨fun g hg => ?_,h⟩
      rcases List.mem_cons.mp hg with rfl | hg
      · exact hlt
      · exact hlt.trans (hhead g hg)
    · rw [BaselineEntries.insert,hc]
      exact List.pairwise_cons.mpr ⟨hhead,htail⟩
    · rw [BaselineEntries.insert,hc]
      refine List.pairwise_cons.mpr ⟨fun g hg => ?_,ih htail⟩
      rcases mem_insert hg with rfl | hg
      · exact hlt
      · exact hhead g hg

theorem Ascending.insertNew (h : es.Ascending) (k : BaselineKey) (e : BaselineEntry) :
    (es.insertNew k e).Ascending := by
  unfold BaselineEntries.insertNew
  split
  · exact h
  · exact h.insert k e

theorem find?_insertNew (es : BaselineEntries) (k k' : BaselineKey) (e : BaselineEntry) :
    (es.insertNew k e).find? k' = (es.find? k').or (if k' = k then some e else none) := by
  unfold insertNew
  by_cases hk : k' = k
  · subst hk
    cases hfind : es.find? k' with
    | none => simp [find?_insert]
    | some d => simp [hfind]
  · rw [if_neg hk,Option.or_none]
    split
    · rfl
    · rw [find?_insert,if_neg hk]

/-- An entry behind all others is put at the end. -/
theorem insert_last (h : ∀ f ∈ es, f.1.place < k.place) : es.insert k e = es ++ [(k,e)] := by
  induction es with
  | nil => rfl
  | cons f es ih =>
    obtain ⟨j,d⟩ := f
    have hj : j.place < k.place := h (j,d) (by simp)
    rcases k.compare_cases j with ⟨-,hlt⟩ | ⟨-,rfl⟩ | ⟨hc,-⟩
    · exact absurd hlt (not_lt_of_gt hj)
    · exact absurd hj (lt_irrefl _)
    · rw [insert,hc,List.cons_append]
      exact congrArg _ (ih fun g hg => h g (by simp [hg]))

/-- Entries that are in order already are built up as they are. -/
theorem Ascending.ofList_eq (h : es.Ascending) : ofList es = es := by
  have hbuild : ∀ done rest : BaselineEntries, (done ++ rest).Ascending →
      rest.foldl (fun es f => es.insert f.1 f.2) done = done ++ rest := by
    intro done rest
    induction rest generalizing done with
    | nil => simp
    | cons f rest ih =>
      obtain ⟨j,d⟩ := f
      intro hall
      obtain ⟨-,-,hbefore⟩ := List.pairwise_append.mp hall
      have hlast : done.insert j d = done ++ [(j,d)] :=
        insert_last fun g hg => hbefore g hg (j,d) (by simp)
      rw [List.foldl_cons]
      dsimp only
      rw [hlast,ih _ (by simpa using hall)]
      simp
  exact hbuild [] es h

/-! ### The first entry of a key wins -/

theorem find?_foldl_insertNew (es : BaselineEntries) (new : List (BaselineKey × BaselineEntry))
    (k : BaselineKey) : (new.foldl (fun es (k,e) => es.insertNew k e) es).find? k =
      (es.find? k).or (find? new k) := by
  induction new generalizing es with
  | nil => simp
  | cons f new ih =>
    obtain ⟨j,d⟩ := f
    rw [List.foldl_cons]
    dsimp only
    rw [ih,find?_insertNew,find?_cons,Option.or_assoc]
    by_cases h : k = j <;> simp [h]

theorem Ascending.foldl_insertNew (h : es.Ascending) (new : List (BaselineKey × BaselineEntry)) :
    Ascending (new.foldl (fun es (k,e) => es.insertNew k e) es) := by
  induction new generalizing es with
  | nil => exact h
  | cons f new ih => exact ih (h.insertNew f.1 f.2)

theorem mem_of_find? (h : es.find? k = some e) : (k,e) ∈ es := by
  induction es with
  | nil => simp at h
  | cons f es ih =>
    obtain ⟨j,d⟩ := f
    rw [find?_cons] at h
    split at h
    · rename_i hk
      obtain rfl := hk
      obtain rfl := Option.some.inj h
      simp
    · exact List.mem_cons_of_mem _ (ih h)

theorem Ascending.find?_of_mem (h : es.Ascending) (hmem : (k,e) ∈ es) : es.find? k = some e := by
  induction es with
  | nil => simp at hmem
  | cons f es ih =>
    obtain ⟨j,d⟩ := f
    obtain ⟨hhead,htail⟩ := List.pairwise_cons.mp h
    rw [find?_cons]
    rcases List.mem_cons.mp hmem with heq | hlater
    · obtain ⟨rfl,rfl⟩ := Prod.mk.inj heq
      simp
    · have hne : k ≠ j := by
        rintro rfl
        have hlt := hhead (k,e) hlater
        exact lt_irrefl _ hlt
      rw [if_neg hne,ih htail hlater]

end BaselineEntries

namespace Baseline

variable {engine : String} {ms : List Measurement} {k : BaselineKey}

theorem ascending_ofMeasurements (engine : String) (ms : List Measurement) :
    (ofMeasurements engine ms).entries.Ascending :=
  BaselineEntries.Ascending.foldl_insertNew List.Pairwise.nil _

/-- The entry of a key comes from the first measurement that gives one for it. -/
theorem find?_ofMeasurements (engine : String) (ms : List Measurement) (k : BaselineKey) :
    (ofMeasurements engine ms).find? k =
      BaselineEntries.find? (ms.filterMap (entryOf? engine)) k :=
  BaselineEntries.find?_foldl_insertNew [] _ k

/-- Every entry is that of some measurement. -/
theorem mem_ofMeasurements {f : BaselineKey × BaselineEntry}
    (h : f ∈ (ofMeasurements engine ms).entries) : ∃ m ∈ ms, entryOf? engine m = some f := by
  have hfind : (ofMeasurements engine ms).find? f.1 = some f.2 :=
    (ascending_ofMeasurements engine ms).find?_of_mem h
  rw [find?_ofMeasurements] at hfind
  exact List.mem_filterMap.mp (BaselineEntries.mem_of_find? hfind)

end Baseline

end IndexTrial
