import IndexTrial.Document.Encode
import IndexTrial.Json.Record
import IndexTrial.Proofs.Json.RoundTrip

/-!
Values and their JSON forms. A form is kept if a text can stand for it and reading it gives the
value back; a record keeps its form if its fields do, whichever of them are left out.
-/

namespace IndexTrial

namespace Json

/-! ### What a text can stand for -/

@[simp] theorem writable_null : Writable .null := .null

@[simp] theorem writable_bool (b : Bool) : Writable (.bool b) := .bool b

@[simp] theorem writable_text (s : String) : Writable (.text s) := .text s

@[simp] theorem writable_float {x : Binary64} : Writable (.float x) ↔ x.isFinite = true :=
  ⟨fun h => by cases h; assumption,.float⟩

@[simp] theorem writable_nat {n : Nat} : Writable (nat n) ↔ n < 2 ^ 64 := by
  refine ⟨fun h => ?_,fun h => .int (by omega) (by omega)⟩
  cases h
  omega

@[simp] theorem writable_array {js : List Json} : Writable (.array js) ↔ ∀ j ∈ js, Writable j :=
  ⟨fun h => by cases h; assumption,.array⟩

@[simp] theorem writable_optional {α : Type} {encode : α → Json} {o : Option α} :
    Writable (optional encode o) ↔ ∀ a ∈ o, Writable (encode a) := by
  cases o <;> simp [optional]

/-- The fields of a record with a value, in order. -/
def presentFields (slots : List (String × Option Json)) : List (String × Json) :=
  slots.filterMap fun s => s.2.map (s.1,·)

theorem presentFields_cons (name : String) (slot : Option Json)
    (slots : List (String × Option Json)) : presentFields ((name,slot) :: slots) =
      slot.toList.map (name,·) ++ presentFields slots := by
  cases slot <;> simp [presentFields]

@[simp] theorem presentFields_nil : presentFields [] = [] := rfl

@[simp] theorem presentFields_some (name : String) (j : Json) (slots : List (String × Option Json)) :
    presentFields ((name,some j) :: slots) = (name,j) :: presentFields slots := by
  simp [presentFields]

@[simp] theorem presentFields_map {α : Type} (name : String) (encode : α → Json) (o : Option α)
    (slots : List (String × Option Json)) : presentFields ((name,o.map encode) :: slots) =
      presentField name encode o ++ presentFields slots := by
  cases o <;> simp [presentFields,presentField]

/-- A list, unless it is empty. -/
def unlessEmpty (values : List String) : Option (List String) :=
  if values.isEmpty then none else some values

@[simp] theorem presentField_unlessEmpty (name : String) (values : List String) :
    presentField name (fun vs => .array (vs.map .text)) (unlessEmpty values) =
      presentList name values := by
  cases values <;> simp [presentField,presentList,unlessEmpty]

theorem writable_present {slots : List (String × Option Json)}
    (h : ∀ s ∈ slots, ∀ j ∈ s.2, Writable j) : Writable (.object (presentFields slots)) := by
  refine .object ?_
  simp only [presentFields,List.mem_filterMap,forall_exists_index,and_imp]
  rintro f ⟨name,slot⟩ hs hf
  obtain ⟨j,hj,rfl⟩ := Option.map_eq_some_iff.mp hf
  exact h _ hs j hj

/-! ### Records -/

theorem filter_present {name : String} {slots : List (String × Option Json)}
    (h : name ∉ slots.map (·.1)) : (presentFields slots).filter (·.1 == name) = [] := by
  rw [List.filter_eq_nil_iff]
  simp only [presentFields,List.mem_filterMap,forall_exists_index,and_imp]
  rintro f ⟨name',slot⟩ hs hf
  obtain ⟨j,-,rfl⟩ := Option.map_eq_some_iff.mp hf
  have hne : name' ≠ name := fun he => h (List.mem_map.mpr ⟨_,hs,he⟩)
  simpa using hne

theorem uniqueField?_present {name : String} {slot : Option Json}
    {slots : List (String × Option Json)} (hnodup : (slots.map (·.1)).Nodup)
    (hmem : (name,slot) ∈ slots) : uniqueField? name (presentFields slots) = some slot := by
  induction slots with
  | nil => simp at hmem
  | cons s slots ih =>
    obtain ⟨name',slot'⟩ := s
    obtain ⟨hnot,hnodup⟩ := List.nodup_cons.mp hnodup
    rw [uniqueField?,presentFields_cons,List.filter_append]
    rcases List.mem_cons.mp hmem with heq | hmem
    · obtain ⟨rfl,rfl⟩ := Prod.mk.inj heq
      rw [filter_present hnot]
      cases slot <;> simp
    · have hne : name' ≠ name := fun he => hnot (List.mem_map.mpr ⟨_,hmem,he.symm⟩)
      have hother : (slot'.toList.map (name',·)).filter (·.1 == name) = [] := by
        cases slot' <;> simp [hne]
      rw [hother,List.nil_append,← ih hnodup hmem,uniqueField?]

/-- A record is read as its fields, those left out included. -/
theorem record?_present {names : List String} {slots : List (String × Option Json)}
    (h : names.Nodup) (hnames : slots.map (·.1) = names) :
    record? names (.object (presentFields slots)) = some ⟨slots.map (·.2),false⟩ := by
  subst hnames
  have hread : ∀ part : List (String × Option Json), (∀ s ∈ part, s ∈ slots) →
      (part.map (·.1)).mapM (uniqueField? · (presentFields slots)) = some (part.map (·.2)) := by
    intro part hpart
    induction part with
    | nil => rfl
    | cons s part ih =>
      have hs := uniqueField?_present h (hpart s (by simp))
      simp [hs,ih fun t ht => hpart t (by simp [ht])]
  rw [record?,hread slots fun _ hs => hs]
  rfl

/-! ### Values that are read back -/

/-- The form of a value is read back as it, and can be told from a missing one. -/
structure Kept {α : Type} (encode : α → Json) (decode : Json → Option α) (a : α) : Prop where
  read : decode (encode a) = some a
  present : encode a ≠ .null

theorem kept_text (s : String) : Kept .text asText? s := ⟨rfl,by simp⟩

theorem kept_bool (b : Bool) : Kept .bool asBool? b := ⟨rfl,by simp⟩

theorem kept_nat {bits n : Nat} (hn : n < 2 ^ bits) : Kept .nat (asUnsigned? bits) n :=
  ⟨by simp [nat,asUnsigned?,hn],by simp [nat]⟩

theorem kept_float {x : Binary64} (hx : x.isFinite = true) : Kept .float asBinary64? x :=
  ⟨by simp [asBinary64?,hx],by simp⟩

section

variable {α β : Type} {encode : α → Json} {decode : Json → Option α}

/-- A constant is kept by its name. -/
theorem kept_constant {name : α → String} {named : List (String × α)} {a : α}
    (h : named.lookup (name a) = some a) :
    Kept (fun a => .text (name a)) (asConstant? named) a := ⟨h,by simp⟩

theorem kept_list {as : List α} (h : ∀ a ∈ as, Kept encode decode a) :
    Kept (fun as => .array (as.map encode)) (asList? decode) as := by
  refine ⟨?_,by simp⟩
  rw [asList?]
  induction as with
  | nil => rfl
  | cons a as ih => simp [(h a (by simp)).read,ih fun b hb => h b (by simp [hb])]

/-- A list is read only if all its values are. -/
theorem asList?_eq_none {as : List α} {a : α} (ha : a ∈ as) (h : decode (encode a) = none) :
    asList? decode (.array (as.map encode)) = none := by
  rw [asList?]
  induction as with
  | nil => simp at ha
  | cons b bs ih =>
    rw [List.map_cons,List.mapM_cons]
    rcases List.mem_cons.mp ha with rfl | ha
    · rw [h]
      rfl
    · rw [ih ha]
      cases decode (encode b) <;> rfl

theorem Kept.nullable {a : α} (h : Kept encode decode a) :
    asNullable? decode (encode a) = some (some a) := by
  have hread := h.read
  have hpresent := h.present
  unfold asNullable?
  split
  · contradiction
  · rw [hread]
    rfl

variable {r : Record} {i : Nat}

/-! A decoder that reads the fields of a record one after the other gets each of them back. -/

theorem record_step {names : List String} {slots : List (String × Option Json)}
    {f : Record → Option β} {b : Option β} (hnodup : names.Nodup)
    (hnames : slots.map (·.1) = names) (h : f ⟨slots.map (·.2),false⟩ = b) :
    (record? names (.object (presentFields slots)) >>= f) = b := by
  rw [record?_present hnodup hnames]
  exact h

theorem required_step {a : α} {f : α → Option β} {b : Option β} (hkept : Kept encode decode a)
    (hslot : r.get? i = some (encode a)) (h : f a = b) : (r.required i decode >>= f) = b := by
  rw [Record.required,hslot,Option.bind_some,hkept.read]
  exact h

theorem nullable_step {o : Option α} {f : Option α → Option β} {b : Option β}
    (hkept : ∀ a ∈ o, Kept encode decode a) (hslot : r.get? i = some (optional encode o))
    (h : f o = b) : (r.nullable i decode >>= f) = b := by
  rw [Record.nullable,hslot]
  cases o with
  | none => exact h
  | some a =>
    dsimp only [optional]
    rw [(hkept a rfl).nullable]
    exact h

theorem optional_step {o : Option α} {f : Option α → Option β} {b : Option β}
    (hkept : ∀ a ∈ o, Kept encode decode a) (hslot : r.get? i = o.map encode) (h : f o = b) :
    (r.optional i decode >>= f) = b := by
  rw [Record.optional,Record.defaulted,hslot]
  cases o with
  | none => exact h
  | some a =>
    dsimp only [Option.map_some]
    rw [(hkept a rfl).nullable]
    exact h

theorem defaulted_step {a default : α} {f : α → Option β} {b : Option β}
    (hkept : Kept encode decode a) (hslot : r.get? i = some (encode a)) (h : f a = b) :
    (r.defaulted i decode default >>= f) = b := by
  rw [Record.defaulted,hslot]
  dsimp only
  rw [hkept.read]
  exact h

theorem list_step {values : List String} {f : List String → Option β} {b : Option β}
    (hslot : r.get? i = (unlessEmpty values).map fun vs => .array (vs.map .text))
    (h : f values = b) : (r.defaulted i (asList? asText?) [] >>= f) = b := by
  rw [Record.defaulted,hslot]
  cases values with
  | nil => exact h
  | cons v vs =>
    have hread : asList? asText? (.array ((v :: vs).map .text)) = some (v :: vs) :=
      (kept_list fun s _ => kept_text s).read
    change (asList? asText? (.array ((v :: vs).map .text)) >>= f) = b
    rw [hread]
    exact h

end

/-! ### Values that were read -/

theorem lt_of_asUnsigned? {bits n : Nat} {j : Json} (h : asUnsigned? bits j = some n) :
    n < 2 ^ bits := by
  cases j with
  | int i =>
    simp only [asUnsigned?,Option.ite_none_right_eq_some,Option.some.injEq] at h
    omega
  | _ => cases h

section

variable {α : Type} {decode : Json → Option α} {r : Record} {i : Nat}

theorem exists_of_asList? {j : Json} {as : List α} (h : asList? decode j = some as) :
    ∀ a ∈ as, ∃ j, decode j = some a := by
  cases j with
  | array js =>
    rw [asList?] at h
    induction js generalizing as with
    | nil =>
      cases h
      simp
    | cons j js ih =>
      simp only [List.mapM_cons,Option.bind_eq_bind,Option.bind_eq_some_iff] at h
      obtain ⟨b,hb,bs,hbs,heq⟩ := h
      cases heq
      exact List.forall_mem_cons.mpr ⟨⟨j,hb⟩,ih hbs⟩
  | _ => cases h

theorem exists_of_asNullable? {j : Json} {a : α} (h : asNullable? decode j = some (some a)) :
    ∃ j, decode j = some a := by
  unfold asNullable? at h
  split at h
  · cases h
  · exact ⟨j,by simpa using h⟩

theorem exists_of_required {a : α} (h : r.required i decode = some a) : ∃ j, decode j = some a := by
  obtain ⟨j,-,hj⟩ := Option.bind_eq_some_iff.mp h
  exact ⟨j,hj⟩

theorem exists_of_nullable {a : α} (h : r.nullable i decode = some (some a)) :
    ∃ j, decode j = some a := by
  unfold Record.nullable at h
  split at h
  · exact exists_of_asNullable? h
  · split at h <;> cases h

theorem exists_of_optional {a : α} (h : r.optional i decode = some (some a)) :
    ∃ j, decode j = some a := by
  unfold Record.optional Record.defaulted at h
  split at h
  · exact exists_of_asNullable? h
  · cases h

end

end Json

end IndexTrial
