import IndexTrial.Proofs.Settings.Engines
import IndexTrial.Proofs.Text.Digits
import Mathlib.Data.List.SplitBy

/-!
The tokens of a statement: every maximal run of letters, digits and underscores, and every other
character by itself, blanks left out. A text is read part by part, wherever no run goes over the
cut.
-/

namespace IndexTrial

def tokensIn (cs : List Char) : List (List Char) :=
  (cs.splitBy fun a b => isIdentifierChar a && isIdentifierChar b).filter fun t => !t.all isBlank

def tokens (text : String) : List String := (tokensIn text.toList).map String.ofList

/-- The characters start outside a run. -/
def StartsApart (cs : List Char) : Prop := ∀ c ∈ cs.head?, isIdentifierChar c = false

/-- The characters end outside a run. -/
def EndsApart (cs : List Char) : Prop := ∀ c ∈ cs.getLast?, isIdentifierChar c = false

instance (cs : List Char) : Decidable (StartsApart cs) :=
  Option.decidableForallMem cs.head?

instance (cs : List Char) : Decidable (EndsApart cs) :=
  Option.decidableForallMem cs.getLast?

theorem tokens_append {a b : String} (h : EndsApart a.toList ∨ StartsApart b.toList) :
    tokens (a ++ b) = tokens a ++ tokens b := by
  have hcut : ∀ x ∈ a.toList.getLast?, ∀ y ∈ b.toList.head?,
      (isIdentifierChar x && isIdentifierChar y) = false := by
    intro x hx y hy
    rcases h with h | h
    · simp [h x hx]
    · simp [h y hy]
  simp only [tokens,tokensIn,String.toList_append,List.splitBy_append hcut,List.filter_append,
    List.map_append]

theorem tokens_ofList {cs : List Char} {ts : List String}
    (h : tokensIn cs = ts.map String.toList) : tokens (String.ofList cs) = ts := by
  rw [tokens,String.toList_ofList,h,List.map_map]
  simp [Function.comp_def]

theorem not_mem_tokens {token : String} {cs : List Char} (h : token.toList ∉ tokensIn cs) :
    token ∉ tokens (String.ofList cs) := by
  rw [tokens,String.toList_ofList,List.mem_map]
  rintro ⟨t,ht,rfl⟩
  exact h (by rwa [String.toList_ofList])

/-! ### Runs -/

/-- A text that is one run. -/
structure IsRun (text : String) : Prop where
  ne_nil : text.toList ≠ []
  plain : isIdentifier text = true

theorem IsRun.tokens {word : String} (h : IsRun word) : tokens word = [word] := by
  have hplain : ∀ c ∈ word.toList, isIdentifierChar c = true := List.all_eq_true.mp h.plain
  obtain ⟨c,cs,hcs⟩ := List.exists_cons_of_ne_nil h.ne_nil
  have hchain : word.toList.IsChain fun a b => (isIdentifierChar a && isIdentifierChar b) = true := by
    refine List.Pairwise.isChain (List.pairwise_of_forall_mem_list ?_)
    intro a ha b hb
    simp [hplain a ha,hplain b hb]
  have hsolid : word.toList.all isBlank = false := by
    simp [hcs,isBlank_of_isIdentifierChar (hplain c (by simp [hcs]))]
  simp [IndexTrial.tokens,tokensIn,List.splitBy_of_isChain h.ne_nil hchain,hsolid]

theorem isRun_toString (n : Nat) : IsRun (toString n) where
  ne_nil := by simp [Nat.toDigits_ne_nil]
  plain := List.all_eq_true.mpr fun c hc => by
    have hdigit : c.isDigit = true := areDigits_toDigits n c (by simpa using hc)
    simp [isIdentifierChar,Char.isAlphanum,hdigit]

theorem isRun_tableName (id : String) : IsRun (PatternWorkload.tableName id) where
  ne_nil := (PatternWorkload.isWord_tableName id).ne_nil
  plain := List.all_eq_true.mpr fun c hc => by
    simp only [PatternWorkload.tableName,String.toList_append,String.toList_ofList,
      List.mem_append,List.mem_map] at hc
    have hlead : ∀ c ∈ "bench_".toList, isIdentifierChar c = true :=
      List.all_eq_true.mp (by decide)
    rcases hc with hc | ⟨d,_,rfl⟩
    · exact hlead c hc
    · split
      · rename_i hd
        exact forall_ascii (P := fun d => d.isAlphanum = true → isIdentifierChar d.toLower = true)
          (by decide +kernel) (PatternWorkload.toNat_of_isAlphanum hd) hd
      · decide

/-! ### Texts with holes -/

/-- A text with its tokens, after which a run may start. -/
structure Reads (text : String) (ts : List String) : Prop where
  tokens : tokens text = ts
  apart : EndsApart text.toList

/-- Characters that no run goes into, with their tokens. -/
def IsTail (cs : List Char) (ts : List String) : Prop :=
  StartsApart cs ∧ tokensIn cs = ts.map String.toList

/-- Characters that no run goes into or out of, with their tokens. -/
def IsFrame (cs : List Char) (ts : List String) : Prop := cs ≠ [] ∧ EndsApart cs ∧ IsTail cs ts

instance (cs : List Char) (ts : List String) : Decidable (IsTail cs ts) :=
  inferInstanceAs (Decidable (_ ∧ _))

instance (cs : List Char) (ts : List String) : Decidable (IsFrame cs ts) :=
  inferInstanceAs (Decidable (_ ∧ _ ∧ IsTail cs ts))

section

variable {text word : String} {ts us : List String} {cs : List Char}

theorem reads_ofList (h : EndsApart cs ∧ tokensIn cs = ts.map String.toList) :
    Reads (String.ofList cs) ts :=
  ⟨tokens_ofList h.2,by rw [String.toList_ofList]; exact h.1⟩

theorem tokens_tail (text : String) (h : IsTail cs us) :
    IndexTrial.tokens (text ++ String.ofList cs) = IndexTrial.tokens text ++ us := by
  rw [tokens_append (.inr (by rw [String.toList_ofList]; exact h.1)),tokens_ofList h.2]

theorem reads_frame (text : String) (h : IsFrame cs us) :
    Reads (text ++ String.ofList cs) (IndexTrial.tokens text ++ us) where
  tokens := tokens_tail text h.2.2
  apart := by
    intro c hc
    rw [String.toList_append,String.toList_ofList,List.getLast?_append_of_ne_nil _ h.1] at hc
    exact h.2.1 c hc

theorem Reads.run (h : Reads text ts) (hword : IsRun word) :
    IndexTrial.tokens (text ++ word) = ts ++ [word] := by
  rw [tokens_append (.inl h.apart),h.tokens,hword.tokens]

/-- A run in a hole of the text. -/
theorem Reads.hole (h : Reads text ts) (hword : IsRun word) (hframe : IsFrame cs us) :
    Reads (text ++ word ++ String.ofList cs) (ts ++ word :: us) := by
  have hreads := reads_frame (text ++ word) hframe
  rwa [h.run hword,List.append_assoc,List.singleton_append] at hreads

/-- A run in the last hole of the text. -/
theorem Reads.lastHole (h : Reads text ts) (hword : IsRun word) (htail : IsTail cs us) :
    IndexTrial.tokens (text ++ word ++ String.ofList cs) = ts ++ word :: us := by
  rw [tokens_tail _ htail,h.run hword,List.append_assoc,List.singleton_append]

end

/-! ### Lines -/

theorem tokens_blank {text : String} (h : ∀ c ∈ text.toList, isBlank c = true) :
    tokens text = [] := by
  have hnone : tokensIn text.toList = [] := by
    rw [tokensIn,List.filter_eq_nil_iff]
    intro t ht
    have hsub : ∀ c ∈ t, isBlank c = true := fun c hc => h c <| by
      rw [← List.flatten_splitBy (fun a b => isIdentifierChar a && isIdentifierChar b) text.toList]
      exact List.mem_flatten_of_mem ht hc
    simpa using hsub
  rw [tokens,hnone,List.map_nil]

theorem tokens_spaces (depth : Nat) (line : String) : tokens (spaces depth ++ line) = tokens line := by
  have hblank : ∀ c ∈ (spaces depth).toList, c = ' ' := by simp [spaces]
  have hapart : EndsApart (spaces depth).toList := by
    intro c hc
    rw [hblank c (List.mem_of_getLast? hc)]
    decide
  rw [tokens_append (.inl hapart),tokens_blank fun c hc => by rw [hblank c hc]; decide,
    List.nil_append]

/-- Texts are read one by one, and what stands between them. -/
theorem tokens_intercalate {cs : List Char} {us : List String} (hframe : IsFrame cs us)
    (texts : List String) : tokens ((String.ofList cs).intercalate texts) =
      us.intercalate (texts.map tokens) := by
  induction texts with
  | nil => exact tokens_blank (by simp)
  | cons text texts ih =>
    cases texts with
    | nil => simp
    | cons next rest =>
      have hreads := reads_frame text hframe
      rw [String.intercalate_cons_cons,tokens_append (.inl hreads.apart),hreads.tokens,ih,
        List.map_cons,List.map_cons,List.map_cons,List.intercalate_cons_cons]

theorem intercalate_nil {α : Type} (xs : List (List α)) : [].intercalate xs = xs.flatten := by
  induction xs with
  | nil => rfl
  | cons x xs ih =>
    cases xs with
    | nil => simp
    | cons y ys => rw [List.intercalate_cons_cons,ih,List.append_nil,← List.flatten_cons]

theorem tokens_setOut (lines : List (Nat × String)) :
    tokens (setOut lines) = lines.flatMap fun line => tokens line.2 := by
  have hlines := tokens_intercalate (by decide : IsFrame ['\n'] [])
    (lines.map fun line => spaces line.1 ++ line.2)
  rw [intercalate_nil,List.map_map] at hlines
  simp only [Function.comp_def,tokens_spaces,← List.flatMap_def] at hlines
  exact hlines

/-! ### Numbers -/

/-- The value of a token that is a number. -/
def number? (token : String) : Option Nat :=
  if token.toList ≠ [] ∧ token.toList.all Char.isDigit then some (digitsValue token.toList) else none

@[simp] theorem number?_toString (n : Nat) : number? (toString n) = some n := by
  have hdigits : (toString n).toList.all Char.isDigit = true :=
    List.all_eq_true.mpr fun c hc => areDigits_toDigits n c (by simpa using hc)
  simp only [number?,ne_eq,(isRun_toString n).ne_nil,not_false_eq_true,hdigits,and_self,if_true]
  simp

/-- What is no number is not the text of one. -/
theorem ne_repr {token : String} (h : number? token = none) (n : Nat) : token ≠ n.repr := by
  rintro rfl
  cases (number?_toString n).symm.trans h

/-- The whole numbers that a statement holds as tokens. -/
def literals (sql : String) : List Nat := (tokens sql).filterMap number?

/-! ### Search -/

/-- The tokens before the last occurrence of a token, and those after it. -/
def cutLast? (lead : String) : List String → Option (List String × List String)
  | [] => none
  | t :: ts =>
    match cutLast? lead ts with
    | some (before,after) => some (t :: before,after)
    | none => if t = lead then some ([],ts) else none

theorem cutLast?_eq_none {lead : String} {ts : List String} (h : lead ∉ ts) :
    cutLast? lead ts = none := by
  induction ts with
  | nil => rfl
  | cons t ts ih =>
    rw [List.mem_cons,not_or] at h
    simp [cutLast?,ih h.2,Ne.symm h.1]

theorem cutLast?_append {lead : String} {after : List String} (h : lead ∉ after)
    (before : List String) : cutLast? lead (before ++ lead :: after) = some (before,after) := by
  induction before with
  | nil => simp [cutLast?,cutLast?_eq_none h]
  | cons t ts ih => simp [cutLast?,ih]

end IndexTrial
