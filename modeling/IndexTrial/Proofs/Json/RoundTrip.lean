import IndexTrial.Proofs.Json.Numbers
import Mathlib.Data.List.Forall2

/-!
A JSON text is read back as the value that it was written from. Excepted are only the values that
no text stands for: doubles that are not finite, whole numbers beyond 64 bits, halves of surrogate
pairs. Their texts are read as other values; so an object is read with the names of its fields,
whatever they hold.
-/

namespace IndexTrial

namespace Json

/-! ### Strings -/

theorem hexValue?_hexDigit {n : Nat} (hn : n < 16) :
    hexValue? (Binary64.hexDigit n) = some n := by
  have hall : ∀ n < 16, hexValue? (Binary64.hexDigit n) = some n := by decide
  exact hall n hn

/-- An escaped character is read as itself. -/
theorem readString_escape (acc : Partial) (c : Char) (rest : List Char) :
    readString acc (escape c ++ rest) = readString (acc.push c) rest := by
  have hnamed : ∀ n, c.toNat = n → Char.ofNat n = c := fun n h => h ▸ Char.ofNat_toNat c
  unfold escape
  split
  · simp_all [readString]
  split
  · simp_all [readString]
  split
  · simp_all [readString]
  split
  · simp_all [readString]
  split
  · simp_all [readString]
  split
  · rename_i h
    obtain rfl : c = Char.ofNat 8 := (hnamed 8 h).symm
    simp [readString]
  split
  · rename_i h
    obtain rfl : c = Char.ofNat 12 := (hnamed 12 h).symm
    simp [readString]
  split
  · rename_i hcontrol
    have hzero : hexValue? '0' = some 0 := by decide
    have hquad : hexQuad? '0' '0' (Binary64.hexDigit (c.toNat / 16))
        (Binary64.hexDigit (c.toNat % 16)) = some c.toNat := by
      have hvalue : 16 * (c.toNat / 16) + c.toNat % 16 = c.toNat := Nat.div_add_mod ..
      simp [hexQuad?,hzero,hexValue?_hexDigit (show c.toNat / 16 < 16 by omega),
        hexValue?_hexDigit (show c.toNat % 16 < 16 by omega),hvalue]
    have hhigh : ¬ (0xd800 ≤ c.toNat ∧ c.toNat < 0xdc00) := by omega
    have hlow : ¬ (0xdc00 ≤ c.toNat ∧ c.toNat < 0xe000) := by omega
    rw [List.cons_append,List.cons_append,readString.eq_def]
    simp [hquad,hhigh,hlow]
  · rename_i hslash _ _ _ _ _ hcontrol
    rw [List.singleton_append,readString.eq_def]
    simp [hslash,hcontrol]

theorem readString_flatMap_escape (acc : List Char) (cs rest : List Char) :
    readString (some acc) (cs.flatMap escape ++ '"' :: rest) =
      some (some (acc.reverse ++ cs),rest) := by
  induction cs generalizing acc with
  | nil => simp [readString]
  | cons c cs ih =>
    rw [List.flatMap_cons,List.append_assoc,readString_escape]
    simpa [Partial.push] using ih (c :: acc)

/-- A quoted text is its opening quote and what `readString` takes back. -/
theorem quoted_spells (s : String) : ∃ cs, (quoted s).toList = '"' :: cs ∧
    ∀ rest, readString (some []) (cs ++ rest) = some (some s.toList,rest) := by
  refine ⟨s.toList.flatMap escape ++ ['"'],?_,fun rest => ?_⟩
  · have hquote : "\"".toList = ['"'] := rfl
    simp [quoted,hquote]
  · simpa using readString_flatMap_escape [] s.toList rest

/-! ### White space -/

theorem skipSpace_append {space : List Char} (h : ∀ c ∈ space, isSpace c = true) (cs : List Char) :
    skipSpace (space ++ cs) = skipSpace cs := List.dropWhile_append_of_pos h

theorem skipSpace_cons {c : Char} (h : isSpace c = false) (cs : List Char) :
    skipSpace (c :: cs) = c :: cs := List.dropWhile_cons_of_neg (by simp [h])

theorem skipSpace_skipSpace (cs : List Char) : skipSpace (skipSpace cs) = skipSpace cs := by
  unfold skipSpace
  induction cs with
  | nil => rfl
  | cons c cs ih => by_cases hc : isSpace c = true <;> simp [hc,ih]

theorem isSpace_lineBreak (layout : Layout) (depth : Nat) :
    ∀ c ∈ (layout.lineBreak depth).toList, isSpace c = true := by
  have hnewline : "\n".toList = ['\n'] := rfl
  have hspaces : ∀ n, ∀ c ∈ List.replicate n ' ', isSpace c = true := by
    intro n c hc
    rw [List.eq_of_mem_replicate hc]
    decide
  cases layout with
  | compact => simp [Layout.lineBreak]
  | indented =>
    intro c hc
    simp only [Layout.lineBreak,String.toList_append,hnewline,String.toList_ofList,
      List.mem_append,List.mem_singleton] at hc
    rcases hc with rfl | hc
    · decide
    · exact hspaces _ c hc

theorem numberEnds_space {space : List Char} (h : ∀ c ∈ space, isSpace c = true) {c : Char}
    (hc : c.isDigit = false ∧ c ≠ '.' ∧ c ≠ 'e' ∧ c ≠ 'E') (rest : List Char) :
    NumberEnds (space ++ c :: rest) := by
  cases space with
  | nil => exact numberEnds_cons hc rest
  | cons s space =>
    have hs := h s (by simp)
    simp only [isSpace,Bool.or_eq_true,decide_eq_true_eq] at hs
    refine numberEnds_cons ?_ _
    rcases hs with ((rfl | rfl) | rfl) | rfl <;> decide

theorem colon_spells (layout : Layout) : ∃ space, layout.colon.toList = ':' :: space ∧
    ∀ c ∈ space, isSpace c = true := by
  cases layout with
  | compact => exact ⟨[],rfl,by simp⟩
  | indented => exact ⟨[' '],rfl,by simp [isSpace]⟩

/-! What stands before a value is passed over. -/

theorem readValue_congr {cs ds : List Char} (h : skipSpace cs = skipSpace ds) (fuel : Nat) :
    readValue fuel cs = readValue fuel ds := by
  cases fuel with
  | zero => rfl
  | succ fuel => rw [readValue,h,readValue]

theorem readItems_congr {cs ds : List Char} (h : skipSpace cs = skipSpace ds) (fuel : Nat) :
    readItems fuel cs = readItems fuel ds := by
  cases fuel with
  | zero => rfl
  | succ fuel => rw [readItems,readValue_congr h,readItems]

theorem readFields_congr {cs ds : List Char} (h : skipSpace cs = skipSpace ds) (fuel : Nat) :
    readFields fuel cs = readFields fuel ds := by
  cases fuel with
  | zero => rfl
  | succ fuel => rw [readFields,h,readFields]

theorem readValue_skipSpace (fuel : Nat) (cs : List Char) :
    readValue fuel (skipSpace cs) = readValue fuel cs := readValue_congr (skipSpace_skipSpace cs) fuel

theorem readItems_skipSpace (fuel : Nat) (cs : List Char) :
    readItems fuel (skipSpace cs) = readItems fuel cs := readItems_congr (skipSpace_skipSpace cs) fuel

section

variable {space : List Char} (h : ∀ c ∈ space, isSpace c = true) (fuel : Nat) (cs : List Char)
include h

theorem readValue_space : readValue fuel (space ++ cs) = readValue fuel cs :=
  readValue_congr (skipSpace_append h cs) fuel

theorem readItems_space : readItems fuel (space ++ cs) = readItems fuel cs :=
  readItems_congr (skipSpace_append h cs) fuel

theorem readFields_space : readFields fuel (space ++ cs) = readFields fuel cs :=
  readFields_congr (skipSpace_append h cs) fuel

end

/-! ### Values -/

/-- A value that a text can stand for. -/
inductive Writable : Json → Prop
  | null : Writable .null
  | bool (value : Bool) : Writable (.bool value)
  | int {value : Int} (low : -2 ^ 63 ≤ value) (high : value < 2 ^ 64) : Writable (.int value)
  | float {value : Binary64} (finite : value.isFinite = true) : Writable (.float value)
  | text (value : String) : Writable (.text value)
  | array {items : List Json} (h : ∀ j ∈ items, Writable j) : Writable (.array items)
  | object {fields : List (String × Json)} (h : ∀ f ∈ fields, Writable f.2) :
    Writable (.object fields)

/-- Written in whatever layout and depth, one value is read as the other, and no more than its text
is taken. -/
def ReadsAs (j i : Json) : Prop := ∀ layout depth fuel rest, NumberEnds rest →
  (render layout Binary64.json depth j).toList.length ≤ fuel →
  readValue fuel ((render layout Binary64.json depth j).toList ++ rest) = some (i,rest)

abbrev ReadsBack (j : Json) : Prop := ReadsAs j j

/-- As `ReadsAs`, for fields of the same name. -/
def FieldReadsAs (f g : String × Json) : Prop := f.1 = g.1 ∧ ReadsAs f.2 g.2

theorem isSpace_of_isDigit {c : Char} (h : c.isDigit = true) : isSpace c = false := by
  by_contra hspace
  simp only [isSpace,Bool.not_eq_false,Bool.or_eq_true,decide_eq_true_eq] at hspace
  rcases hspace with ((rfl | rfl) | rfl) | rfl <;> exact absurd h (by decide)

theorem readValue_digit {c : Char} (hc : c.isDigit = true) (fuel : Nat) (cs : List Char) :
    readValue (fuel + 1) (c :: cs) = readNumber false (c :: cs) := by
  have hne : ∀ d : Char, d.isDigit = false → c ≠ d := by
    rintro d hd rfl
    simp [hd] at hc
  rw [readValue,skipSpace_cons (isSpace_of_isDigit hc)]
  simp [hne 'n' rfl,hne 't' rfl,hne 'f' rfl,hne '"' rfl,hne '[' rfl,hne '\x7b' rfl,hne '-' rfl]

theorem readValue_minus (fuel : Nat) (cs : List Char) :
    readValue (fuel + 1) ('-' :: cs) = readNumber true cs := rfl

theorem readValue_bracket (fuel : Nat) (cs : List Char) : readValue fuel (']' :: cs) = none := by
  cases fuel with
  | zero => simp [readValue]
  | succ fuel =>
    have hspan : spanDigits (']' :: cs) = ([],']' :: cs) := by
      simp [spanDigits,show (']').isDigit = false by decide]
    rw [readValue,skipSpace_cons (by decide)]
    simp [readNumber,hspan]

/-- Where items can be read the array does not end. -/
theorem skipSpace_ne_bracket {fuel : Nat} {cs : List Char} {v : List Json × List Char}
    (h : readItems fuel cs = some v) (r : List Char) : skipSpace cs ≠ ']' :: r := by
  intro hbracket
  cases fuel with
  | zero => simp [readItems] at h
  | succ fuel =>
    rw [readItems,← readValue_skipSpace,hbracket,readValue_bracket] at h
    simp at h

variable {space : List Char}

theorem readItems_render (layout : Layout) (depth fuel : Nat) (rest : List Char) {j i : Json}
    {js is : List Json} (hj : ReadsAs j i) (hjs : List.Forall₂ ReadsAs js is)
    (hspace : ∀ c ∈ space, isSpace c = true)
    (hfuel : (render layout Binary64.json depth j).toList.length +
      (renderItems layout Binary64.json depth js).toList.length + 1 ≤ fuel) :
    readItems fuel ((render layout Binary64.json depth j).toList ++
      ((renderItems layout Binary64.json depth js).toList ++ (space ++ ']' :: rest))) =
        some (i :: is,rest) := by
  induction hjs generalizing j i fuel with
  | nil =>
    obtain ⟨fuel,rfl⟩ : ∃ n, fuel = n + 1 := ⟨fuel - 1,by omega⟩
    have hread := hj layout depth fuel (space ++ ']' :: rest)
      (numberEnds_space hspace (by decide) rest) (by omega)
    rw [readItems,renderItems,String.toList_empty,List.nil_append,hread]
    simp [skipSpace_append hspace,skipSpace_cons (show isSpace ']' = false by decide)]
  | @cons k k' js is hk _ ih =>
    obtain ⟨fuel,rfl⟩ : ∃ n, fuel = n + 1 := ⟨fuel - 1,by omega⟩
    have hcomma : ",".toList = [','] := rfl
    simp only [renderItems,String.toList_append,hcomma,List.length_append,List.length_singleton]
      at hfuel
    have hitems := ih fuel hk (by omega)
    generalize htail : (renderItems layout Binary64.json depth js).toList ++ (space ++ ']' :: rest) =
      tail at hitems
    rw [← readItems_space (isSpace_lineBreak layout depth)] at hitems
    have htext : (renderItems layout Binary64.json depth (k :: js)).toList ++
        (space ++ ']' :: rest) = ',' :: ((layout.lineBreak depth).toList ++
          ((render layout Binary64.json depth k).toList ++ tail)) := by
      rw [← htail]
      simp [renderItems,hcomma]
    have hread := hj layout depth fuel (',' :: ((layout.lineBreak depth).toList ++
      ((render layout Binary64.json depth k).toList ++ tail)))
      (numberEnds_cons (by decide) _) (by omega)
    rw [readItems,htext,hread]
    simp [skipSpace_cons (show isSpace ',' = false by decide),hitems]

theorem readFields_render (layout : Layout) (depth fuel : Nat) (rest : List Char) (k : String)
    {j i : Json} {fs gs : List (String × Json)} (hj : ReadsAs j i)
    (hfs : List.Forall₂ FieldReadsAs fs gs) (hspace : ∀ c ∈ space, isSpace c = true)
    (hfuel : (render layout Binary64.json depth j).toList.length +
      (renderFields layout Binary64.json depth fs).toList.length + 1 ≤ fuel) :
    readFields fuel ((quoted k).toList ++ (layout.colon.toList ++
      ((render layout Binary64.json depth j).toList ++
        ((renderFields layout Binary64.json depth fs).toList ++ (space ++ '\x7d' :: rest))))) =
          some ((k,i) :: gs,rest) := by
  obtain ⟨colonSpace,hcolon,hcolonSpace⟩ := colon_spells layout
  induction hfs generalizing k j i fuel with
  | nil =>
    obtain ⟨fuel,rfl⟩ : ∃ n, fuel = n + 1 := ⟨fuel - 1,by omega⟩
    obtain ⟨key,hkey,hstring⟩ := quoted_spells k
    have hread := hj layout depth fuel (space ++ '\x7d' :: rest)
      (numberEnds_space hspace (by decide) rest) (by omega)
    rw [readFields,hkey,renderFields,String.toList_empty,List.nil_append,List.cons_append,
      skipSpace_cons (by decide),hcolon]
    simp [hstring,skipSpace_cons (show isSpace ':' = false by decide),readValue_space hcolonSpace,
      hread,skipSpace_append hspace,skipSpace_cons (show isSpace '\x7d' = false by decide)]
  | @cons f g fs gs hf _ ih =>
    obtain ⟨k',l⟩ := f
    obtain ⟨_,l'⟩ := g
    obtain ⟨rfl,hl⟩ : k' = _ ∧ ReadsAs l l' := hf
    obtain ⟨fuel,rfl⟩ : ∃ n, fuel = n + 1 := ⟨fuel - 1,by omega⟩
    obtain ⟨key,hkey,hstring⟩ := quoted_spells k
    have hcomma : ",".toList = [','] := rfl
    simp only [renderFields,String.toList_append,hcomma,List.length_append,List.length_singleton]
      at hfuel
    have hfields := ih fuel k' hl (by omega)
    generalize htail : (quoted k').toList ++ _ = tail at hfields
    rw [← readFields_space (isSpace_lineBreak layout depth)] at hfields
    have htext : (renderFields layout Binary64.json depth ((k',l) :: fs)).toList ++
        (space ++ '\x7d' :: rest) = ',' :: ((layout.lineBreak depth).toList ++ tail) := by
      rw [← htail]
      simp [renderFields,hcomma]
    have hread := hj layout depth fuel (',' :: ((layout.lineBreak depth).toList ++ tail))
      (numberEnds_cons (by decide) _) (by omega)
    rw [readFields,hkey,htext,List.cons_append,skipSpace_cons (by decide),hcolon]
    simp [hstring,skipSpace_cons (show isSpace ':' = false by decide),readValue_space hcolonSpace,
      hread,skipSpace_cons (show isSpace ',' = false by decide),hfields]

theorem ReadsAs.of_text {j i : Json} (cs : List Char) (hne : cs ≠ [])
    (htext : ∀ layout depth, (render layout Binary64.json depth j).toList = cs)
    (h : ∀ fuel rest, NumberEnds rest → readValue (fuel + 1) (cs ++ rest) = some (i,rest)) :
    ReadsAs j i := by
  intro layout depth fuel rest hrest hfuel
  rw [htext] at hfuel ⊢
  obtain ⟨fuel,rfl⟩ : ∃ n, fuel = n + 1 :=
    ⟨fuel - 1,by have := List.length_pos_iff.mpr hne; omega⟩
  exact h fuel rest hrest

theorem readsBack_null : ReadsBack .null := by
  have htext : "null".toList = ['n','u','l','l'] := rfl
  exact .of_text ['n','u','l','l'] (by simp) (fun _ _ => htext) fun _ _ _ => rfl

theorem readsBack_bool (b : Bool) : ReadsBack (.bool b) := by
  cases b with
  | false =>
    have htext : "false".toList = ['f','a','l','s','e'] := rfl
    exact .of_text ['f','a','l','s','e'] (by simp) (fun _ _ => htext) fun _ _ _ => rfl
  | true =>
    have htext : "true".toList = ['t','r','u','e'] := rfl
    exact .of_text ['t','r','u','e'] (by simp) (fun _ _ => htext) fun _ _ _ => rfl

/-- A whole number is read as one if it has 64 bits, and as a double if it is beyond them. -/
theorem readsAs_int (i : Int) : ReadsAs (.int i) (wholeNumber (decide (i < 0)) i.natAbs) := by
  cases i with
  | ofNat n =>
    refine .of_text (Nat.toDigits 10 n) Nat.toDigits_ne_nil (fun _ _ => Nat.toList_repr)
      fun fuel rest hrest => ?_
    have hnumber := readNumber_whole false (isWhole_toDigits n) hrest
    have hdigits := areDigits_toDigits n
    rw [digitsValue_toDigits] at hnumber
    obtain ⟨c,cs,hcs⟩ := List.exists_cons_of_ne_nil (@Nat.toDigits_ne_nil n 10)
    rw [hcs] at hnumber hdigits ⊢
    rw [List.cons_append,readValue_digit (hdigits c (by simp))]
    exact hnumber
  | negSucc n =>
    have hminus : "-".toList = ['-'] := rfl
    refine .of_text ('-' :: Nat.toDigits 10 (n + 1)) (by simp)
      (fun _ _ => by simp [render,Int.repr,hminus]) fun fuel rest hrest => ?_
    have hnumber := readNumber_whole true (isWhole_toDigits (n + 1)) hrest
    have hnegative : decide (Int.negSucc n < 0) = true := decide_eq_true (Int.negSucc_lt_zero n)
    rw [digitsValue_toDigits] at hnumber
    rw [List.cons_append,readValue_minus,hnegative]
    exact hnumber

theorem wholeNumber_of_word {i : Int} (hlow : -2 ^ 63 ≤ i) (hhigh : i < 2 ^ 64) :
    wholeNumber (decide (i < 0)) i.natAbs = .int i := by
  cases i with
  | ofNat n =>
    have hn : n < 2 ^ 64 := by simp only [Int.ofNat_eq_natCast] at hhigh; omega
    simp [wholeNumber,hn]
  | negSucc n =>
    have hnegative : decide (Int.negSucc n < 0) = true := decide_eq_true (Int.negSucc_lt_zero n)
    have hn : n + 1 ≤ 2 ^ 63 := by omega
    have hvalue : wholeNumber true (n + 1) = .int (Int.negSucc n) := by
      simp only [wholeNumber,if_true,Nat.succ_ne_zero,if_false,hn,Int.negSucc_eq]
      rfl
    rw [hnegative]
    exact hvalue

theorem readsBack_int {i : Int} (hlow : -2 ^ 63 ≤ i) (hhigh : i < 2 ^ 64) : ReadsBack (.int i) := by
  have hread := readsAs_int i
  rwa [wholeNumber_of_word hlow hhigh] at hread

theorem readsBack_float {x : Binary64} (hx : x.isFinite = true) : ReadsBack (.float x) := by
  obtain ⟨cs,htext,hspells⟩ := x.json_spells hx
  obtain ⟨c,hc,hdigit⟩ := hspells.digit
  have hne : cs ≠ [] := by
    rintro rfl
    simp at hc
  refine .of_text (x.signText.toList ++ cs) (List.append_ne_nil_of_right_ne_nil _ hne)
    (fun _ _ => htext) fun fuel rest hrest => ?_
  have hread := hspells.read rest hrest
  cases hsign : x.isNegative with
  | false =>
    obtain ⟨d,cs,rfl⟩ := List.exists_cons_of_ne_nil hne
    obtain rfl : d = c := by simpa using hc
    rw [hsign] at hread
    simp only [Binary64.signText,hsign,Bool.false_eq_true,if_false,String.toList_empty,
      List.nil_append,List.cons_append]
    rw [readValue_digit hdigit]
    exact hread
  | true =>
    have hminus : "-".toList = ['-'] := rfl
    rw [hsign] at hread
    simp only [Binary64.signText,hsign,if_true,hminus,List.cons_append]
    rw [readValue_minus]
    exact hread

theorem readsBack_text (s : String) : ReadsBack (.text s) := by
  obtain ⟨cs,hquoted,hstring⟩ := quoted_spells s
  refine .of_text ('"' :: cs) (by simp) (fun _ _ => hquoted) fun fuel rest _ => ?_
  rw [readValue,List.cons_append,skipSpace_cons (by decide)]
  simp [hstring]

theorem readsAs_array {js is : List Json} (h : List.Forall₂ ReadsAs js is) :
    ReadsAs (.array js) (.array is) := by
  cases h with
  | nil =>
    have htext : "[]".toList = ['[',']'] := rfl
    exact .of_text ['[',']'] (by simp) (fun _ _ => htext) fun _ _ _ => rfl
  | @cons j i js is hj hjs =>
    intro layout depth fuel rest hrest hfuel
    have hopen : "[".toList = ['['] := rfl
    have hclose : "]".toList = [']'] := rfl
    have hspace := isSpace_lineBreak layout
    simp only [render,String.toList_append,hopen,hclose,List.length_append,List.length_singleton]
      at hfuel
    obtain ⟨fuel,rfl⟩ : ∃ n, fuel = n + 1 := ⟨fuel - 1,by omega⟩
    have hitems :=
      readItems_render layout (depth + 1) fuel rest hj hjs (hspace depth) (by omega)
    generalize htail : (render layout Binary64.json (depth + 1) j).toList ++ _ = tail at hitems
    have htext : (render layout Binary64.json depth (.array (j :: js))).toList ++ rest =
        '[' :: ((layout.lineBreak (depth + 1)).toList ++ tail) := by
      rw [← htail]
      simp [render,hopen,hclose]
    rw [htext,readValue,skipSpace_cons (by decide)]
    simp only [skipSpace_append (hspace (depth + 1))]
    split
    · rename_i r hr
      exact absurd hr (skipSpace_ne_bracket hitems r)
    · simp [readItems_skipSpace,hitems]

theorem readsAs_object {fs gs : List (String × Json)} (h : List.Forall₂ FieldReadsAs fs gs) :
    ReadsAs (.object fs) (.object gs) := by
  have hopen : "\x7b".toList = ['\x7b'] := rfl
  have hclose : "\x7d".toList = ['\x7d'] := rfl
  cases h with
  | nil =>
    have htext : "\x7b\x7d".toList = ['\x7b','\x7d'] := rfl
    exact .of_text ['\x7b','\x7d'] (by simp) (fun _ _ => htext) fun _ _ _ => rfl
  | @cons f g fs gs hf hfs =>
    obtain ⟨k,j⟩ := f
    obtain ⟨_,i⟩ := g
    obtain ⟨rfl,hj⟩ : k = _ ∧ ReadsAs j i := hf
    intro layout depth fuel rest hrest hfuel
    have hspace := isSpace_lineBreak layout
    simp only [render,String.toList_append,hopen,hclose,List.length_append,List.length_singleton]
      at hfuel
    obtain ⟨fuel,rfl⟩ : ∃ n, fuel = n + 1 := ⟨fuel - 1,by omega⟩
    have hfields :=
      readFields_render layout (depth + 1) fuel rest k hj hfs (hspace depth) (by omega)
    obtain ⟨key,hkey,-⟩ := quoted_spells k
    rw [hkey,List.cons_append] at hfields
    generalize htail : key ++ _ = tail at hfields
    have htext : (render layout Binary64.json depth (.object ((k,j) :: fs))).toList ++ rest =
        '\x7b' :: ((layout.lineBreak (depth + 1)).toList ++ '"' :: tail) := by
      rw [← htail]
      simp [render,hopen,hclose,hkey]
    rw [htext,readValue,skipSpace_cons (by decide)]
    simp [skipSpace_append (hspace (depth + 1)),skipSpace_cons (show isSpace '"' = false by decide),
      hfields]

/-- Every value that a text can stand for is read back from its text. -/
theorem Writable.readsBack {j : Json} (h : Writable j) : ReadsBack j := by
  induction h with
  | null => exact readsBack_null
  | bool value => exact readsBack_bool value
  | int low high => exact readsBack_int low high
  | float finite => exact readsBack_float finite
  | text value => exact readsBack_text value
  | array _ ih => exact readsAs_array (List.forall₂_same.mpr ih)
  | object _ ih => exact readsAs_object (List.forall₂_same.mpr fun f hf => ⟨rfl,ih f hf⟩)

theorem exists_forall₂ {α β : Type} {R : α → β → Prop} {as : List α} (h : ∀ a ∈ as, ∃ b, R a b) :
    ∃ bs, List.Forall₂ R as bs := by
  induction as with
  | nil => exact ⟨[],.nil⟩
  | cons a as ih =>
    obtain ⟨hhead,htail⟩ := List.forall_mem_cons.mp h
    obtain ⟨b,hb⟩ := hhead
    obtain ⟨bs,hbs⟩ := ih htail
    exact ⟨b :: bs,.cons hb hbs⟩

theorem exists_fields {fs : List (String × Json)} (h : ∀ f ∈ fs, ∃ i, ReadsAs f.2 i) :
    ∃ gs, List.Forall₂ FieldReadsAs fs gs := by
  apply exists_forall₂
  intro f hf
  obtain ⟨i,hi⟩ := h f hf
  exact ⟨(f.1,i),rfl,hi⟩

/-- What is written as `null` is read as that. -/
theorem readsAs_null {j : Json} (h : ∀ layout depth, render layout Binary64.json depth j = "null") :
    ReadsAs j .null := by
  intro layout depth fuel rest
  have hnull : render layout Binary64.json depth .null = "null" := rfl
  rw [h,← hnull]
  exact readsBack_null layout depth fuel rest

theorem exists_readsAs_float (x : Binary64) : ∃ i, ReadsAs (.float x) i := by
  by_cases hx : x.isFinite = true
  · exact ⟨_,readsBack_float hx⟩
  · refine ⟨.null,readsAs_null fun layout depth => ?_⟩
    simp [render,Binary64.json,hx]

/-- Every text that is written can be read. -/
theorem exists_readsAs : ∀ j : Json, ∃ i, ReadsAs j i
  | .null => ⟨_,readsBack_null⟩
  | .bool b => ⟨_,readsBack_bool b⟩
  | .int i => ⟨_,readsAs_int i⟩
  | .float x => exists_readsAs_float x
  | .text s => ⟨_,readsBack_text s⟩
  | .halfPair => ⟨_,readsAs_null fun _ _ => rfl⟩
  | .array js => by
    obtain ⟨is,his⟩ := exists_forall₂ fun j (_ : j ∈ js) => exists_readsAs j
    exact ⟨_,readsAs_array his⟩
  | .object fs => by
    obtain ⟨gs,hgs⟩ := exists_fields fun f (_ : f ∈ fs) => exists_readsAs f.2
    exact ⟨_,readsAs_object hgs⟩
termination_by j => sizeOf j
decreasing_by
  · have hj := List.sizeOf_lt_of_mem ‹j ∈ js›
    rw [array.sizeOf_spec]
    omega
  · have hf := List.sizeOf_lt_of_mem ‹f ∈ fs›
    have hpair : sizeOf f = 1 + sizeOf f.1 + sizeOf f.2 := rfl
    rw [object.sizeOf_spec]
    omega

theorem ReadsAs.read?_pretty {j i : Json} (h : ReadsAs j i) : read? j.pretty = some i := by
  have hread := h .indented 0 (j.pretty.toList.length + 1) [] numberEnds_nil (Nat.le_succ _)
  rw [List.append_nil] at hread
  have hvalue : readValue (j.pretty.toList.length + 1) j.pretty.toList = some (i,[]) := hread
  have hend : (skipSpace []).isEmpty = true := rfl
  unfold read?
  dsimp only
  rw [hvalue,Option.bind_eq_bind,Option.bind_some]
  exact if_pos hend

/-- The text of a file is read back as the value that it was written from. -/
theorem Writable.read?_pretty {j : Json} (h : Writable j) : read? j.pretty = some j :=
  h.readsBack.read?_pretty

/-- An object is read as one with fields of the same names. -/
theorem read?_pretty_object (fs : List (String × Json)) :
    ∃ gs, read? (pretty (.object fs)) = some (.object gs) ∧ gs.map Prod.fst = fs.map Prod.fst := by
  obtain ⟨gs,hgs⟩ := exists_fields fun f (_ : f ∈ fs) => exists_readsAs f.2
  have hnames : gs.map Prod.fst = fs.map Prod.fst := by
    induction hgs with
    | nil => rfl
    | cons hf _ ih => rw [List.map_cons,List.map_cons,ih,hf.1]
  exact ⟨gs,(readsAs_object hgs).read?_pretty,hnames⟩

/-! ### Values with one text -/

/-- Lists of values with the same texts have the same text. -/
theorem render_map_congr {α : Type} {f g : α → Json} (as : List α) (layout : Layout) (depth : Nat)
    (h : ∀ a ∈ as, ∀ depth, render layout Binary64.json depth (f a) =
      render layout Binary64.json depth (g a)) :
    render layout Binary64.json depth (.array (as.map f)) =
      render layout Binary64.json depth (.array (as.map g)) := by
  have hitems : ∀ bs ⊆ as, renderItems layout Binary64.json (depth + 1) (bs.map f) =
      renderItems layout Binary64.json (depth + 1) (bs.map g) := by
    intro bs hbs
    induction bs with
    | nil => rfl
    | cons b bs ih =>
      obtain ⟨hb,hbs⟩ := List.cons_subset.mp hbs
      simp [renderItems,h b hb,ih hbs]
  cases as with
  | nil => rfl
  | cons a as =>
    have htail := hitems as (List.subset_cons_self a as)
    simp [render,h a (by simp),htail]

end Json

end IndexTrial
