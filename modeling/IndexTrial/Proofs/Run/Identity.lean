import IndexTrial.Proofs.Json.RoundTrip
import IndexTrial.Run.Id

/-! A run's identity is read back from its hyphenated form. -/

namespace IndexTrial

theorem splitAtChar_of_not_mem {separator : Char} {cs : List Char} (h : separator ∉ cs) :
    splitAtChar separator cs = [cs] := by
  induction cs with
  | nil => rfl
  | cons c cs ih =>
    have hc : c ≠ separator := fun he => h (by simp [he])
    rw [splitAtChar,if_neg hc,ih (fun hmem => h (by simp [hmem]))]

theorem splitAtChar_append {separator : Char} {cs : List Char} (h : separator ∉ cs)
    (rest : List Char) :
    splitAtChar separator (cs ++ separator :: rest) = cs :: splitAtChar separator rest := by
  induction cs with
  | nil => simp [splitAtChar]
  | cons c cs ih =>
    have hc : c ≠ separator := fun he => h (by simp [he])
    rw [List.cons_append,splitAtChar,if_neg hc,ih (fun hmem => h (by simp [hmem]))]

namespace RunId

theorem hexText_succ (width n : Nat) :
    hexText (width + 1) n = hexText width (n / 16) ++ [Binary64.hexDigit (n % 16)] := by
  have hhigh : ∀ i ∈ List.range width, Binary64.hexDigit (n / 16 ^ (width + 1 - 1 - i) % 16) =
      Binary64.hexDigit (n / 16 / 16 ^ (width - 1 - i) % 16) := by
    intro i hi
    have hi := List.mem_range.mp hi
    have hpow : 16 ^ (width + 1 - 1 - i) = 16 * 16 ^ (width - 1 - i) := by
      rw [← Nat.pow_succ']
      congr 1
      omega
    rw [hpow,Nat.div_div_eq_div_mul]
  rw [hexText,hexText,List.range_succ,List.map_append,List.map_congr_left hhigh]
  simp

@[simp] theorem length_hexText (width n : Nat) : (hexText width n).length = width := by
  simp [hexText]

theorem hyphen_not_mem_hexText (width n : Nat) : '-' ∉ hexText width n := by
  have hall : ∀ d < 16, Binary64.hexDigit d ≠ '-' := by decide
  simp only [hexText,List.mem_map,not_exists,not_and]
  exact fun i _ => hall _ (Nat.mod_lt _ (by decide))

/-- The digits give back what they can hold of a number. -/
theorem ofDigits?_hexText (width n : Nat) : ofDigits? (hexText width n) = some ⟨n % 16 ^ width⟩ := by
  have hdigits : ∃ ns, (hexText width n).mapM Json.hexValue? = some ns ∧
      ns.foldl (fun a d => 16 * a + d) 0 = n % 16 ^ width := by
    induction width generalizing n with
    | zero => exact ⟨[],rfl,by simp [Nat.mod_one]⟩
    | succ width ih =>
      obtain ⟨ns,hread,hvalue⟩ := ih (n / 16)
      have hlast : 16 * (n / 16 % 16 ^ width) + n % 16 = n % 16 ^ (width + 1) := by
        rw [Nat.pow_succ',Nat.mod_mul,Nat.add_comm]
      refine ⟨ns ++ [n % 16],?_,?_⟩
      · rw [hexText_succ,List.mapM_append,hread]
        simp [Json.hexValue?_hexDigit (Nat.mod_lt n (show 0 < 16 by decide))]
      · rw [List.foldl_append,hvalue]
        exact hlast
  obtain ⟨ns,hread,hvalue⟩ := hdigits
  simp [ofDigits?,hread,hvalue]

/-- Digits in groups, as `hyphenated` sets them out. -/
def groups (d : List Char) : List Char :=
  d.take 8 ++ '-' :: ((d.drop 8).take 4 ++ '-' :: ((d.drop 12).take 4 ++ '-' ::
    ((d.drop 16).take 4 ++ '-' :: d.drop 20)))

theorem hyphenated_eq (id : RunId) : id.hyphenated = String.ofList (groups (hexText 32 id.value)) := by
  simp [hyphenated,groups]

theorem ofHyphenated?_groups {d : List Char} (hlength : d.length = 32) (hhyphen : '-' ∉ d) :
    ofHyphenated? (groups d) = ofDigits? d := by
  have hdrop : ∀ k, '-' ∉ d.drop k := fun k hmem => hhyphen (List.mem_of_mem_drop hmem)
  have htake : ∀ k m, '-' ∉ (d.drop k).take m := fun k m hmem => hdrop k (List.mem_of_mem_take hmem)
  have hfirst : '-' ∉ d.take 8 := htake 0 8
  have hsplit : splitAtChar '-' (groups d) =
      [d.take 8,(d.drop 8).take 4,(d.drop 12).take 4,(d.drop 16).take 4,d.drop 20] := by
    rw [groups,splitAtChar_append hfirst,splitAtChar_append (htake 8 4),
      splitAtChar_append (htake 12 4),splitAtChar_append (htake 16 4),
      splitAtChar_of_not_mem (hdrop 20)]
  have hjoin : d.take 8 ++ ((d.drop 8).take 4 ++ ((d.drop 12).take 4 ++ ((d.drop 16).take 4 ++
      d.drop 20))) = d := by
    have hstep : ∀ k, (d.drop k).take 4 ++ d.drop (k + 4) = d.drop k := fun k => by
      rw [← List.drop_drop,List.take_append_drop]
    rw [hstep 16,hstep 12,hstep 8,List.take_append_drop]
  simp only [ofHyphenated?,hsplit,List.append_assoc,hjoin]
  simp [hlength]

/-- An identity of 128 bits is read back from its hyphenated form. -/
theorem read?_hyphenated {id : RunId} (h : id.value < 2 ^ 128) : read? id.hyphenated = some id := by
  have hlength : (groups (hexText 32 id.value)).length = 36 := by simp [groups]
  have hvalue := ofDigits?_hexText 32 id.value
  rw [Nat.mod_eq_of_lt h] at hvalue
  unfold read?
  rw [hyphenated_eq,String.toList_ofList]
  dsimp only
  rw [if_neg (by omega),if_pos hlength,
    ofHyphenated?_groups (length_hexText _ _) (hyphen_not_mem_hexText _ _),hvalue]

end RunId

end IndexTrial
