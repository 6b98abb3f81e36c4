import LiveConfig.Text.Blank
import Mathlib.Data.List.TakeWhile

/-! Texts without white space at their ends. Cutting it off gives one, and leaves one as it is. -/

namespace LiveConfig.Text

/-- Not blank, and without white space at either end. -/
structure IsTrimmed (s : String) : Prop where
  nonblank : ∃ c ∈ s.toList, isBlank c = false
  first : ∀ c, s.toList.head? = some c → isBlank c = false
  last : ∀ c, s.toList.getLast? = some c → isBlank c = false

theorem dropWhile_of_head? {cs : List Char} (h : ∀ c, cs.head? = some c → isBlank c = false) :
    cs.dropWhile isBlank = cs := by
  cases cs with
  | nil => rfl
  | cons c cs => rw [List.dropWhile_cons_of_neg (by simp [h c rfl])]

theorem head?_dropWhile {cs : List Char} {c : Char} (h : (cs.dropWhile isBlank).head? = some c) :
    isBlank c = false := by
  have hnot := List.head?_dropWhile_not isBlank cs
  rw [h] at hnot
  simpa using hnot

theorem getLast?_trimChars {cs : List Char} {c : Char} (h : (trimChars cs).getLast? = some c) :
    isBlank c = false := by
  rw [trimChars, List.getLast?_reverse] at h
  exact head?_dropWhile h

theorem head?_trimChars {cs : List Char} {c : Char} (h : (trimChars cs).head? = some c) :
    isBlank c = false := by
  have hsuffix := List.dropWhile_suffix isBlank (l := (cs.dropWhile isBlank).reverse)
  have hprefix : trimChars cs <+: cs.dropWhile isBlank := by
    rw [trimChars, ← List.reverse_suffix, List.reverse_reverse]
    exact hsuffix
  obtain ⟨rest, hrest⟩ := hprefix
  have hhead : (cs.dropWhile isBlank).head? = some c := by
    rw [← hrest, List.head?_append, h, Option.some_or]
  exact head?_dropWhile hhead

theorem isTrimmed_of_trim {s : String} (hne : trimChars s.toList ≠ []) : IsTrimmed (trim s) := by
  have hchars : (trim s).toList = trimChars s.toList := String.toList_ofList
  constructor
  · obtain ⟨c, hc⟩ : ∃ c, (trimChars s.toList).head? = some c :=
      Option.isSome_iff_exists.mp (by simpa [List.isSome_head?] using hne)
    rw [hchars]
    exact ⟨c, List.mem_of_mem_head? hc, head?_trimChars hc⟩
  · rw [hchars]
    exact fun c hc => head?_trimChars hc
  · rw [hchars]
    exact fun c hc => getLast?_trimChars hc

theorem IsTrimmed.trimChars_eq {s : String} (h : IsTrimmed s) : trimChars s.toList = s.toList := by
  have hlast : ∀ c, s.toList.reverse.head? = some c → isBlank c = false := by
    rw [List.head?_reverse]
    exact h.last
  rw [trimChars, dropWhile_of_head? h.first, dropWhile_of_head? hlast, List.reverse_reverse]

theorem trimChars_eq_nil_iff {cs : List Char} :
    trimChars cs = [] ↔ ∀ c ∈ cs, isBlank c = true := by
  constructor
  · intro h
    have hrest : ∀ c ∈ cs.dropWhile isBlank, isBlank c = true := by
      simpa using List.dropWhile_eq_nil_iff.mp (List.reverse_eq_nil_iff.mp h)
    cases hdrop : cs.dropWhile isBlank with
    | nil => exact List.dropWhile_eq_nil_iff.mp hdrop
    | cons c cs' =>
      have hfirst : isBlank c = false := head?_dropWhile (by rw [hdrop, List.head?_cons])
      have hblank : isBlank c = true := hrest c (by simp [hdrop])
      rw [hfirst] at hblank
      contradiction
  · intro h
    rw [trimChars, List.dropWhile_eq_nil_iff.mpr h]
    rfl

theorem trimChars_of_no_blank {cs : List Char} (h : ∀ c ∈ cs, isBlank c = false) :
    trimChars cs = cs := by
  have hfront : cs.dropWhile isBlank = cs :=
    dropWhile_of_head? fun c hc => h c (List.mem_of_mem_head? hc)
  have hback : cs.reverse.dropWhile isBlank = cs.reverse :=
    dropWhile_of_head? fun c hc => h c (List.mem_reverse.mp (List.mem_of_mem_head? hc))
  rw [trimChars, hfront, hback, List.reverse_reverse]

theorem trim_trim (s : String) : trim (trim s) = trim s := by
  by_cases hs : trimChars s.toList = []
  · have hblank : trim s = String.ofList [] := by rw [trim, hs]
    rw [hblank]
    rfl
  · rw [trim, (isTrimmed_of_trim hs).trimChars_eq, String.ofList_toList]

theorem isBlank_eq_false_of_letter {c : Char} (hlow : 65 ≤ c.toNat) (hhigh : c.toNat ≤ 122) :
    isBlank c = false := by
  simp only [isBlank, Bool.or_eq_false_iff, Bool.and_eq_false_iff, decide_eq_false_iff_not]
  omega

theorem isUpper_iff {c : Char} : c.isUpper = true ↔ 65 ≤ c.toNat ∧ c.toNat ≤ 90 :=
  decide_eq_true_iff.trans (and_congr UInt32.le_iff_toNat_le UInt32.le_iff_toNat_le)

theorem isLower_iff {c : Char} : c.isLower = true ↔ 97 ≤ c.toNat ∧ c.toNat ≤ 122 := by
  have h : c.isLower = (decide ('a'.val ≤ c.val) && decide (c.val ≤ 'z'.val)) := rfl
  rw [h, Bool.and_eq_true, decide_eq_true_iff, decide_eq_true_iff]
  exact and_congr UInt32.le_iff_toNat_le UInt32.le_iff_toNat_le

theorem toLower_cases (c : Char) :
    c.toLower = c ∨ (c.isUpper = true ∧ c.toLower.isLower = true) := by
  rw [isUpper_iff, isLower_iff]
  unfold Char.toLower
  split
  · next h =>
    have hlow : 65 ≤ c.val.toNat := UInt32.le_iff_toNat_le.mp h.1
    have hhigh : c.val.toNat ≤ 90 := UInt32.le_iff_toNat_le.mp h.2
    have hshift : ('a'.val - 'A'.val).toNat = 32 := rfl
    have hlower : (c.val + ('a'.val - 'A'.val)).toNat = c.val.toNat + 32 := by
      rw [UInt32.toNat_add, hshift]
      omega
    refine .inr ⟨⟨hlow, hhigh⟩, ?_⟩
    show 97 ≤ (c.val + ('a'.val - 'A'.val)).toNat ∧ (c.val + ('a'.val - 'A'.val)).toNat ≤ 122
    rw [hlower]
    omega
  · exact .inl rfl

theorem isBlank_toLower (c : Char) : isBlank c.toLower = isBlank c := by
  rcases toLower_cases c with h | ⟨hupper, hlower⟩
  · rw [h]
  · obtain ⟨hlow, hhigh⟩ := isUpper_iff.mp hupper
    obtain ⟨hlow', hhigh'⟩ := isLower_iff.mp hlower
    rw [isBlank_eq_false_of_letter (Nat.le_trans (by decide) hlow') hhigh',
      isBlank_eq_false_of_letter hlow (Nat.le_trans hhigh (by decide))]

/-- Text that begins and ends with something other than white space stays, and what follows it
loses the white space at its end. -/
theorem trimChars_append_eq {front : List Char} (hfirst : ∃ c ∈ front.head?, isBlank c = false)
    (hlast : ∃ c ∈ front.getLast?, isBlank c = false) (rest : List Char) :
    trimChars (front ++ rest) = front ++ (rest.reverse.dropWhile isBlank).reverse := by
  obtain ⟨first, hfirst, hfirstBlank⟩ := hfirst
  obtain ⟨last, hlast, hlastBlank⟩ := hlast
  have hleft : (front ++ rest).dropWhile isBlank = front ++ rest := by
    apply dropWhile_of_head?
    intro c hc
    rw [List.head?_append, Option.mem_def.mp hfirst, Option.some_or] at hc
    exact Option.some.inj hc ▸ hfirstBlank
  have hright : front.reverse.dropWhile isBlank = front.reverse := by
    apply dropWhile_of_head?
    intro c hc
    rw [List.head?_reverse, Option.mem_def.mp hlast] at hc
    exact Option.some.inj hc ▸ hlastBlank
  rw [trimChars, hleft, List.reverse_append, List.dropWhile_append, hright]
  split
  · next hempty => rw [List.isEmpty_iff.mp hempty, List.reverse_reverse, List.reverse_nil,
      List.append_nil]
  · rw [List.reverse_append, List.reverse_reverse]

theorem trimChars_append {front : List Char} (hfirst : ∃ c ∈ front.head?, isBlank c = false)
    (hlast : ∃ c ∈ front.getLast?, isBlank c = false) (rest : List Char) :
    ∃ kept, kept <+: rest ∧ trimChars (front ++ rest) = front ++ kept := by
  refine ⟨_, ?_, trimChars_append_eq hfirst hlast rest⟩
  rw [← List.reverse_suffix, List.reverse_reverse]
  exact List.dropWhile_suffix isBlank

theorem trimChars_surrounded {before after : List Char}
    (hbefore : ∀ c ∈ before, isBlank c = true) (hafter : ∀ c ∈ after, isBlank c = true)
    (cs : List Char) : trimChars (before ++ cs ++ after) = trimChars cs := by
  have hback : ∀ c ∈ after.reverse, isBlank c = true := by simpa using hafter
  have hblank : (after ++ []).dropWhile isBlank = [] := List.dropWhile_append_of_pos hafter
  rw [List.append_nil] at hblank
  rw [List.append_assoc, trimChars, List.dropWhile_append_of_pos hbefore, List.dropWhile_append,
    hblank, trimChars]
  split
  · next hempty => rw [List.isEmpty_iff.mp hempty]
  · rw [List.reverse_append, List.dropWhile_append_of_pos hback]

end LiveConfig.Text
