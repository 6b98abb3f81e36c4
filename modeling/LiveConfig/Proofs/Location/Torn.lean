import LiveConfig.Reload.Detector

/-! Locations at which looking up breaks down. A scheme is looked for by cutting the text behind
four bytes, then behind five, and no cut goes through a character. -/

namespace LiveConfig

namespace Text

def byteCount (cs : List Char) : Nat := (utf8 cs).length

def Splits (n : Nat) (cs : List Char) : Prop :=
  ∃ front c rest, cs = front ++ c :: rest ∧ byteCount front < n ∧
    n < byteCount front + c.utf8Size

variable {n : Nat} {c : Char} {cs front rest : List Char}

@[simp] theorem byteCount_nil : byteCount [] = 0 := rfl

@[simp] theorem byteCount_cons : byteCount (c :: cs) = c.utf8Size + byteCount cs := by
  simp [byteCount, utf8]

theorem not_splits_nil : ¬ Splits n [] := by
  rintro ⟨front, c, rest, h, -⟩
  simp at h

theorem not_splits_zero : ¬ Splits 0 cs := by
  rintro ⟨front, c, rest, -, h, -⟩
  exact absurd h (Nat.not_lt_zero _)

theorem splits_cons : Splits n (c :: cs) ↔
    (0 < n ∧ n < c.utf8Size) ∨ (c.utf8Size ≤ n ∧ Splits (n - c.utf8Size) cs) := by
  constructor
  · rintro ⟨front, d, rest, heq, hlow, hhigh⟩
    cases front with
    | nil =>
      simp only [List.nil_append, List.cons.injEq] at heq
      obtain ⟨rfl, rfl⟩ := heq
      exact .inl ⟨hlow, by simpa using hhigh⟩
    | cons e front =>
      simp only [List.cons_append, List.cons.injEq] at heq
      obtain ⟨rfl, rfl⟩ := heq
      simp only [byteCount_cons] at hlow hhigh
      exact .inr ⟨by omega, front, d, rest, rfl, by omega, by omega⟩
  · rintro (⟨hlow, hhigh⟩ | ⟨hle, front, d, rest, rfl, hlow, hhigh⟩)
    · exact ⟨[], c, cs, rfl, hlow, by simpa using hhigh⟩
    · refine ⟨c :: front, d, rest, rfl, ?_, ?_⟩
      · simp only [byteCount_cons]
        omega
      · simp only [byteCount_cons]
        omega

theorem push_eq_inside_iff {x : Cut} : x.push c = .inside ↔ x = .inside := by
  cases x <;> simp [Cut.push]

theorem cut_eq_inside_iff : cut n cs = .inside ↔ Splits n cs := by
  induction cs generalizing n with
  | nil => cases n <;> simp [cut, not_splits_nil]
  | cons c cs ih =>
    cases n with
    | zero => simp [cut, not_splits_zero]
    | succ n =>
      rw [cut, splits_cons]
      split
      · next hle =>
        rw [push_eq_inside_iff, ih]
        exact ⟨fun h => .inr ⟨hle, h⟩, fun h => h.elim (fun h => absurd h.2 (by omega)) And.right⟩
      · next hlt => exact iff_of_true rfl (.inl ⟨Nat.succ_pos n, by omega⟩)

theorem cut_append (front rest : List Char) :
    cut (byteCount front) (front ++ rest) = .apart front rest := by
  induction front with
  | nil => simp [cut]
  | cons c front ih =>
    obtain ⟨n, hn⟩ : ∃ n, c.utf8Size = n + 1 := ⟨c.utf8Size - 1, by have := c.utf8Size_pos; omega⟩
    have hsize : byteCount (c :: front) = (n + byteCount front) + 1 := by
      rw [byteCount_cons, hn]
      omega
    have hleft : n + byteCount front + 1 - c.utf8Size = byteCount front := by omega
    rw [hsize, List.cons_append, cut, if_pos (by omega), hleft, ih]
    rfl

theorem of_cut_eq_apart (h : cut n cs = .apart front rest) :
    cs = front ++ rest ∧ byteCount front = n := by
  induction cs generalizing n front with
  | nil =>
    cases n with
    | zero =>
      obtain ⟨rfl, rfl⟩ := Cut.apart.inj h
      exact ⟨rfl, rfl⟩
    | succ n => contradiction
  | cons c cs ih =>
    cases n with
    | zero =>
      obtain ⟨rfl, rfl⟩ := Cut.apart.inj h
      exact ⟨rfl, rfl⟩
    | succ n =>
      rw [cut] at h
      split at h
      · next hle =>
        cases hcut : cut (n + 1 - c.utf8Size) cs with
        | apart front' rest' =>
          rw [hcut] at h
          obtain ⟨rfl, rfl⟩ := Cut.apart.inj h
          obtain ⟨rfl, hcount⟩ := ih hcut
          refine ⟨rfl, ?_⟩
          rw [byteCount_cons, hcount]
          omega
        | tooShort => simp [hcut, Cut.push] at h
        | inside => simp [hcut, Cut.push] at h
      · contradiction

theorem utf8Size_toLower (c : Char) : c.toLower.utf8Size = c.utf8Size := by
  unfold Char.toLower
  split
  · next h =>
    have hhigh : c.val.toNat ≤ 90 := UInt32.le_iff_toNat_le.mp h.2
    have hc : c.utf8Size = 1 := by
      rw [Char.utf8Size_eq_one_iff, UInt32.le_iff_toNat_le]
      exact Nat.le_trans hhigh (by decide)
    rw [hc, Char.utf8Size_eq_one_iff, UInt32.le_iff_toNat_le, UInt32.toNat_add]
    have : ('a'.val - 'A'.val).toNat = 32 := rfl
    have : (127 : UInt32).toNat = 127 := rfl
    omega
  · rfl

theorem byteCount_lowerChars (cs : List Char) : byteCount (lowerChars cs) = byteCount cs := by
  induction cs with
  | nil => rfl
  | cons c cs ih =>
    rw [lowerChars, List.map_cons, byteCount_cons, byteCount_cons, utf8Size_toLower]
    exact congrArg _ ih

theorem not_splits_of_ascii (h : ∀ c ∈ cs, c.utf8Size = 1) : ¬ Splits n cs := by
  rintro ⟨front, c, rest, rfl, hlow, hhigh⟩
  have := h c (by simp)
  omega

end Text

namespace Location

def IsArchiveScheme (front : List Char) : Prop :=
  String.ofList (Text.lowerChars front) ∈ ["jar:", "zip:", "war:"]

/-- The texts that are looked at for a location: itself without the white space around it and, if
it leads into an archive, those for the archive. -/
inductive LooksAt : List Char → List Char → Prop
  | self (cs) : LooksAt cs (Text.trimChars cs)
  | archive {cs front rest a t} (hfront : IsArchiveScheme front)
      (hcs : Text.trimChars cs = front ++ rest) (ha : archive? rest = some a)
      (ht : LooksAt a t) : LooksAt cs t

/-- A text that cannot be cut where a scheme would end. The scheme of files is looked for only where
none of archives has been found. -/
def CutsCharacter (t : List Char) : Prop :=
  Text.Splits 4 t ∨ (Text.Splits 5 t ∧ ¬ ∃ front rest, t = front ++ rest ∧ IsArchiveScheme front)

variable {size : Nat} {names : List String} {cs rest : List Char}

theorem scheme_eq_torn_iff : scheme size names cs = .torn ↔ Text.Splits size cs := by
  rw [← Text.cut_eq_inside_iff, scheme]
  cases Text.cut size cs with
  | apart front rest =>
    simp only [reduceCtorEq, iff_false]
    split <;> simp
  | tooShort => simp
  | inside => simp

theorem scheme_eq_found_iff : scheme size names cs = .found rest ↔
    ∃ front, cs = front ++ rest ∧ Text.byteCount front = size ∧
      String.ofList (Text.lowerChars front) ∈ names := by
  constructor
  · intro h
    unfold scheme at h
    split at h
    · next front rest' hcut =>
      split at h
      · next hmem =>
        obtain ⟨hcs, hsize⟩ := Text.of_cut_eq_apart hcut
        obtain rfl := Scheme.found.inj h
        exact ⟨front, hcs, hsize, by simpa using hmem⟩
      · contradiction
    · contradiction
    · contradiction
  · rintro ⟨front, rfl, rfl, hmem⟩
    simp [scheme, Text.cut_append, hmem]

theorem byteCount_of_isArchiveScheme {front : List Char} (h : IsArchiveScheme front) :
    Text.byteCount front = 4 := by
  have hcount : ∀ s ∈ ["jar:", "zip:", "war:"], Text.byteCount s.toList = 4 := by decide
  rw [← Text.byteCount_lowerChars]
  simpa using hcount _ h

theorem archiveScheme_eq_found_iff : archiveScheme cs = .found rest ↔
    ∃ front, cs = front ++ rest ∧ IsArchiveScheme front := by
  rw [archiveScheme, scheme_eq_found_iff]
  constructor
  · rintro ⟨front, hcs, -, h⟩
    exact ⟨front, hcs, h⟩
  · rintro ⟨front, hcs, h⟩
    exact ⟨front, hcs, byteCount_of_isArchiveScheme h, h⟩

theorem plain_eq_torn_iff : plain cs = .torn ↔ Text.Splits 5 cs := by
  have hfile : fileScheme cs = .torn ↔ Text.Splits 5 cs := scheme_eq_torn_iff
  rw [← hfile]
  unfold plain
  cases fileScheme cs with
  | found rest =>
    simp only [reduceCtorEq, iff_false]
    split <;> simp
  | missing =>
    simp only [reduceCtorEq, iff_false]
    split <;> simp
  | torn => simp

theorem cutsCharacter_iff : CutsCharacter cs ↔
    archiveScheme cs = .torn ∨ (archiveScheme cs = .missing ∧ plain cs = .torn) := by
  have hnone : (¬ ∃ front rest, cs = front ++ rest ∧ IsArchiveScheme front) ↔
      ∀ rest, archiveScheme cs ≠ .found rest := by
    simp only [ne_eq, archiveScheme_eq_found_iff]
    rw [exists_comm, not_exists]
  have htorn : archiveScheme cs = .torn ↔ Text.Splits 4 cs := scheme_eq_torn_iff
  rw [CutsCharacter, hnone, ← htorn, ← plain_eq_torn_iff]
  cases archiveScheme cs <;> simp

theorem exists_looksAt {P : List Char → Prop} : (∃ t, LooksAt cs t ∧ P t) ↔
    P (Text.trimChars cs) ∨ ∃ rest a, archiveScheme (Text.trimChars cs) = .found rest ∧
      archive? rest = some a ∧ ∃ t, LooksAt a t ∧ P t := by
  constructor
  · rintro ⟨_, _ | ⟨hfront, hcs, ha, ht⟩, hp⟩
    · exact .inl hp
    · exact .inr ⟨_, _, archiveScheme_eq_found_iff.mpr ⟨_, hcs, hfront⟩, ha, _, ht, hp⟩
  · rintro (hp | ⟨rest, a, hrest, ha, t, ht, hp⟩)
    · exact ⟨_, .self cs, hp⟩
    · obtain ⟨front, hcs, hfront⟩ := archiveScheme_eq_found_iff.mp hrest
      exact ⟨t, .archive hfront hcs ha ht, hp⟩

section

variable (hsome : Text.trimChars cs ≠ [])
include hsome

theorem resolve_of_torn (h : archiveScheme (Text.trimChars cs) = .torn) : resolve cs = .torn := by
  rw [resolve, if_neg hsome]
  split <;> simp_all

theorem resolve_of_missing (h : archiveScheme (Text.trimChars cs) = .missing) :
    resolve cs = plain (Text.trimChars cs) := by
  rw [resolve, if_neg hsome]
  split <;> simp_all

variable (h : archiveScheme (Text.trimChars cs) = .found rest)
include h

theorem resolve_of_no_archive (ha : archive? rest = none) : resolve cs = .nothing := by
  rw [resolve, if_neg hsome]
  split
  · simp_all
  · simp_all
  · next rest' hrest =>
    obtain rfl := Scheme.found.inj (h.symm.trans hrest)
    split
    · rfl
    · simp_all

theorem resolve_of_archive {a : List Char} (ha : archive? rest = some a) :
    resolve cs = resolve a := by
  rw [resolve, if_neg hsome]
  split
  · simp_all
  · simp_all
  · next rest' hrest =>
    obtain rfl := Scheme.found.inj (h.symm.trans hrest)
    split
    · simp_all
    · next a' ha' => rw [Option.some.inj (ha.symm.trans ha')]

end

/-- Looking up breaks down exactly where one of the texts that are looked at is cut inside a
character. -/
theorem resolve_eq_torn_iff : resolve cs = .torn ↔ ∃ t, LooksAt cs t ∧ CutsCharacter t := by
  induction cs using resolve.induct with
  | case1 cs hempty =>
    have hscheme : archiveScheme [] = .missing := rfl
    have hplain : plain [] ≠ .torn := fun h => Text.not_splits_nil (plain_eq_torn_iff.mp h)
    rw [resolve, if_pos hempty, exists_looksAt]
    simp [cutsCharacter_iff, hempty, hscheme, hplain]
  | case2 cs hsome htorn =>
    rw [resolve_of_torn hsome htorn, exists_looksAt]
    simp [cutsCharacter_iff, htorn]
  | case3 cs hsome hmissing =>
    rw [resolve_of_missing hsome hmissing, exists_looksAt]
    simp [cutsCharacter_iff, hmissing]
  | case4 cs hsome rest hfound hnone =>
    rw [resolve_of_no_archive hsome hfound hnone, exists_looksAt]
    simp [cutsCharacter_iff, hfound, hnone]
  | case5 cs hsome rest hfound a ha ih =>
    rw [resolve_of_archive hsome hfound ha, ih, @exists_looksAt cs]
    simp [cutsCharacter_iff, hfound, ha]

theorem mem_of_mem_trimChars {c : Char} (h : c ∈ Text.trimChars cs) : c ∈ cs := by
  have hback := (List.dropWhile_sublist _).subset (List.mem_reverse.mp h)
  exact (List.dropWhile_sublist _).subset (List.mem_reverse.mp hback)

theorem mem_of_mem_archive? {a : List Char} (ha : archive? cs = some a) {c : Char} (h : c ∈ a) :
    c ∈ cs := by
  induction cs generalizing a with
  | nil => simp [archive?] at ha
  | cons d cs ih =>
    simp only [archive?] at ha
    split at ha
    · obtain rfl := Option.some.inj ha
      contradiction
    · obtain ⟨b, hb, rfl⟩ := Option.map_eq_some_iff.mp ha
      rcases List.mem_cons.mp h with rfl | h
      · exact List.mem_cons_self
      · exact List.mem_cons_of_mem d (ih hb h)

theorem mem_of_looksAt {t : List Char} (h : LooksAt cs t) {c : Char} (hc : c ∈ t) : c ∈ cs := by
  induction h with
  | self cs => exact mem_of_mem_trimChars hc
  | archive hfront hcs ha ht ih =>
    have hrest := mem_of_mem_archive? ha (ih hc)
    exact mem_of_mem_trimChars (hcs ▸ List.mem_append_right _ hrest)

theorem resolve_ne_torn_of_ascii (h : ∀ c ∈ cs, c.utf8Size = 1) : resolve cs ≠ .torn := by
  rw [ne_eq, resolve_eq_torn_iff]
  rintro ⟨t, ht, hcut⟩
  have hascii : ∀ c ∈ t, c.utf8Size = 1 := fun c hc => h c (mem_of_looksAt ht hc)
  rcases hcut with hcut | ⟨hcut, -⟩
  · exact Text.not_splits_of_ascii hascii hcut
  · exact Text.not_splits_of_ascii hascii hcut

theorem isTorn_eq_false_iff {location : String} : isTorn location = false ↔
    ∀ t, LooksAt location.toList t → ¬ CutsCharacter t := by
  rw [isTorn, decide_eq_false_iff_not, resolve_eq_torn_iff]
  simp only [not_exists, not_and]

/-- A location has a path or none, and can be looked up by locators, by the file system of the disk
and by a check that is due, exactly where no text that is looked at is cut inside a character. -/
theorem looked_up_iff (location : String) (disk : Disk) :
    let smooth := ∀ t, LooksAt location.toList t → ¬ CutsCharacter t
    let storage : Storage := ⟨disk, fun _ => .onDisk disk⟩
    (((∃ p, resolve location.toList = .file p) ∨ resolve location.toList = .nothing) ↔ smooth) ∧
    ((Locator.ofLocation location).isTorn storage = false ↔ smooth) ∧
    ((FileSystem.onDisk disk).isTorn location = false ↔ smooth) ∧
    ∀ n w a now,
      (Detector.timed (.inside n (some location)) w a).tearsCheck ⟨now, storage⟩ = false ↔
        (w.isDue now = true → smooth) := by
  intro smooth storage
  have hsmooth : isTorn location = false ↔ smooth := isTorn_eq_false_iff
  have htorn : isTorn location = false ↔ resolve location.toList ≠ .torn := by
    rw [isTorn, decide_eq_false_iff_not]
  refine ⟨?_, ?_, hsmooth, fun n w a now => ?_⟩
  · rw [← hsmooth, htorn]
    cases resolve location.toList <;> simp
  · rw [← hsmooth]
    cases hfile : resolve location.toList <;>
      simp [Locator.ofLocation, Locator.isTorn, Resolution.path?, isTorn, hfile]
  · rw [← hsmooth]
    show (w.isDue now && isTorn location) = false ↔ _
    cases w.isDue now <;> simp

/-- The fourth byte of this name is inside a character. -/
theorem torn_accent : resolve "café.toml".toList = .torn ∧
    ∀ disk, (Detector.watching (.inside 0 (some "café.toml")) 0 0).tearsCheck
      ⟨1, ⟨disk, fun _ => .onDisk disk⟩⟩ = true := by
  have htrim : Text.trimChars "café.toml".toList = "caf".toList ++ 'é' :: ".toml".toList := by
    decide
  have hcut : CutsCharacter (Text.trimChars "café.toml".toList) :=
    .inl ⟨"caf".toList, 'é', ".toml".toList, htrim, by decide, by decide⟩
  have htorn : resolve "café.toml".toList = .torn := resolve_eq_torn_iff.mpr ⟨_, .self _, hcut⟩
  exact ⟨htorn, fun disk => decide_eq_true htorn⟩

end Location
end LiveConfig
