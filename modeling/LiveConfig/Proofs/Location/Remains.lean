import LiveConfig.Proofs.Location.Nested

/-! What remains of a location once the schemes of archives in front of it and the entries behind it
are taken off. The file found is that of what remains: of a file URL, or of a text without any
scheme, which is the path itself. White space around the location, or around that of an archive, and
capital letters in schemes make no difference. -/

namespace LiveConfig.Location

def IsFileScheme (front : List Char) : Prop := String.ofList (Text.lowerChars front) = "file:"

instance (front : List Char) : Decidable (IsFileScheme front) := inferInstanceAs (Decidable (_ = _))

def LeadsIntoArchive (t : List Char) : Prop :=
  ∃ front rest, t = front ++ rest ∧ IsArchiveScheme front

/-- The text that is left when the scheme of an archive is taken off, and what stands behind the
first separator, as often as there is such a scheme, and the white space around it each time. -/
inductive Remains : List Char → List Char → Prop
  | self {cs} (h : ¬ LeadsIntoArchive (Text.trimChars cs)) : Remains cs (Text.trimChars cs)
  | archive {cs front a rest t} (hfront : IsArchiveScheme front)
      (hcs : Text.trimChars cs = front ++ (a ++ '!' :: '/' :: rest)) (ha : ¬ ['!', '/'] <:+: a)
      (ht : Remains a t) : Remains cs t

/-- Two or more characters that schemes consist of, and a colon. -/
def HasScheme (t : List Char) : Prop :=
  ∃ front rest, t = front ++ ':' :: rest ∧ 1 < front.length ∧ ∀ c ∈ front, isSchemeChar c = true

def Names (t : List Char) (p : FilePath) : Prop :=
  (∃ front rest, t = front ++ rest ∧ IsFileScheme front ∧ FileUrl.toPath? rest = some p) ∨
    (t ≠ [] ∧ ¬ HasScheme t ∧ p = .ofChars t)

/-- Another spelling of a location: with white space around it, with other letter case in a scheme
in front of it, or with another spelling of the archive that an entry is in. -/
inductive Respelled : List Char → List Char → Prop
  | surrounded (before after cs : List Char) (hbefore : ∀ c ∈ before, Text.isBlank c = true)
      (hafter : ∀ c ∈ after, Text.isBlank c = true) : Respelled cs (before ++ cs ++ after)
  | scheme (front front' rest : List Char) (hfront : IsScheme front)
      (hcase : Text.lowerChars front' = Text.lowerChars front) :
      Respelled (front ++ rest) (front' ++ rest)
  | archive (front rest : List Char) {a a' : List Char} (hfront : IsArchiveScheme front)
      (ha : ¬ ['!', '/'] <:+: a) (h : Respelled a a') :
      Respelled (front ++ (a ++ '!' :: '/' :: rest)) (front ++ (a' ++ '!' :: '/' :: rest))
  | symm {cs cs'} (h : Respelled cs cs') : Respelled cs' cs
  | trans {cs cs' cs''} (h : Respelled cs cs') (h' : Respelled cs' cs'') : Respelled cs cs''

section Scheme

variable {t front rest : List Char} {p : FilePath}

theorem isRemote_iff : isRemote t = true ↔ HasScheme t := by
  have hcut : t.takeWhile (· ≠ ':') ++ t.dropWhile (· ≠ ':') = t := List.takeWhile_append_dropWhile
  constructor
  · intro h
    simp only [isRemote, Bool.and_eq_true, decide_eq_true_eq, List.all_eq_true] at h
    obtain ⟨⟨hlt, hlong⟩, hall⟩ := h
    cases hback : t.dropWhile (· ≠ ':') with
    | nil =>
      rw [hback, List.append_nil] at hcut
      exact absurd (congrArg List.length hcut) (Nat.ne_of_lt hlt)
    | cons c rest =>
      have hcolon := List.head?_dropWhile_not (· ≠ ':') t
      rw [hback] at hcolon hcut
      obtain rfl : c = ':' := by simpa using hcolon
      exact ⟨_, rest, hcut.symm, hlong, hall⟩
  · rintro ⟨front, rest, rfl, hlong, hall⟩
    have hmark : ∀ c ∈ front, decide (c ≠ ':') = true := by
      intro c hc
      have hscheme := hall c hc
      rw [decide_eq_true_eq]
      rintro rfl
      exact absurd hscheme (by decide)
    have hfront : (front ++ ':' :: rest).takeWhile (· ≠ ':') = front := by
      rw [List.takeWhile_append_of_pos hmark]
      simp
    simp only [isRemote, hfront, Bool.and_eq_true, decide_eq_true_eq, List.all_eq_true]
    exact ⟨⟨by simp, hlong⟩, hall⟩

theorem IsFileScheme.isScheme (h : IsFileScheme front) : IsScheme front := by
  rw [IsScheme, h]
  decide

theorem IsScheme.archive_or_file (h : IsScheme front) :
    IsArchiveScheme front ∨ IsFileScheme front := by
  simp only [IsScheme, IsArchiveScheme, IsFileScheme, List.mem_cons, List.not_mem_nil] at h ⊢
  tauto

theorem IsFileScheme.lower (h : IsFileScheme front) : Text.lowerChars front = "file:".toList := by
  rw [← h, String.toList_ofList]

theorem IsFileScheme.byteCount (h : IsFileScheme front) : Text.byteCount front = 5 := by
  rw [← Text.byteCount_lowerChars, h.lower]
  decide

theorem fileScheme_eq_found_iff : fileScheme t = .found rest ↔
    ∃ front, t = front ++ rest ∧ IsFileScheme front := by
  rw [fileScheme, scheme_eq_found_iff]
  constructor
  · rintro ⟨front, ht, -, h⟩
    exact ⟨front, ht, List.mem_singleton.mp h⟩
  · rintro ⟨front, ht, h⟩
    exact ⟨front, ht, h.byteCount, List.mem_singleton.mpr h⟩

theorem IsFileScheme.archiveScheme_eq (h : IsFileScheme front) (rest : List Char) :
    archiveScheme (front ++ rest) = .missing := by
  have hlower : Text.lowerChars (front.take 4) = "file".toList := by
    rw [Text.lowerChars, List.map_take]
    exact congrArg (List.take 4) h.lower
  have hcount : Text.byteCount (front.take 4) = 4 := by
    rw [← Text.byteCount_lowerChars, hlower]
    decide
  have hcut : Text.cut 4 (front ++ rest) = .apart (front.take 4) (front.drop 4 ++ rest) := by
    have hfour := Text.cut_append (front.take 4) (front.drop 4 ++ rest)
    rwa [hcount, ← List.append_assoc, List.take_append_drop] at hfour
  have hnone : ["jar:", "zip:", "war:"].contains (String.ofList "file".toList) = false := by decide
  simp only [archiveScheme, scheme, hcut, hlower, hnone, Bool.false_eq_true, if_false]

theorem isSchemeChar_toLower (c : Char) : isSchemeChar c.toLower = isSchemeChar c := by
  rcases Text.toLower_cases c with h | ⟨hupper, hlower⟩
  · rw [h]
  · have hletter : c.isAlphanum = (c.isUpper || c.isLower || c.isDigit) := rfl
    have hletter' : c.toLower.isAlphanum =
      (c.toLower.isUpper || c.toLower.isLower || c.toLower.isDigit) := rfl
    simp [isSchemeChar, hletter, hletter', hupper, hlower]

theorem eq_colon_of_toLower {c : Char} (h : c.toLower = ':') : c = ':' := by
  rcases Text.toLower_cases c with hsame | ⟨-, hlower⟩
  · exact hsame.symm.trans h
  · rw [h] at hlower
    contradiction

/-- Every scheme that is looked for is one. -/
theorem IsScheme.hasScheme (h : IsScheme front) (rest : List Char) : HasScheme (front ++ rest) := by
  have hlower : ∃ letters, Text.lowerChars front = letters ++ [':'] ∧ 1 < letters.length ∧
      ∀ c ∈ letters, isSchemeChar c = true := by
    have hmem := h.lower
    simp only [List.mem_cons, List.not_mem_nil, or_false] at hmem
    rcases hmem with hmem | hmem | hmem | hmem
    · exact ⟨"jar".toList, hmem, by decide, List.all_eq_true.mp (by decide)⟩
    · exact ⟨"zip".toList, hmem, by decide, List.all_eq_true.mp (by decide)⟩
    · exact ⟨"war".toList, hmem, by decide, List.all_eq_true.mp (by decide)⟩
    · exact ⟨"file".toList, hmem, by decide, List.all_eq_true.mp (by decide)⟩
  obtain ⟨letters, hfront, hlong, hall⟩ := hlower
  obtain ⟨name, colon, rfl, rfl, hcolon⟩ := List.map_eq_append_iff.mp hfront
  obtain ⟨c, rfl, hc⟩ := List.map_eq_singleton_iff.mp hcolon
  have hmark : c = ':' := eq_colon_of_toLower hc
  refine ⟨name, rest, by simp [hmark], by simpa using hlong, fun d hd => ?_⟩
  rw [← isSchemeChar_toLower]
  exact hall _ (List.mem_map_of_mem hd)

theorem plain_of_fileScheme (h : IsFileScheme front) (rest : List Char) :
    plain (front ++ rest) = ((FileUrl.toPath? rest).map .file).getD .nothing := by
  have hfound : fileScheme (front ++ rest) = .found rest :=
    fileScheme_eq_found_iff.mpr ⟨front, rfl, h⟩
  simp only [plain, hfound]
  cases FileUrl.toPath? rest <;> rfl

theorem plain_eq_file_iff (ht : t ≠ []) (hsmooth : plain t ≠ .torn) :
    plain t = .file p ↔ Names t p := by
  cases hscheme : fileScheme t with
  | torn => exact absurd (by rw [plain, hscheme]) hsmooth
  | found rest =>
    obtain ⟨front, rfl, hfront⟩ := fileScheme_eq_found_iff.mp hscheme
    have hcolon := hfront.isScheme.hasScheme rest
    rw [plain_of_fileScheme hfront]
    constructor
    · intro h
      refine .inl ⟨front, rest, rfl, hfront, ?_⟩
      cases hpath : FileUrl.toPath? rest with
      | none => simp [hpath] at h
      | some q => simpa [hpath] using h
    · rintro (⟨front', rest', heq, hfront', hp⟩ | ⟨-, hnone, -⟩)
      · have hfound := fileScheme_eq_found_iff.mpr ⟨front', heq, hfront'⟩
        obtain rfl := Scheme.found.inj (hscheme.symm.trans hfound)
        rw [hp]
        rfl
      · exact absurd hcolon hnone
  | missing =>
    have hnone : ¬ ∃ front rest, t = front ++ rest ∧ IsFileScheme front ∧
        FileUrl.toPath? rest = some p := by
      rintro ⟨front, rest, heq, hfront, -⟩
      have hfound := fileScheme_eq_found_iff.mpr ⟨front, heq, hfront⟩
      exact absurd (hscheme.symm.trans hfound) (by simp)
    rw [plain, hscheme, Names, or_iff_right hnone, ← isRemote_iff]
    cases isRemote t <;> simp [ht, eq_comm]

end Scheme

section Found

variable {cs t front rest : List Char} {p : FilePath}

theorem leadsIntoArchive_iff : LeadsIntoArchive t ↔ ∃ rest, archiveScheme t = .found rest := by
  simp only [archiveScheme_eq_found_iff]
  exact exists_comm

/-- What remains is the last one of the texts that are looked at. -/
theorem remains_iff : Remains cs t ↔ LooksAt cs t ∧ ¬ LeadsIntoArchive t := by
  constructor
  · intro h
    induction h with
    | self h => exact ⟨.self _, h⟩
    | archive hfront hcs ha _ ih =>
      refine ⟨.archive hfront hcs ?_ ih.1, ih.2⟩
      exact archive?_append_separator (archive?_eq_none_iff.mpr ha)
  · rintro ⟨hlook, hlast⟩
    induction hlook with
    | self cs => exact .self hlast
    | archive hfront hcs ha _ ih =>
      obtain ⟨entry, rfl, hnone⟩ := archive?_eq_some_iff.mp ha
      exact .archive hfront hcs (archive?_eq_none_iff.mp hnone) (ih hlast)

theorem IsFileScheme.not_leadsIntoArchive (h : IsFileScheme front) (rest : List Char) :
    ¬ LeadsIntoArchive (front ++ rest) := by
  rw [leadsIntoArchive_iff, h.archiveScheme_eq]
  simp

/-- Where looking up does not break down, the file found is the one that what remains names. -/
theorem resolve_eq_file_iff (h : resolve cs ≠ .torn) :
    resolve cs = .file p ↔ ∃ t, Remains cs t ∧ Names t p := by
  simp only [remains_iff, and_assoc]
  induction cs using resolve.induct with
  | case1 cs hempty =>
    have hscheme : archiveScheme [] = .missing := rfl
    have hnames : ¬ Names [] p := by
      rintro (⟨front, rest, heq, hfront, -⟩ | ⟨hne, -⟩)
      · exact hfront.isScheme.ne_nil (List.append_eq_nil_iff.mp heq.symm).1
      · exact hne rfl
    rw [resolve, if_pos hempty, exists_looksAt]
    simp [hempty, hscheme, hnames]
  | case2 cs hsome htorn => exact absurd (resolve_of_torn hsome htorn) h
  | case3 cs hsome hmissing =>
    rw [resolve_of_missing hsome hmissing] at h ⊢
    rw [exists_looksAt, plain_eq_file_iff hsome h]
    simp [leadsIntoArchive_iff, hmissing]
  | case4 cs hsome rest hfound hnone =>
    rw [resolve_of_no_archive hsome hfound hnone, exists_looksAt]
    simp [leadsIntoArchive_iff, hfound, hnone]
  | case5 cs hsome rest hfound a ha ih =>
    rw [resolve_of_archive hsome hfound ha] at h ⊢
    rw [ih h, @exists_looksAt cs]
    simp [leadsIntoArchive_iff, hfound, ha]

theorem resolve_of_no_separator (hlook : LooksAt cs (front ++ rest))
    (hfront : IsArchiveScheme front) (hrest : ¬ ['!', '/'] <:+: rest) : resolve cs = .nothing := by
  generalize ht : front ++ rest = t at hlook
  induction hlook with
  | self cs =>
    have hsome : Text.trimChars cs ≠ [] := by
      rw [← ht]
      exact List.append_ne_nil_of_left_ne_nil hfront.isScheme.ne_nil _
    have hfound := archiveScheme_eq_found_iff.mpr ⟨front, ht.symm, hfront⟩
    exact resolve_of_no_archive hsome hfound (archive?_eq_none_iff.mpr hrest)
  | @archive cs outer inner a t houter hcs ha _ ih =>
    have hsome : Text.trimChars cs ≠ [] := by
      rw [hcs]
      exact List.append_ne_nil_of_left_ne_nil houter.isScheme.ne_nil _
    have hfound := archiveScheme_eq_found_iff.mpr ⟨outer, hcs, houter⟩
    rw [resolve_of_archive hsome hfound ha]
    exact ih ht

end Found

section Spelling

variable {cs cs' front front' before after : List Char}

theorem IsScheme.of_lower (h : IsScheme front)
    (hcase : Text.lowerChars front' = Text.lowerChars front) : IsScheme front' := by
  rwa [IsScheme, hcase]

theorem archive?_append_eq_none_iff (h : '!' ∉ front) :
    archive? (front ++ cs) = none ↔ archive? cs = none := by
  constructor
  · rw [archive?_eq_none_iff, archive?_eq_none_iff]
    exact fun hnone hmark => hnone (hmark.trans (List.suffix_append front cs).isInfix)
  · exact archive?_append h

theorem archive?_concat_eq_none_iff (hmark : '!' ∉ after) (hslash : '/' ∉ after) :
    archive? (cs ++ after) = none ↔ archive? cs = none := by
  induction cs with
  | nil =>
    have hafter : archive? (after ++ []) = none ↔ archive? [] = none :=
      archive?_append_eq_none_iff hmark
    rw [List.append_nil] at hafter
    rw [List.nil_append, hafter]
  | cons c cs ih =>
    have hhead : (cs ++ after).head? = some '/' ↔ cs.head? = some '/' := by
      cases cs with
      | nil => simpa using fun h => hslash (List.mem_of_mem_head? h)
      | cons d cs => rfl
    rw [List.cons_append, archive?_cons_eq_none_iff, archive?_cons_eq_none_iff, ih, hhead]

theorem notMem_of_blank {c : Char} (h : ∀ c ∈ before, Text.isBlank c = true)
    (hc : Text.isBlank c = false) : c ∉ before :=
  fun hmem => Bool.noConfusion ((h c hmem).symm.trans hc)

theorem Respelled.archive?_eq_none_iff (h : Respelled cs cs') :
    archive? cs = none ↔ archive? cs' = none := by
  induction h with
  | surrounded before after cs hbefore hafter =>
    rw [archive?_concat_eq_none_iff (notMem_of_blank hafter (by decide))
        (notMem_of_blank hafter (by decide)),
      archive?_append_eq_none_iff (notMem_of_blank hbefore (by decide))]
  | scheme front front' rest hfront hcase =>
    rw [archive?_append_eq_none_iff hfront.notMem,
      archive?_append_eq_none_iff (hfront.of_lower hcase).notMem]
  | archive front rest hfront ha h ih =>
    rw [archive?_append_eq_none_iff hfront.notMem, archive?_append_eq_none_iff hfront.notMem]
    have ha' := ih.mp (Location.archive?_eq_none_iff.mpr ha)
    rw [archive?_append_separator ha', archive?_append_separator (ih.mpr ha')]
    simp
  | symm _ ih => exact ih.symm
  | trans _ _ ih ih' => exact ih.trans ih'

theorem resolve_of_trimChars_eq (h : Text.trimChars cs = Text.trimChars cs') :
    resolve cs = resolve cs' := by
  rw [resolve.eq_def cs, resolve.eq_def cs', h]

theorem resolve_of_archiveScheme (hfront : IsArchiveScheme front) (hfront' : IsArchiveScheme front')
    (rest : List Char) : resolve (front ++ rest) = resolve (front' ++ rest) := by
  cases ha : archive? rest with
  | none => rw [resolve_without_separator hfront ha, resolve_without_separator hfront' ha]
  | some a =>
    obtain ⟨entry, rfl, hnone⟩ := archive?_eq_some_iff.mp ha
    rw [resolve_in_archive hfront hnone, resolve_in_archive hfront' hnone]

theorem resolve_fileScheme (hfront : IsFileScheme front) (rest : List Char) :
    resolve (front ++ rest) = ((FileUrl.toPath?
      (rest.reverse.dropWhile Text.isBlank).reverse).map .file).getD .nothing := by
  have htrim := hfront.isScheme.trimChars_append rest
  have hsome : Text.trimChars (front ++ rest) ≠ [] := by
    rw [htrim]
    exact List.append_ne_nil_of_left_ne_nil hfront.isScheme.ne_nil _
  have hmissing := hfront.archiveScheme_eq (rest.reverse.dropWhile Text.isBlank).reverse
  rw [← htrim] at hmissing
  rw [resolve_of_missing hsome hmissing, htrim, plain_of_fileScheme hfront]

theorem resolve_of_scheme (hfront : IsScheme front)
    (hcase : Text.lowerChars front' = Text.lowerChars front) (rest : List Char) :
    resolve (front ++ rest) = resolve (front' ++ rest) := by
  rcases hfront.archive_or_file with hfront | hfront
  · have hfront' : IsArchiveScheme front' := by rwa [IsArchiveScheme, hcase]
    exact resolve_of_archiveScheme hfront hfront' rest
  · have hfront' : IsFileScheme front' := by rwa [IsFileScheme, hcase]
    rw [resolve_fileScheme hfront, resolve_fileScheme hfront']

theorem Respelled.resolve_eq (h : Respelled cs cs') : resolve cs = resolve cs' := by
  induction h with
  | surrounded before after cs hbefore hafter =>
    exact resolve_of_trimChars_eq (Text.trimChars_surrounded hbefore hafter cs).symm
  | scheme front front' rest hfront hcase => exact resolve_of_scheme hfront hcase rest
  | archive front rest hfront ha h ih =>
    have hnone := Location.archive?_eq_none_iff.mpr ha
    have hnone' := h.archive?_eq_none_iff.mp hnone
    rw [resolve_in_archive hfront hnone, resolve_in_archive hfront hnone', ih]
  | symm _ ih => exact ih.symm
  | trans _ _ ih ih' => exact ih.trans ih'

end Spelling

/-- Where looking up does not break down, a file is found if and only if it is named by what remains
of the location: by a file URL, or by a text that has no scheme and is the path itself. Nothing is
found for an archive without a separator, at whatever depth. Every spelling of a location leads to
the same. -/
theorem found_as_remains (cs : List Char) :
    (resolve cs ≠ .torn → ∀ p, resolve cs = .file p ↔ ∃ t, Remains cs t ∧ Names t p) ∧
    (∀ front rest, LooksAt cs (front ++ rest) → IsArchiveScheme front → ¬ ['!', '/'] <:+: rest →
      resolve cs = .nothing) ∧
    ∀ cs', Respelled cs cs' → resolve cs = resolve cs' := by
  refine ⟨fun h p => resolve_eq_file_iff h, ?_, fun cs' h => h.resolve_eq⟩
  exact fun front rest hlook hfront hrest => resolve_of_no_separator hlook hfront hrest

theorem found_as_remains_app_jar :
    let cs := " JAR: File:///opt/app.jar !/a.toml".toList
    let p : FilePath := .ofString "/opt/app.jar"
    (resolve cs ≠ .torn ∧ resolve cs = .file p) ∧
    (Respelled cs "jar:file:///opt/app.jar!/a.toml".toList ∧
      resolve "jar:file:///opt/app.jar!/a.toml".toList = .file p) ∧
    (IsArchiveScheme "jar:".toList ∧ ¬ ['!', '/'] <:+: "/opt/app.jar".toList ∧
      resolve "jar:/opt/app.jar".toList = .nothing) := by
  intro cs p
  have hjar : IsArchiveScheme "jar:".toList := by decide
  have hascii : ∀ c ∈ cs, c.utf8Size = 1 := List.forall_mem_iff_getElem.mpr (by decide)
  have hsmooth : resolve cs ≠ .torn := resolve_ne_torn_of_ascii hascii
  have hremains : Remains cs "File:///opt/app.jar".toList := by
    have hurl : ¬ LeadsIntoArchive ("File:".toList ++ "///opt/app.jar".toList) :=
      IsFileScheme.not_leadsIntoArchive (by decide) _
    have hinner : Remains " File:///opt/app.jar ".toList "File:///opt/app.jar".toList := .self hurl
    have htrim : Text.trimChars cs =
        "JAR:".toList ++ (" File:///opt/app.jar ".toList ++ '!' :: '/' :: "a.toml".toList) := by
      decide
    exact .archive (by decide) htrim (by decide) hinner
  have hnames : Names "File:///opt/app.jar".toList p :=
    .inl ⟨"File:".toList, "///opt/app.jar".toList, by decide, by decide, by decide⟩
  have hblanks : ∀ c ∈ [' '], Text.isBlank c = true := List.all_eq_true.mp (by decide)
  have hspelled : Respelled cs "jar:file:///opt/app.jar!/a.toml".toList := by
    have houter : Respelled cs "JAR: File:///opt/app.jar !/a.toml".toList :=
      .symm (.surrounded [' '] [] _ hblanks (by simp))
    have hcase : Respelled "JAR: File:///opt/app.jar !/a.toml".toList
        "jar: File:///opt/app.jar !/a.toml".toList :=
      .scheme "JAR:".toList "jar:".toList _ (by decide) (by decide)
    have hblank : Respelled " File:///opt/app.jar ".toList "File:///opt/app.jar".toList :=
      .symm (.surrounded [' '] [' '] _ hblanks hblanks)
    have hurl : Respelled "File:///opt/app.jar".toList "file:///opt/app.jar".toList :=
      .scheme "File:".toList "file:".toList _ (by decide) (by decide)
    have hinner : Respelled "jar: File:///opt/app.jar !/a.toml".toList
        "jar:file:///opt/app.jar!/a.toml".toList :=
      .archive "jar:".toList "a.toml".toList hjar (by decide) (hblank.trans hurl)
    exact houter.trans (hcase.trans hinner)
  have hfile : resolve cs = .file p :=
    ((found_as_remains cs).1 hsmooth p).mpr ⟨_, hremains, hnames⟩
  have hmark : ¬ ['!', '/'] <:+: "/opt/app.jar".toList := by decide
  refine ⟨⟨hsmooth, hfile⟩, ⟨hspelled, ?_⟩, hjar, hmark, ?_⟩
  · rw [← (found_as_remains cs).2.2 _ hspelled]
    exact hfile
  · exact (found_as_remains _).2.1 "jar:".toList "/opt/app.jar".toList (.self _) hjar hmark

end LiveConfig.Location
