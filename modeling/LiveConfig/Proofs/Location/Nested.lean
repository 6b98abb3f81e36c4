import Mathlib.Data.List.Infix
import LiveConfig.Proofs.Location.Torn
import LiveConfig.Proofs.Text.Trimming

/-! Entries in archives, and in archives within archives. The schemes stand in front from the inside
out and the entries behind from the outside in, but every scheme takes what is before the first
separator. So a single scheme finds the archive on disk however deep the entry is, and with a second
one nothing is found. -/

namespace LiveConfig.Location

/-- An entry within archives: one scheme for each archive in front of the archive on disk, and
behind it the way through the archives. -/
def nested (schemes : List (List Char)) (archive : List Char) (entries : List (List Char)) :
    List Char :=
  schemes.flatten ++ (archive ++ entries.flatMap fun e => '!' :: '/' :: e)

section Separator

variable {cs front rest : List Char} {c : Char}

theorem archive?_of_separator : archive? ('!' :: '/' :: rest) = some [] := by
  simp [archive?]

theorem archive?_cons (h : ¬ (c = '!' ∧ cs.head? = some '/')) :
    archive? (c :: cs) = (archive? cs).map (c :: ·) := by
  rw [archive?]
  rintro tail rfl rfl
  exact h ⟨rfl, rfl⟩

theorem archive?_cons_eq_none_iff : archive? (c :: cs) = none ↔
    ¬ (c = '!' ∧ cs.head? = some '/') ∧ archive? cs = none := by
  by_cases h : c = '!' ∧ cs.head? = some '/'
  · obtain ⟨rfl, hhead⟩ := h
    obtain ⟨tail, rfl⟩ := List.head?_eq_some_iff.mp hhead
    simp [archive?_of_separator]
  · rw [archive?_cons h, Option.map_eq_none_iff, iff_and_self]
    exact fun _ => h

theorem archive?_eq_none_iff : archive? cs = none ↔ ¬ ['!', '/'] <:+: cs := by
  induction cs with
  | nil => simp [archive?]
  | cons c cs ih =>
    have hhead : ['!', '/'] <+: c :: cs ↔ c = '!' ∧ cs.head? = some '/' := by
      cases cs <;> simp [List.cons_prefix_cons, eq_comm]
    rw [archive?_cons_eq_none_iff, List.infix_cons_iff, not_or, hhead, ih]

theorem archive?_append_separator (h : archive? cs = none) :
    archive? (cs ++ '!' :: '/' :: rest) = some cs := by
  induction cs with
  | nil => exact archive?_of_separator
  | cons c cs ih =>
    obtain ⟨hfirst, hcs⟩ := archive?_cons_eq_none_iff.mp h
    have hstill : ¬ (c = '!' ∧ (cs ++ '!' :: '/' :: rest).head? = some '/') := by
      cases cs <;> simp_all
    rw [List.cons_append, archive?_cons hstill, ih hcs, Option.map_some]

theorem archive?_eq_some_iff {a : List Char} : archive? cs = some a ↔
    ∃ rest, cs = a ++ '!' :: '/' :: rest ∧ archive? a = none := by
  constructor
  · intro h
    induction cs generalizing a with
    | nil => contradiction
    | cons c cs ih =>
      by_cases hmark : c = '!' ∧ cs.head? = some '/'
      · obtain ⟨rfl, hhead⟩ := hmark
        obtain ⟨rest, rfl⟩ := List.head?_eq_some_iff.mp hhead
        obtain rfl := Option.some.inj (archive?_of_separator.symm.trans h)
        exact ⟨rest, rfl, rfl⟩
      · rw [archive?_cons hmark] at h
        obtain ⟨b, hb, rfl⟩ := Option.map_eq_some_iff.mp h
        obtain ⟨rest, rfl, hnone⟩ := ih hb
        refine ⟨rest, rfl, archive?_cons_eq_none_iff.mpr ⟨?_, hnone⟩⟩
        rintro ⟨rfl, hhead⟩
        exact hmark ⟨rfl, by simp [hhead]⟩
  · rintro ⟨rest, rfl, hnone⟩
    exact archive?_append_separator hnone

theorem archive?_append (hfront : '!' ∉ front) (h : archive? cs = none) :
    archive? (front ++ cs) = none := by
  induction front with
  | nil => exact h
  | cons c front ih =>
    rw [List.mem_cons, not_or] at hfront
    rw [List.cons_append, archive?_cons_eq_none_iff]
    exact ⟨fun hc => hfront.1 hc.1.symm, ih hfront.2⟩

end Separator

section Scheme

variable {front cs rest : List Char}

instance (front : List Char) : Decidable (IsArchiveScheme front) :=
  inferInstanceAs (Decidable (_ ∈ _))

def IsScheme (front : List Char) : Prop :=
  String.ofList (Text.lowerChars front) ∈ ["jar:", "zip:", "war:", "file:"]

instance (front : List Char) : Decidable (IsScheme front) := inferInstanceAs (Decidable (_ ∈ _))

theorem IsArchiveScheme.isScheme (h : IsArchiveScheme front) : IsScheme front := by
  simp only [IsScheme, IsArchiveScheme, List.mem_cons, List.not_mem_nil] at h ⊢
  tauto

theorem IsScheme.lower (h : IsScheme front) : Text.lowerChars front ∈
    ["jar:".toList, "zip:".toList, "war:".toList, "file:".toList] := by
  unfold IsScheme at h
  simp only [List.mem_cons, List.not_mem_nil, or_false] at h ⊢
  simpa only [← String.toList_inj, String.toList_ofList] using h

theorem IsScheme.forall_lower {p : Char → Bool} (h : IsScheme front)
    (hp : ["jar:".toList, "zip:".toList, "war:".toList, "file:".toList].all (·.all p) = true) :
    ∀ c ∈ front, p c.toLower = true := by
  intro c hc
  have hall := List.all_eq_true.mp hp _ h.lower
  exact List.all_eq_true.mp hall _ (List.mem_map_of_mem hc)

theorem IsScheme.notMem (h : IsScheme front) : '!' ∉ front := by
  intro hmem
  exact absurd (h.forall_lower (p := (· != '!')) (by decide) '!' hmem) (by decide)

theorem IsArchiveScheme.notMem (h : IsArchiveScheme front) : '!' ∉ front := h.isScheme.notMem

theorem IsScheme.not_blank (h : IsScheme front) : ∀ c ∈ front, Text.isBlank c = false := by
  intro c hc
  rw [← Text.isBlank_toLower, ← Bool.not_eq_true']
  exact h.forall_lower (p := (!Text.isBlank ·)) (by decide) c hc

theorem IsScheme.ne_nil (h : IsScheme front) : front ≠ [] := by
  rintro rfl
  exact absurd h.lower (by decide)

theorem IsScheme.first (h : IsScheme front) (cs : List Char) :
    ∃ c ∈ (front ++ cs).head?, Text.isBlank c = false := by
  obtain ⟨c, tail, rfl⟩ := List.exists_cons_of_ne_nil h.ne_nil
  exact ⟨c, rfl, h.not_blank c List.mem_cons_self⟩

theorem IsScheme.trimChars_append (h : IsScheme front) (cs : List Char) :
    Text.trimChars (front ++ cs) = front ++ (cs.reverse.dropWhile Text.isBlank).reverse := by
  have hfirst : ∃ c ∈ front.head?, Text.isBlank c = false := by simpa using h.first []
  have hlast : ∃ c ∈ front.getLast?, Text.isBlank c = false := by
    obtain ⟨c, hc⟩ := List.getLast?_isSome.mpr h.ne_nil |> Option.isSome_iff_exists.mp
    exact ⟨c, hc, h.not_blank c (List.mem_of_getLast? hc)⟩
  exact Text.trimChars_append_eq hfirst hlast cs

/-- The file of an entry is that of what is before the first separator. -/
theorem resolve_in_archive (hfront : IsArchiveScheme front) (h : archive? cs = none) :
    resolve (front ++ (cs ++ '!' :: '/' :: rest)) = resolve cs := by
  have hlast : ∃ c ∈ (front ++ (cs ++ ['!', '/'])).getLast?, Text.isBlank c = false :=
    ⟨'/', by simp, by decide⟩
  obtain ⟨kept, -, htrim⟩ := Text.trimChars_append (hfront.isScheme.first _) hlast rest
  have hbody : front ++ (cs ++ '!' :: '/' :: rest) = front ++ (cs ++ ['!', '/']) ++ rest := by
    simp
  have hkept : Text.trimChars (front ++ (cs ++ '!' :: '/' :: rest)) =
      front ++ (cs ++ '!' :: '/' :: kept) := by
    rw [hbody, htrim]
    simp
  have hsome : Text.trimChars (front ++ (cs ++ '!' :: '/' :: rest)) ≠ [] := by
    rw [hkept]
    exact List.append_ne_nil_of_left_ne_nil hfront.isScheme.ne_nil _
  have hscheme := archiveScheme_eq_found_iff.mpr ⟨front, hkept, hfront⟩
  exact resolve_of_archive hsome hscheme (archive?_append_separator h)

theorem resolve_without_separator (hfront : IsArchiveScheme front) (h : archive? cs = none) :
    resolve (front ++ cs) = .nothing := by
  have htrim := hfront.isScheme.trimChars_append cs
  have hnone : archive? (cs.reverse.dropWhile Text.isBlank).reverse = none := by
    rw [archive?_eq_none_iff] at h ⊢
    have hkept := List.reverse_prefix.mpr (List.dropWhile_suffix Text.isBlank (l := cs.reverse))
    rw [List.reverse_reverse] at hkept
    exact fun hmark => h (hmark.trans hkept.isInfix)
  have hsome : Text.trimChars (front ++ cs) ≠ [] := by
    rw [htrim]
    exact List.append_ne_nil_of_left_ne_nil hfront.isScheme.ne_nil _
  have hscheme := archiveScheme_eq_found_iff.mpr ⟨front, htrim, hfront⟩
  exact resolve_of_no_archive hsome hscheme hnone

end Scheme

/-- An entry within archives is looked for in the archive on disk where one scheme stands in front,
whatever stands behind. Behind two schemes or more nothing is found, because the archive that the
first one takes is a location with a scheme and without a separator. -/
theorem resolve_nested {schemes entries : List (List Char)} {archive : List Char}
    (hschemes : ∀ s ∈ schemes, IsArchiveScheme s) (hdeep : schemes ≠ []) (hentries : entries ≠ [])
    (harchive : ¬ ['!', '/'] <:+: archive) :
    resolve (nested schemes archive entries) =
      if schemes.length = 1 then resolve archive else .nothing := by
  obtain ⟨s, inner, rfl⟩ := List.exists_cons_of_ne_nil hdeep
  obtain ⟨e, entries, rfl⟩ := List.exists_cons_of_ne_nil hentries
  rw [List.forall_mem_cons] at hschemes
  have hmarks : '!' ∉ inner.flatten := by
    rw [List.mem_flatten]
    rintro ⟨t, ht, hmem⟩
    exact (hschemes.2 t ht).notMem hmem
  have hnone := archive?_eq_none_iff.mpr harchive
  have hinner : archive? (inner.flatten ++ archive) = none := archive?_append hmarks hnone
  have hbody : nested (s :: inner) archive (e :: entries) =
      s ++ (inner.flatten ++ archive ++
        '!' :: '/' :: (e ++ entries.flatMap fun e => '!' :: '/' :: e)) := by
    simp [nested]
  rw [hbody, resolve_in_archive hschemes.1 hinner]
  cases inner with
  | nil => rfl
  | cons t inner =>
    rw [List.forall_mem_cons] at hschemes
    have hrest : archive? (inner.flatten ++ archive) = none := by
      refine archive?_append ?_ hnone
      exact fun hmem => hmarks (by simp [hmem])
    rw [if_neg (by simp), List.flatten_cons, List.append_assoc]
    exact resolve_without_separator hschemes.2.1 hrest

theorem resolve_app_jar : resolve "/opt/app.jar".toList = .file (.ofString "/opt/app.jar") := by
  rw [resolve_of_missing (by decide) (by decide)]
  decide

theorem resolve_nested_app_jar :
    (∀ s ∈ ["JAR:".toList], IsArchiveScheme s) ∧ ¬ ['!', '/'] <:+: "/opt/app.jar".toList ∧
    resolve (nested ["JAR:".toList] "/opt/app.jar".toList ["lib.zip".toList, "a.toml".toList]) =
      .file (.ofString "/opt/app.jar") := by
  have hschemes : ∀ s ∈ ["JAR:".toList], IsArchiveScheme s := by decide
  have harchive : ¬ ['!', '/'] <:+: "/opt/app.jar".toList := by decide
  refine ⟨hschemes, harchive, ?_⟩
  rw [resolve_nested hschemes (by simp) (by simp) harchive]
  exact resolve_app_jar

/-- The archive of an entry two archives deep is on disk, and the location of the entry has no
file. -/
theorem nested_archive_missed :
    resolve "/opt/app.jar".toList = .file (.ofString "/opt/app.jar") ∧
    nested ["jar:".toList, "zip:".toList] "/opt/app.jar".toList
      ["lib.zip".toList, "a.toml".toList] = "jar:zip:/opt/app.jar!/lib.zip!/a.toml".toList ∧
    resolve "jar:zip:/opt/app.jar!/lib.zip!/a.toml".toList = .nothing := by
  refine ⟨resolve_app_jar, by decide, ?_⟩
  have houter : IsArchiveScheme "jar:".toList := by decide
  have hinner : IsArchiveScheme "zip:".toList := by decide
  have hcut : archive? "zip:/opt/app.jar".toList = none := by decide
  have huncut : archive? "/opt/app.jar".toList = none := by decide
  have hbehind : resolve "jar:zip:/opt/app.jar!/lib.zip!/a.toml".toList =
      resolve "zip:/opt/app.jar".toList :=
    resolve_in_archive houter hcut
  have hnothing : resolve "zip:/opt/app.jar".toList = .nothing :=
    resolve_without_separator hinner huncut
  exact hbehind.trans hnothing

end LiveConfig.Location
