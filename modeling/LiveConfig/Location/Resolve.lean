import LiveConfig.Location.FileUrl
import LiveConfig.Text.Blank

/-! The local file behind a location: a path, a file URL, or the archive that an entry is in. -/

namespace LiveConfig.Location

inductive Resolution where
  | file (p : FilePath)
  | nothing
  /-- The place where a scheme would end is inside a character, so no scheme can be looked for. -/
  | torn
  deriving DecidableEq, Repr

def Resolution.path? : Resolution → Option FilePath
  | file p => some p
  | _ => none

inductive Scheme where
  | found (rest : List Char)
  | missing
  | torn
  deriving DecidableEq, Repr

def scheme (size : Nat) (names : List String) (cs : List Char) : Scheme :=
  match Text.cut size cs with
  | .apart front rest =>
    if names.contains (String.ofList (Text.lowerChars front)) then .found rest else .missing
  | .tooShort => .missing
  | .inside => .torn

def archiveScheme : List Char → Scheme := scheme 4 ["jar:", "zip:", "war:"]

def fileScheme : List Char → Scheme := scheme 5 ["file:"]

def archive? : List Char → Option (List Char)
  | [] => none
  | c :: cs =>
    match c, cs with
    | '!', '/' :: _ => some []
    | _, _ => (archive? cs).map (c :: ·)

def isSchemeChar (c : Char) : Bool :=
  c.isAlphanum || c = '+' || c = '-' || c = '.'

/-- Some other scheme than those of files; a single letter is no scheme but a drive. -/
def isRemote (cs : List Char) : Bool :=
  let front := cs.takeWhile (· ≠ ':')
  front.length < cs.length && 1 < front.length && front.all isSchemeChar

theorem length_rest_of_cut {n : Nat} {cs front rest : List Char}
    (h : Text.cut n cs = .apart front rest) : rest.length ≤ cs.length := by
  induction cs generalizing n front rest with
  | nil =>
    cases n with
    | zero => simp only [Text.cut, Text.Cut.apart.injEq] at h; simp [← h.2]
    | succ n => simp [Text.cut] at h
  | cons c cs ih =>
    cases n with
    | zero => simp only [Text.cut, Text.Cut.apart.injEq] at h; simp [← h.2]
    | succ n =>
      simp only [Text.cut] at h
      split at h
      · cases hc : Text.cut (n + 1 - c.utf8Size) cs with
        | apart front' rest' =>
          simp only [hc, Text.Cut.push, Text.Cut.apart.injEq] at h
          exact h.2 ▸ Nat.le_succ_of_le (ih hc)
        | tooShort => simp [hc, Text.Cut.push] at h
        | inside => simp [hc, Text.Cut.push] at h
      · simp at h

theorem length_of_scheme {size : Nat} {names : List String} {cs rest : List Char}
    (h : scheme size names cs = .found rest) : rest.length ≤ cs.length := by
  unfold scheme at h
  split at h
  · next hc =>
    split at h
    · cases h; exact length_rest_of_cut hc
    · cases h
  · cases h
  · cases h

theorem length_archive? {cs a : List Char} (h : archive? cs = some a) :
    a.length < cs.length := by
  induction cs generalizing a with
  | nil => simp [archive?] at h
  | cons c cs ih =>
    simp only [archive?] at h
    split at h
    · cases h; simp
    · obtain ⟨b, hb, rfl⟩ := Option.map_eq_some_iff.mp h
      have := ih hb
      simp only [List.length_cons]
      omega

theorem length_trimChars_le (cs : List Char) : (Text.trimChars cs).length ≤ cs.length := by
  unfold Text.trimChars
  have h1 := (List.dropWhile_sublist Text.isBlank (l := cs)).length_le
  have h2 := (List.dropWhile_sublist Text.isBlank
    (l := (cs.dropWhile Text.isBlank).reverse)).length_le
  simp only [List.length_reverse] at h2 ⊢
  omega

def plain (cs : List Char) : Resolution :=
  match fileScheme cs with
  | .torn => .torn
  | .found rest =>
    match FileUrl.toPath? rest with
    | some p => .file p
    | none => .nothing
  | .missing => if isRemote cs then .nothing else .file (.ofChars cs)

/-- White space around a location does not count. The file of an archive location is that of the
archive, which is again a location. -/
def resolve (cs : List Char) : Resolution :=
  if Text.trimChars cs = [] then .nothing
  else
    match _hs : archiveScheme (Text.trimChars cs) with
    | .torn => .torn
    | .missing => plain (Text.trimChars cs)
    | .found rest =>
      match _ha : archive? rest with
      | none => .nothing
      | some a => resolve a
termination_by cs.length
decreasing_by
  have h1 := length_trimChars_le cs
  have h2 := length_of_scheme _hs
  have h3 := length_archive? _ha
  omega

def isTorn (location : String) : Bool := resolve location.toList = .torn

end LiveConfig.Location
