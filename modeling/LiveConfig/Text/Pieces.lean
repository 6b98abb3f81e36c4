/-! Lists of characters or bytes as pieces between separators. -/

namespace LiveConfig.Text

def splitOn {α : Type} (sep : α → Bool) : List α → List (List α)
  | [] => [[]]
  | c :: cs =>
    match sep c, splitOn sep cs with
    | true, pieces => [] :: pieces
    | false, [] => [[c]]
    | false, piece :: pieces => (c :: piece) :: pieces

theorem splitOn_ne_nil {α : Type} (sep : α → Bool) (cs : List α) : splitOn sep cs ≠ [] := by
  cases cs with
  | nil => simp [splitOn]
  | cons c cs =>
    rw [splitOn]
    split <;> simp

theorem intercalate_splitOn {α : Type} [DecidableEq α] (x : α) (cs : List α) :
    [x].intercalate (splitOn (· = x) cs) = cs := by
  induction cs with
  | nil => rfl
  | cons c cs ih =>
    have hne := splitOn_ne_nil (· = x) cs
    rw [splitOn]
    cases h : splitOn (· = x) cs with
    | nil => exact absurd h hne
    | cons piece pieces =>
      rw [h] at ih
      by_cases hc : c = x
      · subst hc
        simp only [decide_true]
        cases pieces <;> simp_all [List.intercalate]
      · simp only [hc, decide_false]
        cases pieces <;> simp_all [List.intercalate]

end LiveConfig.Text
