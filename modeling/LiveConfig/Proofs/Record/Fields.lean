/-! The fields of a bean with what they hold, and what becomes of them when fields are written one
after the other: each holds what was written to it last. -/

namespace LiveConfig.Record

abbrev Fields (γ : Type) := List (String × γ)

namespace Fields

variable {γ : Type}

def write (w : String × γ) (fs : Fields γ) : Fields γ :=
  fs.map fun e => if e.1 = w.1 then w else e

def writeAll (ws : List (String × γ)) (fs : Fields γ) : Fields γ :=
  ws.foldl (fun fs w => fs.write w) fs

variable {w : String × γ} {ws : List (String × γ)} {fs : Fields γ} {field : String}

theorem keys_write : (write w fs).map (·.1) = fs.map (·.1) := by
  rw [write, List.map_map]
  refine List.map_congr_left fun e _ => ?_
  by_cases h : e.1 = w.1 <;> simp [h]

theorem lookup_write_self (h : w.1 ∈ fs.map (·.1)) : (write w fs).lookup w.1 = some w.2 := by
  induction fs with
  | nil => contradiction
  | cons e fs ih =>
    rw [write, List.map_cons]
    by_cases he : e.1 = w.1
    · rw [if_pos he, List.lookup_cons_self]
    · have hmem : w.1 ∈ fs.map (·.1) := (List.mem_cons.mp h).resolve_left (Ne.symm he)
      rw [if_neg he, List.lookup_cons, beq_eq_false_iff_ne.mpr (Ne.symm he)]
      exact ih hmem

theorem lookup_write_of_ne (h : field ≠ w.1) : (write w fs).lookup field = fs.lookup field := by
  induction fs with
  | nil => rfl
  | cons e fs ih =>
    rw [write, List.map_cons, List.lookup_cons, List.lookup_cons]
    by_cases he : e.1 = w.1
    · rw [if_pos he, he, beq_eq_false_iff_ne.mpr h]
      exact ih
    · rw [if_neg he]
      split
      · rfl
      · exact ih

theorem keys_writeAll : (writeAll ws fs).map (·.1) = fs.map (·.1) := by
  induction ws generalizing fs with
  | nil => rfl
  | cons w ws ih => exact ih.trans keys_write

theorem writeAll_append (ws ws' : List (String × γ)) :
    writeAll (ws ++ ws') fs = writeAll ws' (writeAll ws fs) :=
  List.foldl_append

theorem lookup_writeAll_of_notMem (h : field ∉ ws.map (·.1)) :
    (writeAll ws fs).lookup field = fs.lookup field := by
  induction ws generalizing fs with
  | nil => rfl
  | cons w ws ih =>
    obtain ⟨hw, hws⟩ := not_or.mp (mt List.mem_cons.mpr h)
    exact (ih hws).trans (lookup_write_of_ne hw)

theorem lookup_writeAll_self (hw : w.1 ∈ fs.map (·.1)) (ws : List (String × γ))
    {ws' : List (String × γ)} (h : w.1 ∉ ws'.map (·.1)) :
    (writeAll (ws ++ w :: ws') fs).lookup w.1 = some w.2 := by
  have hkey : w.1 ∈ (writeAll ws fs).map (·.1) := by rwa [keys_writeAll]
  rw [writeAll_append]
  exact (lookup_writeAll_of_notMem h).trans (lookup_write_self hkey)

/-! Whatever a field holds, after the same has been written again it holds the same. -/

def latest (ws : List (String × γ)) (e : String × γ) : String × γ :=
  ws.foldl (fun e w => if e.1 = w.1 then w else e) e

theorem writeAll_eq_map : writeAll ws fs = fs.map (latest ws) := by
  induction ws generalizing fs with
  | nil => exact (List.map_id fs).symm
  | cons w ws ih =>
    have hrest : writeAll ws (fs.write w) = (fs.write w).map (latest ws) := ih
    rw [write, List.map_map] at hrest
    exact hrest

variable {e e' : String × γ}

theorem fst_latest : (latest ws e).1 = e.1 := by
  induction ws generalizing e with
  | nil => rfl
  | cons w ws ih =>
    rw [latest, List.foldl_cons]
    refine ih.trans ?_
    split
    · next h => exact h.symm
    · rfl

theorem latest_of_notMem (h : e.1 ∉ ws.map (·.1)) : latest ws e = e := by
  induction ws with
  | nil => rfl
  | cons w ws ih =>
    obtain ⟨hw, hws⟩ := not_or.mp (mt List.mem_cons.mpr h)
    have hrest : latest ws e = e := ih hws
    rwa [latest, List.foldl_cons, if_neg hw]

theorem latest_congr (hkey : e'.1 = e.1) (h : e.1 ∈ ws.map (·.1)) : latest ws e' = latest ws e := by
  induction ws generalizing e e' with
  | nil => contradiction
  | cons w ws ih =>
    rw [latest, latest, List.foldl_cons, List.foldl_cons, hkey]
    by_cases he : e.1 = w.1
    · rw [if_pos he, if_pos he]
    · have hmem : e.1 ∈ ws.map (·.1) := (List.mem_cons.mp h).resolve_left he
      rw [if_neg he, if_neg he]
      exact ih hkey hmem

theorem latest_latest : latest ws (latest ws e) = latest ws e := by
  by_cases h : e.1 ∈ ws.map (·.1)
  · exact latest_congr fst_latest h
  · rw [latest_of_notMem h, latest_of_notMem h]

theorem writeAll_writeAll : writeAll ws (writeAll ws fs) = writeAll ws fs := by
  simp only [writeAll_eq_map, List.map_map]
  exact List.map_congr_left fun e _ => latest_latest

end Fields

end LiveConfig.Record
