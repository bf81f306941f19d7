set_option autoImplicit false

/-! Memo tables: what has been computed so far, by key. -/

namespace Callsite

/-- A table with at most one entry for each key. -/
structure Memo (κ ν : Type) where
  entries : List (κ × ν) := []
  deriving Repr

namespace Memo

variable {κ ν : Type} [DecidableEq κ]

def find? (memo : Memo κ ν) (key : κ) : Option ν :=
  (memo.entries.find? fun entry => entry.1 = key).map Prod.snd

def insert (memo : Memo κ ν) (key : κ) (value : ν) : Memo κ ν :=
  ⟨(key, value) :: memo.entries.filter fun entry => entry.1 ≠ key⟩

def size (memo : Memo κ ν) : Nat :=
  memo.entries.length

def isEmpty (memo : Memo κ ν) : Bool :=
  memo.entries.isEmpty

private theorem find?_filter_ne (entries : List (κ × ν)) (key other : κ) (different : other ≠ key) :
    (entries.filter fun entry => entry.1 ≠ key).find? (fun entry => entry.1 = other) =
      entries.find? fun entry => entry.1 = other := by
  induction entries with
  | nil => rfl
  | cons entry rest ih =>
      by_cases here : entry.1 = key
      · have skip : ¬entry.1 = other := fun same => different (same.symm.trans here)
        rw [List.filter_cons_of_neg (by simp [here]), List.find?_cons_of_neg (by simp [skip]), ih]
      · rw [List.filter_cons_of_pos (by simp [here])]
        by_cases found : entry.1 = other
        · rw [List.find?_cons_of_pos (by simp [found]), List.find?_cons_of_pos (by simp [found])]
        · rw [List.find?_cons_of_neg (by simp [found]), List.find?_cons_of_neg (by simp [found]), ih]

theorem find?_insert (memo : Memo κ ν) (key other : κ) (value : ν) :
    (memo.insert key value).find? other = if other = key then some value else memo.find? other := by
  unfold find? insert
  by_cases same : other = key
  · subst same
    simp
  · rw [List.find?_cons_of_neg (by simpa using fun equal => same equal.symm),
      find?_filter_ne _ _ _ same, if_neg same]

end Memo

end Callsite
