set_option autoImplicit false

/-! Dictionaries: entries in increasing order of their keys, so that dictionaries of equal contents are
equal and a listing is sorted. -/

namespace Callsite

theorem Dictionary.increasing_nil {α : Type} :
    ([] : List (String × α)).Pairwise fun left right => left.1 < right.1 :=
  List.Pairwise.nil

structure Dictionary (α : Type) where
  entries : List (String × α) := []
  increasing : entries.Pairwise (fun left right => left.1 < right.1) := by
    exact Dictionary.increasing_nil
  deriving DecidableEq, Repr

namespace Dictionary

variable {α : Type}

def empty : Dictionary α :=
  {}

instance : Inhabited (Dictionary α) :=
  ⟨empty⟩

def get? (dictionary : Dictionary α) (key : String) : Option α :=
  dictionary.entries.lookup key

def contains (dictionary : Dictionary α) (key : String) : Bool :=
  (dictionary.get? key).isSome

def keys (dictionary : Dictionary α) : List String :=
  dictionary.entries.map Prod.fst

def putAmong (key : String) (value : α) : List (String × α) → List (String × α)
  | [] => [(key, value)]
  | (other, content) :: rest =>
      if key < other then (key, value) :: (other, content) :: rest
      else if key = other then (key, value) :: rest
      else (other, content) :: putAmong key value rest

private theorem mem_putAmong {key : String} {value : α} {entry : String × α}
    {entries : List (String × α)} (member : entry ∈ putAmong key value entries) :
    entry = (key, value) ∨ entry ∈ entries := by
  induction entries with
  | nil => simpa [putAmong] using member
  | cons head rest ih =>
      rw [putAmong] at member
      split at member
      · simpa using member
      · split at member
        · rcases List.mem_cons.mp member with same | inRest
          · exact Or.inl same
          · exact Or.inr (List.mem_cons_of_mem _ inRest)
        · rcases List.mem_cons.mp member with same | inRest
          · exact Or.inr (same ▸ List.mem_cons_self)
          · rcases ih inRest with same | old
            · exact Or.inl same
            · exact Or.inr (List.mem_cons_of_mem _ old)

private theorem putAmong_increasing (key : String) (value : α) (entries : List (String × α))
    (increasing : entries.Pairwise fun left right => left.1 < right.1) :
    (putAmong key value entries).Pairwise fun left right => left.1 < right.1 := by
  induction entries with
  | nil => simp [putAmong]
  | cons head rest ih =>
      obtain ⟨below, tail⟩ := List.pairwise_cons.mp increasing
      rw [putAmong]
      split
      · rename_i less
        refine List.pairwise_cons.mpr ⟨?_, increasing⟩
        intro entry member
        rcases List.mem_cons.mp member with same | inRest
        · exact same ▸ less
        · exact String.lt_trans less (below entry inRest)
      · split
        · rename_i equal
          exact List.pairwise_cons.mpr ⟨fun entry member => equal ▸ below entry member, tail⟩
        · rename_i notLess notEqual
          refine List.pairwise_cons.mpr ⟨?_, ih tail⟩
          intro entry member
          rcases mem_putAmong member with same | inRest
          · rcases Std.lt_trichotomy key head.1 with less | equal | greater
            · exact absurd less notLess
            · exact absurd equal notEqual
            · exact same ▸ greater
          · exact below entry inRest

def put (dictionary : Dictionary α) (key : String) (value : α) : Dictionary α where
  entries := putAmong key value dictionary.entries
  increasing := putAmong_increasing key value dictionary.entries dictionary.increasing

/-- The dictionary of the given entries. Of entries with the same key, the last one counts. -/
def ofList (entries : List (String × α)) : Dictionary α :=
  entries.foldl (fun dictionary (key, value) => dictionary.put key value) empty

theorem lookup_cons_if (entry : String × α) (rest : List (String × α)) (key : String) :
    List.lookup key (entry :: rest) = if key = entry.1 then some entry.2 else List.lookup key rest := by
  rw [List.lookup_cons]
  by_cases same : key = entry.1
  · simp [same]
  · have no : (key == entry.1) = false := beq_eq_false_iff_ne.mpr same
    simp [no, same]

private theorem lookup_putAmong (entries : List (String × α)) (key other : String) (value : α) :
    (putAmong key value entries).lookup other =
      if other = key then some value else entries.lookup other := by
  induction entries with
  | nil => rw [putAmong, lookup_cons_if]
  | cons entry rest ih =>
      obtain ⟨name, content⟩ := entry
      rw [putAmong]
      split
      · rw [lookup_cons_if]
      · split
        · rename_i equal
          subst equal
          rw [lookup_cons_if, lookup_cons_if]
          by_cases same : other = key <;> simp [same]
        · rename_i different
          rw [lookup_cons_if, lookup_cons_if, ih]
          by_cases same : other = name
          · subst same
            simp [Ne.symm different]
          · simp [same]

theorem get?_put (dictionary : Dictionary α) (key other : String) (value : α) :
    (dictionary.put key value).get? other =
      if other = key then some value else dictionary.get? other :=
  lookup_putAmong dictionary.entries key other value

theorem mem_entries_of_get? {dictionary : Dictionary α} {key : String} {value : α}
    (found : dictionary.get? key = some value) : (key, value) ∈ dictionary.entries := by
  obtain ⟨before, after, split, _⟩ := List.lookup_eq_some_iff.mp found
  rw [split]
  exact List.mem_append_right before List.mem_cons_self

theorem contains_put_iff {dictionary : Dictionary α} {key other : String} {value : α} :
    (dictionary.put key value).contains other = true ↔
      other = key ∨ dictionary.contains other = true := by
  rw [contains, contains, get?_put]
  by_cases same : other = key <;> simp [same]

theorem mem_keys_iff {dictionary : Dictionary α} {key : String} :
    key ∈ dictionary.keys ↔ dictionary.contains key = true := by
  rw [contains, get?, List.lookup_isSome_iff, keys, List.mem_map]
  refine exists_congr fun entry => and_congr_right fun _ => ?_
  rw [beq_iff_eq, eq_comm]

theorem mem_keys_ofList_iff {entries : List (String × α)} {key : String} :
    key ∈ (ofList entries).keys ↔ key ∈ entries.map Prod.fst := by
  have grown (dictionary : Dictionary α) :
      (entries.foldl (fun dictionary (key, value) => dictionary.put key value) dictionary).contains
          key = true ↔
        key ∈ entries.map Prod.fst ∨ dictionary.contains key = true := by
    induction entries generalizing dictionary with
    | nil => simp
    | cons entry rest ih =>
        rw [List.foldl_cons, ih, contains_put_iff, List.map_cons, List.mem_cons, or_left_comm, or_assoc]
  have nothing : ¬(empty : Dictionary α).contains key = true := Bool.false_ne_true
  rw [mem_keys_iff, ofList, grown, or_iff_left nothing]

theorem nodup_keys (dictionary : Dictionary α) : dictionary.keys.Nodup := by
  refine List.pairwise_map.mpr (dictionary.increasing.imp fun {left right} less same => ?_)
  exact String.lt_irrefl right.1 (same ▸ less)

theorem eq_of_entries {left right : Dictionary α} (same : left.entries = right.entries) : left = right := by
  cases left
  cases right
  cases same
  rfl

theorem putAmong_of_lt {key : String} {value : α} {entries : List (String × α)}
    (above : ∀ entry ∈ entries, entry.1 < key) : putAmong key value entries = entries ++ [(key, value)] := by
  induction entries with
  | nil => rfl
  | cons entry entries ih =>
      obtain ⟨below, above⟩ := List.forall_mem_cons.mp above
      rw [putAmong, if_neg (String.lt_asymm below), if_neg, ih above, List.cons_append]
      rintro rfl
      exact String.lt_irrefl _ below

theorem ofList_entries (dictionary : Dictionary α) : ofList dictionary.entries = dictionary := by
  have appended (entries : List (String × α)) : ∀ before : Dictionary α,
      (before.entries ++ entries).Pairwise (fun left right => left.1 < right.1) →
        (entries.foldl (fun dictionary (key, value) => dictionary.put key value) before).entries =
          before.entries ++ entries := by
    induction entries with
    | nil => exact fun before _ => (List.append_nil _).symm
    | cons entry entries ih =>
        intro before ordered
        have last : (before.put entry.1 entry.2).entries = before.entries ++ [entry] :=
          putAmong_of_lt fun other member =>
            (List.pairwise_append.mp ordered).2.2 other member entry List.mem_cons_self
        have split : before.entries ++ entry :: entries = (before.put entry.1 entry.2).entries ++ entries := by
          rw [last, List.append_assoc, List.singleton_append]
        rw [split] at ordered ⊢
        exact ih _ ordered
  exact eq_of_entries (appended dictionary.entries empty dictionary.increasing)

theorem get?_foldl_put (keys : List String) (keyOf : String → String) (value : α) (other : String) :
    ∀ dictionary : Dictionary α,
      (keys.foldl (fun dictionary key => dictionary.put (keyOf key) value) dictionary).get? other =
        if other ∈ keys.map keyOf then some value else dictionary.get? other := by
  induction keys with
  | nil => exact fun _ => rfl
  | cons key rest ih =>
      intro dictionary
      rw [List.foldl_cons, ih, get?_put, List.map_cons]
      by_cases later : other ∈ rest.map keyOf <;> by_cases here : other = keyOf key <;>
        simp [later, here]

end Dictionary

end Callsite
