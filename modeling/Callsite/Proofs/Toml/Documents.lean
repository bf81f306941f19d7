import Callsite.Proofs.Toml.Values

set_option autoImplicit false

/-! Documents read back, line by line: headers, and entries under names of any kind. -/

namespace Callsite.Toml

/-! ### Names -/

def beginsName (c : Char) : Bool :=
  isKeyChar c || c = '"' || c = '\''

theorem name?_bare {text : List Char} (filled : text ≠ []) (bare : ∀ c ∈ text, isKeyChar c = true)
    (rest : List Char) : name? (text ++ ' ' :: rest) = some (String.ofList text, ' ' :: rest) := by
  have taken : (text ++ ' ' :: rest).takeWhile isKeyChar = text := by
    rw [List.takeWhile_append_of_pos bare, List.takeWhile_cons_of_neg (by decide), List.append_nil]
  have left : (text ++ ' ' :: rest).dropWhile isKeyChar = ' ' :: rest := by
    rw [List.dropWhile_append_of_pos bare, List.dropWhile_cons_of_neg (by decide)]
  rw [name?, taken, left]
  cases text with
  | nil => exact absurd rfl filled
  | cons c text => rfl

theorem name?_of_lineString? {quote : Char} {text content after : List Char}
    (notKey : isKeyChar quote = false)
    (read : lineString? (quote :: text) = some (content, after)) :
    name? (quote :: text) = some (String.ofList content, after) := by
  rw [name?, List.takeWhile_cons_of_neg (Bool.eq_false_iff.mp notKey), read]
  rfl

theorem writeName_cases (name : String) :
    (writeName name = name.toList ∧ name.toList ≠ [] ∧ ∀ c ∈ name.toList, isKeyChar c = true) ∨
      writeName name = writeStyled name.toList .quoted ∨
      (writeName name = writeStyled name.toList .literal ∧ StringStyle.literal.Suits name.toList) := by
  rw [writeName]
  split_ifs with bare double literal
  · rw [Bool.and_eq_true, Bool.not_eq_true', List.isEmpty_eq_false_iff, List.all_eq_true] at bare
    exact Or.inl ⟨rfl, bare⟩
  · exact Or.inr (Or.inl rfl)
  · refine Or.inr (Or.inr ⟨rfl, ?_⟩)
    rw [Bool.not_eq_true', Bool.or_eq_false_iff] at literal
    obtain ⟨noControl, noQuote⟩ := literal
    intro c member
    have harmless := List.any_eq_false.mp noControl c member
    rw [Bool.or_eq_true, not_or, Bool.not_eq_true, decide_eq_true_eq] at harmless
    refine ⟨?_, harmless.2, harmless.1⟩
    rintro rfl
    exact Bool.false_ne_true (noQuote.symm.trans (List.contains_iff_mem.mpr member))
  · exact Or.inr (Or.inl rfl)

theorem writeName_head (name : String) :
    ∃ first more, writeName name = first :: more ∧ beginsName first = true := by
  obtain ⟨written, filled, bare⟩ | written | ⟨written, _⟩ := writeName_cases name
  · obtain ⟨first, more, same⟩ := List.exists_cons_of_ne_nil filled
    refine ⟨first, more, written.trans same, ?_⟩
    rw [beginsName, bare first (same ▸ List.mem_cons_self)]
    rfl
  · exact ⟨_, _, written, rfl⟩
  · exact ⟨_, _, written, rfl⟩

theorem name?_writeName (name : String) (rest : List Char) :
    name? (writeName name ++ ' ' :: rest) = some (name, ' ' :: rest) := by
  obtain ⟨written, filled, bare⟩ | written | ⟨written, suits⟩ := writeName_cases name
  · rw [written, name?_bare filled bare, String.ofList_toList]
  · have read := lineString?_quoted name.toList (' ' :: rest)
    rw [written]
    rw [quoted_append] at read ⊢
    rw [name?_of_lineString? (by decide) read, String.ofList_toList]
  · have read := lineString?_literal suits (' ' :: rest)
    rw [written]
    rw [literal_append] at read ⊢
    rw [name?_of_lineString? (by decide) read, String.ofList_toList]

theorem skipBlanks_cons {first : Char} (notBlank : isBlank first = false) (rest : List Char) :
    skipBlanks (first :: rest) = first :: rest :=
  List.dropWhile_cons_of_neg (Bool.eq_false_iff.mp notBlank)

theorem dottedKey?_writeName (name : String) (rest : List Char) :
    dottedKey? (writeName name ++ ' ' :: '=' :: rest) = some (([], name), '=' :: rest) := by
  have read := name?_writeName name ('=' :: rest)
  obtain ⟨first, more, written, begins⟩ := writeName_head name
  have notBlank : isBlank first = false := by
    simp [isBlank, ne_of_accepted begins (by decide : beginsName ' ' = false),
      ne_of_accepted begins (by decide : beginsName '\t' = false)]
  rw [written, List.cons_append] at read ⊢
  change key? (78 + 1) _ = _
  rw [key?, skipBlanks_cons notBlank, read]
  rfl

/-! ### Lines -/

structure IsLine (line : List Char) (statement : Statement) : Prop where
  begins : ∃ first more, line = first :: more ∧ isBlank first = false ∧ first ∉ ['#', '\n', '\r']
  reads : ∀ rest, statement? (line ++ rest) = some (statement, rest)

theorem isLine_entry (name : String) {text : List Char} {value : Toml} (written : Writes text value) :
    IsLine (writeEntry name text) (.entry [] name value) := by
  obtain ⟨first, more, named, begins⟩ := writeName_head name
  have differ {mark : Char} (other : beginsName mark = false) : first ≠ mark :=
    ne_of_accepted begins other
  refine ⟨⟨first, more ++ ' ' :: '=' :: ' ' :: text ++ ['\n'], ?_, ?_, ?_⟩, fun rest => ?_⟩
  · simp [writeEntry, named]
  · simp [isBlank, differ (by decide : beginsName ' ' = false), differ (by decide : beginsName '\t' = false)]
  · simp [differ (by decide : beginsName '#' = false), differ (by decide : beginsName '\n' = false),
      differ (by decide : beginsName '\r' = false)]
  · have key := dottedKey?_writeName name (' ' :: (text ++ '\n' :: rest))
    have read := written.reads rest
    obtain ⟨head, tail, filled, notBlank⟩ := written.begins
    have laid : writeEntry name text ++ rest =
        writeName name ++ ' ' :: '=' :: ' ' :: (text ++ '\n' :: rest) := by
      simp [writeEntry]
    have skipped : skipBlanks (' ' :: (text ++ '\n' :: rest)) = text ++ '\n' :: rest := by
      rw [filled]
      exact skipBlanks_cons notBlank _
    rw [laid]
    rw [named, List.cons_append] at key ⊢
    rw [statement?, key]
    · simp only [after?, if_true, Option.bind_eq_bind, Option.bind_some, skipped, read]
      rfl
    · exact fun _ same => differ (by decide) (List.cons.inj same).1
    · exact fun _ same => differ (by decide) (List.cons.inj same).1

theorem isLine_header {header name : String} {path : List String}
    (read : ∀ rest, statement? (writeHeader header ++ rest) = some (.table path name, rest)) :
    IsLine (writeHeader header) (.table path name) :=
  ⟨⟨_, _, rfl, rfl, by decide⟩, read⟩

/-- The statements of a text, given enough fuel. -/
def Reads (text : List Char) (statements : List Statement) : Prop :=
  ∀ fuel, text.length < fuel → statements? fuel text = some statements

theorem reads_nil : Reads [] [] := by
  intro fuel enough
  obtain ⟨fuel, rfl⟩ := Nat.exists_eq_succ_of_ne_zero (Nat.ne_of_gt enough)
  rfl

section

variable {text : List Char} {statements : List Statement}

theorem reads_break (read : Reads text statements) : Reads ('\n' :: text) statements := by
  intro fuel enough
  obtain ⟨fuel, rfl⟩ := Nat.exists_eq_succ_of_ne_zero (Nat.ne_zero_of_lt enough)
  exact read fuel (Nat.lt_of_succ_lt_succ enough)

theorem reads_line {line : List Char} {statement : Statement} (isLine : IsLine line statement)
    (read : Reads text statements) : Reads (line ++ text) (statement :: statements) := by
  intro fuel enough
  obtain ⟨fuel, rfl⟩ := Nat.exists_eq_succ_of_ne_zero (Nat.ne_zero_of_lt enough)
  have statement := isLine.reads text
  obtain ⟨first, more, filled, notBlank, regular⟩ := isLine.begins
  simp only [List.mem_cons, List.not_mem_nil, or_false, not_or] at regular
  rw [filled, List.cons_append] at statement enough ⊢
  rw [statements?, skipBlanks_cons notBlank]
  split
  · rename_i same
    cases same
  · rename_i same
    exact absurd (List.cons.inj same).1 regular.1
  · rename_i same
    exact absurd (List.cons.inj same).1 regular.2.1
  · rename_i same
    exact absurd (List.cons.inj same).1 regular.2.2
  · have more : text.length < fuel := by
      simp only [List.length_cons, List.length_append] at enough
      omega
    simp only [statement, Option.bind_eq_bind, Option.bind_some, read fuel more]

theorem reads_lines {α : Type} {line : α → List Char} {statement : α → Statement}
    (isLine : ∀ item, IsLine (line item) (statement item)) (items : List α) :
    Reads (items.flatMap line) (items.map statement) := by
  induction items with
  | nil => exact reads_nil
  | cons item items ih => exact reads_line (isLine item) ih

end

/-! ### Tables -/

theorem bind_fresh {name : String} {entries : Entries} (fresh : name ∉ entries.map Prod.fst) (value : Toml) :
    bind name value entries = some (entries ++ [(name, value)]) := by
  induction entries with
  | nil => rfl
  | cons entry entries ih =>
      obtain ⟨other, content⟩ := entry
      rw [List.map_cons, List.mem_cons, not_or] at fresh
      have more := ih fresh.2
      rw [bind] at more ⊢
      rw [update, if_neg (Ne.symm fresh.1), more]
      rfl

def bindings (entries : Entries) : List Statement :=
  entries.map fun (name, value) => .entry [] name value

/-- Whether `host` puts entries into the table that a header names. -/
def Hosts (header : List String) (host : Entries → Entries) : Prop :=
  ∀ change inner, within change header (host inner) = (change inner).map host

/-- Entries below a header go to the end of its table. -/
theorem assemble?_bindings {header : List String} {host : Entries → Entries} (hosted : Hosts header host)
    (inner entries : Entries) (distinct : ((inner ++ entries).map Prod.fst).Nodup) (more : List Statement) :
    assemble? header (bindings entries ++ more) (host inner) =
      assemble? header more (host (inner ++ entries)) := by
  induction entries generalizing inner with
  | nil => rw [List.append_nil]; rfl
  | cons entry entries ih =>
      obtain ⟨name, value⟩ := entry
      have fresh : name ∉ inner.map Prod.fst := by
        rw [List.map_append, List.map_cons] at distinct
        exact fun member => (List.nodup_append.mp distinct).2.2 name member name List.mem_cons_self rfl
      have split : inner ++ (name, value) :: entries = inner ++ [(name, value)] ++ entries := by
        rw [List.append_assoc, List.singleton_append]
      rw [split] at distinct ⊢
      have bound : within (put name value []) header (host inner) =
          some (host (inner ++ [(name, value)])) := by
        rw [hosted, put, bind_fresh fresh]
        rfl
      rw [bindings, List.map_cons, List.cons_append, assemble?, bound]
      exact ih _ distinct

theorem assemble?_table {header : List String} {host : Entries → Entries} (hosted : Hosts header host)
    (entries : Entries) (distinct : (entries.map Prod.fst).Nodup) (more : List Statement) :
    assemble? header (bindings entries ++ more) (host []) = assemble? header more (host entries) :=
  assemble?_bindings hosted [] entries distinct more

end Callsite.Toml
