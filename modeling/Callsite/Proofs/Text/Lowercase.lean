import Callsite.Proofs.Text.Trimming
import Callsite.Text.Case

set_option autoImplicit false

/-! Lowercasing settles at once: a text in lower case stays as it is, and so does one that is trimmed
first. -/

namespace Callsite.Text

/-- A character that lowercasing leaves as it is, wherever it stands. -/
def IsLowered (c : Char) : Prop :=
  lowercaseChar c = [c] ∧ c ≠ 'Σ'

instance (c : Char) : Decidable (IsLowered c) :=
  inferInstanceAs (Decidable (_ ∧ _))

/-! ### Runs of code points -/

theorem toNat_ofNat {code : Nat} (valid : code.isValidChar) : (Char.ofNat code).toNat = code := by
  rw [Char.ofNat, dif_pos valid]
  rfl

namespace CaseRun

def codes (run : CaseRun) : List Nat :=
  (List.range ((run.last - run.first) / run.step + 1)).map fun count => run.first + run.step * count

/-- Whether the images of one run may be covered by another. -/
def meets (run other : CaseRun) : Bool :=
  other.first.ble (run.image run.last) && (run.image run.first).ble other.last &&
    run.codes.any fun code => other.covers (run.image code)

/-- Whether all code points of the run and all their images are characters, none of them white space. -/
def isPlain (run : CaseRun) : Bool :=
  ((run.image run.last).blt 0xd800 ||
      Nat.blt 0xdfff (run.image run.first) && (run.image run.last).blt 0x110000) &&
    blankCodes.all fun code => !run.covers code &&
      (code.blt (run.image run.first) || (run.image run.last).blt code)

variable {run other : CaseRun} {code : Nat}

theorem bounds_of_covers (covered : run.covers code = true) :
    run.first ≤ code ∧ code ≤ run.last ∧ (code - run.first) % run.step = 0 := by
  rw [covers, Bool.and_eq_true, Bool.and_eq_true, decide_eq_true_eq, decide_eq_true_eq,
    decide_eq_true_eq] at covered
  exact ⟨covered.1.1, covered.1.2, covered.2⟩

theorem mem_codes_of_covers (covered : run.covers code = true) : code ∈ run.codes := by
  obtain ⟨low, high, steps⟩ := bounds_of_covers covered
  have whole := Nat.div_add_mod (code - run.first) run.step
  have few : (code - run.first) / run.step ≤ (run.last - run.first) / run.step :=
    Nat.div_le_div_right (Nat.sub_le_sub_right high run.first)
  refine List.mem_map.mpr ⟨(code - run.first) / run.step, List.mem_range.mpr (by omega), ?_⟩
  omega

theorem image_bounds (covered : run.covers code = true) :
    run.image run.first ≤ run.image code ∧ run.image code ≤ run.image run.last := by
  obtain ⟨low, high, _⟩ := bounds_of_covers covered
  rw [image, image, image]
  omega

theorem not_covers_image (apart : run.meets other = false) (covered : run.covers code = true) :
    other.covers (run.image code) = false := by
  rw [← Bool.not_eq_true]
  intro inside
  obtain ⟨low, high⟩ := image_bounds covered
  obtain ⟨above, below, _⟩ := bounds_of_covers inside
  have met : run.meets other = true := by
    rw [meets, Bool.and_eq_true, Bool.and_eq_true, Nat.ble_eq, Nat.ble_eq, List.any_eq_true]
    exact ⟨⟨by omega, by omega⟩, code, mem_codes_of_covers covered, inside⟩
  rw [apart] at met
  contradiction

theorem isValidChar_image (plain : run.isPlain = true) (covered : run.covers code = true) :
    (run.image code).isValidChar := by
  obtain ⟨low, high⟩ := image_bounds covered
  rw [isPlain, Bool.and_eq_true, Bool.or_eq_true, Bool.and_eq_true, Nat.blt_eq, Nat.blt_eq, Nat.blt_eq]
    at plain
  unfold Nat.isValidChar
  omega

theorem not_isBlank_of_covers (plain : run.isPlain = true) {c : Char}
    (covered : run.covers c.toNat = true) :
    isBlank c = false ∧ isBlank (Char.ofNat (run.image c.toNat)) = false := by
  have apart : ∀ code ∈ blankCodes, run.covers code = false ∧
      (code < run.image run.first ∨ run.image run.last < code) := by
    intro code member
    rw [isPlain, Bool.and_eq_true, List.all_eq_true] at plain
    have known := plain.2 code member
    rwa [Bool.and_eq_true, Bool.or_eq_true, Nat.blt_eq, Nat.blt_eq, Bool.not_eq_true'] at known
  obtain ⟨low, high⟩ := image_bounds covered
  constructor
  · rw [← Bool.not_eq_true]
    intro blank
    rw [(apart _ (mem_blankCodes_of_isBlank blank)).1] at covered
    contradiction
  · rw [← Bool.not_eq_true]
    intro blank
    have beyond := (apart _ (mem_blankCodes_of_isBlank blank)).2
    rw [toNat_ofNat (isValidChar_image plain covered)] at beyond
    omega

end CaseRun

private theorem lowerRuns_checked : (lowerRuns.all fun run => run.isPlain &&
    lowerRuns.all fun other => !run.meets other) = true := by
  decide +kernel

theorem lowerRuns_apart {run : CaseRun} (member : run ∈ lowerRuns) :
    run.isPlain = true ∧ ∀ other ∈ lowerRuns, run.meets other = false := by
  have checked := List.all_eq_true.mp lowerRuns_checked run member
  rw [Bool.and_eq_true, List.all_eq_true] at checked
  refine ⟨checked.1, fun other inRuns => ?_⟩
  exact Bool.not_eq_true' _ ▸ checked.2 other inRuns

theorem mapCase_eq_or (runs : List CaseRun) (code : Nat) :
    mapCase runs code = code ∨
      ∃ run ∈ runs, run.covers code = true ∧ mapCase runs code = run.image code := by
  induction runs with
  | nil => exact .inl rfl
  | cons run rest ih =>
      rw [mapCase]
      by_cases early : code < run.first
      · exact .inl (if_pos early)
      rw [if_neg early]
      by_cases covered : run.covers code = true
      · rw [if_pos covered]
        exact .inr ⟨run, List.mem_cons_self, covered, rfl⟩
      · rw [if_neg covered]
        refine ih.imp_right ?_
        rintro ⟨other, member, found⟩
        exact ⟨other, List.mem_cons_of_mem run member, found⟩

theorem mapCase_eq_self {runs : List CaseRun} {code : Nat}
    (uncovered : ∀ run ∈ runs, run.covers code = false) : mapCase runs code = code := by
  rcases mapCase_eq_or runs code with same | ⟨run, member, covered, _⟩
  · exact same
  · rw [uncovered run member] at covered
    contradiction

/-! ### Characters -/

theorem mem_lowerRuns_ascii : (⟨0x41, 0x5a, 1, 32⟩ : CaseRun) ∈ lowerRuns :=
  List.mem_cons_self

theorem covers_of_isUpper {c : Char} (low : 'A' ≤ c) (high : c ≤ 'Z') :
    (⟨0x41, 0x5a, 1, 32⟩ : CaseRun).covers c.toNat = true := by
  have low : 0x41 ≤ c.toNat := low
  have high : c.toNat ≤ 0x5a := high
  simp [CaseRun.covers, low, high, Nat.mod_one]

theorem isLowered_of_uncovered {c : Char}
    (uncovered : ∀ run ∈ lowerRuns, run.covers c.toNat = false) : IsLowered c := by
  have apart (other : Char) (capital : ∃ run ∈ lowerRuns, run.covers other.toNat = true) : c ≠ other := by
    rintro rfl
    obtain ⟨run, member, covered⟩ := capital
    rw [uncovered run member] at covered
    contradiction
  refine ⟨?_, apart 'Σ' (by decide +kernel)⟩
  rw [lowercaseChar]
  split
  · split
    · rename_i upper
      rw [Bool.and_eq_true, decide_eq_true_eq, decide_eq_true_eq] at upper
      have covered := covers_of_isUpper upper.1 upper.2
      rw [uncovered _ mem_lowerRuns_ascii] at covered
      contradiction
    · rfl
  · rw [if_neg (apart '\u0130' (by decide +kernel)), mapCase_eq_self uncovered, Char.ofNat_toNat]

theorem isLowered_image {run : CaseRun} (member : run ∈ lowerRuns) {c : Char}
    (covered : run.covers c.toNat = true) :
    IsLowered (Char.ofNat (run.image c.toNat)) ∧
      isBlank (Char.ofNat (run.image c.toNat)) = isBlank c := by
  obtain ⟨plain, apart⟩ := lowerRuns_apart member
  constructor
  · apply isLowered_of_uncovered
    intro other inRuns
    rw [toNat_ofNat (CaseRun.isValidChar_image plain covered)]
    exact CaseRun.not_covers_image (apart other inRuns) covered
  · obtain ⟨capital, small⟩ := CaseRun.not_isBlank_of_covers plain covered
    rw [capital, small]

theorem lowercaseChar_settled {c : Char} (other : c ≠ 'Σ') :
    lowercaseChar c ≠ [] ∧ ∀ d ∈ lowercaseChar c, IsLowered d ∧ isBlank d = isBlank c := by
  have single {d : Char} (form : lowercaseChar c = [d]) (settled : IsLowered d ∧ isBlank d = isBlank c) :
      lowercaseChar c ≠ [] ∧ ∀ d ∈ lowercaseChar c, IsLowered d ∧ isBlank d = isBlank c := by
    rw [form]
    exact ⟨List.cons_ne_nil d [], List.forall_mem_singleton.mpr settled⟩
  have itself (form : lowercaseChar c = [c]) := single form ⟨⟨form, other⟩, rfl⟩
  by_cases narrow : c.toNat < 128
  · by_cases upper : ('A' ≤ c && c ≤ 'Z') = true
    · refine single (by rw [lowercaseChar, if_pos narrow, if_pos upper]) ?_
      rw [Bool.and_eq_true, decide_eq_true_eq, decide_eq_true_eq] at upper
      exact isLowered_image mem_lowerRuns_ascii (covers_of_isUpper upper.1 upper.2)
    · exact itself (by rw [lowercaseChar, if_pos narrow, if_neg upper])
  by_cases dotted : c = '\u0130'
  · subst dotted
    refine ⟨by decide, ?_⟩
    decide +kernel
  have form : lowercaseChar c = [Char.ofNat (mapCase lowerRuns c.toNat)] := by
    rw [lowercaseChar, if_neg narrow, if_neg dotted]
  rcases mapCase_eq_or lowerRuns c.toNat with same | ⟨run, member, covered, image⟩
  · rw [same, Char.ofNat_toNat] at form
    exact itself form
  · rw [image] at form
    exact single form (isLowered_image member covered)

/-! ### Texts -/

/-- What one character contributes to a text in lower case. -/
theorem exists_lowercaseAfter_cons (before : List Char) (c : Char) (rest : List Char) :
    ∃ form, lowercaseAfter before (c :: rest) = form ++ lowercaseAfter (c :: before) rest ∧
      form ≠ [] ∧ ∀ d ∈ form, IsLowered d ∧ isBlank d = isBlank c := by
  refine ⟨_, lowercaseAfter.eq_2 before c rest, ?_⟩
  by_cases sigma : c = 'Σ'
  · subst sigma
    rw [if_pos rfl]
    split
    · refine ⟨List.cons_ne_nil _ _, ?_⟩
      decide +kernel
    · refine ⟨List.cons_ne_nil _ _, ?_⟩
      decide +kernel
  · rw [if_neg sigma]
    exact lowercaseChar_settled sigma

theorem isLowered_of_mem_lowercaseAfter {text : List Char} {d : Char} :
    ∀ {before : List Char}, d ∈ lowercaseAfter before text → IsLowered d := by
  induction text with
  | nil => exact fun member => absurd member List.not_mem_nil
  | cons c rest ih =>
      intro before member
      obtain ⟨form, split, _, settled⟩ := exists_lowercaseAfter_cons before c rest
      rw [split] at member
      rcases List.mem_append.mp member with here | later
      · exact (settled d here).1
      · exact ih later

theorem lowercaseAfter_eq_self {text : List Char} (lowered : ∀ c ∈ text, IsLowered c) :
    ∀ before : List Char, lowercaseAfter before text = text := by
  induction text with
  | nil => exact fun _ => rfl
  | cons c rest ih =>
      intro before
      obtain ⟨⟨form, other⟩, later⟩ := List.forall_mem_cons.mp lowered
      rw [lowercaseAfter, if_neg other, form, ih later]
      rfl

theorem lowercaseAfter_trimmed {text : List Char} (trimmed : Trimmed text) (before : List Char) :
    Trimmed (lowercaseAfter before text) := by
  constructor
  · intro d first
    cases text with
    | nil => contradiction
    | cons c rest =>
        obtain ⟨form, split, some, settled⟩ := exists_lowercaseAfter_cons before c rest
        rw [split, List.head?_append, Option.mem_def] at first
        cases form with
        | nil => contradiction
        | cons here form =>
            have same : here = d := Option.some.inj first
            rw [← same, (settled here List.mem_cons_self).2]
            exact trimmed.head c rfl
  · -- Only the last character counts, so the text is walked to its end.
    have plain := trimmed.last
    clear trimmed
    induction text generalizing before with
    | nil => exact fun _ final => nomatch final
    | cons c rest ih =>
        intro d final
        obtain ⟨form, split, some, settled⟩ := exists_lowercaseAfter_cons before c rest
        rw [split] at final
        cases rest with
        | nil =>
            rw [lowercaseAfter, List.append_nil] at final
            rw [(settled d (List.mem_of_getLast? final)).2]
            exact plain c rfl
        | cons next rest =>
            have more : (lowercaseAfter (c :: before) (next :: rest)).getLast? ≠ none := by
              obtain ⟨later, splitLater, someLater, _⟩ :=
                exists_lowercaseAfter_cons (c :: before) next rest
              rw [splitLater, ne_eq, List.getLast?_eq_none_iff]
              exact List.append_ne_nil_of_left_ne_nil someLater _
            obtain ⟨last, ends⟩ := Option.ne_none_iff_exists'.mp more
            rw [List.getLast?_append, ends, Option.some_or, Option.mem_some] at final
            subst final
            exact ih (c :: before) plain last ends

/-- The form in which names are compared: trimmed, and in lower case. -/
def normalName (name : String) : String :=
  lowercase (trim name)

theorem lowercase_lowercase (text : String) : lowercase (lowercase text) = lowercase text := by
  rw [lowercase, lowercase, String.toList_ofList,
    lowercaseAfter_eq_self fun _ member => isLowered_of_mem_lowercaseAfter member]

theorem normalName_normalName (name : String) : normalName (normalName name) = normalName name := by
  have trimmed : Trimmed (lowercase (trim name)).toList := by
    rw [lowercase, trim, String.toList_ofList, String.toList_ofList]
    exact lowercaseAfter_trimmed (trimmed_trim name.toList) []
  have still : trim (lowercase (trim name)) = lowercase (trim name) := by
    rw [trim, trimmed.trim_eq, String.ofList_toList]
  rw [normalName, normalName, still, lowercase_lowercase]

end Callsite.Text
