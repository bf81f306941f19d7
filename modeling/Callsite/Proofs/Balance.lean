import Mathlib.Data.List.SplitBy
import Mathlib.Data.List.TakeWhile
import Callsite.Proofs.Windows

set_option autoImplicit false

/-! Where the body of a function ends. Braces, and the words that open and close blocks, are marks on the
lines of a window. A body ends on the line of the first closing mark at which, counted from the first opening
one, as many blocks have been closed as opened. The scans say so without counting anew at each mark. -/

namespace Callsite

namespace Body

/-- What a character or a word does to the number of open blocks. -/
inductive BlockMark where
  | opening
  | closing
  | plain
  deriving DecidableEq, Repr

abbrev PlacedMark := Nat × BlockMark

def marksBetween (marks : String → List BlockMark) (lines : List String) (first last : Nat) :
    List PlacedMark :=
  ((lines.zipIdx.take last).drop first).flatMap fun (line, index) => (marks line).map (index, ·)

def fromOpening (read : List PlacedMark) : List PlacedMark :=
  read.dropWhile (·.2 ≠ .opening)

def opened (read : List PlacedMark) : Nat :=
  read.countP (·.2 = .opening)

def closed (read : List PlacedMark) : Nat :=
  read.countP (·.2 = .closing)

/-- As many blocks have been closed as opened. -/
def Balanced (read : List PlacedMark) : Prop :=
  opened read = closed read

/-- At no closing mark so far have as many blocks been closed as opened. -/
def Pending (read : List PlacedMark) : Prop :=
  ∀ (earlier : List PlacedMark) (line : Nat) (later : List PlacedMark),
    read = earlier ++ (line, .closing) :: later → ¬Balanced (earlier ++ [(line, .closing)])

/-- Whether the first closing mark at which as many blocks have been closed as opened stands on line
`stop`. -/
def EndsOn (read : List PlacedMark) (stop : Nat) : Prop :=
  ∃ before after : List PlacedMark, read = before ++ (stop, .closing) :: after ∧
    Balanced (before ++ [(stop, .closing)]) ∧ Pending before

/-! ### Counting -/

section

variable {read more : List PlacedMark} {line : Nat}

@[simp] theorem opened_append : opened (read ++ more) = opened read + opened more :=
  List.countP_append

@[simp] theorem closed_append : closed (read ++ more) = closed read + closed more :=
  List.countP_append

@[simp] theorem opened_nil : opened [] = 0 := rfl

@[simp] theorem closed_nil : closed [] = 0 := rfl

@[simp] theorem opened_opening : opened ((line, .opening) :: read) = opened read + 1 := by
  simp [opened]

@[simp] theorem opened_closing : opened ((line, .closing) :: read) = opened read := by
  simp [opened]

@[simp] theorem opened_plain : opened ((line, .plain) :: read) = opened read := by
  simp [opened]

@[simp] theorem closed_opening : closed ((line, .opening) :: read) = closed read := by
  simp [closed]

@[simp] theorem closed_closing : closed ((line, .closing) :: read) = closed read + 1 := by
  simp [closed]

@[simp] theorem closed_plain : closed ((line, .plain) :: read) = closed read := by
  simp [closed]

end

/-! ### The scan over marks -/

/-- The line of the mark that closes the last of `depth` open blocks and those opened further on. -/
def closingMark? (depth : Nat) : List PlacedMark → Option Nat
  | [] => none
  | (_, .opening) :: rest => closingMark? (depth + 1) rest
  | (line, .closing) :: rest =>
      if depth = 0 then closingMark? 0 rest
      else if depth = 1 then some line
      else closingMark? (depth - 1) rest
  | (_, .plain) :: rest => closingMark? depth rest

/-- The condition of `EndsOn` where `depth` blocks are open at first. -/
def EndsFrom (depth : Nat) (read : List PlacedMark) (stop : Nat) : Prop :=
  ∃ before after : List PlacedMark, read = before ++ (stop, .closing) :: after ∧
    depth + opened before = closed before + 1 ∧
      ∀ (earlier : List PlacedMark) (line : Nat) (later : List PlacedMark),
        before = earlier ++ (line, .closing) :: later → depth + opened earlier ≠ closed earlier + 1

theorem endsFrom_zero {read : List PlacedMark} {stop : Nat} : EndsFrom 0 read stop ↔ EndsOn read stop := by
  simp [EndsFrom, EndsOn, Pending, Balanced]

theorem not_endsFrom_nil {depth stop : Nat} : ¬EndsFrom depth [] stop := by
  rintro ⟨before, after, split, _⟩
  simp at split

theorem endsFrom_cons {depth deeper stop : Nat} {head : PlacedMark} {rest : List PlacedMark}
    (counts : ∀ read, depth + opened (head :: read) = closed (head :: read) + 1 ↔
      deeper + opened read = closed read + 1)
    (stays : head.2 = .closing → depth ≠ 1) :
    EndsFrom depth (head :: rest) stop ↔ EndsFrom deeper rest stop := by
  constructor
  · rintro ⟨before, after, split, balance, pending⟩
    cases before with
    | nil =>
        obtain ⟨rfl, rfl⟩ := List.cons.inj split
        simp at balance
        exact absurd balance (stays rfl)
    | cons mark before =>
        obtain ⟨rfl, rfl⟩ := List.cons.inj split
        refine ⟨before, after, rfl, (counts before).mp balance, ?_⟩
        intro earlier line later same
        have still := pending (head :: earlier) line later (congrArg (head :: ·) same)
        rwa [Ne, counts] at still
  · rintro ⟨before, after, rfl, balance, pending⟩
    refine ⟨head :: before, after, rfl, (counts before).mpr balance, ?_⟩
    intro earlier line later same
    cases earlier with
    | nil =>
        obtain ⟨rfl, _⟩ := List.cons.inj same
        simpa using stays rfl
    | cons mark earlier =>
        obtain ⟨rfl, within⟩ := List.cons.inj same
        rw [Ne, counts]
        exact pending earlier line later within

theorem endsFrom_closing {line stop : Nat} {rest : List PlacedMark} :
    EndsFrom 1 ((line, .closing) :: rest) stop ↔ line = stop := by
  constructor
  · rintro ⟨before, after, split, _, pending⟩
    cases before with
    | nil => exact (Prod.mk.inj (List.cons.inj split).1).1
    | cons mark before =>
        obtain ⟨rfl, _⟩ := List.cons.inj split
        exact absurd (by simp) (pending [] line before rfl)
  · rintro rfl
    refine ⟨[], rest, rfl, by simp, ?_⟩
    intro earlier line later same
    simp at same

theorem closingMark?_eq_some_iff {read : List PlacedMark} {depth stop : Nat} (some : 0 < depth) :
    closingMark? depth read = .some stop ↔ EndsFrom depth read stop := by
  -- Blocks are open all along the induction: at the mark that closes the last one, it is over.
  induction read generalizing depth with
  | nil => simp [closingMark?, not_endsFrom_nil]
  | cons head rest ih =>
      rcases head with ⟨line, mark⟩
      cases mark with
      | opening =>
          rw [closingMark?, ih (Nat.succ_pos depth), endsFrom_cons]
          · intro read
            simp
            omega
          · simp
      | plain =>
          rw [closingMark?, ih some, endsFrom_cons]
          · simp
          · simp
      | closing =>
          rw [closingMark?, if_neg (Nat.ne_of_gt some)]
          by_cases last : depth = 1
          · rw [if_pos last, last, endsFrom_closing, Option.some.injEq]
          · rw [if_neg last, ih (by omega), endsFrom_cons]
            · intro read
              simp
              omega
            · exact fun _ => last

theorem closingMark?_fromOpening (read : List PlacedMark) :
    closingMark? 0 (fromOpening read) = closingMark? 0 read := by
  induction read with
  | nil => rfl
  | cons head rest ih =>
      rcases head with ⟨line, mark⟩
      cases mark with
      | opening => simp [fromOpening]
      | closing =>
          have passed : fromOpening ((line, .closing) :: rest) = fromOpening rest := by simp [fromOpening]
          rw [passed, ih, closingMark?, if_pos rfl]
      | plain =>
          have passed : fromOpening ((line, .plain) :: rest) = fromOpening rest := by simp [fromOpening]
          rw [passed, ih, closingMark?]

theorem fromOpening_cases (read : List PlacedMark) :
    fromOpening read = [] ∨ ∃ line rest, fromOpening read = (line, .opening) :: rest := by
  cases from_ : fromOpening read with
  | nil => exact .inl rfl
  | cons head rest =>
      rcases head with ⟨line, mark⟩
      have stopped := List.head?_dropWhile_not (·.2 ≠ BlockMark.opening) read
      rw [show read.dropWhile _ = (line, mark) :: rest from from_] at stopped
      simp at stopped
      exact .inr ⟨line, rest, by rw [stopped]⟩

theorem endsOn_fromOpening_iff {read : List PlacedMark} {stop : Nat} :
    EndsOn (fromOpening read) stop ↔ closingMark? 0 read = some stop := by
  rw [← closingMark?_fromOpening, ← endsFrom_zero]
  rcases fromOpening_cases read with nothing | ⟨line, rest, opens⟩
  · simp [nothing, closingMark?, not_endsFrom_nil]
  · rw [opens, closingMark?, closingMark?_eq_some_iff (Nat.succ_pos 0), endsFrom_cons]
    · intro read
      simp
      omega
    · simp

/-! ### Windows -/

theorem marksBetween_eq (marks : String → List BlockMark) (lines : List String) (first last : Nat) :
    marksBetween marks lines first last =
      (((lines.take last).drop first).zipIdx first).flatMap fun (line, index) =>
        (marks line).map (index, ·) := by
  have window : (lines.zipIdx.take last).drop first = ((lines.take last).drop first).zipIdx first := by
    apply List.ext_getElem?
    intro index
    rw [List.getElem?_drop, List.getElem?_take, List.getElem?_zipIdx, List.getElem?_zipIdx,
      List.getElem?_drop, List.getElem?_take]
    split
    · rw [Nat.zero_add]
    · rfl
  rw [marksBetween, window]

theorem lt_of_mem_marksBetween {marks : String → List BlockMark} {lines : List String} {first last : Nat}
    {mark : PlacedMark} (member : mark ∈ marksBetween marks lines first last) : mark.1 < last := by
  simp only [marksBetween_eq, List.mem_flatMap, List.mem_map] at member
  obtain ⟨⟨line, index⟩, placed, _, _, rfl⟩ := member
  have low := List.le_snd_of_mem_zipIdx placed
  have high := List.snd_lt_add_of_mem_zipIdx placed
  simp only [List.length_drop, List.length_take] at low high ⊢
  omega

theorem pairwise_marksBetween (marks : String → List BlockMark) (lines : List String) (first last : Nat) :
    (marksBetween marks lines first last).Pairwise fun mark later => mark.1 ≤ later.1 := by
  rw [marksBetween_eq]
  generalize (lines.take last).drop first = texts
  induction texts generalizing first with
  | nil => exact List.Pairwise.nil
  | cons line rest ih =>
      rw [List.zipIdx_cons, List.flatMap_cons, List.pairwise_append]
      constructor
      · simp [List.pairwise_map, List.pairwise_of_forall]
      constructor
      · exact ih (first + 1)
      · intro mark here later behind
        simp only [List.mem_map, List.mem_flatMap] at here behind
        obtain ⟨_, _, rfl⟩ := here
        obtain ⟨⟨text, index⟩, placed, _, _, rfl⟩ := behind
        have low := List.le_snd_of_mem_zipIdx placed
        simp only at low ⊢
        omega

/-- A scan of a line that goes on as the scan of its marks does. -/
def Follows (scan : LineScan) (marks : String → List BlockMark) : Prop :=
  ∀ depth line index rest, closingMark? depth ((marks line).map (index, ·) ++ rest) =
    match scan depth line with
    | none => some index
    | some deeper => closingMark? deeper rest

theorem Follows.closingLine?_eq {scan : LineScan} {marks : String → List BlockMark}
    (follows : Follows scan marks) (lines : List String) (depth index : Nat) :
    closingLine? scan depth index lines =
      closingMark? depth ((lines.zipIdx index).flatMap fun (line, index) => (marks line).map (index, ·)) := by
  induction lines generalizing depth index with
  | nil => rfl
  | cons line rest ih =>
      rw [List.zipIdx_cons, List.flatMap_cons, follows, closingLine?]
      cases scan depth line with
      | none => rfl
      | some deeper => exact ih deeper (index + 1)

theorem Pending.of_append {read more : List PlacedMark} (pending : Pending (read ++ more)) :
    Pending read := by
  intro earlier line later same
  exact pending earlier line (later ++ more) (by simp [same])

/-- As long as no closing mark has brought the balance, fewer blocks have been closed than opened. -/
theorem Pending.closed_lt_opened {line : Nat} {rest : List PlacedMark}
    (pending : Pending ((line, .opening) :: rest)) :
    closed ((line, .opening) :: rest) < opened ((line, .opening) :: rest) := by
  induction rest using List.reverseRecOn with
  | nil => simp
  | append_singleton rest last ih =>
      rw [← List.cons_append] at pending ⊢
      have before := ih pending.of_append
      rcases last with ⟨index, mark⟩
      cases mark with
      | opening =>
          simp at before ⊢
          omega
      | plain => simpa using before
      | closing =>
          have unbalanced := pending _ index [] rfl
          simp [Balanced] at before unbalanced ⊢
          omega

/-- A body ends where the marks from the first opening one on balance for the first time, and with the window
if they never do. -/
theorem Follows.spanBy_balances {scan : LineScan} {marks : String → List BlockMark}
    (follows : Follows scan marks) {lines : List String} (scanLimit : Nat) {start : Nat}
    (inside : start < lines.length) :
    let windowEnd := min (start + max scanLimit 1) lines.length
    let read := fromOpening (marksBetween marks lines start windowEnd)
    (∀ stop, spanBy scan lines scanLimit start = ⟨start, stop, true⟩ ↔ EndsOn read stop) ∧
      ((∀ stop, ¬EndsOn read stop) →
        spanBy scan lines scanLimit start = ⟨start, windowEnd - 1, false⟩) := by
  intro windowEnd read
  have scanned : closingLine? scan 0 start (window lines scanLimit start) =
      closingMark? 0 (marksBetween marks lines start windowEnd) := by
    rw [follows.closingLine?_eq, marksBetween_eq]
    rfl
  have ends (stop : Nat) : EndsOn read stop ↔
      closingMark? 0 (marksBetween marks lines start windowEnd) = some stop :=
    endsOn_fromOpening_iff
  rw [spanBy_of_lt inside, scanned]
  cases found : closingMark? 0 (marksBetween marks lines start windowEnd) with
  | none =>
      constructor
      · intro stop
        simp [ends, found]
      · exact fun _ => rfl
  | some line =>
      constructor
      · intro stop
        simp [ends, found]
      · intro never
        exact absurd ((ends line).mpr found) (never line)

/-! ### Braces -/

def braceMark (c : Char) : BlockMark :=
  if c = '\x7b' then .opening else if c = '\x7d' then .closing else .plain

def braceMarks (line : String) : List BlockMark :=
  line.toList.map braceMark

private theorem closingMark?_braces (index : Nat) (rest : List PlacedMark) (text : List Char) :
    ∀ depth, closingMark? depth (text.map (fun c => (index, braceMark c)) ++ rest) =
      match scanBraces depth text with
      | none => some index
      | some deeper => closingMark? deeper rest := by
  induction text with
  | nil => exact fun _ => rfl
  | cons c text ih =>
      intro depth
      rw [List.map_cons, List.cons_append, scanBraces]
      by_cases opening : c = '\x7b'
      · have mark : braceMark c = .opening := by simp [braceMark, opening]
        rw [mark, closingMark?, if_pos opening, ih]
      by_cases closing : c = '\x7d'
      · have mark : braceMark c = .closing := by simp [braceMark, closing]
        rw [mark, closingMark?, if_neg opening, if_pos closing]
        by_cases none : depth = 0
        · rw [if_pos none, if_pos none, ih]
        by_cases last : depth = 1
        · rw [if_neg none, if_neg none, if_pos last, if_pos last]
        · rw [if_neg none, if_neg none, if_neg last, if_neg last, ih]
      · have mark : braceMark c = .plain := by simp [braceMark, opening, closing]
        rw [mark, closingMark?, if_neg opening, if_neg closing, ih]

theorem follows_scanBraces : Follows (fun depth line => scanBraces depth line.toList) braceMarks := by
  intro depth line index rest
  rw [braceMarks, List.map_map]
  exact closingMark?_braces index rest line.toList depth

private theorem count_of_scanBraces {text : List Char} {depth deeper : Nat} (some : 0 < depth)
    (scanned : scanBraces depth text = .some deeper) :
    depth + text.count '\x7b' = text.count '\x7d' + deeper := by
  induction text generalizing depth with
  | nil =>
      simp [scanBraces] at scanned
      simp [scanned]
  | cons c text ih =>
      rw [scanBraces] at scanned
      by_cases opening : c = '\x7b'
      · rw [if_pos opening] at scanned
        have further := ih (Nat.succ_pos depth) scanned
        simp [opening]
        omega
      rw [if_neg opening] at scanned
      by_cases closing : c = '\x7d'
      · rw [if_pos closing, if_neg (Nat.ne_of_gt some)] at scanned
        split at scanned
        · contradiction
        · have further := ih (by omega) scanned
          simp [closing]
          omega
      · rw [if_neg closing] at scanned
        have further := ih some scanned
        simp [opening, closing]
        omega

private theorem count_of_scanBraces_zero {text : List Char} {depth : Nat}
    (scanned : scanBraces 0 text = some depth) :
    (text.dropWhile (· ≠ '\x7b')).count '\x7b' = (text.dropWhile (· ≠ '\x7b')).count '\x7d' + depth := by
  induction text with
  | nil =>
      simp [scanBraces] at scanned
      simp [← scanned]
  | cons c text ih =>
      rw [scanBraces] at scanned
      by_cases opening : c = '\x7b'
      · rw [if_pos opening] at scanned
        have counted := count_of_scanBraces (Nat.succ_pos 0) scanned
        simp [opening]
        omega
      · rw [if_neg opening] at scanned
        have further : scanBraces 0 text = some depth := by
          split at scanned
          · exact scanned
          · exact scanned
        rw [List.dropWhile_cons_of_pos (by simpa using opening)]
        exact ih further

/-- The characters that count: where no block is open, those from the first opening brace on. -/
def counted (depth : Nat) (text : List Char) : List Char :=
  if depth = 0 then text.dropWhile (· ≠ '\x7b') else text

theorem count_counted {text : List Char} {depth deeper : Nat} (scanned : scanBraces depth text = some deeper) :
    depth + (counted depth text).count '\x7b' = (counted depth text).count '\x7d' + deeper := by
  unfold counted
  split
  · rename_i none
    subst none
    rw [Nat.zero_add]
    exact count_of_scanBraces_zero scanned
  · rename_i deep
    exact count_of_scanBraces (Nat.pos_of_ne_zero deep) scanned

/-! ### Words -/

def wordRuns (text : List Char) : List String :=
  ((text.splitBy fun c d => isMarkedWordPart c == isMarkedWordPart d).filter
    (·.all isMarkedWordPart)).map String.ofList

/-- What the word at a position of its line does to the blocks. A loop that leads its line has opened the block
of its `do`. -/
def wordMark (loopLine : Bool) (word : String) (position : Nat) : BlockMark :=
  if word = "def" ∨ (word = "do" ∧ ¬loopLine) ∨
      (position = 0 ∧ word ∈ ["class", "module", "if", "unless", "while", "until", "case", "begin", "for"]) then
    .opening
  else if word = "end" then .closing
  else .plain

def wordMarks (line : String) : List BlockMark :=
  let words := wordRuns (line.toList.takeWhile (· ≠ '#'))
  let loopLine := words.head?.any (· ∈ ["while", "until", "for"])
  words.zipIdx.map fun (word, position) => wordMark loopLine word position

section

variable {part : Char → Bool}

private theorem splitBy_run {run : List Char} (some : run ≠ []) (kind : Bool)
    (all : ∀ c ∈ run, part c = kind) : run.splitBy (fun c d => part c == part d) = [run] := by
  apply List.splitBy_of_isChain some
  apply List.Pairwise.isChain
  apply List.pairwise_of_forall_mem_list
  intro c member d memberToo
  simp [all c member, all d memberToo]

private theorem filter_splitBy_separators {run : List Char} (apart : ∀ c ∈ run, part c = false) :
    (run.splitBy (fun c d => part c == part d)).filter (·.all part) = [] := by
  cases run with
  | nil => rfl
  | cons c rest =>
      rw [splitBy_run (List.cons_ne_nil c rest) false apart]
      simp [apart c List.mem_cons_self]

private theorem filter_splitBy_append {run text : List Char} (apart : ∀ c ∈ run, part c = false)
    (led : ∀ c ∈ text.head?, part c = true) :
    ((run ++ text).splitBy (fun c d => part c == part d)).filter (·.all part) =
      (text.splitBy (fun c d => part c == part d)).filter (·.all part) := by
  have cut : (run ++ text).splitBy (fun c d => part c == part d) =
      run.splitBy (fun c d => part c == part d) ++ text.splitBy (fun c d => part c == part d) := by
    apply List.splitBy_append
    intro c last d first
    rw [apart c (List.mem_of_mem_getLast? last), led d first]
    rfl
  rw [cut, List.filter_append, filter_splitBy_separators apart, List.nil_append]

private theorem filter_splitBy_cons {c : Char} (separates : part c = false) (text : List Char) :
    ((c :: text).splitBy (fun c d => part c == part d)).filter (·.all part) =
      (text.splitBy (fun c d => part c == part d)).filter (·.all part) := by
  have whole : text = text.takeWhile (!part ·) ++ text.dropWhile (!part ·) :=
    List.takeWhile_append_dropWhile.symm
  have apart : ∀ d ∈ text.takeWhile (!part ·), part d = false := by
    intro d member
    simpa using List.mem_takeWhile_imp member
  have led : ∀ d ∈ (text.dropWhile (!part ·)).head?, part d = true := by
    intro d member
    have stopped := List.head?_dropWhile_not (!part ·) text
    rw [Option.mem_def.mp member] at stopped
    simpa using stopped
  have apartToo : ∀ d ∈ c :: text.takeWhile (!part ·), part d = false :=
    List.forall_mem_cons.mpr ⟨separates, apart⟩
  rw [whole, ← List.cons_append, filter_splitBy_append apartToo led, filter_splitBy_append apart led]

private theorem filter_splitTokens_eq (text : List Char) :
    ∀ {token : List Char}, (∀ c ∈ token, part c = true) →
      (splitTokens part token text).filter (· ≠ []) =
        ((token.reverse ++ text).splitBy (fun c d => part c == part d)).filter (·.all part) := by
  induction text with
  | nil =>
      intro token all
      rw [splitTokens, List.append_nil]
      by_cases none : token = []
      · subst none
        rfl
      · rw [splitBy_run (by simpa using none) true (by simpa using all)]
        have stays : token.reverse.all part = true := by simpa using all
        simp [none, stays]
  | cons c rest ih =>
      intro token all
      rw [splitTokens]
      by_cases joins : part c = true
      · rw [if_pos joins, ih (List.forall_mem_cons.mpr ⟨joins, all⟩)]
        simp
      · rw [if_neg joins]
        have separates : part c = false := by simpa using joins
        have cut : (token.reverse ++ c :: rest).splitBy (fun c d => part c == part d) =
            token.reverse.splitBy (fun c d => part c == part d) ++
              (c :: rest).splitBy (fun c d => part c == part d) := by
          apply List.splitBy_append_cons
          intro d last
          have inToken := all d (by simpa using List.mem_of_mem_getLast? last)
          simp [inToken, separates]
        have first := ih (List.forall_mem_nil (part · = true))
        rw [cut, List.filter_append, filter_splitBy_cons separates]
        rw [List.reverse_nil, List.nil_append] at first
        rw [← first]
        by_cases none : token = []
        · simp [none]
        · rw [splitBy_run (by simpa using none) true (by simpa using all)]
          have stays : token.reverse.all part = true := by simpa using all
          simp [none, stays]

end

theorem codeWords_eq (line : String) :
    codeWords line = wordRuns (line.toList.takeWhile (· ≠ '#')) := by
  rw [codeWords, wordRuns, filter_splitTokens_eq _ (List.forall_mem_nil _)]
  rfl

theorem opensBlock_iff {loopLine : Bool} {word : String} {position : Nat} :
    opensBlock (position = 0) loopLine word = true ↔ wordMark loopLine word position = .opening := by
  have opens : wordMark loopLine word position = .opening ↔
      word = "def" ∨ (word = "do" ∧ ¬loopLine) ∨ (position = 0 ∧ word ∈ leadingOpeners) := by
    unfold wordMark leadingOpeners
    split
    · rename_i opens
      exact iff_of_true rfl opens
    · rename_i stays
      refine iff_of_false ?_ stays
      split <;> simp
  rw [opens, opensBlock]
  by_cases define : word = "def"
  · simp [define]
  by_cases loop : word = "do"
  · simp [loop, leadingOpeners]
  · simp [define, loop]

theorem wordMark_end (loopLine : Bool) (position : Nat) : wordMark loopLine "end" position = .closing := by
  simp [wordMark]

private theorem closingMark?_words (index : Nat) (rest : List PlacedMark) (loopLine : Bool)
    (words : List String) :
    ∀ position depth, closingMark? depth
        ((words.zipIdx position).map (fun word => (index, wordMark loopLine word.1 word.2)) ++ rest) =
      match scanWords loopLine (position = 0) depth words with
      | none => some index
      | some deeper => closingMark? deeper rest := by
  induction words with
  | nil => exact fun _ _ => rfl
  | cons word words ih =>
      intro position depth
      have next : (false : Bool) = decide (position + 1 = 0) := by simp
      rw [List.zipIdx_cons, List.map_cons, List.cons_append, scanWords, next]
      by_cases opens : wordMark loopLine word position = .opening
      · rw [if_pos (opensBlock_iff.mpr opens), opens, closingMark?, ih]
      rw [if_neg (mt opensBlock_iff.mp opens)]
      by_cases ending : word = "end"
      · rw [if_pos ending, ending, wordMark_end, closingMark?]
        by_cases none : depth = 0
        · rw [if_pos none, if_pos none, ih]
        by_cases last : depth = 1
        · rw [if_neg none, if_neg none, if_pos last, if_pos last]
        · rw [if_neg none, if_neg none, if_neg last, if_neg last, ih]
      · have mark : wordMark loopLine word position = .plain := by
          unfold wordMark at opens ⊢
          split at opens
          · contradiction
          · rename_i still
            rw [if_neg still, if_neg ending]
        rw [if_neg ending, mark, closingMark?, ih]

theorem follows_scanWords :
    Follows (fun depth line => scanWords (isLoopLine (codeWords line)) true depth (codeWords line))
      wordMarks := by
  intro depth line index rest
  have scanned := closingMark?_words index rest (isLoopLine (codeWords line)) (codeWords line) 0 depth
  rw [wordMarks, List.map_map, ← codeWords_eq]
  exact scanned

/-! ### Bodies -/

/-- Brace counting, against the counts of braces themselves. The depth that the scan keeps is their
difference: it never has to stop at zero. -/
theorem byBraces_balances (lines : List String) (scanLimit : Nat) {start : Nat}
    (inside : start < lines.length) :
    let windowEnd := min (start + max scanLimit 1) lines.length
    let read := fromOpening (marksBetween braceMarks lines start windowEnd)
    (∀ stop, byBraces lines scanLimit start = ⟨start, stop, true⟩ ↔ EndsOn read stop) ∧
      ((∀ stop, ¬EndsOn read stop) →
        byBraces lines scanLimit start = ⟨start, windowEnd - 1, false⟩) ∧
      (∀ (before : List PlacedMark) (line : Nat) (after : List PlacedMark),
        read = before ++ (line, .closing) :: after → Pending before → closed before < opened before) ∧
      ∀ depth text deeper, scanBraces depth text = some deeper →
        depth + (counted depth text).count '\x7b' = (counted depth text).count '\x7d' + deeper := by
  intro windowEnd read
  have spans := follows_scanBraces.spanBy_balances scanLimit inside
  refine ⟨spans.1, spans.2, ?_, fun _ _ _ => count_counted⟩
  intro before line after split pending
  rcases fromOpening_cases (marksBetween braceMarks lines start windowEnd) with nothing | ⟨first, rest, opens⟩
  · rw [show read = [] from nothing] at split
    simp at split
  · rw [show read = (first, .opening) :: rest from opens] at split
    cases before with
    | nil => simp at split
    | cons head before =>
        obtain ⟨rfl, _⟩ := List.cons.inj split
        exact pending.closed_lt_opened

/-- The first brace closes nothing, and the block opens on a line of its own. -/
def strayBrace : List String :=
  ["\x7d fn f()", "\x7b", "  if a() \x7b b() \x7d", "\x7d"]

theorem strayBrace_ends : 0 < strayBrace.length ∧ byBraces strayBrace 50 0 = ⟨0, 3, true⟩ ∧
    EndsOn (fromOpening (marksBetween braceMarks strayBrace 0 (min (0 + max 50 1) strayBrace.length))) 3 ∧
    byBraces strayBrace 3 0 = ⟨0, 2, false⟩ ∧
    ∀ stop, ¬EndsOn (fromOpening (marksBetween braceMarks strayBrace 0
      (min (0 + max 3 1) strayBrace.length))) stop := by
  have inside : 0 < strayBrace.length := by decide
  have body : byBraces strayBrace 50 0 = ⟨0, 3, true⟩ := by decide +kernel
  have cutOff : byBraces strayBrace 3 0 = ⟨0, 2, false⟩ := by decide +kernel
  refine ⟨inside, body, ((byBraces_balances strayBrace 50 inside).1 3).mp body, cutOff, ?_⟩
  intro stop ends
  have closes := ((byBraces_balances strayBrace 3 inside).1 stop).mpr ends
  rw [cutOff] at closes
  simp at closes

/-- A body that closes ends on the line of the closing brace that brings the balance. Whatever opens behind
that brace, on the same line, stays open. -/
theorem byBraces_stop_balanced (lines : List String) (scanLimit : Nat) {start stop : Nat}
    (body : byBraces lines scanLimit start = ⟨start, stop, true⟩) :
    ∃ before behind : List PlacedMark,
      fromOpening (marksBetween braceMarks lines start (stop + 1)) = before ++ (stop, .closing) :: behind ∧
        Balanced (before ++ [(stop, .closing)]) ∧ Pending before ∧ (∀ mark ∈ behind, mark.1 = stop) ∧
        (opened (before ++ (stop, .closing) :: behind) ≤ closed (before ++ (stop, .closing) :: behind) ↔
          opened behind ≤ closed behind) := by
  have bounds := stop_lt_windowEnd body
  have within := windowEnd_le lines scanLimit start
  have first : start < lines.length := by omega
  have narrow := follows_scanBraces.spanBy_balances (stop + 1 - start) first
  have last : min (start + max (stop + 1 - start) 1) lines.length = stop + 1 := by omega
  rw [last] at narrow
  obtain ⟨before, behind, split, balance, pending⟩ := (narrow.1 stop).mp (spanBy_narrow body)
  refine ⟨before, behind, split, balance, pending, ?_, ?_⟩
  · intro mark member
    have suffix : fromOpening (marksBetween braceMarks lines start (stop + 1)) <:+
        marksBetween braceMarks lines start (stop + 1) := List.dropWhile_suffix _
    have order := (pairwise_marksBetween braceMarks lines start (stop + 1)).sublist suffix.sublist
    have inWindow : mark ∈ marksBetween braceMarks lines start (stop + 1) := by
      apply suffix.subset
      simp [split, member]
    have high := lt_of_mem_marksBetween inWindow
    rw [split, List.pairwise_append, List.pairwise_cons] at order
    have low := order.2.1.1 mark member
    simp only at low
    omega
  · simp [Balanced] at balance
    simp
    omega

/-- The braces of the signature balance before the block opens. -/
def emptyInterface : List String :=
  ["func f(x interface\x7b\x7d) \x7b", "\tg()", "\x7d"]

theorem emptyInterface_left_open :
    byBraces emptyInterface 50 0 = ⟨0, 0, true⟩ ∧
      ¬opened (fromOpening (marksBetween braceMarks emptyInterface 0 (0 + 1))) ≤
        closed (fromOpening (marksBetween braceMarks emptyInterface 0 (0 + 1))) := by
  decide +kernel

theorem emptyInterface_balanced : byBraces emptyInterface 50 0 = ⟨0, 0, true⟩ ∧
    ∃ before behind : List PlacedMark,
      fromOpening (marksBetween braceMarks emptyInterface 0 (0 + 1)) = before ++ (0, .closing) :: behind ∧
        Balanced (before ++ [(0, .closing)]) := by
  have body : byBraces emptyInterface 50 0 = ⟨0, 0, true⟩ := by decide +kernel
  obtain ⟨before, behind, split, balance, _⟩ := byBraces_stop_balanced emptyInterface 50 body
  exact ⟨body, before, behind, split, balance⟩

/-- Blocks one after another and inside each other, each opened before it is closed. -/
inductive Nested : List PlacedMark → Prop
  | nil : Nested []
  | plain (line : Nat) {rest : List PlacedMark} (further : Nested rest) : Nested ((line, .plain) :: rest)
  | block (first last : Nat) {inner rest : List PlacedMark} (inside : Nested inner) (further : Nested rest) :
      Nested ((first, .opening) :: (inner ++ (last, .closing) :: rest))

theorem Nested.closingMark?_append {read : List PlacedMark} (nested : Nested read)
    (rest : List PlacedMark) :
    ∀ {depth : Nat}, 0 < depth → closingMark? depth (read ++ rest) = closingMark? depth rest := by
  induction nested generalizing rest with
  | nil => exact fun _ => rfl
  | plain line _ ih =>
      intro depth some
      rw [List.cons_append, closingMark?, ih rest some]
  | block first last _ _ ihInside ihFurther =>
      intro depth some
      rw [List.cons_append, closingMark?, List.append_assoc, ihInside _ (Nat.succ_pos depth),
        List.cons_append, closingMark?, if_neg (Nat.succ_ne_zero depth), if_neg (by omega),
        Nat.succ_sub_one, ihFurther rest some]

/-- Word counting, against the counts of words themselves. A nested block is a body up to the word that closes
it. -/
theorem byEndKeyword_balances (lines : List String) (scanLimit : Nat) {start : Nat}
    (inside : start < lines.length) :
    let windowEnd := min (start + max scanLimit 1) lines.length
    let read := fromOpening (marksBetween wordMarks lines start windowEnd)
    (∀ stop, byEndKeyword lines scanLimit start = ⟨start, stop, true⟩ ↔ EndsOn read stop) ∧
      ((∀ stop, ¬EndsOn read stop) →
        byEndKeyword lines scanLimit start = ⟨start, windowEnd - 1, false⟩) ∧
      ∀ (first : Nat) (inner : List PlacedMark) (stop : Nat) (after : List PlacedMark),
        read = (first, .opening) :: (inner ++ (stop, .closing) :: after) → Nested inner →
          byEndKeyword lines scanLimit start = ⟨start, stop, true⟩ := by
  intro windowEnd read
  have spans := follows_scanWords.spanBy_balances scanLimit inside
  refine ⟨spans.1, spans.2, ?_⟩
  intro first inner stop after split nested
  apply (spans.1 stop).mpr
  rw [endsOn_fromOpening_iff, ← closingMark?_fromOpening]
  show closingMark? 0 read = some stop
  rw [split, closingMark?, nested.closingMark?_append _ (Nat.succ_pos 0), closingMark?,
    if_neg (Nat.succ_ne_zero 0), if_pos rfl]

def nestedLoops : List String :=
  ["def f", "  while x do", "    y.each do |z|", "      g if z # end", "    end", "  end", "end", "end"]

theorem nestedLoops_ends : 0 < nestedLoops.length ∧ byEndKeyword nestedLoops 50 0 = ⟨0, 6, true⟩ := by
  have inside : 0 < nestedLoops.length := by decide
  have inner : Nested [(2, .plain), (3, .plain), (3, .plain), (3, .plain)] :=
    .plain 2 (.plain 3 (.plain 3 (.plain 3 .nil)))
  have outer := Nested.plain 1 (.plain 1 (.plain 2 (.plain 2 (.block 2 4 inner .nil))))
  have nested := Nested.plain 0 (.block 1 5 outer .nil)
  have ends := (byEndKeyword_balances nestedLoops 50 inside).2.2
  exact ⟨inside, ends 0 _ 6 [(7, .closing)] (by decide +kernel) nested⟩

end Body

end Callsite
