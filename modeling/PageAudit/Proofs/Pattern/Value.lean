import Mathlib.Data.List.Infix
import PageAudit.Proofs.Pattern.Group
/-!
Values in quotes. A value is what stands between two quotes and holds none, and it is the group of a
pattern that ends with it. A field names its value.
-/
namespace PageAudit.Pattern

structure Valued (text value rest : List Char) (first last : Char) : Prop where
  whole : text = first :: (value ++ last :: rest)
  opens : isQuote first = true
  closes : isQuote last = true
  filled : value ≠ []
  plain : ∀ c ∈ value, isQuote c = false

def Trail.valued (t : Trail) (value rest : List Char) (first last : Char) : Trail :=
  ((t.step first).grouped value (last :: rest)).step last

def IsField (name value : String) (field : List Char) : Prop :=
  ∃ n v first last, field = n ++ '=' :: first :: (v ++ [last]) ∧
    n.map Text.caseKey = name.toList.map Text.caseKey ∧ isQuote first = true ∧
    v.map Text.caseKey = value.toList.map Text.caseKey ∧ isQuote last = true

section
variable {next : Pattern} {t u : Trail} {text value rest : List Char} {first last c : Char}

theorem exceptQuotes (c : Char) : except ['"', '\''] c = !isQuote c := by
  simp only [except, isQuote, List.contains_cons, List.contains_nil, Bool.or_false]

theorem plainAll (plain : text.all (!isQuote ·) = true) : ∀ c ∈ text, isQuote c = false :=
  fun c member => by simpa using List.all_eq_true.mp plain c member

theorem valuedGroup (t : Trail) (value rest : List Char) (first last : Char) :
    (t.valued value rest first last).group = value :=
  groupedRead (t.step first) value (last :: rest)

theorem valuedTaken (t : Trail) (value rest : List Char) (first last : Char) :
    (t.valued value rest first last).taken = t.taken + (value.length + 2) := by
  change (Trail.over _ value).taken + 1 = _
  rw [Trail.overTaken]
  change t.taken + 1 + value.length + 1 = _
  omega

theorem someRead {accepts : Char → Bool} : (oneOrMore accepts next).Reads t text u ↔
    ∃ passed rest, text = passed ++ rest ∧ passed ≠ [] ∧ (∀ c ∈ passed, accepts c = true) ∧
      next.Reads (t.over passed) rest u := by
  constructor
  · rintro ⟨c, _, rfl, start, more, rest, rfl, others, reads⟩
    exact ⟨c :: more, rest, rfl, List.cons_ne_nil _ _, List.forall_mem_cons.mpr ⟨start, others⟩,
      reads⟩
  · rintro ⟨passed, rest, rfl, filled, all, reads⟩
    cases passed with
    | nil => exact absurd rfl filled
    | cons c more =>
      obtain ⟨start, others⟩ := List.forall_mem_cons.mp all
      exact ⟨c, more ++ rest, rfl, start, more, rest, rfl, others, reads⟩

theorem valueRead : (quote (group [oneOrMore (except ['"', '\''])] (quote next))).Reads t text u ↔
    ∃ value rest first last, Valued text value rest first last ∧
      next.Reads (t.valued value rest first last) rest u := by
  constructor
  · rintro ⟨first, _, rfl, opens, reads⟩
    obtain ⟨value, _, rfl, filled, all, last, rest, rfl, closes, reads⟩ := someRead.mp reads
    have plain : ∀ c ∈ value, isQuote c = false := fun c member => by
      simpa [exceptQuotes] using all c member
    exact ⟨value, rest, first, last, ⟨rfl, opens, closes, filled, plain⟩, reads⟩
  · rintro ⟨value, rest, first, last, ⟨rfl, opens, closes, filled, plain⟩, reads⟩
    have all : ∀ c ∈ value, except ['"', '\''] c = true := fun c member => by
      simpa [exceptQuotes] using plain c member
    exact ⟨first, _, rfl, opens, someRead.mpr
      ⟨value, last :: rest, rfl, filled, all, last, rest, rfl, closes, reads⟩⟩

theorem verbatimRead (word : String) : (verbatim word next).Reads t text u ↔
    ∃ rest, text = word.toList ++ rest ∧ next.Reads (t.over word.toList) rest u := by
  unfold verbatim
  generalize word.toList = word
  induction word generalizing t text with
  | nil =>
    constructor
    · exact fun reads => ⟨text, rfl, reads⟩
    · rintro ⟨rest, rfl, reads⟩
      exact reads
  | cons l word ih =>
    constructor
    · rintro ⟨c, after, rfl, same, reads⟩
      obtain rfl := beq_iff_eq.mp same
      obtain ⟨rest, rfl, later⟩ := ih.mp reads
      exact ⟨rest, rfl, later⟩
    · rintro ⟨rest, rfl, reads⟩
      rw [List.cons_append]
      exact ⟨l, word ++ rest, rfl, beq_self_eq_true l, ih.mpr ⟨rest, rfl, reads⟩⟩

theorem fieldRead {name value : String} : (valued name value next).Reads t text u ↔
    ∃ field rest, text = field ++ rest ∧ IsField name value field ∧
      next.Reads (t.over field) rest u := by
  have overAll : ∀ (n v : List Char) (first last : Char),
      t.over (n ++ '=' :: first :: (v ++ [last])) =
        ((((t.over n).step '=').step first).over v).step last := by
    intro n v first last
    simp [Trail.over]
  constructor
  · intro reads
    obtain ⟨n, _, rfl, named, reads⟩ := (lettersRead name).mp reads
    obtain ⟨_, rfl, first, _, rfl, opens, reads⟩ := (verbatimRead "=").mp reads
    obtain ⟨v, _, rfl, valued, last, rest, rfl, closes, reads⟩ := (lettersRead value).mp reads
    refine ⟨n ++ '=' :: first :: (v ++ [last]), rest, ?_,
      ⟨n, v, first, last, rfl, named, opens, valued, closes⟩, ?_⟩
    · simp
    · rw [overAll]
      exact reads
  · rintro ⟨_, rest, rfl, ⟨n, v, first, last, rfl, named, opens, valued, closes⟩, reads⟩
    rw [overAll] at reads
    have apart : n ++ '=' :: first :: (v ++ [last]) ++ rest =
        n ++ ("=".toList ++ first :: (v ++ last :: rest)) := by
      simp
    rw [apart]
    exact (lettersRead name).mpr ⟨n, _, rfl, named, (verbatimRead "=").mpr ⟨_, rfl, first, _, rfl,
      opens, (lettersRead value).mpr ⟨v, _, rfl, valued, last, rest, rfl, closes, reads⟩⟩⟩

end

section
variable {name word : String} {field text : List Char} {before c : Char} {t : Trail}

theorem keysLength {read letters : List Char}
    (same : read.map Text.caseKey = letters.map Text.caseKey) : read.length = letters.length := by
  simpa only [List.length_map] using congrArg List.length same

theorem keysApart {read letters : List Char}
    (same : read.map Text.caseKey = letters.map Text.caseKey)
    (free : Text.caseKey c ∉ letters.map Text.caseKey) : c ∉ read := fun member =>
  free (same ▸ List.mem_map_of_mem member)

theorem fieldApart (named : IsField name word field) (plain : isQuote c = false) (sign : c ≠ '=')
    (free : Text.caseKey c ∉ (name.toList ++ word.toList).map Text.caseKey) : c ∉ field := by
  obtain ⟨n, v, first, last, rfl, named, opens, valued, closes⟩ := named
  rw [List.map_append, List.mem_append, not_or] at free
  have quote : ∀ q, isQuote q = true → c ≠ q := by
    rintro q mark rfl
    rw [plain] at mark
    cases mark
  simp [keysApart named free.1, keysApart valued free.2, quote first opens, quote last closes, sign]

theorem fieldLength (named : IsField name word field) :
    field.length = name.toList.length + word.toList.length + 3 := by
  obtain ⟨n, v, first, last, rfl, named, -, valued, -⟩ := named
  simp only [List.length_append, List.length_cons, List.length_nil, keysLength named,
    keysLength valued]
  omega

theorem fieldFilled (named : IsField name word field) : field ≠ [] := by
  have length := fieldLength named
  rintro rfl
  cases length

theorem fieldMatched (matched : (of [valued name word]).matchAt? before text = some t) :
    ∃ field rest, text = field ++ rest ∧ IsField name word field ∧ t.taken = field.length := by
  obtain ⟨field, rest, whole, named, rfl⟩ := fieldRead.mp (runReads matched)
  exact ⟨field, rest, whole, named, by rw [Trail.overTaken, Trail.start, Nat.zero_add]⟩

theorem fieldEnds (named : IsField name word field) (c : Char) :
    Text.isWord (field.getLastD c) = false := by
  obtain ⟨n, v, first, last, rfl, -, -, -, closes⟩ := named
  have ends : (n ++ '=' :: first :: (v ++ [last])).getLastD c = last := by
    rw [lastAppend, List.getLastD_cons, List.getLastD_cons, List.getLastD_concat]
  rw [ends]
  rcases Bool.or_eq_true_iff.mp closes with double | single
  · exact beq_iff_eq.mp double ▸ rfl
  · exact beq_iff_eq.mp single ▸ rfl

end

end PageAudit.Pattern
