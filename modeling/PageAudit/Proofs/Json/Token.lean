import Mathlib.Data.List.TakeWhile
import PageAudit.Json.Parser
import PageAudit.Json.Printer
/-!
Texts and numbers are read as they were written. A text ends at the first quote that is not escaped,
a number before the first character that cannot belong to it.
-/
namespace PageAudit.Json

def Ends (rest : List Char) : Prop :=
  ∀ c ∈ rest.head?, c.isDigit = false ∧ c ≠ '.' ∧ c ≠ 'e' ∧ c ≠ 'E'

section
variable {limit : Option Nat} {c : Char} {n fuel : Nat} {done text rest : List Char}

theorem unitBefore (four : text.length = 4) (unit : unit? text = some (n, [])) :
    unit? (text ++ rest) = some (n, rest) := by
  match text, four with
  | [a, b, c, d], _ =>
    simp only [unit?, List.cons_append, List.nil_append] at unit ⊢
    cases first : hexValue? a <;> cases second : hexValue? b <;> cases third : hexValue? c <;>
      cases fourth : hexValue? d <;> simp_all

theorem unitRead (small : n < 32) (rest : List Char) :
    unitChar? (Text.hex 4 n ++ rest) = some (Char.ofNat n, rest) := by
  have units : ∀ n < 32, (Text.hex 4 n).length = 4 ∧ unit? (Text.hex 4 n) = some (n, []) := by
    decide +kernel
  obtain ⟨four, unit⟩ := units n small
  have low : ¬0xD800 ≤ n := by omega
  have lower : ¬0xDC00 ≤ n := by omega
  simp [unitChar?, unitBefore four unit, low, lower]

inductive Escaped (c : Char) : List Char → Prop
  | escape {part : List Char} (reads : ∀ rest, escape? (part ++ rest) = some (c, rest)) :
    Escaped c ('\\' :: part)
  | plain (quote : c ≠ '"') (slash : c ≠ '\\') (visible : 32 ≤ c.toNat) : Escaped c [c]

theorem Escaped.read {e : Char} {part : List Char} (same : c = e)
    (reads : ∀ rest, escape? (part ++ rest) = some (e, rest)) : Escaped c ('\\' :: part) :=
  .escape (same ▸ reads)

theorem coded (same : (c.toNat == n) = true) : c = Char.ofNat n := by
  rw [← beq_iff_eq.mp same, Char.ofNat_toNat]

theorem charEscaped (c : Char) : Escaped c (escapedChar c) := by
  unfold escapedChar
  split
  next quote => exact .read (beq_iff_eq.mp quote) fun _ => rfl
  split
  next slash => exact .read (beq_iff_eq.mp slash) fun _ => rfl
  split
  next newline => exact .read (beq_iff_eq.mp newline) fun _ => rfl
  split
  next carriage => exact .read (beq_iff_eq.mp carriage) fun _ => rfl
  split
  next tab => exact .read (beq_iff_eq.mp tab) fun _ => rfl
  split
  next backspace => exact .read (coded backspace) fun _ => rfl
  split
  next feed => exact .read (coded feed) fun _ => rfl
  rename_i quote slash _ _ _ _ _
  split
  next small => exact .read (Char.ofNat_toNat c).symm (unitRead small)
  next visible => exact .plain (by simpa using quote) (by simpa using slash) (Nat.le_of_not_lt visible)

theorem charRead (c : Char) (fuel : Nat) (done rest : List Char) :
    textAfter (fuel + 1) done (escapedChar c ++ rest) = textAfter fuel (c :: done) rest := by
  have escaped := charEscaped c
  generalize escapedChar c = written at escaped ⊢
  cases escaped with
  | escape reads => simp [textAfter, reads]
  | plain quote slash visible => simp [textAfter, quote, slash, Nat.not_lt.mpr visible]

theorem escapedLength (text : List Char) : text.length ≤ (text.flatMap escapedChar).length := by
  induction text with
  | nil => exact Nat.le_refl 0
  | cons c text ih =>
    have filled : 1 ≤ (escapedChar c).length := by
      have escaped := charEscaped c
      generalize escapedChar c = written at escaped ⊢
      cases escaped <;> exact Nat.succ_le_succ (Nat.zero_le _)
    rw [List.flatMap_cons, List.length_append, List.length_cons]
    omega

theorem charsRead (enough : text.length < fuel) (done rest : List Char) :
    textAfter fuel done (text.flatMap escapedChar ++ '"' :: rest) =
      some (String.ofList (done.reverse ++ text), rest) := by
  induction text generalizing fuel done with
  | nil =>
    cases fuel with
    | zero => cases enough
    | succ fuel => simp [textAfter]
  | cons c text ih =>
    cases fuel with
    | zero => cases enough
    | succ fuel =>
      rw [List.flatMap_cons, List.append_assoc, charRead, ih (Nat.lt_of_succ_lt_succ enough),
        List.reverse_cons, List.append_assoc, List.singleton_append]

theorem quoteChars (value : String) :
    (quote value).toList = '"' :: (value.toList.flatMap escapedChar ++ ['"']) :=
  String.toList_ofList

theorem quoteRead (value : String) (rest : List Char) :
    ∃ more, (quote value).toList ++ rest = '"' :: more ∧
      textAfter (more.length + 1) [] more = some (value, rest) := by
  refine ⟨value.toList.flatMap escapedChar ++ '"' :: rest, by simp [quoteChars], ?_⟩
  have length := escapedLength value.toList
  rw [charsRead (by rw [List.length_append]; omega), List.reverse_nil, List.nil_append,
    String.ofList_toList]

end

section
variable {limit : Option Nat} {ds rest : List Char}

theorem endsDigits (ends : Ends rest) (digits : ∀ c ∈ ds, c.isDigit = true) :
    digitsOf (ds ++ rest) = ds := by
  have stop : rest.takeWhile Char.isDigit = [] := by
    cases rest with
    | nil => rfl
    | cons c rest => exact List.takeWhile_cons_of_neg (by simp [(ends c rfl).1])
  rw [digitsOf, List.takeWhile_append_of_pos digits, stop, List.append_nil]

theorem endsWhole (ends : Ends rest) : fractionPart rest = [] ∧ exponentPart rest = [] := by
  cases rest with
  | nil => exact ⟨rfl, rfl⟩
  | cons c rest =>
    obtain ⟨-, point, small, big⟩ := ends c rfl
    constructor
    · unfold fractionPart
      split
      · rename_i same
        cases same
        exact absurd rfl point
      · rfl
    · simp [exponentPart, small, big]

structure Digits (ds : List Char) : Prop where
  all : ∀ c ∈ ds, c.isDigit = true
  filled : ds ≠ []
  start : ds.head? = some '0' → ds = ['0']

theorem digitsFilled (n : Nat) : Nat.toDigits 10 n ≠ [] := by
  rcases Nat.lt_or_ge n 10 with small | large
  · rw [Nat.toDigits_of_lt_base small]
    exact List.cons_ne_nil _ _
  · rw [Nat.toDigits_of_base_le (by decide) large]
    exact List.append_ne_nil_of_right_ne_nil _ (List.cons_ne_nil _ _)

theorem zeroStart {n : Nat} (starts : (Nat.toDigits 10 n).head? = some '0') : n = 0 := by
  induction n using Nat.strongRecOn with
  | ind n ih =>
    rcases Nat.lt_or_ge n 10 with small | large
    · have zero : ∀ n < 10, n.digitChar = '0' → n = 0 := by decide
      rw [Nat.toDigits_of_lt_base small] at starts
      exact zero n small (Option.some.inj starts)
    · rw [Nat.toDigits_of_base_le (by decide) large, List.head?_append] at starts
      obtain ⟨d, more, written⟩ := List.exists_cons_of_ne_nil (digitsFilled (n / 10))
      rw [written, List.head?_cons, Option.some_or] at starts
      have tenth := ih (n / 10) (by omega) (by rw [written, List.head?_cons, starts])
      omega

theorem natDigits (n : Nat) : Digits (Nat.toDigits 10 n) where
  all _ member := Nat.isDigit_of_mem_toDigits (by decide) (by decide) member
  filled := digitsFilled n
  start starts := by
    rw [zeroStart starts]
    rfl

theorem wholeRead (digits : Digits ds) (ends : Ends rest) : wholePart? (ds ++ rest) = some ds := by
  rw [wholePart?, endsDigits ends digits.all]
  cases ds with
  | nil => exact absurd rfl digits.filled
  | cons d ds =>
    by_cases zero : d = '0'
    · obtain ⟨rfl, rfl⟩ := List.cons.inj (digits.start (congrArg some zero))
      rfl
    · simp [zero]

theorem Digits.unsigned (digits : Digits ds) : (ds ++ rest).head? ≠ some '-' := by
  obtain ⟨d, more, rfl⟩ := List.exists_cons_of_ne_nil digits.filled
  intro sign
  obtain rfl : d = '-' := Option.some.inj sign
  exact absurd (digits.all '-' List.mem_cons_self) (by decide)

theorem numberRead (digits : Digits ds) (ends : Ends rest) :
    numberPart? (ds ++ rest) = some ds ∧ numberPart? ('-' :: (ds ++ rest)) = some ('-' :: ds) := by
  obtain ⟨fraction, exponent⟩ := endsWhole ends
  have unsigned : ((ds ++ rest).head? == some '-') = false :=
    beq_eq_false_iff_ne.mpr digits.unsigned
  constructor
  · simp only [numberPart?, unsigned, Bool.false_eq_true, if_false, List.length_nil, List.drop_zero,
      wholeRead digits ends, bind, Option.bind_some, List.nil_append, List.drop_left, fraction,
      List.append_nil, exponent]
    rfl
  · have signed : (('-' :: (ds ++ rest)).head? == some '-') = true := rfl
    simp only [numberPart?, signed, if_true, List.length_cons, List.length_nil, List.drop_succ_cons,
      List.drop_zero, wholeRead digits ends, bind, Option.bind_some, List.singleton_append,
      List.drop_left, fraction, List.append_nil, exponent]
    rfl

theorem intChars (n : Int) :
    ∃ ds, Digits ds ∧ ((toString n).toList = ds ∨ (toString n).toList = '-' :: ds) := by
  cases n with
  | ofNat m => exact ⟨_, natDigits m, .inl Nat.toList_repr⟩
  | negSucc m =>
    refine ⟨_, natDigits (m + 1), .inr ?_⟩
    change ("-" ++ (m + 1).repr).toList = _
    rw [String.toList_append, Nat.toList_repr]
    rfl

theorem wordStarts {entry : String × Json} (member : entry ∈ words) :
    ∃ c e more, entry.1.toList = c :: e :: more ∧ c.isDigit = false ∧ e.isDigit = false := by
  simp only [words, List.mem_cons, List.not_mem_nil, or_false] at member
  rcases member with rfl | rfl | rfl | rfl | rfl | rfl <;> exact ⟨_, _, _, rfl, rfl, rfl⟩

theorem wordless (digits : Digits ds) (rest : List Char) :
    (words.find? fun (word, _) => word.toList.isPrefixOf (ds ++ rest)) = none ∧
      (words.find? fun (word, _) => word.toList.isPrefixOf ('-' :: (ds ++ rest))) = none := by
  obtain ⟨d, more, rfl⟩ := List.exists_cons_of_ne_nil digits.filled
  have digit := digits.all d List.mem_cons_self
  simp only [List.find?_eq_none, List.isPrefixOf_iff_prefix]
  constructor
  · rintro entry member ⟨tail, same⟩
    obtain ⟨c, e, others, word, first, -⟩ := wordStarts member
    rw [word] at same
    obtain rfl : c = d := (List.cons.inj same).1
    cases first.symm.trans digit
  · rintro entry member ⟨tail, same⟩
    obtain ⟨c, e, others, word, -, second⟩ := wordStarts member
    rw [word] at same
    obtain rfl : e = d := (List.cons.inj (List.cons.inj same).2).1
    cases second.symm.trans digit

theorem atomNumber
    (unlike : (words.find? fun (word, _) => word.toList.isPrefixOf (ds ++ rest)) = none)
    (number : numberPart? (ds ++ rest) = some ds) (short : isLong limit ds = false) :
    atom limit (ds ++ rest) = .ok (.number (String.ofList ds), rest) := by
  simp only [atom, unlike, number, short, Bool.false_eq_true, if_false, List.drop_left]

theorem atomRead {n : Int} (short : isLong limit (toString n).toList = false) (ends : Ends rest) :
    atom limit ((toString n).toList ++ rest) = .ok (.number (toString n), rest) := by
  obtain ⟨ds, digits, written⟩ := intChars n
  obtain ⟨unsigned, signed⟩ := numberRead digits ends
  obtain ⟨unlike, signedUnlike⟩ := wordless digits rest
  have same : String.ofList (toString n).toList = toString n := String.ofList_toList
  rcases written with written | written
  · rw [written] at short same ⊢
    rw [atomNumber unlike unsigned short, same]
  · rw [written] at short same ⊢
    rw [atomNumber signedUnlike signed short, same]

theorem atomAt {c : Char} {fuel : Nat} (quote : c ≠ '"') (bracket : c ≠ '[') (brace : c ≠ '\x7b') :
    valueAt limit (fuel + 1) (c :: rest) = atom limit (c :: rest) := by
  rw [valueAt]
  · exact fun _ same => quote (List.cons.inj same).1
  · exact fun _ same => bracket (List.cons.inj same).1
  · exact fun _ same => brace (List.cons.inj same).1

end

end PageAudit.Json
