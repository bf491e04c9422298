import PageAudit.Check.Discovery
import PageAudit.Proofs.Pattern.Followed
import PageAudit.Proofs.Pattern.Value
import PageAudit.Proofs.Text.Line
import PageAudit.Proofs.Text.Parted
/-!
The length of a description. Either kind of quote ends a description, so one with an apostrophe in
it is cut and reported as shorter than it is.
-/
namespace PageAudit.Check

open Pattern

def described (d : List Char) : List Char :=
  "<meta name=\"description\" content=\"".toList ++ (d ++ "\">".toList)

def descriptionText (shown : List Char) (n : Nat) : String :=
  s!"Description: \"{String.ofList shown}...\" ({n} chars). " ++ "Optimal: 150-160 chars."

def Describes (v : Verdict) (n : Nat) : Prop := ∃ shown, v.details = descriptionText shown n

section
variable {s : Subject} {v : Verdict} {n n' : Nat} {d g text : List Char} {before : Char} {t : Trail}

theorem describesAlike (told : Describes v n) (again : Describes v n') : n = n' := by
  obtain ⟨shown, told⟩ := told
  obtain ⟨shown', again⟩ := again
  have same := congrArg String.toList (told.symm.trans again)
  unfold descriptionText at same
  simp only [String.toList_append, List.append_cancel_right_eq] at same
  have last : (toString "...\" (").toList = "...\" ".toList ++ ['('] := rfl
  simp only [last, ← List.append_assoc] at same
  simp only [List.append_assoc _ ['('] _, List.singleton_append] at same
  exact Text.countEnding rfl same

theorem descriptionFound (matched : descriptionElement.matchAt? before text = some t) :
    (∀ c ∈ t.group, isQuote c = false) ∧ ∃ a q₁ value q₂ b q₃ q₄ rest,
      text = a ++ q₁ :: (value ++ q₂ :: (b ++ q₃ :: (t.group ++ q₄ :: rest))) ∧
      ∀ q ∈ [q₁, q₂, q₃, q₄], isQuote q = true := by
  obtain ⟨tag, _, rfl, -, reads⟩ := (lettersRead _).mp (runReads matched)
  obtain ⟨fields, _, rfl, -, -, reads⟩ := someRead.mp reads
  obtain ⟨_, _, rfl, ⟨name, value, q₁, q₂, rfl, -, opens, -, closes⟩, reads⟩ := fieldRead.mp reads
  obtain ⟨more, _, rfl, -, -, reads⟩ := someRead.mp reads
  obtain ⟨content, _, rfl, -, reads⟩ := (lettersRead _).mp reads
  obtain ⟨g, rest, q₃, q₄, valued, rfl⟩ := valueRead.mp reads
  obtain rfl := valued.whole
  rw [valuedGroup]
  refine ⟨valued.plain, tag ++ (fields ++ (name ++ ['='])), q₁, value, q₂, more ++ content, q₃, q₄,
    rest, by simp, ?_⟩
  simp [opens, closes, valued.opens, valued.closes]

theorem describedParts (d : List Char) : described d = "<meta name=".toList ++
    '"' :: ("description".toList ++ '"' :: (" content=".toList ++ '"' :: (d ++ '"' :: ['>']))) := by
  rfl

theorem describedMatched (plain : ∀ c ∈ d, isQuote c = false) (filled : d ≠ []) :
    ∃ t, descriptionElement.matchAt? ' ' (described d) = some t := by
  have value : Valued ('"' :: (d ++ '"' :: ['>'])) d ['>'] '"' '"' := ⟨rfl, rfl, rfl, filled, plain⟩
  have field : IsField "name" "description" "name=\"description\"".toList :=
    ⟨"name".toList, "description".toList, '"', '"', rfl, rfl, rfl, rfl, rfl⟩
  have inside : ∀ c ∈ [' '], except ['>'] c = true := List.forall_mem_singleton.mpr rfl
  have whole : described d = "<meta".toList ++ ([' '] ++ ("name=\"description\"".toList ++
      ([' '] ++ ("content=".toList ++ '"' :: (d ++ '"' :: ['>']))))) := rfl
  rw [whole]
  exact readsRun ((lettersRead "<meta").mpr ⟨_, _, rfl, rfl,
    someRead.mpr ⟨_, _, rfl, List.cons_ne_nil _ _, inside,
    fieldRead.mpr ⟨_, _, rfl, field,
    someRead.mpr ⟨_, _, rfl, List.cons_ne_nil _ _, inside,
    (lettersRead "content=").mpr ⟨_, _, rfl, rfl,
    valueRead.mpr ⟨d, ['>'], '"', '"', value, rfl⟩⟩⟩⟩⟩⟩)

theorem describedGroup (plain : ∀ c ∈ d, isQuote c = false)
    (matched : descriptionElement.matchAt? ' ' (described d) = some t) : t.group = d := by
  obtain ⟨inner, a, q₁, value, q₂, b, q₃, q₄, rest, whole, marks⟩ := descriptionFound matched
  have none : d.countP isQuote = 0 := by
    rw [List.countP_eq_zero]
    intro c member
    rw [plain c member]
    exact Bool.false_ne_true
  have four : (described d).countP isQuote = 4 := by
    rw [describedParts]
    simp only [List.countP_append, List.countP_cons, List.countP_nil, none]
    decide
  obtain ⟨first, second, third, fourth, -⟩ : isQuote q₁ = true ∧ isQuote q₂ = true ∧
      isQuote q₃ = true ∧ isQuote q₄ = true ∧ True := by
    simpa using marks
  rw [whole] at four
  simp only [List.countP_append, List.countP_cons, first, second, third, fourth, if_true] at four
  have free : a.countP isQuote = 0 ∧ value.countP isQuote = 0 ∧ b.countP isQuote = 0 := by omega
  simp only [List.countP_eq_zero, Bool.not_eq_true] at free
  rw [describedParts] at whole
  obtain ⟨-, -, whole⟩ := Text.partedAlike (plainAll rfl) free.1 (by rfl) first whole
  obtain ⟨-, -, whole⟩ := Text.partedAlike (plainAll rfl) free.2.1 (by rfl) second whole
  obtain ⟨-, -, whole⟩ := Text.partedAlike (plainAll rfl) free.2.2 (by rfl) third whole
  obtain ⟨same, -⟩ := Text.partedAlike plain inner (by rfl) fourth whole
  exact same.symm

/- Whatever is found on a page with a description has no quotes, so it stands in one of the parts
between them. -/
theorem cutShorter (cut : '\'' ∈ d) (least : 120 ≤ (Text.trim d).length)
    (plain : ∀ c ∈ g, isQuote c = false) (inside : g <:+: described d) :
    (Text.trim g).length < (Text.trim d).length := by
  have free : '"' ∉ g := fun member => by cases plain _ member
  have short : ∀ part : List Char, part.length < 120 → g <:+: part →
      (Text.trim g).length < (Text.trim d).length := by
    intro part few within
    have bound := ((Text.trimPart g).trans within).length_le
    omega
  rw [describedParts, Text.infixApart free, Text.infixApart free, Text.infixApart free,
    Text.infixApart free] at inside
  rcases inside with within | within | within | within | within
  · exact short _ (by decide) within
  · exact short _ (by decide) within
  · exact short _ (by decide) within
  · have part := Text.trimInside within
    refine Nat.lt_of_le_of_ne part.length_le fun same => ?_
    have kept : '\'' ∈ Text.trim d := Text.trimKeeps cut rfl
    rw [← part.eq_of_length same] at kept
    cases plain _ ((Text.trimPart g).subset kept)
  · exact short _ (by decide) within

theorem descriptionPart {m : Match} (found : s.find? descriptionElement = some m) :
    (∀ c ∈ m.group, isQuote c = false) ∧ m.group <:+: s.markup := by
  rw [Subject.find?, find?, findScan] at found
  obtain ⟨before, rest, t, here, matched, rfl⟩ := scanFound (List.mem_of_head? found)
  obtain ⟨plain, a, q₁, value, q₂, b, q₃, q₄, after, whole, -⟩ := descriptionFound matched
  have within : t.group <:+: rest := by
    rw [whole]
    exact ⟨a ++ q₁ :: (value ++ q₂ :: (b ++ [q₃])), q₄ :: after, by simp⟩
  exact ⟨plain, within.trans here.isInfix⟩

theorem descriptionTold (kept : groupText (s.find? descriptionElement) = g) (filled : g ≠ []) :
    (metaDescription s).passed = (120 ≤ g.length && g.length ≤ 160) ∧
      (metaDescription s).details = descriptionText (g.take 100) g.length := by
  have some : g.isEmpty = false := List.isEmpty_eq_false_iff.mpr filled
  simp only [metaDescription, kept, some, Bool.false_eq_true, if_false]
  unfold descriptionText
  exact ⟨rfl, rfl⟩

theorem descriptionMissing (missing : groupText (s.find? descriptionElement) = []) :
    (metaDescription s).details = "Missing meta description." := by
  simp only [metaDescription, missing]
  rfl

theorem describesFound (told : Describes (metaDescription s) n) :
    n = (groupText (s.find? descriptionElement)).length := by
  by_cases missing : groupText (s.find? descriptionElement) = []
  · obtain ⟨shown, told⟩ := told
    rw [descriptionMissing missing] at told
    have same := congrArg String.toList told
    unfold descriptionText at same
    simp only [String.toList_append, List.append_assoc] at same
    cases (List.cons.inj same).1
  · obtain ⟨-, details⟩ := descriptionTold rfl missing
    exact describesAlike told ⟨_, details⟩

theorem descriptionMeasured (plain : '"' ∉ d) (least : 120 ≤ (Text.trim d).length)
    (most : (Text.trim d).length ≤ 160) (headers : Http.Headers) (site : String) :
    let v := metaDescription ⟨described d, headers, site⟩
    ('\'' ∉ d → v.passed = true ∧
      v.details = descriptionText ((Text.trim d).take 100) (Text.trim d).length) ∧
      ('\'' ∈ d → ∀ n, Describes v n → n < (Text.trim d).length) ∧
      (v.passed = true ∧ Describes v (Text.trim d).length ↔ '\'' ∉ d) := by
  intro v
  -- Without an apostrophe the value is read up to its own quote.
  have whole : '\'' ∉ d → v.passed = true ∧
      v.details = descriptionText ((Text.trim d).take 100) (Text.trim d).length := by
    intro uncut
    have quotes : ∀ c ∈ d, isQuote c = false := by
      intro c member
      have apart : c ≠ '"' ∧ c ≠ '\'' :=
        ⟨fun same => plain (same ▸ member), fun same => uncut (same ▸ member)⟩
      simp [isQuote, apart]
    have filled : d ≠ [] ∧ Text.trim d ≠ [] := by
      have some : Text.trim d ≠ [] := List.ne_nil_of_length_pos (by omega)
      exact ⟨fun none => some (by rw [none]; rfl), some⟩
    obtain ⟨t, matched⟩ := describedMatched quotes filled.1
    obtain ⟨more, scanned⟩ := scanMatched matched
    have kept : groupText (descriptionElement.find? (described d)) = Text.trim d := by
      rw [find?, findScan, scanned]
      exact congrArg Text.trim (describedGroup quotes matched)
    obtain ⟨passed, details⟩ := descriptionTold (s := ⟨described d, headers, site⟩) kept filled.2
    exact ⟨passed.trans (by simp [least, most]), details⟩
  -- Whatever is found then lies between two quotes, so a part of the description is missing.
  have shorter : '\'' ∈ d → ∀ n, Describes v n → n < (Text.trim d).length := by
    intro cut n told
    rw [describesFound told]
    cases found : (⟨described d, headers, site⟩ : Subject).find? descriptionElement with
    | none => exact Nat.lt_of_lt_of_le (by decide) least
    | some m =>
      obtain ⟨inner, inside⟩ := descriptionPart found
      exact cutShorter cut least inner inside
  refine ⟨whole, shorter, ?_⟩
  constructor
  · rintro ⟨-, told⟩ cut
    exact Nat.lt_irrefl _ (shorter cut _ told)
  · intro uncut
    obtain ⟨passed, details⟩ := whole uncut
    exact ⟨passed, _, details⟩

theorem markupDescriptionMeasured :
    let d := "<b>".toList ++ List.replicate 120 'a'
    '"' ∉ d ∧ (Text.trim d).length = 123 ∧
      (metaDescription ⟨described d, .empty, "https://a.b/"⟩).passed = true := by
  intro d
  have plain : '"' ∉ d := by decide
  have length : (Text.trim d).length = 123 := by decide +kernel
  obtain ⟨whole, -⟩ := descriptionMeasured plain (by rw [length]; decide) (by rw [length]; decide)
    .empty "https://a.b/"
  exact ⟨plain, length, (whole (by decide)).1⟩

theorem apostropheCuts :
    let d := "It's ".toList ++ List.replicate 125 'a'
    let v := metaDescription ⟨described d, .empty, "https://a.b/"⟩
    '"' ∉ d ∧ (Text.trim d).length = 130 ∧ v.passed = false ∧ Describes v 2 := by
  intro d v
  have details : v.details = descriptionText "It".toList 2 := by decide +kernel
  exact ⟨by decide, by decide +kernel, by decide +kernel, _, details⟩

end

end PageAudit.Check
