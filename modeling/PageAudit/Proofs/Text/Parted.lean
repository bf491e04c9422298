/-!
Texts in parts. A part ends before the first character that it cannot hold, so a text has only one
such part, and a text that tells a count tells no other.
-/
namespace PageAudit.Text

section
variable {a b s t word : List Char} {x y : Char} {n m : Nat}

theorem partedAlike {p : Char → Bool} (left : ∀ c ∈ a, p c = false) (right : ∀ c ∈ b, p c = false)
    (here : p x = true) (there : p y = true) (same : a ++ x :: s = b ++ y :: t) :
    a = b ∧ x = y ∧ s = t := by
  have part : ∀ (text : List Char) (z : Char) (rest : List Char), (∀ c ∈ text, p c = false) →
      p z = true → (text ++ z :: rest).takeWhile (!p ·) = text ∧
        (text ++ z :: rest).dropWhile (!p ·) = z :: rest := by
    intro text z rest free stop
    have all : ∀ c ∈ text, (!p c) = true := fun c member => by rw [free c member]; rfl
    rw [List.takeWhile_append_of_pos all, List.dropWhile_append_of_pos all]
    simp [stop]
  obtain ⟨before, after⟩ := part a x s left here
  obtain ⟨before', after'⟩ := part b y t right there
  rw [same] at before after
  exact ⟨before.symm.trans before', List.cons.inj (after.symm.trans after')⟩

theorem markAlike (left : x ∉ a) (right : x ∉ b) (same : a ++ x :: s = b ++ x :: t) : a = b := by
  have apart : ∀ {text : List Char}, x ∉ text → ∀ c ∈ text, (c == x) = false :=
    fun free c member => beq_eq_false_iff_ne.mpr fun same => free (same ▸ member)
  exact (partedAlike (apart left) (apart right) (beq_self_eq_true x) (beq_self_eq_true x) same).1

theorem prefixApart (free : x ∉ word) (starts : word <+: a ++ x :: b) : word <+: a := by
  rcases List.prefix_or_prefix_of_prefix starts (List.prefix_append a (x :: b)) with within | beyond
  · exact within
  · obtain ⟨more, rfl⟩ := beyond
    cases more with
    | nil => exact (List.append_nil a).symm ▸ List.prefix_rfl
    | cons y more =>
      obtain ⟨same, -⟩ := List.cons_prefix_cons.mp ((List.prefix_append_right_inj a).mp starts)
      exact absurd (List.mem_append_right a (same ▸ List.mem_cons_self)) free

theorem restApart (free : x ∉ word) (whole : a ++ x :: b = word ++ t) :
    ∃ more, a = word ++ more ∧ t = more ++ x :: b := by
  obtain ⟨more, rfl⟩ := prefixApart free ⟨t, whole.symm⟩
  rw [List.append_assoc] at whole
  exact ⟨more, rfl, (List.append_cancel_left whole).symm⟩

theorem startApart (filled : t ≠ []) (whole : a ++ [x] = word ++ t) : word <+: a := by
  have lengths := congrArg List.length whole
  have some := List.length_pos_iff.mpr filled
  simp only [List.length_append, List.length_cons, List.length_nil] at lengths
  exact List.prefix_of_prefix_length_le ⟨t, whole.symm⟩ (List.prefix_append a [x]) (by omega)

theorem infixApart (free : x ∉ word) : word <:+: a ++ x :: b ↔ word <:+: a ∨ word <:+: b := by
  constructor
  · intro inside
    induction a with
    | nil =>
      rcases List.infix_cons_iff.mp inside with starts | later
      · exact .inl (prefixApart free starts).isInfix
      · exact .inr later
    | cons c a ih =>
      rcases List.infix_cons_iff.mp inside with starts | later
      · exact .inl (prefixApart free starts).isInfix
      · exact (ih later).imp_left fun within => List.infix_cons_iff.mpr (.inr within)
  · rintro (left | right)
    · exact left.trans (List.prefix_append _ _).isInfix
    · exact right.trans ((List.suffix_cons x b).trans (List.suffix_append _ _)).isInfix

theorem countDigits (n : Nat) : ∀ c ∈ (toString n).toList, c.isDigit = true := by
  change ∀ c ∈ n.repr.toList, c.isDigit = true
  rw [Nat.toList_repr]
  exact fun c member => Nat.isDigit_of_mem_toDigits (by decide) (by decide) member

theorem countSame (same : (toString n).toList = (toString m).toList) : n = m := by
  have read : ∀ n : Nat, Nat.ofDigitChars 10 (toString n).toList 0 = n := fun n => by
    change Nat.ofDigitChars 10 n.repr.toList 0 = n
    rw [Nat.toList_repr, Nat.ofDigitChars_toDigits (by decide) (by decide)]
  rw [← read n, same, read m]

theorem countAlike (ends : word.head?.any (!·.isDigit) = true)
    (same : (toString n).toList ++ (word ++ s) = (toString m).toList ++ (word ++ t)) :
    n = m ∧ s = t := by
  have digits : ∀ n : Nat, ∀ c ∈ (toString n).toList, (!c.isDigit) = false :=
    fun n c member => by rw [countDigits n c member]; rfl
  cases word with
  | nil => cases ends
  | cons x word =>
    obtain ⟨numbers, -, rest⟩ :=
      partedAlike (p := (!·.isDigit)) (digits n) (digits m) ends ends same
    exact ⟨countSame numbers, List.append_cancel_left rest⟩

def telling (counts : List (Nat × String)) : List Char :=
  counts.flatMap fun (n, word) => (toString n).toList ++ word.toList

theorem tellingNext {rest : List (Nat × String)} {word : String} (later : telling rest <+: t) :
    telling ((n, word) :: rest) <+: (toString n).toList ++ (word.toList ++ t) := by
  rw [telling, List.flatMap_cons, List.append_assoc]
  exact (List.prefix_append_right_inj _).mpr ((List.prefix_append_right_inj _).mpr later)

theorem tellingLast {word : String} :
    telling [(n, word)] <+: (toString n).toList ++ word.toList := by
  have whole : telling [(n, word)] = (toString n).toList ++ word.toList := by
    rw [telling, List.flatMap_cons, List.flatMap_nil, List.append_nil]
  exact whole ▸ List.prefix_rfl

theorem countsAlike {words : List String} {ns ms : List Nat}
    (ends : ∀ word ∈ words, word.toList.head?.any (!·.isDigit) = true)
    (whole : ns.length = words.length) (again : ms.length = words.length)
    (same : telling (ns.zip words) ++ s = telling (ms.zip words) ++ t) : ns = ms := by
  induction words generalizing ns ms with
  | nil => rw [List.eq_nil_of_length_eq_zero whole, List.eq_nil_of_length_eq_zero again]
  | cons word words ih =>
    obtain ⟨stop, ends⟩ := List.forall_mem_cons.mp ends
    obtain ⟨n, ns, rfl⟩ := List.exists_cons_of_length_eq_add_one whole
    obtain ⟨m, ms, rfl⟩ := List.exists_cons_of_length_eq_add_one again
    simp only [telling, List.zip_cons_cons, List.flatMap_cons, List.append_assoc] at same
    obtain ⟨rfl, rest⟩ := countAlike stop same
    rw [ih ends (Nat.succ.inj whole) (Nat.succ.inj again) rest]

theorem countEnding (starts : x.isDigit = false)
    (same : s ++ x :: (toString n).toList = t ++ x :: (toString m).toList) : n = m := by
  have digits : ∀ n : Nat, ∀ c ∈ (toString n).toList.reverse, (!c.isDigit) = false :=
    fun n c member => by rw [countDigits n c (List.mem_reverse.mp member)]; rfl
  have stop : (!x.isDigit) = true := by rw [starts]; rfl
  have turned := congrArg List.reverse same
  simp only [List.reverse_append, List.reverse_cons, List.append_assoc, List.singleton_append]
    at turned
  obtain ⟨numbers, -⟩ := partedAlike (digits n) (digits m) stop stop turned
  exact countSame (List.reverse_inj.mp numbers)

end

end PageAudit.Text
