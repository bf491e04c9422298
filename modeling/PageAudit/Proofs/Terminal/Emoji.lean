import PageAudit.Proofs.Text.Line
import PageAudit.Terminal.Emoji
/-!
Emoji in texts. Whatever stands for a name is harmless to what reads the text later, and names do
not go beyond white space, so a text is read word by word.
-/
namespace PageAudit

namespace Terminal

/-- No control character, and none that starts a tag or makes one plain text. -/
def isTame (c : Char) : Bool := 93 ≤ c.toNat || (32 ≤ c.toNat && c.toNat ≤ 90)

def wild (text : List Char) : Nat := text.countP fun c => !isTame c

theorem wildCons (c : Char) (text : List Char) :
    wild (c :: text) = wild text + if isTame c then 0 else 1 := by
  rw [wild, wild, List.countP_cons]
  cases isTame c <;> rfl

inductive Spelled : List String → List (List Char) → Prop
  | nil : Spelled [] []
  | cons {rows : List String} {texts : List (List Char)} (text : List Char)
    (rest : Spelled rows texts) : Spelled (String.ofList text :: rows) (text :: texts)

theorem Spelled.tame {rows : List String} {texts : List (List Char)} (spelled : Spelled rows texts)
    (tame : texts.all (·.all isTame) = true) : ∀ row ∈ rows, ∀ c ∈ row.toList, isTame c = true := by
  induction spelled with
  | nil => nofun
  | cons text rest ih =>
    obtain ⟨first, others⟩ := Bool.and_eq_true_iff.mp tame
    refine List.forall_mem_cons.mpr ⟨?_, ih others⟩
    rw [String.toList_ofList]
    exact List.all_eq_true.mp first

theorem allParted {texts : List (List Char)} {p : List Char → Bool} (n : Nat)
    (first : (texts.take n).all p = true) (others : (texts.drop n).all p = true) :
    texts.all p = true := by
  rw [← List.take_append_drop n texts, List.all_append, first, others]
  rfl

set_option maxRecDepth 10000 in
theorem emojiRowsTame : ∀ row ∈ emojiRows, ∀ c ∈ row.toList, isTame c = true := by
  obtain ⟨texts, spelled, tame⟩ :
      ∃ texts, Spelled emojiRows texts ∧ texts.all (·.all isTame) = true := by
    apply Exists.intro
    constructor
    · unfold emojiRows
      repeat (first | exact Spelled.nil | apply Spelled.cons)
    -- The rows are read in five parts, each of which is forgotten before the next one.
    · refine allParted 225 ?_ (allParted 225 ?_ (allParted 225 ?_ (allParted 225 ?_ ?_)))
      all_goals decide +kernel
  exact spelled.tame tame

section
variable {name text emoji : List Char} {c gap : Char}

theorem emojiTame (found : emoji? name = some emoji) :
    ∀ c ∈ emoji, isTame c = true ∧ c ≠ ' ' := by
  obtain ⟨row, listed, inRow⟩ := List.exists_of_findSome?_eq_some found
  obtain ⟨entry, inside, named⟩ := List.exists_of_findSome?_eq_some inRow
  split at named
  · obtain rfl := Option.some.inj named
    intro c member
    have within : c ∈ entry :=
      (List.dropWhile_sublist _).subset ((List.drop_sublist ..).subset member)
    have part : entry <:+: row.toList := by
      have joined := Text.itemJoined [' '] inside
      rwa [List.intercalate_splitOn] at joined
    refine ⟨emojiRowsTame row listed c (part.subset within), ?_⟩
    rintro rfl
    exact Text.splitFree inside within
  · cases named

theorem namedTame (found : named? name = some emoji) : ∀ c ∈ emoji, isTame c = true ∧ c ≠ ' ' := by
  obtain ⟨plain, known, rfl⟩ := Option.map_eq_some_iff.mp found
  have mark : ∀ c ∈ (splitVariant name).2, isTame c = true ∧ c ≠ ' ' := by
    unfold splitVariant
    dsimp only
    split
    · exact List.forall_mem_singleton.mpr (by decide)
    · exact List.forall_mem_singleton.mpr (by decide)
    · nofun
  intro c member
  rcases List.mem_append.mp member with inside | behind
  · exact emojiTame known c inside
  · exact mark c behind

theorem nameSplit (found : nameBefore? text = some name) :
    ∃ rest, text = name ++ ':' :: rest := by
  unfold nameBefore? at found
  dsimp only at found
  split at found
  · rename_i ended
    obtain rfl := Option.some.inj found
    obtain ⟨rest, split⟩ := List.head?_eq_some_iff.mp (beq_iff_eq.mp ended)
    refine ⟨rest, ?_⟩
    have start := List.takeWhile_prefix (fun c => c != ':' && !Text.isBlank c) (l := text)
    rw [← split]
    exact (List.prefix_iff_eq_append.mp start).symm
  · cases found

theorem blankOther (blank : Text.isBlank gap = true) : gap ≠ ':' ∧ gap ≠ '[' ∧ gap ≠ '\\' := by
  refine ⟨?_, ?_, ?_⟩ <;>
    · intro same
      subst same
      exact absurd blank (by decide)

theorem nameBeforeGap (blank : Text.isBlank gap = true) (text rest : List Char) :
    nameBefore? (text ++ gap :: rest) = nameBefore? text := by
  have stops : (text ++ gap :: rest).takeWhile (fun c => c != ':' && !Text.isBlank c) =
      text.takeWhile fun c => c != ':' && !Text.isBlank c := by
    rw [List.takeWhile_append]
    split
    · rename_i whole
      rw [List.takeWhile_cons_of_neg (by simp [blank]), List.append_nil]
      exact ((List.takeWhile_prefix _).eq_of_length whole).symm
    · rfl
  have short := (List.takeWhile_prefix (fun c => c != ':' && !Text.isBlank c) (l := text)).length_le
  unfold nameBefore?
  dsimp only
  rw [stops, List.drop_append_of_le_length short]
  cases text.drop (text.takeWhile fun c => c != ':' && !Text.isBlank c).length with
  | nil => simp [(blankOther blank).1]
  | cons c more => rfl

theorem emojiAfterGap (blank : Text.isBlank gap = true) {skip : Nat} (within : skip ≤ text.length)
    (rest : List Char) :
    withEmojiAfter skip (text ++ gap :: rest) =
      withEmojiAfter skip text ++ gap :: withEmoji rest := by
  induction text generalizing skip with
  | nil =>
    obtain rfl := Nat.le_zero.mp within
    change withEmojiAfter 0 (gap :: rest) = gap :: withEmoji rest
    rw [withEmojiAfter, if_neg (by simpa using (blankOther blank).1)]
    rfl
  | cons c text ih =>
    cases skip with
    | succ skip => exact ih (Nat.le_of_succ_le_succ within)
    | zero =>
      rw [List.cons_append, withEmojiAfter, withEmojiAfter, nameBeforeGap blank, ih (Nat.zero_le _)]
      split
      · split
        · rename_i name found
          obtain ⟨behind, rfl⟩ := nameSplit found
          have inside : name.length + 1 ≤ (name ++ ':' :: behind).length := by
            rw [List.length_append, List.length_cons]
            omega
          rw [ih inside, List.append_assoc]
        · rfl
      · rfl

theorem wildNamed (name : List Char) :
    wild ((named? name).getD (':' :: name ++ [':'])) ≤ wild name := by
  cases found : named? name with
  | none => simp [wild, List.countP_append, isTame]
  | some emoji =>
    have none : wild emoji = 0 := by
      refine List.countP_eq_zero.mpr fun c member => ?_
      simp [(namedTame found c member).1]
    rw [Option.getD_some, none]
    exact Nat.zero_le _

theorem wildEmoji (skip : Nat) (text : List Char) :
    wild (withEmojiAfter skip text) ≤ wild (text.drop skip) := by
  induction text generalizing skip with
  | nil =>
    cases skip <;> exact Nat.le_refl 0
  | cons c text ih =>
    cases skip with
    | succ skip => exact ih skip
    | zero =>
      have kept := ih 0
      rw [List.drop_zero] at kept ⊢
      have plain : wild (c :: withEmojiAfter 0 text) ≤ wild (c :: text) := by
        simp only [wild, List.countP_cons] at kept ⊢
        omega
      rw [withEmojiAfter]
      split
      · split
        · rename_i name found
          obtain ⟨behind, rfl⟩ := nameSplit found
          have named := wildNamed name
          have later := ih (name.length + 1)
          rw [List.drop_append, List.drop_eq_nil_of_le (Nat.le_succ _), Nat.add_sub_cancel_left,
            List.drop_one, List.tail_cons, List.nil_append] at later
          simp only [wild, List.countP_append, List.countP_cons] at named later ⊢
          omega
        · exact plain
      · exact plain

theorem namedFrom (name : List Char) :
    ∀ c ∈ (named? name).getD (':' :: name ++ [':']),
      c ∈ ':' :: name ∨ isTame c = true ∧ c ≠ ' ' := by
  cases found : named? name with
  | none =>
    intro c member
    left
    simpa [or_comm] using member
  | some emoji => exact fun c member => .inr (namedTame found c member)

theorem emojiFrom (skip : Nat) (text : List Char) :
    ∀ c ∈ withEmojiAfter skip text, c ∈ text ∨ isTame c = true ∧ c ≠ ' ' := by
  induction text generalizing skip with
  | nil =>
    cases skip <;> nofun
  | cons d text ih =>
    have later (skip : Nat) : ∀ c ∈ withEmojiAfter skip text,
        c ∈ d :: text ∨ isTame c = true ∧ c ≠ ' ' :=
      fun c member => (ih skip c member).imp_left (List.mem_cons_of_mem d)
    cases skip with
    | succ skip => exact later skip
    | zero =>
      have plain := List.forall_mem_cons.mpr ⟨.inl List.mem_cons_self, later 0⟩
      rw [withEmojiAfter]
      split
      · rename_i colon
        split
        · rename_i name found
          obtain ⟨behind, rfl⟩ := nameSplit found
          obtain rfl := beq_iff_eq.mp colon
          refine List.forall_mem_append.mpr ⟨fun c member => ?_, later _⟩
          refine (namedFrom name c member).imp_left fun inside => ?_
          exact (List.prefix_append (':' :: name) (':' :: behind)).subset inside
        · exact plain
      · exact plain

theorem emojiColonless (free : ':' ∉ text) : withEmoji text = text := by
  unfold withEmoji
  induction text with
  | nil => rfl
  | cons c text ih =>
    have other : c ≠ ':' := (List.ne_of_not_mem_cons free).symm
    rw [withEmojiAfter, if_neg (by simpa using other), ih (List.not_mem_of_not_mem_cons free)]

end

end Terminal

end PageAudit
