import Mathlib.Data.List.Forall2
import PageAudit.Text.Case
/-!
Texts that differ in the case of their letters. The lower case of a text is that of its characters,
but a capital sigma that ends a word has a form of its own there. So texts with the same letters and
the same such sigmas are the same in lower case.
-/
namespace PageAudit.Text

def inWord (before : List Char) : Bool := (before.reverse.dropWhile isLoose).head?.any isCased

def goesOn (after : List Char) : Bool := (after.dropWhile isLoose).head?.any isCased

structure EndsWord (before : List Char) (c : Char) (after : List Char) : Prop where
  sigma : c.toNat = 0x3A3
  inside : inWord before = true
  last : goesOn after = false

def FinalAt (text : List Char) (place : Nat) : Prop :=
  ∃ before c after, text = before ++ c :: after ∧ before.length = place ∧ EndsWord before c after

/-- Texts that differ in the case of letters only: each character has the lower case that its
counterpart has by itself, and the same capital sigmas end words. -/
structure SameLetters (a b : List Char) : Prop where
  letters : List.Forall₂ (fun c d => lowercaseAfter false [c] = lowercaseAfter false [d]) a b
  finals : ∀ place, FinalAt a place ↔ FinalAt b place

section
variable {a b before after : List Char} {c : Char}

theorem lowercaseFilled {afterCased : Bool} (filled : a ≠ []) :
    lowercaseAfter afterCased a ≠ [] := by
  cases a with
  | nil => exact absurd rfl filled
  | cons c rest =>
    unfold lowercaseAfter
    dsimp only
    split
    · exact List.cons_ne_nil _ _
    · split <;> exact List.cons_ne_nil _ _

theorem inWordNext (before : List Char) (c : Char) :
    inWord (before ++ [c]) = if isLoose c then inWord before else isCased c := by
  unfold inWord
  rw [List.reverse_append, List.reverse_singleton, List.singleton_append, List.dropWhile_cons]
  split <;> rfl

theorem sigmaSmall (sigma : c.toNat = 0x3A3) (before after : List Char) :
    lowercaseAfter (inWord before) (c :: after) =
      (if inWord before && !goesOn after then Char.ofNat 0x3C2 else Char.ofNat 0x3C3) ::
        lowercaseAfter (inWord (before ++ [c])) after := by
  rw [lowercaseAfter, inWordNext, goesOn]
  simp only [sigma, beq_self_eq_true, if_true]
  cases after.dropWhile isLoose <;> rfl

theorem finalSmall (ends : EndsWord before c after) :
    lowercaseAfter (inWord before) (c :: after) =
      Char.ofNat 0x3C2 :: lowercaseAfter (inWord (before ++ [c])) after := by
  rw [sigmaSmall ends.sigma, ends.inside, ends.last]
  rfl

theorem plainSmall (plain : ¬EndsWord before c after) :
    lowercaseAfter (inWord before) (c :: after) =
      lowercaseAfter false [c] ++ lowercaseAfter (inWord (before ++ [c])) after := by
  by_cases sigma : c.toNat = 0x3A3
  · have goesOn : (inWord before && !goesOn after) = false := by
      by_contra ends
      simp only [Bool.not_eq_false, Bool.and_eq_true, Bool.not_eq_true'] at ends
      exact plain ⟨sigma, ends.1, ends.2⟩
    have alone : lowercaseAfter false [c] = [Char.ofNat 0x3C3] := sigmaSmall sigma [] []
    rw [sigmaSmall sigma, goesOn, alone]
    rfl
  · rw [inWordNext]
    simp only [lowercaseAfter, beq_eq_false_iff_ne.mpr sigma, Bool.false_eq_true, if_false]
    split <;> rfl

theorem finalHere : FinalAt (before ++ c :: after) before.length ↔ EndsWord before c after := by
  constructor
  · rintro ⟨before', c', after', whole, long, ends⟩
    obtain ⟨rfl, rest⟩ := List.append_inj whole long.symm
    cases rest
    exact ends
  · exact fun ends => ⟨before, c, after, rfl, rfl, ends⟩

theorem noFinals (free : ∀ c ∈ a, c.toNat ≠ 0x3A3) (place : Nat) : ¬FinalAt a place := by
  rintro ⟨before, c, after, rfl, -, ends⟩
  exact free c (List.mem_append_right _ List.mem_cons_self) ends.sigma

/- By induction on the rest of the texts, with the parts before it at hand: they are equally long,
so sigmas end words at the same places of the rest. -/
theorem lowercaseRest {x y : List Char}
    (letters : List.Forall₂ (fun c d => lowercaseAfter false [c] = lowercaseAfter false [d]) x y)
    (long : a.length = b.length)
    (finals : ∀ place, FinalAt (a ++ x) place ↔ FinalAt (b ++ y) place) :
    lowercaseAfter (inWord a) x = lowercaseAfter (inWord b) y := by
  induction letters generalizing a b with
  | nil => rfl
  | @cons c d x y same _ ih =>
    have rest : lowercaseAfter (inWord (a ++ [c])) x = lowercaseAfter (inWord (b ++ [d])) y := by
      refine ih ?_ ?_
      · rw [List.length_append, List.length_append, long]
        rfl
      · simpa only [List.append_assoc, List.singleton_append] using finals
    have here : EndsWord a c x ↔ EndsWord b d y := by
      have place := finals a.length
      rw [finalHere, long, finalHere] at place
      exact place
    by_cases ends : EndsWord a c x
    · rw [finalSmall ends, finalSmall (here.mp ends), rest]
    · rw [plainSmall ends, plainSmall (mt here.mpr ends), rest, same]

theorem SameLetters.lowercase (same : SameLetters a b) :
    lowercaseAfter false a = lowercaseAfter false b :=
  lowercaseRest (a := []) (b := []) same.letters rfl same.finals

end

end PageAudit.Text
