import Mathlib.Algebra.GroupWithZero.Nat
import Mathlib.Data.List.Nodup
import PageAudit.Analysis
import PageAudit.Proofs.Text.Parted
/-!
Advice by category. Violations are counted one by one into a list of categories, and the advice is
cut to its first lines. What is told of a category is told of all violations nevertheless.
-/
namespace PageAudit.Analysis

structure FirstSeen (all kinds : List String) : Prop where
  once : kinds.Nodup
  same : ∀ kind, kind ∈ kinds ↔ kind ∈ all
  order : kinds.Pairwise fun kind later => all.idxOf kind < all.idxOf later

structure Tallied (all : List String) (counts : List (String × Nat)) : Prop where
  kinds : FirstSeen all (counts.map Prod.fst)
  each : ∀ kind n, (kind, n) ∈ counts → n = all.count kind
  whole : (counts.map Prod.snd).sum = all.length

def adviceLine (n : Nat) (category : String) : String := s!"Fix {n} {category} issue(s)"

section
variable {all kinds : List String} {counts : List (String × Nat)} {key category other : String}
  {n m : Nat}

theorem tallyCases (counts : List (String × Nat)) (key : String) :
    (∃ before n after, counts = before ++ (key, n) :: after ∧ key ∉ before.map Prod.fst ∧
      tally counts key = before ++ (key, n + 1) :: after) ∨
    (key ∉ counts.map Prod.fst ∧ tally counts key = counts ++ [(key, 1)]) := by
  induction counts with
  | nil => exact .inr ⟨List.not_mem_nil, rfl⟩
  | cons entry counts ih =>
    obtain ⟨kind, n⟩ := entry
    by_cases same : kind = key
    · subst same
      refine .inl ⟨[], n, counts, rfl, List.not_mem_nil, ?_⟩
      rw [tally, if_pos (beq_self_eq_true kind)]
      rfl
    · have step : tally ((kind, n) :: counts) key = (kind, n) :: tally counts key := by
        rw [tally, if_neg (by simpa using same)]
      rw [step]
      rcases ih with ⟨before, m, after, rfl, fresh, counted⟩ | ⟨fresh, counted⟩
      · refine .inl ⟨(kind, n) :: before, m, after, rfl, ?_, by rw [counted]; rfl⟩
        simpa [Ne.symm same] using fresh
      · refine .inr ⟨?_, by rw [counted]; rfl⟩
        simpa [Ne.symm same] using fresh

namespace FirstSeen

theorem ordered (seen : FirstSeen all kinds) (next : String) :
    kinds.Pairwise fun kind later => (all ++ [next]).idxOf kind < (all ++ [next]).idxOf later := by
  refine seen.order.imp_of_mem fun {kind later} first second before => ?_
  rwa [List.idxOf_append_of_mem ((seen.same _).mp first),
    List.idxOf_append_of_mem ((seen.same _).mp second)]

theorem again (seen : FirstSeen all kinds) (known : key ∈ all) :
    FirstSeen (all ++ [key]) kinds where
  once := seen.once
  same kind := by
    rw [seen.same, List.mem_append, List.mem_singleton]
    exact ⟨.inl, fun occurs => occurs.elim id fun same => same ▸ known⟩
  order := seen.ordered key

theorem fresh (seen : FirstSeen all kinds) (new : key ∉ all) :
    FirstSeen (all ++ [key]) (kinds ++ [key]) where
  once := by
    refine seen.once.append (List.nodup_singleton key) ?_
    simpa [seen.same] using new
  same kind := by simp [seen.same]
  order := by
    refine List.pairwise_append.mpr
      ⟨seen.ordered key, List.pairwise_singleton .., fun kind first later last => ?_⟩
    obtain rfl := List.mem_singleton.mp last
    have before := (seen.same kind).mp first
    rw [List.idxOf_append_of_mem before, List.idxOf_append_of_notMem new]
    exact Nat.lt_add_right _ (List.idxOf_lt_length_of_mem before)

end FirstSeen

theorem countOnward (all : List String) (kind key : String) :
    (all ++ [key]).count kind = all.count kind + if key = kind then 1 else 0 := by
  rw [List.count_append, List.count_singleton]
  simp only [beq_iff_eq]

theorem Tallied.kept (tallied : Tallied all counts) {kind : String} (listed : (kind, n) ∈ counts)
    (other : key ≠ kind) : n = (all ++ [key]).count kind := by
  rw [countOnward, if_neg other]
  exact tallied.each kind n listed

theorem Tallied.step (tallied : Tallied all counts) (key : String) :
    Tallied (all ++ [key]) (tally counts key) := by
  rcases tallyCases counts key with ⟨before, n, after, rfl, -, counted⟩ | ⟨fresh, counted⟩
  -- The key is counted already, and it is the only entry that changes.
  · have known : key ∈ all := (tallied.kinds.same key).mp (by simp)
    have once := tallied.kinds.once
    rw [List.map_append, List.map_cons, List.nodup_middle, List.nodup_cons,
      ← List.map_append] at once
    rw [counted]
    constructor
    · simpa using tallied.kinds.again known
    · intro kind m member
      rw [List.mem_append, List.mem_cons, or_left_comm, ← List.mem_append] at member
      rcases member with here | elsewhere
      · obtain ⟨rfl, rfl⟩ := Prod.mk.inj here
        rw [countOnward, if_pos rfl, tallied.each kind n (by simp)]
      · refine tallied.kept (((List.sublist_cons_self _ _).append_left before).subset elsewhere) ?_
        rintro rfl
        exact once.1 (List.mem_map.mpr ⟨_, elsewhere, rfl⟩)
    · have whole := tallied.whole
      simp only [List.map_append, List.map_cons, List.sum_append, List.sum_cons,
        List.length_append, List.length_singleton] at whole ⊢
      omega
  -- The key is the first of its kind and is listed last.
  · have new : key ∉ all := fun known => fresh ((tallied.kinds.same key).mpr known)
    rw [counted]
    constructor
    · simpa using tallied.kinds.fresh new
    · intro kind m member
      rcases List.mem_append.mp member with before | last
      · refine tallied.kept before ?_
        rintro rfl
        exact fresh (List.mem_map_of_mem before)
      · obtain ⟨rfl, rfl⟩ := Prod.mk.inj (List.mem_singleton.mp last)
        rw [countOnward, if_pos rfl, List.count_eq_zero_of_not_mem new]
    · have whole := tallied.whole
      simp only [List.map_append, List.map_cons, List.map_nil, List.sum_append, List.sum_cons,
        List.sum_nil, List.length_append, List.length_singleton] at whole ⊢
      omega

theorem Tallied.run (tallied : Tallied all counts) (more : List String) :
    Tallied (all ++ more) (more.foldl tally counts) := by
  induction more generalizing all counts with
  | nil => simpa using tallied
  | cons key more ih => simpa using ih (tallied.step key)

example : ["a", "b", "a"].foldl tally [] = [("a", 2), ("b", 1)] := by decide

theorem talliedNothing : Tallied [] [] where
  kinds := ⟨List.nodup_nil, fun _ => Iff.rfl, .nil⟩
  each := nofun
  whole := rfl

theorem countsTallied (violations : List Violation) :
    Tallied (violations.map Violation.category) (categoryCounts violations) :=
  talliedNothing.run _

theorem Tallied.numbers (tallied : Tallied all counts) :
    counts.map Prod.snd = (counts.map Prod.fst).map all.count := by
  rw [List.map_map]
  exact List.map_congr_left fun entry member => tallied.each _ _ member

theorem Tallied.cut (tallied : Tallied all counts) (most : Nat) :
    (((counts.map Prod.fst).take most).map all.count).sum = all.length ↔
      (counts.map Prod.fst).length ≤ most := by
  have whole := tallied.whole
  have same := tallied.kinds.same
  rw [tallied.numbers] at whole
  generalize counts.map Prod.fst = kinds at whole same
  rw [← List.take_append_drop most kinds, List.map_append, List.sum_append] at whole
  rw [← whole, Nat.left_eq_add, List.sum_eq_zero_iff_forall_eq_nat, ← List.drop_eq_nil_iff]
  constructor
  · intro none
    refine List.eq_nil_iff_forall_not_mem.mpr fun kind member => ?_
    have occurs := (same kind).mp (List.mem_of_mem_drop member)
    exact Nat.ne_of_gt (List.count_pos_iff.mpr occurs) (none _ (List.mem_map_of_mem member))
  · intro none n member
    rw [none] at member
    cases member

theorem lineAlike (same : adviceLine n category = adviceLine m other) :
    n = m ∧ category = other := by
  have chars := congrArg String.toList same
  simp only [adviceLine, String.toList_append, List.append_assoc] at chars
  obtain ⟨rfl, rest⟩ := Text.countAlike (by decide) (List.append_cancel_left chars)
  exact ⟨rfl, String.toList_inj.mp (List.append_cancel_right rest)⟩

theorem adviceListed (violations : List Violation) : categoryRecommendations violations =
    ((categoryCounts violations).take maxRecommendations).map fun (category, n) =>
      adviceLine n category := List.map_take.symm

theorem categoriesAdvised (violations : List Violation) : ∃ kinds,
    FirstSeen (violations.map Violation.category) kinds ∧
    let ofKind kind := violations.countP fun v => v.category == kind
    let lines := categoryRecommendations violations
    lines = (kinds.take 5).map (fun kind => adviceLine (ofKind kind) kind) ∧
    lines.length = min 5 kinds.length ∧ lines.Nodup ∧
    (((kinds.take 5).map ofKind).sum = violations.length ↔ kinds.length ≤ 5) := by
  have tallied := countsTallied violations
  refine ⟨_, tallied.kinds, ?_⟩
  intro ofKind lines
  have counted : ∀ kind, (violations.map Violation.category).count kind = ofKind kind := by
    intro kind
    rw [List.count_eq_countP, List.countP_map]
    rfl
  have told : lines = (((categoryCounts violations).map Prod.fst).take 5).map fun kind =>
      adviceLine (ofKind kind) kind := by
    rw [← List.map_take, List.map_map]
    refine (adviceListed violations).trans (List.map_congr_left fun entry member => ?_)
    rw [Function.comp_apply, ← counted, ← tallied.each _ _ (List.mem_of_mem_take member)]
  refine ⟨told, ?_, ?_, ?_⟩
  · rw [told, List.length_map, List.length_take]
  · rw [told]
    refine (tallied.kinds.once.sublist (List.take_sublist 5 _)).map_on ?_
    exact fun kind _ other _ same => (lineAlike same).2
  · have cut := tallied.cut 5
    rwa [List.map_congr_left fun kind _ => counted kind, List.length_map] at cut

end

end PageAudit.Analysis
