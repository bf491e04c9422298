import Mathlib.Data.List.Nodup
import PageAudit.Proofs.Text.Case
import PageAudit.Rule.Catalog
/-!
Selection is a filter: it only leaves rules out, and it decides on each rule alone. So what holds of
all rules of the catalog holds of every selection from it, a list is selected from part by part, and
a selection selects itself. A longer token selects less; its letters are taken to be put in lower
case one by one, as those of ASCII are, for elsewhere the next letter can change the last one.
-/
namespace PageAudit

def selects : Option String → Rule → Bool
  | none => fun _ => true
  | some token => fun r =>
    token.isEmpty || token == "all" || picks token (Text.lowercase token) r

theorem selectFilter (token : Option String) (rules : List Rule) :
    select token rules = rules.filter (selects token) := by
  cases token with
  | none => simp [select, selects]
  | some token =>
    cases every : token.isEmpty || token == "all" <;> simp [select, selects, every]

theorem selectAll (rules : List Rule) : select (some "all") rules = rules := by
  simp [select]

theorem selectSublist (token : Option String) (rules : List Rule) :
    (select token rules).Sublist rules := by
  rw [selectFilter]
  exact List.filter_sublist

theorem catalogIdsDistinct : (catalog.map Rule.id).Nodup := by decide

theorem catalogAdvises : ∀ r ∈ catalog, r.fallback ≠ "" := by decide +kernel

theorem selectedIdsDistinct (token : Option String) :
    ((select token catalog).map Rule.id).Nodup :=
  catalogIdsDistinct.sublist ((selectSublist token catalog).map Rule.id)

theorem selectedAdvises (token : Option String) : ∀ r ∈ select token catalog, r.fallback ≠ "" :=
  fun r selected => catalogAdvises r ((selectSublist token catalog).subset selected)

theorem selectsById (token : Option String) {r : Rule} (member : r ∈ catalog) :
    selects token r = true ↔ r.id ∈ (select token catalog).map Rule.id := by
  rw [selectFilter]
  constructor
  · intro selected
    exact List.mem_map_of_mem (List.mem_filter.mpr ⟨member, selected⟩)
  · intro sameId
    obtain ⟨other, inside, same⟩ := List.mem_map.mp sameId
    obtain ⟨within, selected⟩ := List.mem_filter.mp inside
    rw [List.inj_on_of_nodup_map catalogIdsDistinct member within same.symm]
    exact selected

theorem Text.holdsInfix {part text : List Char} : Text.holds part text = true ↔ part <:+: text := by
  induction text with
  | nil => rw [Text.holds, List.isEmpty_iff, List.infix_nil]
  | cons c rest ih =>
    rw [Text.holds, Bool.or_eq_true, List.isPrefixOf_iff_prefix, ih, List.infix_cons_iff]

theorem Text.lowercaseBegins {start more : String} (startAscii : Text.isAscii start = true)
    (moreAscii : Text.isAscii more = true) :
    (Text.lowercase start).toList <+: (Text.lowercase (start ++ more)).toList := by
  obtain ⟨startChars, startSmall⟩ := Text.asciiText startAscii
  obtain ⟨moreChars, moreSmall⟩ := Text.asciiText moreAscii
  have small : ∀ c ∈ (start ++ more).toList, c.toNat < 128 := by
    intro c member
    rw [String.toList_append, startChars, moreChars] at member
    exact (List.mem_append.mp member).elim (startSmall c) (moreSmall c)
  have whole : (Text.lowercase (start ++ more)).toList =
      start.toList.map Char.toLower ++ more.toList.map Char.toLower := by
    rw [Text.lowercase, String.toList_ofList, Text.lowercaseAscii small, String.toList_append,
      List.map_append]
  rw [whole, Text.lowercaseChars startAscii, ← startChars]
  exact List.prefix_append _ _

section
variable {start more : String}

theorem picksBegun (startAscii : Text.isAscii start = true) (moreAscii : Text.isAscii more = true)
    {r : Rule} (picked : picks (start ++ more) (Text.lowercase (start ++ more)) r = true) :
    picks start (Text.lowercase start) r = true := by
  unfold picks Text.startsWith Text.mentions at picked ⊢
  rw [Bool.or_eq_true, List.isPrefixOf_iff_prefix, Text.holdsInfix] at picked ⊢
  refine picked.imp (fun named => ?_) fun cited => ?_
  · rw [String.toList_append] at named
    exact (List.prefix_append _ _).trans named
  · exact (Text.lowercaseBegins startAscii moreAscii).isInfix.trans cited

theorem selectsBegun (startAscii : Text.isAscii start = true) (moreAscii : Text.isAscii more = true)
    (filled : start ≠ "") (special : start ++ more ≠ "all") {r : Rule}
    (selected : selects (some (start ++ more)) r = true) : selects (some start) r = true := by
  have longer : start ++ more ≠ "" := by simp [filled]
  simp only [selects, String.isEmpty_iff, beq_iff_eq, Bool.or_eq_true, filled, longer, special,
    false_or] at selected ⊢
  exact .inr (picksBegun startAscii moreAscii selected)

end

theorem selectAgain (token : Option String) (rules : List Rule) :
    select token (select token rules) = select token rules := by
  rw [selectFilter, selectFilter, List.filter_filter]
  simp only [Bool.and_self]

theorem selectApart (token : Option String) (rules more : List Rule) :
    select token (rules ++ more) = select token rules ++ select token more := by
  rw [selectFilter, selectFilter, selectFilter, List.filter_append]

theorem selectBegun {start more : String} (startAscii : Text.isAscii start = true)
    (moreAscii : Text.isAscii more = true) (filled : start ≠ "") (special : start ++ more ≠ "all")
    (rules : List Rule) :
    (select (some (start ++ more)) rules).Sublist (select (some start) rules) := by
  rw [selectFilter, selectFilter]
  refine List.monotone_filter_right rules fun r selected => ?_
  exact selectsBegun startAscii moreAscii filled special selected

theorem selectionLaws :
    (∀ token rules, (select token rules).Sublist rules ∧
      select token (select token rules) = select token rules ∧
      ∀ more, select token (rules ++ more) = select token rules ++ select token more) ∧
    ∀ start more : String, Text.isAscii start = true → Text.isAscii more = true → start ≠ "" →
      start ++ more ≠ "all" →
      ∀ rules, (select (some (start ++ more)) rules).Sublist (select (some start) rules) := by
  refine ⟨fun token rules => ?_, fun start more startAscii moreAscii filled special rules => ?_⟩
  · exact ⟨selectSublist token rules, selectAgain token rules, selectApart token rules⟩
  · exact selectBegun startAscii moreAscii filled special rules

theorem searchWithinSecurity : "se" ++ "o" ≠ "all" ∧
    (select (some "seo") catalog).Sublist (select (some "se") catalog) :=
  ⟨by decide, selectionLaws.2 "se" "o" (by decide) (by decide) (by decide) (by decide) catalog⟩

end PageAudit
