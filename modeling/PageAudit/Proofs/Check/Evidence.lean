import PageAudit.Check.Table
import PageAudit.Proofs.Excerpt
import PageAudit.Proofs.Failure
/-!
What checks show. Whichever check has evidence took it from the markup around a match of a pattern
that is seen, or around the first of the tags it found.
-/
namespace PageAudit

def Shown (s : Subject) (evidence : Option Evidence) : Prop :=
  ∀ e, evidence = some e → Locates s.markup e

namespace Shown

variable {s : Subject} {p : Pattern} {context : Nat}

theorem nothing : Shown s none := nofun

theorem around (seen : p.visible = true) : Shown s (excerpt s.markup p (OfNat.ofNat context)) :=
  fun _ found => excerptLocates seen (Int.natCast_nonneg context) found

theorem cases {condition : Prop} [Decidable condition] {yes no : Option Evidence}
    (one : Shown s yes) (other : Shown s no) : Shown s (if condition then yes else no) := by
  split
  · exact one
  · exact other

theorem when {wanted : Bool} (seen : p.visible = true) :
    Shown s (s.excerptIf wanted p (OfNat.ofNat context)) :=
  cases (around seen) nothing

theorem first {wanted : Bool} {found : List (List Char)} {evidence : Option Evidence}
    (bracketed : ∀ text ∈ found, Pattern.Bracketed text)
    (ended : s.excerptOfFirst wanted found (OfNat.ofNat context) = .ok evidence) :
    Shown s evidence := by
  unfold Subject.excerptOfFirst at ended
  split at ended
  · cases found with
    | nil => cases ended
    | cons text more =>
      obtain rfl := Except.ok.inj ended
      exact around (Pattern.bracketedVisible (bracketed text List.mem_cons_self))
  · obtain rfl := Except.ok.inj ended
    exact nothing

end Shown

theorem Pattern.opensVisible (name : String) : (opens name).visible = true := by
  have opened : ("<" ++ name).toList.head? = some '<' := by simp
  exact lettersVisible opened (by decide)

namespace Check

open Pattern

variable {s : Subject} {v : Verdict}

theorem tagsBracketed (word : String) (next : Pattern) (starts : word.toList.head? = some '<') :
    ∀ text ∈ s.findAll (letters word next), Bracketed text := by
  intro text member
  obtain ⟨takes, -⟩ := findAllTaken member
  obtain ⟨rest, whole⟩ := List.head?_eq_some_iff.mp starts
  rw [letters, whole] at takes
  exact lettersBracketed takes

theorem shownAfter {α : Type} {x : Except CheckError α} {f : α → Verdict}
    (ended : (do let a ← x; return f a) = .ok v)
    (shown : ∀ a, x = .ok a → Shown s (f a).evidence) : Shown s v.evidence := by
  obtain ⟨a, same, finished⟩ := bindOk.mp ended
  obtain rfl := Except.ok.inj finished
  exact shown a same

theorem altTextShown (ended : altText s = .ok v) : Shown s v.evidence := by
  have images : ∀ text ∈ s.findAll imgTag, Bracketed text :=
    tagsBracketed ("<" ++ "img") _ (by decide)
  exact shownAfter ended fun _ =>
    .first fun text missing => images text (List.mem_filter.mp missing).1

theorem layoutShiftShown (ended : layoutShift s = .ok v) : Shown s v.evidence := by
  obtain ⟨passed, -, later⟩ := bindOk.mp ended
  exact shownAfter later fun _ => .first (tagsBracketed "<img" _ (by decide))

theorem renderBlockingShown (ended : renderBlocking s = .ok v) : Shown s v.evidence := by
  unfold renderBlocking at ended
  extract_lets at ended
  split at ended
  · refine shownAfter ended fun evidence wanted => ?_
    obtain rfl := Except.ok.inj wanted
    exact .when (lettersVisible rfl (by decide))
  · exact shownAfter ended fun _ => .first (tagsBracketed "<script" _ (by decide))

theorem thirdPartyScriptsShown (ended : thirdPartyScripts s = .ok v) : Shown s v.evidence := by
  obtain ⟨address, -, later⟩ := bindOk.mp ended
  split at later
  · cases later
  · rename_i foreign listed
    obtain ⟨passed, -, later⟩ := bindOk.mp later
    have scripts : ∀ text ∈ s.findAll scriptSource, Bracketed text :=
      tagsBracketed "<script" _ (by decide)
    have among : foreign.map Match.text ⊆ s.findAll scriptSource :=
      List.map_subset _ (filterMKept listed)
    exact shownAfter later fun _ => .first fun text member => scripts text (among member)

end Check

def NamedCheck.Locating (check : NamedCheck) : Prop :=
  ∀ s v, check.run s = .ok v → Shown s v.evidence

theorem sureLocating (concern : String) {f : Subject → Verdict}
    (shown : ∀ s, Shown s (f s).evidence) : (NamedCheck.sure concern f).Locating := by
  intro s v ended
  obtain rfl := Except.ok.inj ended
  exact shown s

theorem failingLocating (concern : String) {f : Subject → Except CheckError Verdict}
    (shown : ∀ s v, f s = .ok v → Shown s v.evidence) :
    (NamedCheck.failing concern f).Locating := by
  intro s v ended
  simp only [NamedCheck.failing, Check.ofErrors] at ended
  split at ended
  · rename_i verdict finished
    obtain rfl := Except.ok.inj ended
    exact shown s verdict finished
  · cases ended

open Check Pattern

theorem accessLocating : ∀ row ∈ accessTable, row.2.Locating := by
  simp only [accessTable, List.forall_mem_cons]
  exact ⟨failingLocating _ fun _ _ => altTextShown,
    sureLocating _ fun _ => .when (lettersVisible rfl (by decide)),
    sureLocating _ fun _ => .when (lettersVisible rfl (by decide)),
    sureLocating _ fun _ => .when (opensVisible _),
    sureLocating _ fun _ => .when (lettersVisible rfl (by decide)),
    sureLocating _ fun _ => .when (by decide),
    sureLocating _ fun _ => .when (lettersVisible rfl (by decide)),
    sureLocating _ fun _ => .when (lettersVisible rfl (by decide)),
    sureLocating _ fun _ => .when (opensVisible _),
    sureLocating _ fun _ => .nothing,
    sureLocating _ fun _ => .nothing,
    sureLocating _ fun _ => .when (lettersVisible rfl (by decide)),
    nofun⟩

theorem loadingLocating : ∀ row ∈ loadingTable, row.2.Locating := by
  simp only [loadingTable, List.forall_mem_cons]
  exact ⟨failingLocating _ fun _ _ ended => shownAfter ended fun _ _ => .nothing,
    failingLocating _ fun _ _ ended => shownAfter ended fun _ _ => .nothing,
    failingLocating _ fun _ _ => layoutShiftShown,
    sureLocating _ fun _ => .when (opensVisible _),
    sureLocating _ fun _ => .when (lettersVisible rfl (by decide)),
    sureLocating _ fun _ => .when (lettersVisible rfl (by decide)),
    failingLocating _ fun _ _ => renderBlockingShown,
    failingLocating _ fun _ _ => renderBlockingShown,
    sureLocating _ fun _ => .nothing,
    sureLocating _ fun _ => .nothing,
    failingLocating _ fun _ _ => thirdPartyScriptsShown,
    sureLocating _ fun _ => .nothing,
    failingLocating _ fun _ _ ended =>
      shownAfter ended fun _ _ => .when (lettersVisible rfl (by decide)),
    sureLocating _ fun _ => .nothing,
    sureLocating _ fun _ => .nothing,
    nofun⟩

theorem discoveryLocating : ∀ row ∈ discoveryTable, row.2.Locating := by
  have ends : (words ["<footer", "<body"]).visible = true :=
    Bool.and_eq_true_iff.mpr ⟨lettersVisible rfl (by decide), lettersVisible rfl (by decide)⟩
  simp only [discoveryTable, List.forall_mem_cons]
  exact ⟨sureLocating _ fun _ =>
      .cases .nothing (.cases (.around (lettersVisible rfl (by decide))) (.around (opensVisible _))),
    sureLocating _ fun _ =>
      .cases .nothing (.cases (.around (lettersVisible rfl (by decide))) (.around (opensVisible _))),
    sureLocating _ fun _ => .cases (.around (opensVisible _)) (.when (opensVisible _)),
    sureLocating _ fun _ => .when (opensVisible _),
    sureLocating _ fun _ => .when ends,
    sureLocating _ fun _ => .when (opensVisible _),
    failingLocating _ fun _ _ ended => shownAfter ended fun _ _ => .nothing,
    sureLocating _ fun _ => .when (opensVisible _),
    sureLocating _ fun _ => .nothing,
    sureLocating _ fun _ => .when (opensVisible _),
    sureLocating _ fun _ => .when (opensVisible _),
    sureLocating _ fun _ => .when (lettersVisible rfl (by decide)),
    nofun⟩

theorem safetyLocating : ∀ row ∈ safetyTable, row.2.Locating := by
  simp only [safetyTable, List.forall_mem_cons]
  exact ⟨failingLocating _ fun _ _ ended => shownAfter ended fun _ _ => .nothing,
    failingLocating _ fun _ _ ended => shownAfter ended fun _ _ => .nothing,
    sureLocating _ fun _ => .nothing,
    sureLocating _ fun _ => .nothing,
    sureLocating _ fun _ => .nothing,
    sureLocating _ fun _ => .nothing,
    nofun⟩

theorem documentLocating : ∀ row ∈ documentTable, row.2.Locating := by
  have field : styleField.visible = true :=
    Bool.or_eq_true_iff.mpr (.inr (lettersVisible rfl (by decide)))
  simp only [documentTable, List.forall_mem_cons]
  exact ⟨sureLocating _ fun _ => .cases (.around (by decide)) (.when (opensVisible _)),
    sureLocating _ fun _ => .when (opensVisible _),
    sureLocating _ fun _ => .when (opensVisible _),
    sureLocating _ fun _ => .nothing,
    sureLocating _ fun _ => .cases (.around field) (.when (opensVisible _)),
    sureLocating _ fun _ =>
      .cases .nothing (.cases (.around (lettersVisible rfl (by decide))) (.around (opensVisible _))),
    sureLocating _ fun _ => .cases (.around (opensVisible _)) (.when (opensVisible _)),
    nofun⟩

theorem scriptLocating : ∀ row ∈ scriptTable, row.2.Locating := by
  simp only [scriptTable, List.forall_mem_cons]
  exact ⟨sureLocating _ fun _ => .when (opensVisible _),
    failingLocating _ fun _ _ => renderBlockingShown,
    sureLocating _ fun _ => .when (opensVisible _),
    sureLocating _ fun _ => .when (lettersVisible rfl (by decide)),
    sureLocating _ fun _ => .when (lettersVisible rfl (by decide)),
    sureLocating _ fun _ => .nothing,
    sureLocating _ fun _ => .nothing,
    sureLocating _ fun _ => .nothing,
    sureLocating _ fun _ => .nothing,
    sureLocating _ fun _ => .when (lettersVisible rfl (by decide)),
    sureLocating _ fun _ => .when (by decide),
    sureLocating _ fun _ => .when (lettersVisible rfl (by decide)),
    sureLocating _ fun _ => .nothing,
    sureLocating _ fun _ => .when (lettersVisible rfl (by decide)),
    sureLocating _ fun _ => .when (lettersVisible rfl (by decide)),
    sureLocating _ fun _ => .nothing,
    nofun⟩

theorem visitLocating : ∀ row ∈ visitTable, row.2.Locating := by
  simp only [visitTable, List.forall_mem_cons]
  exact ⟨sureLocating _ fun _ =>
      .cases .nothing (.cases (.around (opensVisible _)) (.around (opensVisible _))),
    sureLocating _ fun _ => .when (opensVisible _),
    sureLocating _ fun _ => .nothing,
    failingLocating _ fun _ _ ended => shownAfter ended fun _ _ => .nothing,
    sureLocating _ fun _ => .nothing,
    sureLocating _ fun _ => .when (opensVisible _),
    sureLocating _ fun _ => .when (opensVisible _),
    sureLocating _ fun _ => .nothing,
    failingLocating _ fun _ _ ended => shownAfter ended fun _ _ => .nothing,
    sureLocating _ fun _ => .nothing,
    sureLocating _ fun _ => .nothing,
    sureLocating _ fun _ => .nothing,
    nofun⟩

theorem checksLocating : ∀ row ∈ checks, row.2.Locating := by
  simp only [checks, List.forall_mem_append]
  exact ⟨⟨⟨⟨⟨⟨accessLocating, loadingLocating⟩, discoveryLocating⟩, safetyLocating⟩,
    documentLocating⟩, scriptLocating⟩, visitLocating⟩

end PageAudit
