import PageAudit.Http.Address
import PageAudit.Proofs.Pattern.Extent
import PageAudit.Proofs.Pattern.Lowered
import PageAudit.Proofs.Site
/-!
The scheme of an address. The address of a site is read once to accept it and once to send a request
to it, and both find the same scheme; what is sent starts with the scheme it was read with.
-/
namespace PageAudit

namespace Http

def Secure (url : String) : Prop := Text.startsWith url "https:" = true

instance (url : String) : Decidable (Secure url) := inferInstanceAs (Decidable (_ = true))

section
variable {url : String} {text : List Char} {a address : Address}

theorem checkedPrintable (checked : checkText text = .ok ()) : ∀ c ∈ text, 32 ≤ c.toNat := by
  unfold checkText at checked
  split at checked
  · cases checked
  · split at checked
    · cases checked
    · rename_i fine
      intro c member
      have printable := List.findIdx?_eq_none_iff.mp fine c member
      simp only [Bool.or_eq_false_iff, decide_eq_false_iff_not, Nat.not_lt] at printable
      exact printable.1

theorem ofTextScheme (read : Address.ofText url = .ok a) :
    checkText url.toList = .ok () ∧ a.scheme = (splitScheme url.toList).1.map Char.toLower := by
  unfold Address.ofText at read
  obtain ⟨_, checked, read⟩ := bindOk.mp read
  obtain ⟨host, -, read⟩ := bindOk.mp read
  obtain ⟨port, -, read⟩ := bindOk.mp read
  obtain ⟨_, -, ended⟩ := bindOk.mp read
  cases ended
  exact ⟨checked, rfl⟩

theorem requestRead (addressed : requestAddress url = .ok address)
    (absolute : address.isAbsolute = true) : Address.ofText url = .ok address := by
  unfold requestAddress at addressed
  split at addressed
  · rename_i a read
    obtain rfl := Except.ok.inj addressed
    unfold Address.target at absolute ⊢
    split
    · exact read
    · rename_i relative
      rw [if_neg relative] at absolute
      cases absolute
  · cases addressed

theorem schemeWritten (absolute : a.isAbsolute = true) :
    ∃ rest, a.write.toList = a.scheme ++ ':' :: rest := by
  obtain ⟨named, -⟩ := Bool.and_eq_true_iff.mp absolute
  have named : a.scheme.isEmpty = false := by simpa using named
  unfold Address.write
  rw [String.toList_ofList, named]
  simp only [Bool.false_eq_true, if_false, List.append_assoc, List.cons_append]
  exact ⟨_, rfl⟩

theorem lowerNoColon (text : List Char) :
    ':' ∉ (text.takeWhile (· != ':')).map Char.toLower := by
  intro member
  obtain ⟨c, before, lowered⟩ := List.mem_map.mp member
  have colon : (c.toLower == ':') = (c == ':') := Text.uncasedSame (f := (· == ':')) (by decide) c
  rw [lowered, beq_self_eq_true, eq_comm, beq_iff_eq] at colon
  simpa [colon] using List.mem_takeWhile_imp before

theorem secureScheme (absolute : a.isAbsolute = true) (free : ':' ∉ a.scheme) :
    Secure a.write ↔ a.scheme = "https".toList := by
  obtain ⟨rest, written⟩ := schemeWritten absolute
  unfold Secure Text.startsWith
  rw [List.isPrefixOf_iff_prefix, written]
  constructor
  · rintro ⟨more, whole⟩
    have whole : "https".toList ++ ':' :: more = a.scheme ++ ':' :: rest := whole
    have short := Pattern.firstBefore (by decide) whole
    have long := Pattern.firstBefore free whole.symm
    exact (List.append_inj whole (Nat.le_antisymm short long)).1.symm
  · intro named
    rw [named]
    exact ⟨rest, rfl⟩

theorem splitSchemeFree (text : List Char) : ':' ∉ (splitScheme text).1.map Char.toLower := by
  unfold splitScheme
  dsimp only
  split
  · split
    · exact lowerNoColon text
    · exact List.not_mem_nil
  · split
    · exact lowerNoColon text
    · exact List.not_mem_nil

theorem readSecure (addressed : requestAddress url = .ok address)
    (absolute : address.isAbsolute = true) :
    Secure address.write ↔ address.scheme = "https".toList := by
  obtain ⟨-, named⟩ := ofTextScheme (requestRead addressed absolute)
  exact secureScheme absolute (named ▸ splitSchemeFree url.toList)

end

end Http

namespace Url

theorem schemeSplit {text scheme more : List Char} (found : scheme? text = some (scheme, more)) :
    (Http.splitScheme text).1.map Char.toLower = scheme := by
  unfold scheme? cut at found
  dsimp only at found
  cases head : text.takeWhile (· != ':') with
  | nil => simp [head] at found
  | cons first others =>
    rw [head] at found
    simp only [Option.ite_none_right_eq_some, Bool.and_eq_true, List.contains_iff_mem,
      Option.some.injEq, Prod.mk.injEq] at found
    obtain ⟨⟨⟨colon, letter⟩, shaped⟩, rfl, -⟩ := found
    have rest : (text.dropWhile (· != ':')).isEmpty = false := by
      rw [List.isEmpty_eq_false_iff, ne_eq, List.dropWhile_eq_nil_iff]
      exact fun all => absurd (all ':' colon) (by decide)
    have fits : (first :: others).all (fun c => c.isAlphanum || c == '+' || c == '.' || c == '-') =
        true := by
      rw [List.all_eq_true] at shaped ⊢
      intro c member
      have kind := shaped c member
      simp only [isSchemeChar, Bool.or_eq_true] at kind ⊢
      tauto
    unfold Http.splitScheme
    simp only [head, letter, fits, rest, Bool.not_false, Bool.and_self, if_true]

theorem countedWhole {text : List Char} (printable : ∀ c ∈ text, 32 ≤ c.toNat)
    (starts : ∀ c, text.head? = some c → Text.isBlank c = false) : counted text = text := by
  have kept : text.dropWhile (fun c => c.toNat ≤ 32) = text := by
    rw [List.dropWhile_eq_self_iff]
    intro filled
    have low := printable _ (List.getElem_mem filled)
    have first := starts _ (List.head?_eq_getElem?.trans (List.getElem?_eq_getElem filled))
    simp only [Text.isBlank, Bool.or_eq_false_iff, beq_eq_false_iff_ne] at first
    simp only [decide_eq_true_eq]
    omega
  rw [counted, kept, List.filter_eq_self]
  intro c member
  have low := printable c member
  simp only [Bool.not_eq_true', Bool.or_eq_false_iff, beq_eq_false_iff_ne]
  refine ⟨⟨?_, ?_⟩, ?_⟩ <;> rintro rfl <;> exact absurd low (by decide)

end Url

theorem siteScheme {given : Option String} {site : String} {parts : Url.Parts}
    {address : Http.Address} (accepted : validateSite given = .ok site)
    (onWeb : OnWeb site parts) (addressed : Http.requestAddress site = .ok address)
    (absolute : address.isAbsolute = true) : address.scheme = parts.scheme := by
  obtain ⟨trimmed, -, -⟩ := siteAccepted.mp accepted
  obtain ⟨checked, named⟩ := Http.ofTextScheme (Http.requestRead addressed absolute)
  have whole : Url.counted site.toList = site.toList := by
    refine Url.countedWhole (Http.checkedPrintable checked) fun c starts => ?_
    rw [trimmed, Text.trimmed, String.toList_ofList, List.head?_eq_some_iff] at starts
    exact Text.trimStart starts.choose_spec
  obtain ⟨rest, found⟩ := webNamed onWeb
  rw [whole] at found
  rw [named, Url.schemeSplit found]

end PageAudit
