import Mathlib.Data.List.Forall2
import Mathlib.Data.List.Infix
import PageAudit.Proofs.Text.Case
/-!
Texts read without patterns: the pieces that end with an angle bracket, and the words that stand in
them, letter case apart.
-/
namespace PageAudit.Text

/-- The text is cut at each closing bracket; what follows the last one is no piece. -/
def pieces (text : List Char) : List (List Char) := (text.splitOn '>').dropLast

def startsLike (word text : List Char) : Bool := (word.map caseKey).isPrefixOf (text.map caseKey)

def holdsLike (word text : List Char) : Bool := text.tails.any (startsLike word)

def Spells (word part : List Char) : Prop := List.Forall₂ Alike word part

def fromLike? (word text : List Char) : Option (List Char) := text.tails.find? (startsLike word)

def behindLike (word text : List Char) : List Char :=
  match fromLike? word text with
  | some found => found.drop word.length
  | none => []

section
variable {part text word : List Char}

theorem piecesNone (free : '>' ∉ text) : pieces text = [] := by
  rw [pieces, List.splitOn_eq_singleton free]
  rfl

theorem piecesNext (free : '>' ∉ part) (rest : List Char) :
    pieces (part ++ '>' :: rest) = part :: pieces rest := by
  rw [pieces, List.splitOn_append_cons_self_of_not_mem free,
    List.dropLast_cons_of_ne_nil (List.splitOn_ne_nil '>' rest)]
  rfl

/- The part before the next bracket grows until the bracket is there. -/
theorem pieceInduction {motive : List Char → Prop} (last : ∀ text, '>' ∉ text → motive text)
    (next : ∀ part rest, '>' ∉ part → motive rest → motive (part ++ '>' :: rest))
    (text : List Char) : motive text := by
  have all : ∀ part, '>' ∉ part → motive (part ++ text) := by
    induction text with
    | nil =>
      intro part free
      rw [List.append_nil]
      exact last part free
    | cons c rest ih =>
      intro part free
      by_cases bracket : c = '>'
      · subst bracket
        exact next part rest free (ih [] List.not_mem_nil)
      · have longer := ih (part ++ [c]) (List.not_mem_append free (by simpa using Ne.symm bracket))
        rwa [List.append_assoc, List.singleton_append] at longer
  exact all [] List.not_mem_nil

theorem pieceFree (member : part ∈ pieces text) : '>' ∉ part := by
  induction text using pieceInduction with
  | last text free =>
    rw [piecesNone free] at member
    cases member
  | next first rest free ih =>
    rw [piecesNext free, List.mem_cons] at member
    rcases member with rfl | later
    · exact free
    · exact ih later

theorem startsExactly : startsLike word text = true ↔
    ∃ read rest, text = read ++ rest ∧ read.map caseKey = word.map caseKey := by
  rw [startsLike, List.isPrefixOf_iff_prefix]
  constructor
  · rintro ⟨keys, same⟩
    obtain ⟨read, rest, whole, read', -⟩ := List.map_eq_append_iff.mp same.symm
    exact ⟨read, rest, whole, read'⟩
  · rintro ⟨read, rest, rfl, same⟩
    exact ⟨rest.map caseKey, by rw [List.map_append, same]⟩

theorem holdsExactly : holdsLike word text = true ↔
    ∃ before read rest, text = before ++ (read ++ rest) ∧
      read.map caseKey = word.map caseKey := by
  rw [holdsLike, List.any_eq_true]
  constructor
  · rintro ⟨found, member, starts⟩
    obtain ⟨before, rfl⟩ := (List.mem_tails _ _).mp member
    obtain ⟨read, rest, rfl, same⟩ := startsExactly.mp starts
    exact ⟨before, read, rest, rfl, same⟩
  · rintro ⟨before, read, rest, rfl, same⟩
    exact ⟨read ++ rest, (List.mem_tails _ _).mpr (List.suffix_append _ _),
      startsExactly.mpr ⟨read, rest, rfl, same⟩⟩

theorem spellsKeys : Spells word part ↔ part.map caseKey = word.map caseKey := by
  rw [eq_comm, ← List.forall₂_eq_eq_eq, List.forall₂_map_left_iff, List.forall₂_map_right_iff]
  simp only [Spells, keyAlike]

theorem holdsSpelled : holdsLike word text = true ↔ ∃ part, part <:+: text ∧ Spells word part := by
  rw [holdsExactly]
  constructor
  · rintro ⟨before, part, rest, rfl, same⟩
    exact ⟨part, ⟨before, rest, List.append_assoc ..⟩, spellsKeys.mpr same⟩
  · rintro ⟨part, ⟨before, rest, rfl⟩, spelt⟩
    exact ⟨before, part, rest, List.append_assoc .., spellsKeys.mp spelt⟩

theorem markHeld {c : Char} (some : 0 < c.toNat) (low : c.toNat < 65) (alone : caseKey c = c)
    (member : c ∈ word) (holds : holdsLike word text = true) : c ∈ text := by
  obtain ⟨before, read, rest, rfl, same⟩ := holdsExactly.mp holds
  have key : caseKey c ∈ read.map caseKey := same ▸ List.mem_map_of_mem member
  obtain ⟨d, there, like⟩ := List.mem_map.mp key
  rw [alone] at like
  obtain rfl := lowKey some low like
  exact List.mem_append_right _ (List.mem_append_left _ there)

theorem markRead {c : Char} {read : List Char} (some : 0 < c.toNat) (low : c.toNat < 65)
    (starts : (word.map caseKey).head? = Option.some c)
    (keys : read.map caseKey = word.map caseKey) : ∃ more, read = c :: more := by
  rw [← keys] at starts
  cases read with
  | nil => cases starts
  | cons d more =>
    obtain rfl := lowKey some low (Option.some.inj starts)
    exact ⟨more, rfl⟩

theorem holdsItself (inside : word <:+: text) : holdsLike word text = true := by
  obtain ⟨before, rest, rfl⟩ := inside
  exact holdsExactly.mpr ⟨before, word, rest, List.append_assoc .., rfl⟩

theorem holdsFrom : holdsLike word text = (fromLike? word text).isSome := by
  rw [Bool.eq_iff_iff, fromLike?, List.find?_isSome, holdsLike, List.any_eq_true]

theorem fromFound {found : List Char} (first : fromLike? word text = some found) :
    found <:+ text ∧ startsLike word found = true :=
  ⟨(List.mem_tails _ _).mp (List.mem_of_find?_eq_some first), List.find?_some first⟩

end

end PageAudit.Text
