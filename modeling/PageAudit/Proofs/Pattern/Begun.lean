import PageAudit.Pattern.Basic
import PageAudit.Proofs.Pattern.Group
/-!
Patterns that are the beginnings of others. Where the longer pattern matches the shorter one does,
for it asks for nothing that the longer one has not asked for first.
-/
namespace PageAudit.Pattern

inductive Begins : Pattern → Pattern → Prop where
  | done (q : Pattern) : Begins done q
  | one (accepts : Char → Bool) {p q : Pattern} (next : Begins p q) :
      Begins (one accepts p) (one accepts q)
  | many (accepts : Char → Bool) {p q : Pattern} (next : Begins p q) :
      Begins (many accepts p) (many accepts q)
  | few (accepts : Char → Bool) {p q : Pattern} (next : Begins p q) :
      Begins (few accepts p) (few accepts q)
  | either {p q p' q' : Pattern} (left : Begins p p') (right : Begins q q') :
      Begins (either p q) (either p' q')
  | lacking (ahead : Pattern) {p q : Pattern} (next : Begins p q) :
      Begins (lacking ahead p) (lacking ahead q)
  | edge {p q : Pattern} (next : Begins p q) : Begins (edge p) (edge q)
  | opening {p q : Pattern} (next : Begins p q) : Begins (opening p) (opening q)
  | closing {p q : Pattern} (next : Begins p q) : Begins (closing p) (closing q)
  | again {p q : Pattern} (next : Begins p q) : Begins (again p) (again q)

def Steady (piece : Piece) : Prop := ∀ p q, Begins p q → Begins (piece p) (piece q)

section
variable {p q : Pattern} {t u : Trail} {text : List Char}

theorem begunReads (begins : Begins p q) (reads : q.Reads t text u) : ∃ v, p.Reads t text v := by
  induction begins generalizing t text with
  | done q => exact ⟨t, rfl⟩
  | one accepts next ih =>
    obtain ⟨c, rest, split, accepted, reads⟩ := reads
    obtain ⟨v, sooner⟩ := ih reads
    exact ⟨v, c, rest, split, accepted, sooner⟩
  | many accepts next ih =>
    obtain ⟨passed, rest, split, all, reads⟩ := reads
    obtain ⟨v, sooner⟩ := ih reads
    exact ⟨v, passed, rest, split, all, sooner⟩
  | few accepts next ih =>
    obtain ⟨passed, rest, split, all, reads⟩ := reads
    obtain ⟨v, sooner⟩ := ih reads
    exact ⟨v, passed, rest, split, all, sooner⟩
  | either left right ihLeft ihRight =>
    rcases reads with reads | reads
    · obtain ⟨v, sooner⟩ := ihLeft reads
      exact ⟨v, .inl sooner⟩
    · obtain ⟨v, sooner⟩ := ihRight reads
      exact ⟨v, .inr sooner⟩
  | lacking ahead next ih =>
    obtain ⟨v, sooner⟩ := ih reads.2
    exact ⟨v, reads.1, sooner⟩
  | edge next ih =>
    obtain ⟨v, sooner⟩ := ih reads.2
    exact ⟨v, reads.1, sooner⟩
  | opening next ih => exact ih reads
  | closing next ih => exact ih reads
  -- Both have left the same trail up to here, so the group holds the same text.
  | again next ih =>
    obtain ⟨passed, rest, split, reached, reads⟩ := reads
    obtain ⟨v, sooner⟩ := ih reads
    exact ⟨v, passed, rest, split, reached, sooner⟩

theorem begunOccurs (begins : Begins p q) (occurs : q.occursIn text = true) :
    p.occursIn text = true := by
  obtain ⟨passed, rest, whole, u, reads⟩ := occursPlaces.mp occurs
  exact occursPlaces.mpr ⟨passed, rest, whole, begunReads begins reads⟩

theorem lettersSteady (word : String) : Steady (letters word) := by
  intro p q begins
  unfold letters lettersOf
  induction word.toList with
  | nil => exact begins
  | cons c rest ih => exact .one _ ih

theorem verbatimSteady (word : String) : Steady (verbatim word) := by
  intro p q begins
  unfold verbatim
  induction word.toList with
  | nil => exact begins
  | cons c rest ih => exact .one _ ih

theorem zeroOrMoreSteady (accepts : Char → Bool) : Steady (zeroOrMore accepts) :=
  fun _ _ => .many accepts

theorem oneOrMoreSteady (accepts : Char → Bool) : Steady (oneOrMore accepts) :=
  fun _ _ begins => .one accepts (.many accepts begins)

theorem wordEdgeSteady : Steady wordEdge := fun _ _ => .edge

theorem rowSteady {pieces : List Piece} (steady : ∀ piece ∈ pieces, Steady piece) :
    Steady (row pieces) := by
  intro p q begins
  induction pieces with
  | nil => exact begins
  | cons piece pieces ih =>
    obtain ⟨first, others⟩ := List.forall_mem_cons.mp steady
    exact first _ _ (ih others)

theorem valuedSteady (name value : String) : Steady (valued name value) := by
  have quoted : Steady quote := fun _ _ => .one isQuote
  refine rowSteady ?_
  simp only [List.forall_mem_cons]
  exact ⟨lettersSteady name, verbatimSteady "=", quoted, lettersSteady value, quoted, nofun⟩

/- A row of pieces begins with the row of the first ones. -/
theorem rowBegins {pieces : List Piece} (steady : ∀ piece ∈ pieces, Steady piece)
    (next : Pattern) : Begins (of pieces) (row pieces next) :=
  rowSteady steady _ _ (.done next)

theorem lettersBegin (word more : String) :
    Begins (of [letters word]) (of [letters (word ++ more)]) := by
  have joined : letters (word ++ more) done = letters word (letters more done) := by
    simp only [letters, lettersOf, String.toList_append, List.foldr_append]
  change Begins _ (letters (word ++ more) done)
  rw [joined]
  exact lettersSteady word _ _ (.done _)

end

end PageAudit.Pattern
