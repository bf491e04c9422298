import PageAudit.Proofs.Text.Line
/-!
Places in a text. The line of a place is told by the line ends before it: what stands before the
place ends with the start of that line, and what follows starts with its end.
-/
namespace PageAudit.Text

def ended (items : List (List Char)) : List Char := items.flatMap (· ++ ['\n'])

def lastLines (context : Nat) (text : List Char) : List Char :=
  ['\n'].intercalate ((lines text).drop (text.count '\n' - context))

section
variable {text passed rest start finish line : List Char} {above below items : List (List Char)}
  {context n : Nat}

theorem joinedBehind (above : List (List Char)) (line : List Char) (below : List (List Char)) :
    ['\n'].intercalate (above ++ line :: below) =
      ended above ++ ['\n'].intercalate (line :: below) := by
  induction above with
  | nil => rfl
  | cons first above ih =>
    have more : above ++ line :: below ≠ [] := by simp
    rw [List.cons_append, List.intercalate_cons_of_ne_nil more, ih]
    simp [ended]

theorem joinedFirst (line : List Char) (below : List (List Char)) :
    ∃ after, ['\n'].intercalate (line :: below) = line ++ after := by
  cases below with
  | nil => exact ⟨[], by simp⟩
  | cons next below =>
    exact ⟨['\n'] ++ ['\n'].intercalate (next :: below), by
      rw [List.intercalate_cons_cons, List.append_assoc]⟩

theorem joinedOnto (start finish : List Char) (below : List (List Char)) :
    start ++ ['\n'].intercalate (finish :: below) =
      ['\n'].intercalate ((start ++ finish) :: below) := by
  cases below with
  | nil => simp
  | cons next below => simp [List.intercalate_cons_cons]

theorem endedCount (free : ∀ item ∈ items, '\n' ∉ item) :
    (ended items).count '\n' = items.length := by
  induction items with
  | nil => rfl
  | cons item items ih =>
    obtain ⟨first, others⟩ := List.forall_mem_cons.mp free
    have none := List.count_eq_zero.mpr first
    have later := ih others
    rw [ended] at later ⊢
    rw [List.flatMap_cons, List.count_append, List.count_append, none, later, List.length_cons,
      List.count_singleton_self]
    omega

/- The place is behind the start of the line above which there are as many lines as line ends. -/
theorem linesApart (passed : List Char) : ∃ above start, lines passed = above ++ [start] ∧
    above.length = passed.count '\n' ∧ passed = ended above ++ start := by
  have filled : lines passed ≠ [] := List.splitOn_ne_nil '\n' passed
  have apart := List.dropLast_append_getLast filled
  refine ⟨_, _, apart.symm, ?_, ?_⟩
  · rw [List.length_dropLast, linesCount]
    omega
  · have last : ['\n'].intercalate [(lines passed).getLast filled] =
        (lines passed).getLast filled := List.intercalate_singleton
    rw [← last, ← joinedBehind, apart, linesJoined]

theorem linesTogether (left : lines passed = above ++ [start])
    (right : lines rest = finish :: below) :
    lines (passed ++ rest) = above ++ (start ++ finish) :: below := by
  have before : ∀ item ∈ above ++ [start], '\n' ∉ item := fun item member =>
    splitFree (left ▸ member)
  have after : ∀ item ∈ finish :: below, '\n' ∉ item := fun item member =>
    splitFree (right ▸ member)
  have whole : passed ++ rest = ['\n'].intercalate (above ++ (start ++ finish) :: below) := by
    rw [joinedBehind, ← joinedOnto, ← right, linesJoined, ← List.append_assoc]
    congr 1
    rw [← linesJoined passed, left, joinedBehind, List.intercalate_singleton]
  rw [lines, whole]
  refine List.splitOn_intercalate '\n' (fun item member => ?_) (by simp)
  rcases List.mem_append.mp member with up | down
  · exact before item (List.mem_append_left _ up)
  rcases List.mem_cons.mp down with rfl | down
  · exact List.not_mem_append (before start (by simp)) (after finish (by simp))
  · exact after item (List.mem_cons_of_mem _ down)

theorem linePlace (found : (lines text)[n]? = some line) :
    ∃ before after, text = before ++ (line ++ after) ∧ before.count '\n' = n := by
  obtain ⟨inside, rfl⟩ := List.getElem?_eq_some_iff.mp found
  have free : ∀ item ∈ (lines text).take n, '\n' ∉ item := fun item member =>
    splitFree (List.mem_of_mem_take member)
  obtain ⟨after, first⟩ := joinedFirst (lines text)[n] ((lines text).drop (n + 1))
  refine ⟨ended ((lines text).take n), after, ?_, ?_⟩
  · rw [← first, ← joinedBehind, ← List.drop_eq_getElem_cons inside, List.take_append_drop,
      linesJoined]
  · rw [endedCount free, List.length_take, Nat.min_eq_left (Nat.le_of_lt inside)]

theorem lineInside (found : (lines text)[n]? = some (passed ++ rest)) :
    ∃ before after, text = (before ++ passed) ++ (rest ++ after) ∧
      (before ++ passed).count '\n' = n := by
  obtain ⟨before, after, rfl, count⟩ := linePlace found
  have plain : '\n' ∉ passed := fun member =>
    splitFree (List.mem_of_getElem? found) (List.mem_append_left _ member)
  refine ⟨before, after, by simp, ?_⟩
  rw [List.count_append, List.count_eq_zero.mpr plain, count, Nat.add_zero]

theorem lastLinesSuffix (context : Nat) (text : List Char) : lastLines context text <:+ text := by
  have behind := dropJoined ['\n'] (lines text) (text.count '\n' - context)
  rwa [linesJoined] at behind

theorem lastLinesEnded (left : lines passed = above ++ [start])
    (count : above.length = passed.count '\n') :
    lastLines context passed = ended (above.drop (above.length - context)) ++ start := by
  rw [lastLines, left, ← count, List.drop_append_of_le_length (Nat.sub_le _ _), joinedBehind,
    List.intercalate_singleton]

end

end PageAudit.Text
