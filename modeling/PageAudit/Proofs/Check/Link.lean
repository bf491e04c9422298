import PageAudit.Proofs.Check.Scanned
import PageAudit.Proofs.Pattern.Extent
import PageAudit.Proofs.Pattern.Leftmost
/-!
Links. They are counted by a name of one letter, so every tag whose name starts with that letter is
counted too, on the whole page as well as between the first navigation and its end.
-/
namespace PageAudit.Check

open Pattern

def namesLink (text : List Char) : Bool :=
  text.tails.any fun rest => Text.startsLike "<a".toList rest &&
    (rest.drop "<a".length).head?.all fun c => Text.isBlank c || c == '/'

def anchorPieces (markup : List Char) : List (List Char) := (Text.pieces markup).filter namesLink

structure NavIn (page before opening inside closing after : List Char) : Prop where
  whole : page = before ++ (opening ++ (inside ++ (closing ++ after)))
  opens : opening.map Text.caseKey = "<nav".toList.map Text.caseKey
  closes : closing.map Text.caseKey = "</nav>".toList.map Text.caseKey
  first : Text.holdsLike "<nav".toList before = false
  nearest : Text.holdsLike "</nav>".toList inside = false

/-- The verdict tells of a part of the page how many tags have a name that starts like that of a
link. It is the number of links exactly if each of them has the name of a link. -/
def LinksTold (start : String) (v : Verdict) (markup : List Char) : Prop :=
  let told := (markedPieces "<a" markup).length
  start.toList ++ ((toString told).toList ++ " links".toList) <+: v.details.toList ∧
    (told = (anchorPieces markup).length ↔ ∀ part ∈ markedPieces "<a" markup, namesLink part = true)

section
variable {page before opening inside closing after text : List Char} {t u : Trail}

theorem linkMarked (markup : List Char) :
    (markedPieces "<a" markup).length = (anchorPieces markup).length ↔
      ∀ part ∈ markedPieces "<a" markup, namesLink part = true := by
  have marked : ∀ {part}, namesLink part = true → Text.holdsLike "<a".toList part = true := by
    intro part named
    obtain ⟨rest, member, here⟩ := List.any_eq_true.mp named
    exact List.any_eq_true.mpr ⟨rest, member, (Bool.and_eq_true_iff.mp here).1⟩
  have within : anchorPieces markup = (markedPieces "<a" markup).filter namesLink := by
    rw [anchorPieces, markedPieces, List.filter_filter]
    refine List.filter_congr fun part _ => ?_
    cases named : namesLink part with
    | false => rfl
    | true => exact (marked named).symm
  rw [within, eq_comm, List.length_filter_eq_length_iff]

theorem navReads : navElement.Reads t text u ↔ ∃ opening inside closing rest,
    text = opening ++ (inside ++ (closing ++ rest)) ∧
      opening.map Text.caseKey = "<nav".toList.map Text.caseKey ∧
      closing.map Text.caseKey = "</nav>".toList.map Text.caseKey ∧
      u = ((t.over opening).over inside).over closing := by
  constructor
  · intro reads
    obtain ⟨opening, _, rfl, opens, inside, _, rfl, -, reads⟩ := (lettersRead "<nav").mp reads
    obtain ⟨closing, rest, rfl, closes, rfl⟩ := (lettersRead "</nav>").mp reads
    exact ⟨opening, inside, closing, rest, rfl, opens, closes, rfl⟩
  · rintro ⟨opening, inside, closing, rest, rfl, opens, closes, rfl⟩
    exact (lettersRead "<nav").mpr ⟨opening, _, rfl, opens, inside, _, rfl, fun _ _ => rfl,
      (lettersRead "</nav>").mpr ⟨closing, rest, rfl, closes, rfl⟩⟩

theorem navTaken (nav : NavIn page before opening inside closing after)
    (matched : navElement.matchAt? (before.getLastD ' ') (opening ++ (inside ++ (closing ++ after)))
      = some t) : t.taken = (opening ++ (inside ++ closing)).length := by
  have shape : navElement = ones (lettered "<nav") (few anyChar (letters "</nav>" done)) :=
    lettersOnes "<nav" _
  rw [matchAt?, shape] at matched
  obtain ⟨head, rest, same, takes, ran⟩ := runOnes matched
  have equal : opening.length = head.length := by
    rw [keysLength nav.opens, onesLength takes]
    rfl
  obtain ⟨rfl, rfl⟩ := List.append_inj same equal
  obtain ⟨near, later, split, short, ended⟩ := fewNearest ran
    (readsRun ((lettersRead "</nav>").mpr ⟨closing, after, rfl, nav.closes, rfl⟩))
  obtain ⟨read, rest, rfl, keys, rfl⟩ := (lettersRead "</nav>").mp (runReads ended)
  obtain ⟨more, starts⟩ := Text.markRead (c := '<') (by decide) (by decide) (by decide) nav.closes
  have far : inside.length ≤ near.length := by
    rw [starts] at split
    exact wordBehind (by decide) nav.nearest split keys
  rw [Trail.overTaken, Trail.overTaken, Trail.overTaken, keysLength keys]
  simp only [Trail.start, List.length_append, keysLength nav.closes]
  omega

theorem navFound (nav : NavIn page before opening inside closing after) :
    ∃ m, navElement.find? page = some m ∧ m.text = opening ++ (inside ++ closing) := by
  have begins : ∀ {t text u}, navElement.Reads t text u → ∃ read later, text = read ++ later ∧
      read.map Text.caseKey = "<nav".toList.map Text.caseKey := by
    intro t text u reads
    obtain ⟨opening, _, _, _, whole, opens, -⟩ := navReads.mp reads
    exact ⟨opening, _, whole, opens⟩
  have reads : navElement.Reads (.start (before.getLastD ' '))
      (opening ++ (inside ++ (closing ++ after))) _ :=
    navReads.mpr ⟨opening, inside, closing, after, rfl, nav.opens, nav.closes, rfl⟩
  obtain ⟨more, starts⟩ := Text.markRead (c := '<') (by decide) (by decide) (by decide) nav.opens
  obtain ⟨t, leftmost⟩ : ∃ t, Leftmost navElement ' ' page before
      (opening ++ (inside ++ (closing ++ after))) t := by
    rw [nav.whole]
    rw [starts] at reads ⊢
    exact wordLeftmost (by decide) nav.first begins reads
  refine ⟨_, leftmostFound.mpr ⟨_, _, t, leftmost, rfl⟩, ?_⟩
  have cut : opening ++ (inside ++ (closing ++ after)) =
      (opening ++ (inside ++ closing)) ++ after := by
    simp
  rw [Trail.found, navTaken nav leftmost.matched, cut, List.take_left]

theorem navThere (nav : NavIn page before opening inside closing after) :
    (tag "nav").occursIn page = true := by
  have ends : Text.holdsLike "</nav>".toList closing = true :=
    Text.holdsExactly.mpr ⟨[], closing, [], by simp, nav.closes⟩
  have bracket : '>' ∈ closing := Text.markHeld (by decide) (by decide) (by decide) (by decide) ends
  have known : tagWord "<nav" = true := by decide
  have free : '>' ∉ opening := tagWordFree known nav.opens
  obtain ⟨part, rest, split, apart⟩ : ∃ part rest,
      opening ++ (inside ++ (closing ++ after)) = part ++ '>' :: rest ∧ '>' ∉ part :=
    List.eq_append_cons_of_mem (by simp [bracket])
  obtain ⟨more, rfl, -⟩ := Text.restApart free split.symm
  have starts : Text.startsLike "<nav".toList (opening ++ more) = true :=
    Text.startsExactly.mpr ⟨opening, more, rfl, nav.opens⟩
  exact occursPlaces.mpr ⟨before, _, nav.whole.trans (congrArg (before ++ ·) split),
    (tagCloses known : Closes (tag "nav") _).reads _ rest apart starts⟩

theorem linksTold (s : Subject) : ∃ spacing navigating v w,
    checks.find? "webaim-002" = some spacing ∧ spacing.run s = .ok v ∧
    checks.find? "ux-001" = some navigating ∧ navigating.run s = .ok w ∧
    LinksTold "" v s.markup ∧
    ∀ before opening inside closing after, NavIn s.markup before opening inside closing after →
      LinksTold "Navigation found with " w (opening ++ (inside ++ closing)) := by
  refine ⟨_, _, linkSpacing s, navigation s, rfl, rfl, rfl, rfl, ⟨?_, linkMarked _⟩, ?_⟩
  · have counted : s.count anchorTag = (markedPieces "<a" s.markup).length := tagCounted s rfl
    simp only [linkSpacing, Verdict.plain, counted, String.toList_empty, List.nil_append,
      String.toList_append, List.append_assoc]
    have word : " links".toList <+: " links, ".toList := by decide
    exact (List.prefix_append_right_inj _).mpr (word.trans (List.prefix_append _ _))
  · intro before opening inside closing after nav
    refine ⟨?_, linkMarked _⟩
    have there : s.has (tag "nav") = true := navThere nav
    obtain ⟨m, found, region⟩ := navFound nav
    have element : s.find? navElement = some m := found
    have counted : anchorTag.count m.text =
        (markedPieces "<a" (opening ++ (inside ++ closing))).length := by
      rw [region]
      exact tagCounted { s with markup := opening ++ (inside ++ closing) } rfl
    have word : " links".toList <+: " links.".toList := by decide
    simp only [navigation, Verdict.located, there, element, counted, if_true, String.toList_append,
      List.append_assoc]
    exact (List.prefix_append_right_inj _).mpr ((List.prefix_append_right_inj _).mpr word)

end

theorem articleTold :
    let page := "<nav><article></article></nav>".toList
    let s : Subject := ⟨page, .empty, "https://a.b/"⟩
    anchorPieces page = [] ∧
    NavIn page [] "<nav".toList "><article></article>".toList "</nav>".toList [] ∧
    ∃ spacing navigating v w,
      checks.find? "webaim-002" = some spacing ∧ spacing.run s = .ok v ∧
      checks.find? "ux-001" = some navigating ∧ navigating.run s = .ok w ∧
      v.details = "1 links, 1 interactive elements. Spacing: Check manually" ∧
      w.details = "Navigation found with 1 links." := by
  intro page s
  refine ⟨by decide +kernel, ⟨rfl, rfl, rfl, by decide +kernel, by decide +kernel⟩, _, _,
    linkSpacing s, navigation s, rfl, rfl, rfl, rfl, by decide +kernel, by decide +kernel⟩

end PageAudit.Check
