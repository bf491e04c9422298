import Mathlib.Algebra.GroupWithZero.Nat
import PageAudit.Check.Table
import PageAudit.Proofs.Pattern.Leftmost
import PageAudit.Proofs.Pattern.Piece
/-!
The resources that a page refers to. They are counted by tags with a source and by the word for an
address, which need not stand in a tag of a resource, so the address of a link counts as well.
-/
namespace PageAudit.Check

open Pattern Number

def resourceNames : List String := ["script", "link", "img"]

def refers (word : String) (text : List Char) : Bool :=
  resourceNames.any fun name => Text.startsLike ("<" ++ name).toList text &&
    Text.holdsLike word.toList (text.drop ("<" ++ name).toList.length)

def refersIn (word : String) (part : List Char) : Bool := part.tails.any (refers word)

def resourcePieces (markup : List Char) : List (List Char) :=
  (Text.pieces markup).filter fun part => refersIn "src=" part || refersIn "href=" part

/-- The addresses before the first tag with a source and behind the last source in it. -/
def looseIn (part : List Char) : Nat :=
  (part.tails.takeWhile (!refers "src=" ·)).countP (Text.startsLike "href=".toList) +
    match part.tails.find? (refers "src=") with
    | some tag => Text.countLike "href=".toList (Text.behindLast "src=".toList tag)
    | none => 0

def toldIn (part : List Char) : Nat := looseIn part + if refersIn "src=" part then 1 else 0

def resourcesFound (markup : List Char) : Nat :=
  ((Text.pieces markup).map toldIn).sum + toldIn (Text.openRest markup)

/-- The only address that is counted by itself is that of a tag without a source. -/
def CountedOnce (part : List Char) : Prop :=
  looseIn part = if refersIn "href=" part && !refersIn "src=" part then 1 else 0

def Outside (text : List Char) : Prop :=
  ∀ name ∈ resourceNames, Text.holdsLike ("<" ++ name).toList text = false

def sourcedResource : Pattern :=
  row [verbatim "<", anyOf resourceNames, inTag, letters "src="] .done

theorem resourceParts : resourceField = .either sourcedResource (letters "href=" .done) := rfl

section
variable {part rest text tail read : List Char} {word : String} {before c : Char} {t u : Trail}

theorem refersExactly : refers word text = true ↔ ∃ name ∈ resourceNames, ∃ read rest,
    text = read ++ rest ∧ read.map Text.caseKey = ("<" ++ name).toList.map Text.caseKey ∧
      Text.holdsLike word.toList rest = true := by
  simp only [refers, List.any_eq_true, Bool.and_eq_true]
  refine exists_congr fun name => and_congr_right fun _ => ?_
  constructor
  · rintro ⟨starts, holds⟩
    obtain ⟨read, rest, rfl, keys⟩ := Text.startsExactly.mp starts
    rw [← keysLength keys, List.drop_left] at holds
    exact ⟨read, rest, rfl, keys, holds⟩
  · rintro ⟨read, rest, rfl, keys, holds⟩
    rw [← keysLength keys, List.drop_left]
    exact ⟨Text.startsExactly.mpr ⟨read, rest, rfl, keys⟩, holds⟩

theorem refersInNext (word : String) (c : Char) (rest : List Char) :
    refersIn word (c :: rest) = (refers word (c :: rest) || refersIn word rest) := by
  rw [refersIn, List.tails_cons, List.any_cons, refersIn]

theorem refersHolds (found : refersIn word part = true) :
    Text.holdsLike word.toList part = true := by
  obtain ⟨place, member, here⟩ := List.any_eq_true.mp found
  obtain ⟨name, -, read, rest, rfl, -, holds⟩ := refersExactly.mp here
  obtain ⟨later, inside, starts⟩ := List.any_eq_true.mp holds
  have behind := ((List.mem_tails _ _).mp inside).trans (List.suffix_append read rest)
  exact List.any_eq_true.mpr
    ⟨later, (List.mem_tails _ _).mpr (behind.trans ((List.mem_tails _ _).mp member)), starts⟩

theorem toldSourced (here : refers "src=" part = true) :
    toldIn part =
      1 + Text.countLike "href=".toList (Text.behindLast "src=".toList part) := by
  cases part with
  | nil => cases here
  | cons c rest =>
    simp only [toldIn, looseIn, refersInNext, List.tails_cons, List.takeWhile_cons,
      List.find?_cons, here, Bool.not_true, Bool.false_eq_true, Bool.true_or, if_true, if_false,
      List.countP_nil]
    omega

theorem toldNext (other : refers "src=" (c :: rest) = false) :
    toldIn (c :: rest) =
      toldIn rest + if Text.startsLike "href=".toList (c :: rest) then 1 else 0 := by
  simp only [toldIn, looseIn, refersInNext, List.tails_cons, List.takeWhile_cons, List.find?_cons,
    other, Bool.not_false, Bool.false_or, if_true, List.countP_cons]
  omega

theorem toldPlain (none : refersIn "src=" part = false) :
    toldIn part = Text.countLike "href=".toList part := by
  induction part with
  | nil => rfl
  | cons c rest ih =>
    rw [refersInNext, Bool.or_eq_false_iff] at none
    rw [toldNext none.1, ih none.2, Text.countLikeNext]

theorem nameRead {name : String}
    (keys : read.map Text.caseKey = ("<" ++ name).toList.map Text.caseKey) :
    ∃ more, read = '<' :: more ∧ more.map Text.caseKey = name.toList.map Text.caseKey := by
  rw [String.toList_append] at keys
  obtain ⟨more, rfl⟩ := Text.markRead (c := '<') (by decide) (by decide) (by rfl) keys
  exact ⟨more, rfl, (List.cons.inj keys).2⟩

theorem refersBracket (here : refers word (c :: rest) = true) : c = '<' := by
  obtain ⟨name, -, read, later, whole, keys, -⟩ := refersExactly.mp here
  obtain ⟨more, rfl, -⟩ := nameRead keys
  exact (List.cons.inj whole).1

/- Neither a tag nor the word for an address starts at the later characters of that word. -/
theorem toldOver (others : ∀ c ∈ read, Text.caseKey c ≠ '<' ∧ Text.caseKey c ≠ 'h')
    (rest : List Char) : toldIn (read ++ rest) = toldIn rest := by
  induction read with
  | nil => rfl
  | cons c read ih =>
    obtain ⟨⟨bracket, first⟩, others⟩ := List.forall_mem_cons.mp others
    have plain : refers "src=" (c :: (read ++ rest)) = false := by
      rw [Bool.eq_false_iff]
      intro here
      obtain rfl := refersBracket here
      exact bracket (by decide)
    have other : Text.startsLike "href=".toList (c :: (read ++ rest)) = false := by
      rw [Bool.eq_false_iff]
      intro starts
      obtain ⟨w, more, same, key⟩ := Text.startsKey starts (by decide)
      obtain ⟨rfl, -⟩ := List.cons.inj same
      exact first (key.trans (by decide))
    rw [List.cons_append, toldNext plain, other, ih others]
    rfl

theorem toldAddress (keys : read.map Text.caseKey = "href=".toList.map Text.caseKey)
    (rest : List Char) : toldIn (read ++ rest) = 1 + toldIn rest := by
  have starts : Text.startsLike "href=".toList (read ++ rest) = true :=
    Text.startsExactly.mpr ⟨read, rest, rfl, keys⟩
  cases read with
  | nil => cases keys
  | cons h read =>
    obtain ⟨first, later⟩ := List.cons.inj keys
    have apart : ("ref=".toList.map Text.caseKey).all (fun k => k != '<' && k != 'h') = true := by
      decide
    have plain : refers "src=" (h :: (read ++ rest)) = false := by
      rw [Bool.eq_false_iff]
      intro here
      obtain rfl := refersBracket here
      exact absurd first (by decide)
    have others : ∀ c ∈ read, Text.caseKey c ≠ '<' ∧ Text.caseKey c ≠ 'h' := fun c member => by
      simpa using List.all_eq_true.mp apart _ (later ▸ List.mem_map_of_mem member)
    rw [List.cons_append] at starts ⊢
    rw [toldNext plain, starts, toldOver others]
    exact Nat.add_comm _ _

theorem sourcedReads (here : refers "src=" part = true) (free : '>' ∉ part) (t : Trail)
    (tail : List Char) : ∃ u, sourcedResource.run t (part ++ tail) = some u := by
  obtain ⟨name, member, read, rest, rfl, keys, holds⟩ := refersExactly.mp here
  obtain ⟨more, rfl, named⟩ := nameRead keys
  obtain ⟨between, source, behind, rfl, sourced⟩ := Text.holdsExactly.mp holds
  have within : '>' ∉ between := fun member => free (by simp [member])
  refine readsRun (u := (((t.step '<').over more).over between).over source) ?_
  refine (verbatimRead "<").mpr ⟨more ++ (between ++ (source ++ (behind ++ tail))), by simp, ?_⟩
  refine (anyOfRead (by decide)).mpr ⟨name, member, (lettersRead name).mpr
    ⟨more, _, rfl, named, between, _, rfl, withinTag.mpr within, ?_⟩⟩
  exact (lettersRead "src=").mpr ⟨source, _, rfl, sourced, rfl⟩

theorem resourceNamed (matched : sourcedResource.run t text = some u) :
    ∃ name ∈ resourceNames, ∃ read rest, text = read ++ rest ∧
      read.map Text.caseKey = ("<" ++ name).toList.map Text.caseKey ∧
      (inTag (letters "src=" done)).run (t.over read) rest = some u := by
  cases text with
  | nil => cases matched
  | cons c text =>
    change (if c == '<' then (anyOf resourceNames (inTag (letters "src=" done))).run (t.step c) text
      else none) = some u at matched
    split at matched
    · rename_i bracket
      obtain rfl := beq_iff_eq.mp bracket
      obtain ⟨name, member, named⟩ := anyOfRun (by decide) matched
      obtain ⟨read, rest, rfl, keys, ran⟩ := lettersRun named
      refine ⟨name, member, '<' :: read, rest, rfl, ?_, ran⟩
      rw [String.toList_append, List.map_append, ← keys]
      rfl
    · cases matched

/- A match goes on to the last source before the bracket. -/
theorem sourcedTaken (ends : Text.Ending tail) (free : '>' ∉ part)
    (matched : sourcedResource.run t (part ++ tail) = some u) :
    refers "src=" part = true ∧ ∃ read, part = read ++ Text.behindLast "src=".toList part ∧
      read ≠ [] ∧ u.taken = t.taken + read.length := by
  obtain ⟨name, member, head, _, whole, keys, ran⟩ := resourceNamed matched
  have known : ∀ name ∈ resourceNames, tagWord ("<" ++ name) = true := by decide
  obtain ⟨body, rfl, rfl⟩ := Text.restWithin ends (tagWordFree (known name member) keys) whole
  obtain ⟨holds, read, split, taken⟩ :=
    wordLast (by decide) ends (fun inside => free (List.mem_append_right head inside)) ran
  refine ⟨refersExactly.mpr ⟨name, member, head, body, rfl, keys, holds⟩, head ++ read, ?_, ?_, ?_⟩
  · rw [Text.lastLater holds head, List.append_assoc, ← split]
  · exact List.append_ne_nil_of_left_ne_nil (tagWordFilled (known name member) keys) read
  · rw [taken, Trail.overTaken, List.length_append, Nat.add_assoc]

theorem partMatched (ends : Text.Ending tail) (free : '>' ∉ part)
    (matched : resourceField.matchAt? before (part ++ tail) = some u) : ∃ read rest,
      part = read ++ rest ∧ read ≠ [] ∧ u.taken = read.length ∧ toldIn part = 1 + toldIn rest := by
  rw [matchAt?, resourceParts, runEither] at matched
  rcases Option.or_eq_some_iff.mp matched with sourced | ⟨-, address⟩
  · obtain ⟨here, read, split, filled, taken⟩ := sourcedTaken ends free sourced
    have holds : Text.holdsLike "src=".toList part = true :=
      refersHolds (List.any_eq_true.mpr ⟨part, (List.mem_tails _ _).mpr List.suffix_rfl, here⟩)
    have behind : refersIn "src=" (Text.behindLast "src=".toList part) = false := by
      rw [Bool.eq_false_iff]
      intro again
      cases (Text.lastFree holds (by decide)).symm.trans (refersHolds again)
    refine ⟨read, _, split, filled, ?_, by rw [toldSourced here, toldPlain behind]⟩
    rw [taken, Trail.start, Nat.zero_add]
  · have known : tagWord "href=" = true := by decide
    obtain ⟨read, _, whole, keys, ended⟩ := lettersRun address
    obtain rfl := Option.some.inj ended
    obtain ⟨rest, rfl, -⟩ := Text.restWithin ends (tagWordFree known keys) whole
    refine ⟨read, rest, rfl, tagWordFilled known keys, ?_, toldAddress keys rest⟩
    rw [Trail.overTaken, Trail.start, Nat.zero_add]

theorem partUnmatched (free : '>' ∉ c :: part)
    (none : resourceField.matchAt? before (c :: part ++ tail) = none) :
    toldIn (c :: part) = toldIn part := by
  rw [matchAt?, resourceParts, runEither, Option.or_eq_none_iff] at none
  have plain : refers "src=" (c :: part) = false := by
    rw [Bool.eq_false_iff]
    intro here
    obtain ⟨u, found⟩ := sourcedReads here free (.start before) tail
    cases none.1.symm.trans found
  have other : Text.startsLike "href=".toList (c :: part) = false := by
    rw [Bool.eq_false_iff]
    intro starts
    obtain ⟨read, rest, split, keys⟩ := Text.startsExactly.mp starts
    rw [split, List.append_assoc] at none
    have reads : (letters "href=" done).Reads (.start before) (read ++ (rest ++ tail)) _ :=
      (lettersRead "href=").mpr ⟨read, _, rfl, keys, rfl⟩
    obtain ⟨u, found⟩ := readsRun reads
    cases none.2.symm.trans found
  rw [toldNext plain, other]
  rfl

/- The part is counted from its start: a tag with a source up to the last one in it, an address for
itself, and nothing else. -/
theorem partScan (ends : Text.Ending tail) (free : '>' ∉ part)
    (before : Char) : ∃ last, (resourceField.scan 0 before (part ++ tail)).length =
      toldIn part + (resourceField.scan 0 last tail).length := by
  induction size : part.length using Nat.strongRecOn generalizing part before with
  | ind n ih =>
    cases matched : resourceField.matchAt? before (part ++ tail) with
    | some u =>
      obtain ⟨read, rest, rfl, filled, taken, told⟩ := partMatched ends free matched
      have shorter : rest.length < n := by
        rw [← size, List.length_append]
        exact Nat.lt_add_of_pos_left (List.length_pos_iff.mpr filled)
      have some : 0 < u.taken := taken ▸ List.length_pos_iff.mpr filled
      have apart : '>' ∉ rest := fun member => free (List.mem_append_right read member)
      obtain ⟨last, counted⟩ := ih _ shorter apart (read.getLastD before) rfl
      refine ⟨last, ?_⟩
      rw [scanOnward (leftmostHere matched) some, List.length_cons, taken, List.append_assoc,
        List.take_left, List.drop_left, List.nil_append, counted, told]
      omega
    | none =>
      cases part with
      | nil => exact ⟨before, (Nat.zero_add _).symm⟩
      | cons c part =>
        obtain ⟨last, counted⟩ := ih part.length (size ▸ Nat.lt_succ_self _)
          (fun member => free (List.mem_cons_of_mem c member)) c rfl
        refine ⟨last, ?_⟩
        rw [List.cons_append] at matched ⊢
        rw [scan, matched, partUnmatched free matched, ← counted]

theorem foundFree (free : '>' ∉ text) : resourcesFound text = toldIn text := by
  rw [resourcesFound, Text.piecesNone free, Text.openRestFree free]
  exact Nat.zero_add _

theorem foundNext (free : '>' ∉ part) (rest : List Char) :
    resourcesFound (part ++ '>' :: rest) = toldIn part + resourcesFound rest := by
  rw [resourcesFound, Text.piecesNext free, Text.openRestNext free, List.map_cons, List.sum_cons,
    Nat.add_assoc, resourcesFound]

theorem resourcesCounted (markup : List Char) :
    resourceField.count markup = resourcesFound markup := by
  rw [countScan]
  generalize ' ' = before
  induction markup using Text.pieceInduction generalizing before with
  | last text free =>
    obtain ⟨last, counted⟩ := partScan (.inl rfl) free before
    rw [List.append_nil] at counted
    rw [counted, foundFree free]
    rfl
  | next part rest free ih =>
    obtain ⟨last, counted⟩ := partScan (.inr ⟨rest, rfl⟩) free before
    have idle : ∀ c ∈ ['>'], resourceField.mayStartWith c = false :=
      List.forall_mem_singleton.mpr (by decide)
    have past : resourceField.scan 0 last ('>' :: rest) = resourceField.scan 0 '>' rest :=
      scanPast idle
    rw [counted, past, ih, foundNext free]

example : resourcesFound "<a href=''><img src='' src=''>".toList = 2 := by decide

theorem tagTold (part : List Char) :
    (if refersIn "src=" part || refersIn "href=" part then 1 else 0) ≤ toldIn part := by
  cases sourced : refersIn "src=" part with
  | true =>
    rw [toldIn, sourced]
    exact Nat.le_add_left _ _
  | false =>
    rw [toldPlain sourced]
    split
    · rename_i addressed
      exact Text.holdsCount.mp (refersHolds addressed)
    · exact Nat.zero_le _

theorem toldOnce (part : List Char) :
    toldIn part = (if refersIn "src=" part || refersIn "href=" part then 1 else 0) ↔
      CountedOnce part := by
  rw [toldIn, CountedOnce]
  cases refersIn "src=" part <;> simp

theorem tagsNext (free : '>' ∉ part) (rest : List Char) :
    (resourcePieces (part ++ '>' :: rest)).length =
      (if refersIn "src=" part || refersIn "href=" part then 1 else 0) +
        (resourcePieces rest).length := by
  rw [resourcePieces, Text.piecesNext free, List.filter_cons]
  split
  · exact Nat.add_comm _ _
  · exact (Nat.zero_add _).symm

theorem tagsFound (markup : List Char) :
    (resourcePieces markup).length ≤ resourcesFound markup := by
  induction markup using Text.pieceInduction with
  | last text free =>
    rw [resourcePieces, Text.piecesNone free]
    exact Nat.zero_le _
  | next part rest free ih =>
    rw [tagsNext free, foundNext free]
    exact Nat.add_le_add (tagTold part) ih

theorem foundTags (markup : List Char) :
    resourcesFound markup = (resourcePieces markup).length ↔
      (∀ part ∈ Text.pieces markup, CountedOnce part) ∧ toldIn (Text.openRest markup) = 0 := by
  induction markup using Text.pieceInduction with
  | last text free =>
    rw [foundFree free, resourcePieces, Text.piecesNone free, Text.openRestFree free]
    exact ⟨fun none => ⟨nofun, none⟩, And.right⟩
  | next part rest free ih =>
    have least := tagTold part
    have others := tagsFound rest
    rw [foundNext free, tagsNext free, Text.piecesNext free, Text.openRestNext free,
      List.forall_mem_cons, and_assoc, ← ih, ← toldOnce]
    omega

theorem outsidePlain (outside : Outside part) (word : String) : refersIn word part = false := by
  rw [Bool.eq_false_iff]
  intro found
  obtain ⟨place, member, here⟩ := List.any_eq_true.mp found
  obtain ⟨name, known, read, rest, rfl, keys, -⟩ := refersExactly.mp here
  have holds : Text.holdsLike ("<" ++ name).toList part = true :=
    List.any_eq_true.mpr ⟨_, member, Text.startsExactly.mpr ⟨read, rest, rfl, keys⟩⟩
  cases (outside name known).symm.trans holds

theorem outsideParts (read : List Char) (outside : Outside (read ++ rest)) :
    Outside read ∧ Outside rest := by
  refine ⟨fun name known => ?_, fun name known => ?_⟩
  · rw [Bool.eq_false_iff]
    intro holds
    obtain ⟨before, tag, behind, rfl, keys⟩ := Text.holdsExactly.mp holds
    have again : Text.holdsLike ("<" ++ name).toList (before ++ (tag ++ behind) ++ rest) = true :=
      Text.holdsExactly.mpr ⟨before, tag, behind ++ rest, by simp, keys⟩
    cases (outside name known).symm.trans again
  · rw [Bool.eq_false_iff]
    intro holds
    cases (outside name known).symm.trans (Text.holdsLater holds read)

theorem toldOutside (outside : Outside part) (rest : List Char) :
    toldIn (part ++ '<' :: rest) =
      Text.countLike "href=".toList part + toldIn ('<' :: rest) := by
  induction part with
  | nil => exact (Nat.zero_add _).symm
  | cons c part ih =>
    have plain : refers "src=" (c :: (part ++ '<' :: rest)) = false := by
      rw [Bool.eq_false_iff]
      intro here
      obtain ⟨name, known, read, later, whole, keys, -⟩ := refersExactly.mp here
      have starts := Text.startsExactly.mpr ⟨read, later, whole, keys⟩
      have apart : ∀ name ∈ resourceNames,
          Text.caseKey '<' ∉ ("<" ++ name).toList.tail.map Text.caseKey := by decide
      rw [Text.startsApart (apart name known)] at starts
      have none := outside name known
      rw [Text.holdsNext, starts] at none
      cases none
    rw [List.cons_append, toldNext plain, ih (outsideParts [c] outside).2,
      Text.startsApart (by decide), Text.countLikeNext]
    omega

theorem foundOutside (outside : Outside text) (rest : List Char) :
    resourcesFound (text ++ '<' :: rest) =
      Text.countLike "href=".toList text + resourcesFound ('<' :: rest) := by
  induction text using Text.pieceInduction with
  | last text free =>
    by_cases bracket : '>' ∈ rest
    · obtain ⟨part, later, rfl, apart⟩ := List.eq_append_cons_of_mem bracket
      have apart : '>' ∉ '<' :: part := List.not_mem_cons_of_ne_of_not_mem (by decide) apart
      rw [← List.cons_append, ← List.append_assoc, foundNext (List.not_mem_append free apart),
        foundNext apart, toldOutside outside, Nat.add_assoc]
    · have apart : '>' ∉ '<' :: rest := List.not_mem_cons_of_ne_of_not_mem (by decide) bracket
      rw [foundFree apart, foundFree (List.not_mem_append free apart), toldOutside outside]
  | next part text free ih =>
    obtain ⟨first, later⟩ := outsideParts part outside
    have others := ih (outsideParts ['>'] later).2
    rw [List.append_assoc, List.cons_append, foundNext free, others,
      toldPlain (outsidePlain first "src="), Text.countApart (by decide) (by decide), Nat.add_assoc]

theorem foundBehind (ahead rest : List Char) :
    resourcesFound (ahead ++ '>' :: rest) = resourcesFound ahead + resourcesFound rest := by
  induction ahead using Text.pieceInduction with
  | last text free => rw [foundNext free, foundFree free]
  | next part text free ih =>
    rw [List.append_assoc, List.cons_append, foundNext free, foundNext free, ih, Nat.add_assoc]

theorem resourcesTold (s : Subject) : ∃ check v,
    checks.find? "lighthouse-003" = some check ∧ check.run s = .ok v ∧
    let size := s.markup.length
    let told := resourcesFound s.markup
    let tags := (resourcePieces s.markup).length
    v.details = s!"HTML size: {kilo size}KB, External resources: {told}. " ++
      s!"Estimated total: ~{kilo (size + told * resourceWeight)}KB" ∧
    tags ≤ told ∧
    (told = tags ↔ (∀ part ∈ Text.pieces s.markup, CountedOnce part) ∧
      toldIn (Text.openRest s.markup) = 0) ∧
    ∀ ahead outside behind, s.markup = ahead ++ '>' :: '<' :: behind → Outside outside →
      resourcesFound (ahead ++ '>' :: (outside ++ '<' :: behind)) =
        told + Text.countLike "href=".toList outside := by
  refine ⟨_, payloadSize s, rfl, rfl, ?_, tagsFound _, foundTags _, ?_⟩
  · have counted : s.count resourceField = resourcesFound s.markup := resourcesCounted s.markup
    simp only [payloadSize, Verdict.plain, counted]
  · intro ahead outside behind whole apart
    rw [whole, foundBehind, foundBehind, foundOutside apart]
    omega

end

theorem anchorTold :
    let page := "<a href=\"x\"></a>".toList
    let s : Subject := ⟨page, .empty, "https://a.b/"⟩
    resourcePieces page = [] ∧ ∃ check v,
      checks.find? "lighthouse-003" = some check ∧ check.run s = .ok v ∧
      v.details = "HTML size: 0KB, External resources: 1. Estimated total: ~49KB" := by
  intro page s
  exact ⟨by decide +kernel, _, payloadSize s, rfl, rfl, by decide +kernel⟩

end PageAudit.Check
