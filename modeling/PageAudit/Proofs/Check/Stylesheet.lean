import PageAudit.Check.Loading
import PageAudit.Proofs.Check.Faults
import PageAudit.Proofs.Pattern.Group
import PageAudit.Proofs.Pattern.Narrow
import PageAudit.Proofs.Pattern.Piece
import PageAudit.Proofs.Pattern.Value
import PageAudit.Proofs.Text.Parted
/-!
Style sheets that hold the page back. A link tag counts if it names a style sheet and is not for
print as far as it says so behind that; what stands before it does not matter.
-/
namespace PageAudit.Check

open Pattern

def sheetField : Pattern := of [valued "rel" "stylesheet"]

def printField : Pattern := of [wordEdge, valued "media" "print"]

def linkTags (s : Subject) : List (List Char) := s.findAll (tag "link")

/-- Behind some style sheet that the tag names, it does not say that it is for print. -/
def loadsSheet (tag : List Char) : Bool :=
  (tag.drop 6).tails.any fun rest =>
    match sheetField.matchAt? ' ' rest with
    | some t => !printField.occursIn (rest.drop t.taken)
    | none => false

def unprinted (tag : List Char) : Bool := stylesheetLink.occursIn tag && !printField.occursIn tag

def Holds (v : Verdict) (sheets : Nat) : Prop :=
  ∃ scripts : Nat, v.details = s!"Found {scripts} render-blocking scripts and " ++
    s!"{sheets} render-blocking stylesheets."

structure Sheet (tag start field after : List Char) : Prop where
  whole : tag = start ++ (field ++ after)
  inside : 6 ≤ start.length
  named : IsField "rel" "stylesheet" field

def PrintedIn (text : List Char) : Prop :=
  ∃ passed field after, text = passed ++ (field ++ after) ∧ IsField "media" "print" field ∧
    atEdge (.start (passed.getLastD ' ')) (field ++ after) = true

structure LinkTag (text body rest : List Char) : Prop where
  whole : text = body ++ '>' :: rest
  single : '>' ∉ body
  named : ∃ name fields, body = name ++ fields ∧
    name.map Text.caseKey = "<link".toList.map Text.caseKey

section
variable {s : Subject} {v : Verdict} {n n' : Nat} {before : Char} {t u : Trail}
  {text body rest part start field after : List Char}

theorem holdsAlike (told : Holds v n) (again : Holds v n') : n = n' := by
  obtain ⟨scripts, told⟩ := told
  obtain ⟨scripts', again⟩ := again
  have same := congrArg String.toList (told.symm.trans again)
  simp only [String.toList_append, List.append_assoc] at same
  obtain ⟨-, same⟩ := Text.countAlike (by decide) (List.append_cancel_left same)
  exact Text.countSame (List.append_cancel_right same)

theorem sheetMatched (before : Char) (after : List Char)
    (named : IsField "rel" "stylesheet" field) :
    ∃ t, sheetField.matchAt? before (field ++ after) = some t ∧ t.taken = field.length := by
  have reads : sheetField.Reads (.start before) (field ++ after) (.over (.start before) field) :=
    fieldRead.mpr ⟨field, after, rfl, named, rfl⟩
  obtain ⟨t, matched⟩ := readsRun reads
  obtain ⟨field', rest, -, named', taken⟩ := fieldMatched matched
  exact ⟨t, matched, by rw [taken, fieldLength named', fieldLength named]⟩

theorem loadsExactly : loadsSheet part = true ↔
    ∃ start field after, Sheet part start field after ∧ printField.occursIn after = false := by
  rw [loadsSheet, List.any_eq_true]
  constructor
  · rintro ⟨rest, member, loads⟩
    obtain ⟨skipped, whole⟩ := (List.mem_tails _ _).mp member
    split at loads
    · rename_i t matched
      obtain ⟨field, after, rfl, named, taken⟩ := fieldMatched matched
      have long : 6 < part.length := by
        have lengths := congrArg List.length whole
        rw [List.length_append, List.length_append, List.length_drop, fieldLength named] at lengths
        omega
      have parts : part = part.take 6 ++ skipped ++ (field ++ after) := by
        rw [List.append_assoc, whole, List.take_append_drop]
      rw [taken, List.drop_left] at loads
      refine ⟨part.take 6 ++ skipped, field, after, ⟨parts, ?_, named⟩, by simpa using loads⟩
      rw [List.length_append, List.length_take]
      omega
    · cases loads
  · rintro ⟨start, field, after, ⟨rfl, inside, named⟩, plain⟩
    obtain ⟨t, matched, taken⟩ := sheetMatched ' ' after named
    refine ⟨field ++ after, (List.mem_tails _ _).mpr ?_, ?_⟩
    · rw [List.drop_append_of_le_length inside]
      exact List.suffix_append _ _
    · simp only [matched, taken, List.drop_left, plain, Bool.not_false]

theorem printOccurs : printField.occursIn text = true ↔ PrintedIn text := by
  rw [occursPlaces]
  constructor
  · rintro ⟨passed, _, rfl, u, edge, reads⟩
    obtain ⟨field, after, rfl, named, -⟩ := fieldRead.mp reads
    exact ⟨passed, field, after, rfl, named, edge⟩
  · rintro ⟨passed, field, after, rfl, named, edge⟩
    exact ⟨passed, field ++ after, rfl, _, edge, fieldRead.mpr ⟨field, after, rfl, named, rfl⟩⟩

theorem sheetSingle (named : IsField "rel" "stylesheet" field) : '>' ∉ field :=
  fieldApart named (by decide) (by decide) (by decide)

theorem printSingle (named : IsField "media" "print" field) : '>' ∉ field :=
  fieldApart named (by decide) (by decide) (by decide)

/- The search ahead ends with the tag, and so does whatever it finds. -/
theorem printAhead (outside : Text.isWord t.before = false) {more : List Char}
    (single : '>' ∉ more) (rest : List Char) :
    (∃ u, (of [inTag, wordEdge, valued "media" "print"]).Reads t (more ++ '>' :: rest) u) ↔
      PrintedIn (more ++ ['>']) := by
  have before : ∀ passed : List Char, Text.isWord (t.over passed).before =
      Text.isWord (Trail.start (passed.getLastD ' ')).before := by
    intro passed
    rw [overBefore]
    exact lastAlike outside passed
  constructor
  · rintro ⟨u, passed, _, whole, within, edge, reads⟩
    obtain ⟨field, after, rfl, named, -⟩ := fieldRead.mp reads
    have free : '>' ∉ passed ++ field :=
      List.not_mem_append (withinTag.mp within) (printSingle named)
    rw [← List.append_assoc] at whole
    obtain ⟨later, rfl, rfl⟩ := Text.restApart free whole
    refine ⟨passed, field, later ++ ['>'], by simp, named, ?_⟩
    rwa [← edgeAlike (fieldFilled named) (before passed) (later ++ '>' :: rest)]
  · rintro ⟨passed, field, after, whole, named, edge⟩
    have starts : passed <+: more :=
      Text.startApart (List.append_ne_nil_of_left_ne_nil (fieldFilled named) after) whole
    have apart : '>' ∉ passed := fun member => single (starts.subset member)
    have free : '>' ∉ passed ++ field := List.not_mem_append apart (printSingle named)
    rw [← List.append_assoc] at whole
    obtain ⟨later, rfl, rfl⟩ := Text.restApart free whole
    rw [← edgeAlike (fieldFilled named) (before passed) (later ++ '>' :: rest)] at edge
    exact ⟨_, passed, field ++ (later ++ '>' :: rest), by simp, withinTag.mpr apart, edge,
      fieldRead.mpr ⟨field, _, rfl, named, rfl⟩⟩

theorem printLater {start : List Char} (ends : Text.isWord (start.getLastD ' ') = false)
    (printed : PrintedIn after) : PrintedIn (start ++ after) := by
  obtain ⟨passed, field, rest, rfl, named, edge⟩ := printed
  refine ⟨start ++ passed, field, rest, (List.append_assoc ..).symm, named, ?_⟩
  rw [← edge]
  refine edgeAlike (fieldFilled named) ?_ rest rest
  change Text.isWord ((start ++ passed).getLastD ' ') = Text.isWord (passed.getLastD ' ')
  rw [lastAppend]
  exact lastAlike ends passed

theorem linkMatched (matched : (tag "link").matchAt? before text = some t) :
    ∃ body rest, LinkTag text body rest ∧ t.taken = body.length + 1 := by
  obtain ⟨name, _, rfl, keys, fields, _, rfl, within, reads⟩ :=
    (lettersRead _).mp (runReads matched)
  obtain ⟨rest, rfl, rfl⟩ := (verbatimRead ">").mp reads
  have apart : '>' ∉ name := keysApart keys (by decide)
  refine ⟨name ++ fields, rest, ⟨(List.append_assoc ..).symm,
    List.not_mem_append apart (withinTag.mp within), name, fields, rfl, keys⟩, ?_⟩
  simp only [Trail.overTaken, Trail.start, List.length_append]
  change 0 + name.length + fields.length + 1 = _
  omega

theorem linkRead (before : Char) (link : LinkTag text body rest) :
    ∃ t, (tag "link").matchAt? before text = some t := by
  obtain ⟨rfl, single, name, fields, rfl, keys⟩ := link
  have within : '>' ∉ fields := fun member => single (List.mem_append_right _ member)
  rw [List.append_assoc]
  exact readsRun ((lettersRead _).mpr ⟨name, _, rfl, keys, fields, _, rfl, withinTag.mpr within,
    (verbatimRead ">").mpr ⟨rest, rfl, rfl⟩⟩)

theorem linkTaken (link : LinkTag text body rest)
    (matched : (tag "link").matchAt? before text = some t) :
    t.taken = body.length + 1 ∧ text.take t.taken = body ++ ['>'] := by
  obtain ⟨body', rest', again, taken⟩ := linkMatched matched
  obtain rfl := Text.markAlike link.single again.single (link.whole.symm.trans again.whole)
  have whole : text = body ++ ['>'] ++ rest := by
    rw [link.whole, List.append_assoc, List.singleton_append]
  refine ⟨taken, ?_⟩
  rw [taken, whole]
  exact List.take_left' (List.length_append ..)

theorem linkName {name : List Char}
    (keys : name.map Text.caseKey = "<link".toList.map Text.caseKey) : name.length = 5 := by
  rw [keysLength keys]
  rfl

theorem blockingMatched (matched : blockingStylesheet.matchAt? before text = some u) :
    ∃ body rest, LinkTag text body rest ∧ u.taken = body.length + 1 ∧
      loadsSheet (body ++ ['>']) = true := by
  obtain ⟨name, _, rfl, keys, reads⟩ := (lettersRead _).mp (runReads matched)
  obtain ⟨fields, _, rfl, filled, within, reads⟩ := someRead.mp reads
  obtain ⟨field, _, rfl, named, absent, more, _, rfl, inside, reads⟩ := fieldRead.mp reads
  obtain ⟨rest, rfl, rfl⟩ := (verbatimRead ">").mp reads
  have single := withinTag.mp inside
  have plain : printField.occursIn (more ++ ['>']) = false := by
    refine Bool.eq_false_iff.mpr fun occurs => absent ?_
    have outside : Text.isWord ((((Trail.start before).over name).over fields).over field).before =
        false := by
      rw [overBefore]
      exact fieldEnds named _
    exact (printAhead outside single rest).mpr (printOccurs.mp occurs)
  have long : 6 ≤ (name ++ fields).length := by
    have some := List.length_pos_iff.mpr filled
    rw [List.length_append, linkName keys]
    omega
  have free : '>' ∉ name ++ fields ++ (field ++ more) :=
    List.not_mem_append (List.not_mem_append (keysApart keys (by decide)) (withinTag.mp within))
      (List.not_mem_append (sheetSingle named) single)
  refine ⟨name ++ fields ++ (field ++ more), rest,
    ⟨by simp, free, name, fields ++ (field ++ more), List.append_assoc .., keys⟩, ?_,
    loadsExactly.mpr ⟨name ++ fields, field, more ++ ['>'], ⟨by simp, long, named⟩, plain⟩⟩
  simp only [Trail.overTaken, Trail.start, List.length_append]
  change 0 + name.length + fields.length + field.length + more.length + 1 = _
  omega

theorem sheetParts (link : LinkTag text body rest)
    (sheet : Sheet (body ++ ['>']) start field after) :
    ∃ name fields more, start = name ++ fields ∧ after = more ++ ['>'] ∧
      body = start ++ (field ++ more) ∧ fields ≠ [] ∧
      name.map Text.caseKey = "<link".toList.map Text.caseKey := by
  obtain ⟨whole, inside, named⟩ := sheet
  have starts : start <+: body :=
    Text.startApart (List.append_ne_nil_of_left_ne_nil (fieldFilled named) after) whole
  have apart : '>' ∉ start := fun member => link.single (starts.subset member)
  have free : '>' ∉ start ++ field := List.not_mem_append apart (sheetSingle named)
  rw [← List.append_assoc] at whole
  obtain ⟨more, split, rfl⟩ := Text.restApart free whole
  obtain ⟨name, others, whole, keys⟩ := link.named
  have length := linkName keys
  obtain ⟨fields, rfl⟩ : name <+: start :=
    List.prefix_of_prefix_length_le ⟨others, whole.symm⟩ starts (by omega)
  have filled : fields ≠ [] := by
    rintro rfl
    rw [List.append_nil] at inside
    omega
  exact ⟨name, fields, more, rfl, rfl, split.trans (List.append_assoc ..), filled, keys⟩

theorem blockingRead (link : LinkTag text body rest) (loads : loadsSheet (body ++ ['>']) = true) :
    ∃ u, blockingStylesheet.matchAt? before text = some u := by
  obtain ⟨start, field, after, sheet, plain⟩ := loadsExactly.mp loads
  obtain ⟨name, fields, more, rfl, rfl, rfl, filled, keys⟩ := sheetParts link sheet
  have single := link.single
  simp only [List.mem_append, not_or] at single
  have whole : text = name ++ (fields ++ (field ++ (more ++ '>' :: rest))) := by
    rw [link.whole]
    simp
  have quiet : ∀ t : Trail, Text.isWord t.before = false →
      ¬∃ v, (of [inTag, wordEdge, valued "media" "print"]).Reads t (more ++ '>' :: rest) v := by
    intro t outside ahead
    rw [printAhead outside single.2.2, ← printOccurs, plain] at ahead
    cases ahead
  rw [whole]
  exact readsRun ((lettersRead _).mpr ⟨name, _, rfl, keys, someRead.mpr ⟨fields, _, rfl, filled,
    withinTag.mpr single.1.2, fieldRead.mpr ⟨field, _, rfl, sheet.named,
    quiet _ (by rw [overBefore]; exact fieldEnds sheet.named _), more, _, rfl,
    withinTag.mpr single.2.2, (verbatimRead ">").mpr ⟨rest, rfl, rfl⟩⟩⟩⟩)

theorem loadsWider (start : List Char) (loads : loadsSheet part = true) :
    loadsSheet (start ++ part) = true := by
  obtain ⟨before, field, after, ⟨rfl, inside, named⟩, plain⟩ := loadsExactly.mp loads
  have longer : 6 ≤ (start ++ before).length := by
    rw [List.length_append]
    omega
  exact loadsExactly.mpr ⟨start ++ before, field, after,
    ⟨(List.append_assoc ..).symm, longer, named⟩, plain⟩

theorem blockingNarrows : Narrows (tag "link") blockingStylesheet loadsSheet where
  only := by
    intro before text u found
    obtain ⟨body, rest, link, taken, loads⟩ := blockingMatched found
    obtain ⟨t, matched⟩ := linkRead before link
    obtain ⟨same, part⟩ := linkTaken link matched
    exact ⟨t, matched, same.trans taken.symm, part ▸ loads⟩
  kept := by
    intro before text t matched loads
    obtain ⟨body, rest, link, -⟩ := linkMatched matched
    exact blockingRead link ((linkTaken link matched).2 ▸ loads)
  quiet := by
    intro before text t matched drop passed later whole inside before'
    cases found : blockingStylesheet.matchAt? before' later with
    | none => rfl
    | some u =>
      obtain ⟨body, rest, link, -⟩ := linkMatched matched
      obtain ⟨body', rest', link', -, loads⟩ := blockingMatched found
      obtain ⟨taken, part⟩ := linkTaken link matched
      -- The inner tag ends where the outer one does, so the outer one names the same sheet.
      obtain ⟨middle, rfl⟩ : passed <+: body :=
        List.prefix_of_prefix_length_le ⟨later, whole.symm⟩ ⟨'>' :: rest, link.whole.symm⟩
          (by omega)
      have split : passed ++ (middle ++ '>' :: rest) = passed ++ (body' ++ '>' :: rest') := by
        rw [← link'.whole, ← whole, link.whole, List.append_assoc]
      obtain rfl : middle = body' :=
        Text.markAlike (fun member => link.single (List.mem_append_right _ member)) link'.single
          (List.append_cancel_left split)
      rw [part, List.append_assoc, loadsWider passed loads] at drop
      cases drop

theorem blockingHolds (judged : renderBlocking s = .ok v) :
    Holds v (s.findAll blockingStylesheet).length := by
  unfold renderBlocking at judged
  extract_lets scripts stylesheets at judged
  split at judged
  · obtain ⟨evidence, -, ended⟩ := bindOk.mp judged
    obtain rfl := Except.ok.inj ended
    exact ⟨scripts.length, rfl⟩
  · obtain ⟨evidence, -, ended⟩ := bindOk.mp judged
    obtain rfl := Except.ok.inj ended
    exact ⟨scripts.length, rfl⟩

theorem linkListed (member : part ∈ linkTags s) :
    ∃ body, LinkTag part body [] ∧ part = body ++ ['>'] := by
  obtain ⟨m, found, rfl⟩ := List.mem_map.mp member
  rw [matchesScan] at found
  obtain ⟨before, rest, t, -, matched, rfl⟩ := scanFound found
  obtain ⟨body, after, link, -⟩ := linkMatched matched
  have text : (t.found rest).text = body ++ ['>'] := (linkTaken link matched).2
  exact ⟨body, ⟨text, link.single, link.named⟩, text⟩

theorem unprintedExactly (member : part ∈ linkTags s) :
    unprinted part = (loadsSheet part && !printField.occursIn part) := by
  obtain ⟨body, link, rfl⟩ := linkListed member
  cases printed : printField.occursIn (body ++ ['>']) with
  | true => rw [unprinted, printed, Bool.not_true, Bool.and_false, Bool.and_false]
  | false =>
    rw [unprinted, printed, Bool.not_false, Bool.and_true, Bool.and_true, Bool.eq_iff_iff,
      occursPlaces, loadsExactly]
    constructor
    · rintro ⟨passed, _, whole, u, reads⟩
      obtain ⟨name, _, rfl, keys, reads⟩ := (lettersRead _).mp reads
      obtain ⟨fields, _, rfl, filled, -, reads⟩ := someRead.mp reads
      obtain ⟨field, after, rfl, named, -⟩ := fieldRead.mp reads
      have parts : body ++ ['>'] = passed ++ (name ++ (fields ++ field)) ++ after := by
        rw [whole]
        simp
      -- Print behind the name of the sheet would be print in the tag.
      have plain : printField.occursIn after = false := by
        refine Bool.eq_false_iff.mpr fun occurs => Bool.eq_false_iff.mp printed ?_
        rw [parts, printOccurs]
        refine printLater ?_ (printOccurs.mp occurs)
        rw [lastAppend, lastAppend, lastAppend]
        exact fieldEnds named _
      have long : 6 ≤ (passed ++ (name ++ fields)).length := by
        have some := List.length_pos_iff.mpr filled
        rw [List.length_append, List.length_append, linkName keys]
        omega
      exact ⟨passed ++ (name ++ fields), field, after, ⟨by rw [parts]; simp, long, named⟩, plain⟩
    · rintro ⟨start, field, after, sheet, -⟩
      obtain ⟨name, fields, more, rfl, rfl, rfl, filled, keys⟩ := sheetParts link sheet
      have within : '>' ∉ fields := fun member => link.single (by simp [member])
      rw [sheet.whole, List.append_assoc]
      exact ⟨[], _, rfl, _, (lettersRead _).mpr ⟨name, _, rfl, keys, someRead.mpr ⟨fields, _, rfl,
        filled, withinTag.mpr within, fieldRead.mpr ⟨field, _, rfl, sheet.named, rfl⟩⟩⟩⟩

theorem stylesheetsTold (s : Subject) :
    ∃ v, renderBlocking s = .ok v ∧ Holds v ((linkTags s).filter loadsSheet).length ∧
      (Holds v ((linkTags s).filter unprinted).length ↔
        ∀ part ∈ linkTags s, loadsSheet part = true → printField.occursIn part = false) := by
  obtain ⟨v, judged⟩ := renderBlockingSure (s := s)
  have told : Holds v ((linkTags s).filter loadsSheet).length := by
    have holds := blockingHolds judged
    rwa [Subject.findAll, findAllNarrowed blockingNarrows] at holds
  have apart : (linkTags s).filter unprinted =
      ((linkTags s).filter loadsSheet).filter fun part => !printField.occursIn part := by
    rw [List.filter_filter]
    refine List.filter_congr fun part member => ?_
    rw [unprintedExactly member, Bool.and_comm]
  have exactly : ∀ n, Holds v n ↔ n = ((linkTags s).filter loadsSheet).length := fun n =>
    ⟨fun again => holdsAlike again told, fun same => same ▸ told⟩
  refine ⟨v, judged, told, ?_⟩
  rw [exactly, apart, List.length_filter_eq_length_iff]
  simp only [List.mem_filter, and_imp, Bool.not_eq_true']

theorem printFirstHolds :
    let s : Subject := ⟨"<link media='print' rel='stylesheet'>".toList, .empty, "https://a.b/"⟩
    linkTags s = [s.markup] ∧ unprinted s.markup = false ∧
      ∃ v, renderBlocking s = .ok v ∧ Holds v 1 ∧ ¬Holds v 0 := by
  intro s
  have details : (renderBlocking s).map Verdict.details =
      .ok "Found 0 render-blocking scripts and 1 render-blocking stylesheets." := by decide +kernel
  obtain ⟨v, judged, shown⟩ := mapOk.mp details
  have told : Holds v 1 := ⟨0, shown.trans (by decide +kernel)⟩
  refine ⟨by decide +kernel, by decide +kernel, v, judged, told, fun none => ?_⟩
  cases holdsAlike told none

end

end PageAudit.Check
