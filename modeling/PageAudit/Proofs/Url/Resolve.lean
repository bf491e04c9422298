import PageAudit.Proofs.Site
import PageAudit.Url
/-!
Sources that stay on a site. An address that is read and written again keeps its network location,
and a source with a path and no location of its own takes that of the site.
-/
namespace PageAudit

namespace Url

def location : List Char → List Char × List Char
  | '/' :: '/' :: rest => (rest.takeWhile (!endsNetloc ·), rest.dropWhile (!endsNetloc ·))
  | rest => ([], rest)

def pathParts (scheme rest : List Char) : List Char × List Char :=
  let path := (cut '?' (cut '#' rest).1).1
  if withParams.contains (String.ofList scheme) then cutParams path else (path, [])

def partsAfter (scheme rest : List Char) : Parts :=
  let (netloc, rest) := location rest
  ⟨scheme, netloc, (pathParts scheme rest).1, (pathParts scheme rest).2,
    (cut '?' (cut '#' rest).1).2, (cut '#' rest).2⟩

def isCounted (c : Char) : Bool := !(c == '\t' || c == '\n' || c == '\r')

structure Placed (netloc : List Char) : Prop where
  within : ∀ c ∈ netloc, endsNetloc c = false
  counts : ∀ c ∈ netloc, isCounted c = true
  checked : checkNetloc netloc = .ok ()

def Closing (rest : List Char) : Prop := ∀ c, rest.head? = some c → endsNetloc c = true

structure OnPath (source : List Char) : Prop where
  starts : ['/'] <+: source ∨ ['.', '/'] <+: source
  unlocated : ¬['/', '/'] <+: counted source

section
variable {base text scheme rest netloc path source more : List Char} {parts : Parts} {c : Char}

theorem readLocated (base text : List Char) :
    Parts.read base text =
      let split := (scheme? (counted text)).getD (base, counted text)
      checkNetloc (location split.2).1 >>= fun _ => pure (partsAfter split.1 split.2) :=
  rfl

theorem schemeRest (found : scheme? text = some (scheme, rest)) : rest ⊆ text := by
  unfold scheme? cut at found
  dsimp only at found
  split at found
  · cases found
  · rw [Option.ite_none_right_eq_some] at found
    obtain ⟨-, same⟩ := found
    cases same
    exact ((List.drop_suffix _ _).trans (List.dropWhile_suffix _)).subset

theorem locationWithin (rest : List Char) :
    (location rest).1 ⊆ rest ∧ ∀ c ∈ (location rest).1, endsNetloc c = false := by
  unfold location
  split
  · rename_i rest
    constructor
    · intro c member
      exact List.mem_cons_of_mem _ (List.mem_cons_of_mem _ (List.takeWhile_subset _ member))
    · intro c member
      simpa using List.mem_takeWhile_imp member
  · exact ⟨nofun, nofun⟩

theorem readPlaced (read : Parts.read base text = .ok parts) : Placed parts.netloc := by
  rw [readLocated] at read
  obtain ⟨_, checked, ended⟩ := bindOk.mp read
  cases ended
  obtain ⟨among, within⟩ :=
    locationWithin ((scheme? (counted text)).getD (base, counted text)).2
  refine ⟨within, fun c member => ?_, checked⟩
  have visible : c ∈ counted text := by
    cases found : scheme? (counted text) with
    | none =>
      rw [found] at among
      exact among (found ▸ member)
    | some pair =>
      rw [found] at among
      exact schemeRest found (among (found ▸ member))
  exact (List.mem_filter.mp visible).2

theorem closingParted (within : ∀ c ∈ netloc, endsNetloc c = false) (closing : Closing rest) :
    (netloc ++ rest).takeWhile (!endsNetloc ·) = netloc ∧
      (netloc ++ rest).dropWhile (!endsNetloc ·) = rest := by
  have inside : ∀ c ∈ netloc, (!endsNetloc c) = true := by
    intro c member
    rw [within c member]
    rfl
  rw [List.takeWhile_append_of_pos inside, List.dropWhile_append_of_pos inside]
  cases rest with
  | nil => exact ⟨List.append_nil netloc, rfl⟩
  | cons c more => simp [closing c rfl]

theorem locationPlaced (placed : Placed netloc) (closing : Closing rest) :
    location ('/' :: '/' :: (netloc ++ rest)) = (netloc, rest) := by
  obtain ⟨before, after⟩ := closingParted placed.within closing
  rw [location, before, after]

theorem countedClosing (closing : Closing rest) : Closing (rest.filter isCounted) := by
  cases rest with
  | nil => exact closing
  | cons d rest =>
    have ends := closing d rfl
    have counts : isCounted d = true := by
      unfold endsNetloc at ends
      simp only [Bool.or_eq_true, beq_iff_eq] at ends
      rcases ends with (rfl | rfl) | rfl <;> rfl
    rw [List.filter_cons_of_pos counts]
    intro c first
    cases first
    exact ends

theorem countedFrom {start : Char} (visible : 32 < start.toNat) (counts : isCounted start = true)
    (rest : List Char) : counted (start :: rest) = start :: rest.filter isCounted := by
  change ((start :: rest).dropWhile fun c => decide (c.toNat ≤ 32)).filter isCounted = _
  rw [List.dropWhile_cons_of_neg (by simpa using visible), List.filter_cons_of_pos counts]

theorem webScheme (web : scheme = "http".toList ∨ scheme = "https".toList) (rest : List Char) :
    scheme? (scheme ++ ':' :: rest) = some (scheme, rest) := by
  rcases web with rfl | rfl <;> simp [scheme?, cut, isSchemeChar]

theorem countedRead (web : scheme = "http".toList ∨ scheme = "https".toList)
    (placed : Placed netloc) (closing : Closing rest)
    (whole : counted text = scheme ++ ':' :: '/' :: '/' :: (netloc ++ rest)) :
    ∃ parts, Parts.read base text = .ok parts ∧ parts.scheme = scheme ∧
      parts.netloc = netloc := by
  rw [readLocated, whole, webScheme web]
  simp only [Option.getD_some, locationPlaced placed closing, placed.checked]
  refine ⟨_, rfl, rfl, ?_⟩
  rw [partsAfter, locationPlaced placed closing]

theorem placedRead (web : scheme = "http".toList ∨ scheme = "https".toList)
    (placed : Placed netloc) (closing : Closing rest) :
    ∃ parts, Url.parts (String.ofList (scheme ++ ':' :: '/' :: '/' :: (netloc ++ rest))) =
      .ok parts ∧ parts.netloc = netloc := by
  have counts : netloc.filter isCounted = netloc := List.filter_eq_self.mpr placed.counts
  have visible : counted (scheme ++ ':' :: '/' :: '/' :: (netloc ++ rest)) =
      scheme ++ ':' :: '/' :: '/' :: (netloc ++ rest.filter isCounted) := by
    obtain ⟨tail, rfl, plain⟩ : ∃ tail, scheme = 'h' :: tail ∧ tail.filter isCounted = tail := by
      rcases web with rfl | rfl
      · exact ⟨"ttp".toList, rfl, rfl⟩
      · exact ⟨"ttps".toList, rfl, rfl⟩
    rw [List.cons_append, countedFrom (by decide) rfl, List.filter_append, plain]
    simp [isCounted, List.filter_append, counts]
  rw [Url.parts, String.toList_ofList]
  obtain ⟨parts, read, -, located⟩ := countedRead web placed (countedClosing closing) visible
  exact ⟨parts, read, located⟩

theorem placedWritten (named : parts.scheme ≠ []) (located : parts.netloc ≠ []) :
    ∃ rest, Closing rest ∧
      parts.write true = parts.scheme ++ ':' :: '/' :: '/' :: (parts.netloc ++ rest) := by
  have named : parts.scheme.isEmpty = false := by simpa using named
  have located : parts.netloc.isEmpty = false := by simpa using located
  unfold Parts.write
  simp only [named, located]
  generalize (if parts.params.isEmpty then parts.path else parts.path ++ ';' :: parts.params) = path
  refine ⟨(if path.isEmpty || path.head? == some '/' then path else '/' :: path) ++
    (if parts.query.isEmpty then [] else '?' :: parts.query) ++
    (if parts.fragment.isEmpty then [] else '#' :: parts.fragment), ?_, by simp⟩
  intro c first
  -- The path decides what comes first; behind an empty one it is the query, then the fragment.
  cases path with
  | cons d path =>
    by_cases slash : d = '/'
    · simp [slash] at first
      simp [← first, endsNetloc]
    · simp [slash] at first
      simp [← first, endsNetloc]
  | nil =>
    cases query : parts.query with
    | cons d query =>
      simp [query] at first
      simp [← first, endsNetloc]
    | nil =>
      cases fragment : parts.fragment with
      | cons d fragment =>
        simp [query, fragment] at first
        simp [← first, endsNetloc]
      | nil => simp [query, fragment] at first

/- Only the last segment of a path can have parameters, so the slash before it is kept. -/
theorem pathFilled (slash : '/' ∈ path) : (cutParams path).1 ≠ [] := by
  have shorter : (cutLast '/' path).2.length < path.length := by
    have some : (path.reverse.takeWhile (· != '/')).length ≠ path.reverse.length := by
      intro same
      have whole := (List.takeWhile_prefix (· != '/') (l := path.reverse)).eq_of_length same
      have free : '/' ∈ path.reverse.takeWhile (· != '/') := by
        rw [whole]
        exact List.mem_reverse.mpr slash
      simpa using List.mem_takeWhile_imp free
    have most := (List.takeWhile_prefix (· != '/') (l := path.reverse)).length_le
    simp only [cutLast, List.length_reverse] at some most ⊢
    omega
  unfold cutParams
  dsimp only
  split
  · have kept : path.take (path.length - (cutLast '/' path).2.length) ≠ [] := by
      rw [Ne, List.take_eq_nil_iff, not_or]
      exact ⟨by omega, List.ne_nil_of_mem slash⟩
    exact List.append_ne_nil_of_left_ne_nil kept _
  · exact List.ne_nil_of_mem slash

theorem onPathRead (onPath : OnPath source) (base : List Char) :
    ∃ parts, Parts.read base source = .ok parts ∧ parts.scheme = base ∧ parts.netloc = [] ∧
      parts.path ≠ [] := by
  have visible : ∃ rest, counted source = '/' :: rest ∨ counted source = '.' :: '/' :: rest := by
    rcases onPath.starts with ⟨more, rfl⟩ | ⟨more, rfl⟩
    · exact ⟨_, .inl (countedFrom (by decide) rfl more)⟩
    · exact ⟨_, .inr (countedFrom (by decide) rfl ('/' :: more))⟩
  have unlocated := onPath.unlocated
  obtain ⟨rest, visible⟩ := visible
  generalize whole : counted source = text at visible unlocated
  have unnamed : scheme? text = none := by
    rcases visible with rfl | rfl <;> simp [scheme?, cut]
  -- Only two slashes at the start would open a location.
  have pathless : location text = ([], text) := by
    unfold location
    split
    · rename_i more
      exact absurd ⟨more, rfl⟩ unlocated
    · rfl
  have slash : '/' ∈ (cut '?' (cut '#' text).1).1 := by
    rcases visible with rfl | rfl <;> simp [cut]
  refine ⟨partsAfter base text, ?_, rfl, ?_, ?_⟩
  · simp only [readLocated, whole, unnamed, Option.getD_none, pathless]
    rfl
  · rw [partsAfter, pathless]
  · rw [partsAfter, pathless]
    change (pathParts base text).1 ≠ []
    unfold pathParts
    dsimp only
    split
    · exact pathFilled slash
    · exact List.ne_nil_of_mem slash

def hostFrom (site : String) (source : List Char) : Except UrlError (Option String) := do
  let target ← resolve site (String.ofList source)
  let parts ← Url.parts target
  return parts.host?

end

end Url

theorem webFilled {site : String} {parts : Url.Parts} (onWeb : OnWeb site parts) :
    site.isEmpty = false := by
  rw [Bool.eq_false_iff, Ne, String.isEmpty_iff]
  intro empty
  subst empty
  have read : Url.Parts.read [] [] = .ok parts := onWeb.read
  cases read
  rcases onWeb.scheme with web | web <;> cases web

theorem webLocated {site : String} {parts : Url.Parts} (onWeb : OnWeb site parts) :
    parts.netloc ≠ [] := by
  intro none
  exact onWeb.host (by simp [Url.Parts.host?, none, Url.cutLast, Url.cut])

theorem onPathResolved {site : String} {parts : Url.Parts} {source : List Char}
    (onWeb : OnWeb site parts) (onPath : Url.OnPath source) :
    ∃ target : Url.Parts, target.scheme = parts.scheme ∧ target.netloc = parts.netloc ∧
      Url.resolve site (String.ofList source) = .ok (String.ofList (target.write true)) := by
  obtain ⟨t, read, scheme, unlocated, filled⟩ := Url.onPathRead onPath parts.scheme
  have base : Url.Parts.read [] site.toList = .ok parts := onWeb.read
  have some : (String.ofList source).isEmpty = false := by
    rcases onPath.starts with ⟨more, rfl⟩ | ⟨more, rfl⟩ <;> simp
  have known : String.ofList parts.scheme ∈ Url.relativeSchemes ∧
      Url.isLocated parts.scheme = true := by
    rcases onWeb.scheme with web | web <;> rw [web] <;> decide
  refine ⟨{ t with netloc := parts.netloc, path := Url.resolvePath parts.path t.path }, scheme,
    rfl, ?_⟩
  unfold Url.resolve
  simp [webFilled onWeb, some, base, read, scheme, known, unlocated, filled, bind, Except.bind,
    pure, Except.pure]

theorem onPathHost {site : String} {parts : Url.Parts} {source : List Char}
    (onWeb : OnWeb site parts) (onPath : Url.OnPath source) :
    Url.hostFrom site source = .ok parts.host? := by
  obtain ⟨target, scheme, netloc, resolved⟩ := onPathResolved onWeb onPath
  have named : parts.scheme ≠ [] := by
    rcases onWeb.scheme with web | web <;> rw [web] <;> decide
  obtain ⟨rest, closing, written⟩ := Url.placedWritten (scheme ▸ named) (netloc ▸ webLocated onWeb)
  obtain ⟨again, read, same⟩ := Url.placedRead onWeb.scheme (Url.readPlaced onWeb.read) closing
  rw [written, scheme, netloc] at resolved
  have host : again.host? = parts.host? := by
    unfold Url.Parts.host?
    rw [same]
  rw [← host]
  exact bindOk.mpr ⟨_, resolved, bindOk.mpr ⟨again, read, rfl⟩⟩

end PageAudit
