import PageAudit.Proofs.Text.Case
import PageAudit.Proofs.Url.Resolve
/-!
Addresses as they are spelled. A scheme is read without letter case and without what does not count,
but one is put before every address that does not start with a scheme to the letter; what was the
scheme of the address is the host then.
-/
namespace PageAudit

def Spelled (site : String) (scheme : List Char) : Prop :=
  ∀ c ∈ site.toList.take (scheme.length + 3), 32 < c.toNat ∧ c.toLower = c

instance (site : String) (scheme : List Char) : Decidable (Spelled site scheme) :=
  List.decidableBAll _ _

namespace Url

/-- What does not count before an address, but counts behind something else. -/
def lead (text : List Char) : List Char := (text.takeWhile fun c => c.toNat ≤ 32).filter isCounted

def Bare (c : Char) : Prop := c.toNat ≤ 32 ∨ isSchemeChar c = true

section
variable {text scheme rest name : List Char} {parts : Parts} {c : Char}

theorem countedBehind (text : List Char) : text.filter isCounted = lead text ++ counted text := by
  change _ = _ ++ (text.dropWhile fun c => decide (c.toNat ≤ 32)).filter isCounted
  rw [lead, ← List.filter_append, List.takeWhile_append_dropWhile]

theorem schemeFound (found : scheme? text = some (scheme, rest)) :
    ∃ spelled, text = spelled ++ ':' :: rest ∧ spelled.map Char.toLower = scheme ∧
      ∀ c ∈ spelled, isSchemeChar c = true := by
  unfold scheme? cut at found
  dsimp only at found
  split at found
  · cases found
  · rw [Option.ite_none_right_eq_some] at found
    obtain ⟨valid, same⟩ := found
    simp only [Bool.and_eq_true, List.contains_eq_mem, decide_eq_true_eq, List.all_eq_true] at valid
    obtain ⟨⟨colon, -⟩, chars⟩ := valid
    cases same
    refine ⟨text.takeWhile (· != ':'), ?_, rfl, chars⟩
    have whole := List.takeWhile_append_dropWhile (p := (· != ':')) (l := text)
    have stopped := List.head?_dropWhile_not (· != ':') text
    cases ended : text.dropWhile (· != ':') with
    | nil => cases List.dropWhile_eq_nil_iff.mp ended ':' colon
    | cons d more =>
      rw [ended] at whole stopped
      obtain rfl : d = ':' := by simpa using stopped
      exact whole.symm

theorem bareAscii (bare : Bare c) : c.toNat < 128 := by
  rcases bare with low | valid
  · omega
  · simp only [isSchemeChar, Bool.or_eq_true, beq_iff_eq] at valid
    rcases valid with ((known | rfl) | rfl) | rfl
    · exact Text.alphanumAscii known
    all_goals decide

theorem bareUnmarked (bare : Bare c) : c ∉ [':', '/', '?', '#', '@', '[', ']', '%'] := by
  intro marked
  have apart : ∀ d ∈ [':', '/', '?', '#', '@', '[', ']', '%'],
      ¬(d.toNat ≤ 32 ∨ isSchemeChar d = true) := by
    simp [isSchemeChar]
  exact apart c marked bare

theorem lowKept (low : c.toNat ≤ 32) : c.toLower = c := by
  unfold Char.toLower
  split
  · rename_i capital
    have above : 65 ≤ c.toNat := capital.1
    omega
  · rfl

theorem leadLow (member : c ∈ lead text) : c.toNat ≤ 32 := by
  obtain ⟨among, -⟩ := List.mem_filter.mp member
  simpa using List.mem_takeWhile_imp among

theorem leadKept (text : List Char) : (lead text).map Char.toLower = lead text :=
  (List.map_congr_left fun _ member => lowKept (leadLow member)).trans (List.map_id _)

theorem bareLocation (bare : ∀ c ∈ name, Bare c) {d : Char}
    (mark : d ∈ ['/', '?', '#', '@', '[', ']', '%']) : d ∉ name ++ [':'] := by
  rw [List.mem_append, List.mem_singleton, not_or]
  constructor
  · intro member
    exact bareUnmarked (bare d member) (List.mem_cons_of_mem _ mark)
  · rintro rfl
    revert mark
    decide

theorem bareUndisguised (bare : ∀ c ∈ name, Bare c) :
    ((name ++ [':']).any fun c => disguises.contains c.toNat) = false := by
  have beyond : ∀ n ∈ disguises, 128 ≤ n := by decide
  rw [List.any_eq_false]
  intro c member disguise
  have high := beyond c.toNat (by simpa using disguise)
  rcases List.mem_append.mp member with inside | colon
  · have ascii := bareAscii (bare c inside)
    omega
  · obtain rfl := List.mem_singleton.mp colon
    revert high
    decide

theorem bareUnbracketed (bare : ∀ c ∈ name, Bare c) :
    (name ++ [':']).contains '[' = false ∧ (name ++ [':']).contains ']' = false := by
  have opens := bareLocation bare (d := '[') (by decide)
  have closes := bareLocation bare (d := ']') (by decide)
  simpa using And.intro opens closes

theorem barePlaced (bare : ∀ c ∈ name, Bare c) (counts : ∀ c ∈ name, isCounted c = true) :
    Placed (name ++ [':']) where
  within := by
    intro c member
    rw [← Bool.not_eq_true, endsNetloc]
    simp only [Bool.or_eq_true, beq_iff_eq]
    rintro ((rfl | rfl) | rfl)
    all_goals exact bareLocation bare (by decide) member
  counts := by
    intro c member
    rcases List.mem_append.mp member with inside | colon
    · exact counts c inside
    · obtain rfl := List.mem_singleton.mp colon
      rfl
  checked := by
    obtain ⟨opens, closes⟩ := bareUnbracketed bare
    rw [checkNetloc, bracketsProblem?, opens, closes, bareUndisguised bare]
    rfl

theorem cutLastFree {sep : Char} (free : sep ∉ text) : (cutLast sep text).2 = text := by
  have kept : text.reverse.takeWhile (· != sep) = text.reverse := by
    rw [List.takeWhile_eq_self_iff]
    intro c member
    rw [bne_iff_ne]
    rintro rfl
    exact free (List.mem_reverse.mp member)
  rw [cutLast, kept, List.reverse_reverse]

theorem bareHost (bare : ∀ c ∈ name, Bare c) (filled : name ≠ [])
    (located : parts.netloc = name ++ [':']) :
    parts.host? = some (String.ofList (name.map Char.toLower)) := by
  have none : ∀ d ∈ [':', '/', '?', '#', '@', '[', ']', '%'], ∀ c ∈ name, (c != d) = true := by
    intro d mark c member
    rw [bne_iff_ne]
    rintro rfl
    exact bareUnmarked (bare c member) mark
  have unsigned := cutLastFree (bareLocation bare (d := '@') (by decide))
  obtain ⟨opens, -⟩ := bareUnbracketed bare
  have named : (cut ':' (name ++ [':'])).1 = name := by
    rw [cut, List.takeWhile_append_of_pos (none ':' (by decide))]
    exact List.append_nil name
  have main := List.takeWhile_eq_self_iff.mpr (none '%' (by decide))
  have zone := List.dropWhile_eq_nil_iff.mpr (none '%' (by decide))
  unfold Parts.host?
  rw [located]
  simp only [unsigned, opens, named, Bool.false_eq_true, if_false, List.isEmpty_iff, if_neg filled]
  rw [main, zone, List.append_nil, Text.lowercaseAscii fun c member => bareAscii (bare c member)]

theorem countedPlain {start : List Char} (filled : start ≠ [])
    (visible : ∀ c ∈ start, 32 < c.toNat) (rest : List Char) :
    counted (start ++ rest) = start ++ rest.filter isCounted := by
  have counts : ∀ c ∈ start, isCounted c = true := by
    intro c member
    rw [isCounted, Bool.not_eq_true', ← Bool.not_eq_true]
    simp only [Bool.or_eq_true, beq_iff_eq]
    rintro ((rfl | rfl) | rfl)
    all_goals exact absurd (visible _ member) (by decide)
  cases start with
  | nil => exact absurd rfl filled
  | cons c more =>
    rw [List.cons_append, countedFrom (visible c List.mem_cons_self) (counts c List.mem_cons_self),
      List.filter_append, List.filter_eq_self.mpr fun d member => counts d (.tail c member)]
    rfl

theorem webPlain (web : scheme = "http".toList ∨ scheme = "https".toList) :
    ∀ c ∈ scheme ++ "://".toList, 32 < c.toNat ∧ c.toLower = c := by
  rcases web with rfl | rfl <;> simp

theorem countedWeb (web : scheme = "http".toList ∨ scheme = "https".toList) (rest : List Char) :
    counted (scheme ++ "://".toList ++ rest) =
      scheme ++ ':' :: '/' :: '/' :: rest.filter isCounted := by
  rw [countedPlain (by simp) fun c member => (webPlain web c member).1, List.append_assoc]
  rfl

theorem countedTake {n : Nat} (visible : ∀ c ∈ text.take n, 32 < c.toNat)
    (long : n ≤ (counted text).length) : (counted text).take n = text.take n := by
  have shorter : (counted text).length ≤ text.length :=
    (List.length_filter_le _ _).trans (List.dropWhile_sublist _).length_le
  cases n with
  | zero => rfl
  | succ n =>
    have filled : text.take (n + 1) ≠ [] := by
      rw [← List.length_pos_iff_ne_nil, List.length_take_of_le (long.trans shorter)]
      omega
    have whole := countedPlain filled visible (text.drop (n + 1))
    rw [List.take_append_drop] at whole
    rw [whole, List.take_left' (List.length_take_of_le (long.trans shorter))]

theorem webCounted {site : String} (onWeb : OnWeb site parts) :
    ∃ spelled rest, counted site.toList = spelled ++ ':' :: '/' :: '/' :: rest ∧
      spelled.map Char.toLower = parts.scheme ∧ ∀ c ∈ spelled, isSchemeChar c = true := by
  have read : Parts.read [] site.toList = .ok parts := onWeb.read
  obtain ⟨more, found⟩ := webNamed onWeb
  rw [readLocated, found] at read
  obtain ⟨_, -, ended⟩ := bindOk.mp read
  have located := webLocated onWeb
  rw [← Except.ok.inj ended] at located
  simp only [partsAfter, Option.getD_some] at located
  obtain ⟨spelled, whole, lowered, chars⟩ := schemeFound found
  unfold location at located
  split at located
  · exact ⟨spelled, _, whole, lowered, chars⟩
  · exact absurd rfl located

end

end Url

section
variable {site : String} {parts : Url.Parts}

theorem namesScheme (onWeb : OnWeb site parts) :
    NamesWeb site ↔ parts.scheme ++ "://".toList <+: site.toList := by
  constructor
  · intro names
    obtain ⟨scheme, web, rest, whole⟩ : ∃ scheme,
        (scheme = "http".toList ∨ scheme = "https".toList) ∧
          scheme ++ "://".toList <+: site.toList := by
      rcases names with starts | starts
      · exact ⟨_, .inl rfl, List.isPrefixOf_iff_prefix.mp starts⟩
      · exact ⟨_, .inr rfl, List.isPrefixOf_iff_prefix.mp starts⟩
    have read := Url.webScheme web ('/' :: '/' :: rest.filter Url.isCounted)
    have counted := Url.countedWeb web rest
    rw [whole] at counted
    obtain ⟨after, found⟩ := webNamed onWeb
    rw [counted, read] at found
    obtain ⟨same, -⟩ := Prod.mk.inj (Option.some.inj found)
    rw [← same]
    exact ⟨rest, whole⟩
  · rintro ⟨rest, whole⟩
    rcases onWeb.scheme with web | web
    all_goals rw [web] at whole
    · exact .inl (List.isPrefixOf_iff_prefix.mpr ⟨rest, whole⟩)
    · exact .inr (List.isPrefixOf_iff_prefix.mpr ⟨rest, whole⟩)

theorem spelledStarts (onWeb : OnWeb site parts) :
    parts.scheme ++ "://".toList <+: site.toList ↔ Spelled site parts.scheme := by
  constructor
  · rintro ⟨rest, whole⟩
    rw [Spelled, ← whole, List.take_left' (by simp)]
    exact Url.webPlain onWeb.scheme
  · intro plain
    obtain ⟨spelled, rest, counted, lowered, -⟩ := Url.webCounted onWeb
    have split : Url.counted site.toList = (spelled ++ "://".toList) ++ rest := by
      rw [counted, List.append_assoc]
      rfl
    have size : (spelled ++ "://".toList).length = parts.scheme.length + 3 := by
      rw [← lowered, List.length_append, List.length_map]
      rfl
    have whole : spelled ++ "://".toList = site.toList.take (parts.scheme.length + 3) := by
      rw [← Url.countedTake (fun c member => (plain c member).1) (by simp [split, ← size]), split,
        List.take_left' size]
    have kept : spelled.map Char.toLower = spelled := by
      refine (List.map_congr_left fun c member => ?_).trans (List.map_id _)
      exact (plain c (whole ▸ List.mem_append_left _ member)).2
    rw [← lowered, kept, whole]
    exact List.take_prefix _ _

theorem doubledRead (onWeb : OnWeb site parts) :
    ∃ other, OnWeb ("https://" ++ site) other ∧
      other.host? = some (String.ofList (Url.lead site.toList ++ parts.scheme)) := by
  obtain ⟨spelled, rest, counted, lowered, chars⟩ := Url.webCounted onWeb
  -- Behind another scheme the old one is a name with a colon, and so a location.
  let name := Url.lead site.toList ++ spelled
  have bare : ∀ c ∈ name, Url.Bare c := by
    intro c member
    exact (List.mem_append.mp member).imp Url.leadLow (chars c)
  have filled : name ≠ [] := by
    intro none
    rw [(List.append_eq_nil_iff.mp none).2, List.map_nil] at lowered
    rcases onWeb.scheme with web | web <;> cases lowered.trans web
  have whole : site.toList.filter Url.isCounted = (name ++ [':']) ++ '/' :: '/' :: rest := by
    rw [Url.countedBehind, counted]
    simp [name]
  have counts : ∀ c ∈ name, Url.isCounted c = true := by
    intro c member
    have among : c ∈ site.toList.filter Url.isCounted := by
      rw [whole]
      exact List.mem_append_left _ (List.mem_append_left _ member)
    exact (List.mem_filter.mp among).2
  have closing : Url.Closing ('/' :: '/' :: rest) := by
    rintro c first
    cases first
    rfl
  have doubled : Url.counted ("https://" ++ site).toList =
      "https".toList ++ ':' :: '/' :: '/' :: ((name ++ [':']) ++ '/' :: '/' :: rest) := by
    rw [String.toList_append, ← whole]
    exact Url.countedWeb (.inr rfl) site.toList
  obtain ⟨other, read, scheme, located⟩ :=
    Url.countedRead (.inr rfl) (Url.barePlaced bare counts) closing doubled
  have host := Url.bareHost bare filled located
  rw [List.map_append, Url.leadKept, lowered] at host
  refine ⟨other, ⟨read, .inr scheme, ?_⟩, host⟩
  rw [host]
  exact Option.some_ne_none _

end

section
variable {url : String}

theorem normalizedOther (other : ¬NamesWeb (Text.trimmed url)) :
    normalizeUrl url = "https://" ++ Text.trimmed url := by
  unfold normalizeUrl
  exact if_neg fun names => other (Bool.or_eq_true_iff.mp names)

theorem normalizedTrimmed (url : String) : Text.trimmed (normalizeUrl url) = normalizeUrl url := by
  by_cases names : NamesWeb (Text.trimmed url)
  · rw [normalizedNames names, Text.trimmedTwice]
  · rw [normalizedOther names]
    exact Text.trimmedBehind (c := 'h') (d := '/') url "ttps:/".toList rfl rfl rfl

theorem normalizedAgain (url : String) : normalizeUrl (normalizeUrl url) = normalizeUrl url := by
  have web : NamesWeb (normalizeUrl url) := by
    by_cases names : NamesWeb (Text.trimmed url)
    · rwa [normalizedNames names]
    · rw [normalizedOther names]
      refine .inr (List.isPrefixOf_iff_prefix.mpr ?_)
      rw [String.toList_append]
      exact List.prefix_append _ _
  rw [normalizedWeb web, normalizedTrimmed]

/- A site is kept where its scheme is spelled as it is read. Elsewhere another scheme comes before
it, and the address is accepted again, as one on the host of that name. -/
theorem addressNormalized (url : String) :
    normalizeUrl (normalizeUrl url) = normalizeUrl url ∧
    ∀ site, validateSite (some url) = .ok site → ∃ parts, Url.parts site = .ok parts ∧
      (normalizeUrl url = site ↔ Spelled site parts.scheme) ∧
      (¬Spelled site parts.scheme → normalizeUrl url = "https://" ++ site ∧
        validateSite (some (normalizeUrl url)) = .ok (normalizeUrl url) ∧
        ∃ other, Url.parts (normalizeUrl url) = .ok other ∧
          other.host? = some (String.ofList (Url.lead site.toList ++ parts.scheme))) := by
  refine ⟨normalizedAgain url, fun site accepted => ?_⟩
  obtain ⟨rfl, -, parts, onWeb⟩ := siteAccepted.mp accepted
  rw [Option.getD_some] at onWeb ⊢
  have names : NamesWeb (Text.trimmed url) ↔ Spelled (Text.trimmed url) parts.scheme :=
    (namesScheme onWeb).trans (spelledStarts onWeb)
  refine ⟨parts, onWeb.read, ?_⟩
  rw [← names]
  refine ⟨⟨fun same => ?_, normalizedNames⟩, fun apart => ?_⟩
  · by_contra apart
    rw [normalizedOther apart] at same
    simpa using congrArg String.length same
  · obtain ⟨other, doubled, host⟩ := doubledRead onWeb
    rw [← normalizedOther apart] at doubled
    have filled : normalizeUrl url ≠ "" := by
      intro empty
      have some := webFilled doubled
      rw [empty] at some
      cases some
    have again : validateSite (some (normalizeUrl url)) = .ok (normalizeUrl url) := by
      rw [siteAccepted, Option.getD_some, normalizedTrimmed]
      exact ⟨rfl, filled, other, doubled⟩
    exact ⟨normalizedOther apart, again, other, doubled.read, host⟩

theorem paddedAddressKept :
    validateSite (some " http://a.b/ ") = .ok "http://a.b/" ∧
      normalizeUrl " http://a.b/ " = "http://a.b/" := by
  have accepted : validateSite (some " http://a.b/ ") = .ok "http://a.b/" := by decide +kernel
  have named : (Url.parts "http://a.b/").toOption.map (·.scheme) = some "http".toList := by
    decide +kernel
  obtain ⟨-, kept⟩ := addressNormalized " http://a.b/ "
  obtain ⟨parts, read, same, -⟩ := kept _ accepted
  rw [read] at named
  have scheme : parts.scheme = "http".toList := Option.some.inj named
  refine ⟨accepted, same.mpr ?_⟩
  rw [scheme]
  decide +kernel

theorem capitalSchemeDoubled :
    validateSite (some "HTTPS://example.com") = .ok "HTTPS://example.com" ∧
      normalizeUrl "HTTPS://example.com" = "https://HTTPS://example.com" ∧
      (Url.parts "https://HTTPS://example.com").toOption.bind (·.host?) = some "https" := by
  decide +kernel

end

end PageAudit
