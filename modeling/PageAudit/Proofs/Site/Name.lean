import PageAudit.Analysis
import PageAudit.Proofs.Text.Letter
import PageAudit.Proofs.Text.Parted
import PageAudit.Proofs.Url.Host
/-!
Names of sites. The name is read off the host alone, which is taken in lower case up to a zone and
without one `www.` before it. An address that is accepted has a host, so sites on hosts with the
same letters have the same name, whatever else their addresses hold.
-/
namespace PageAudit

def Hosted (site : String) (host : List Char) : Prop :=
  ∃ scheme netloc rest, Url.counted site.toList = scheme ++ ':' :: '/' :: '/' :: (netloc ++ rest) ∧
    scheme.map Char.toLower ∈ ["http".toList, "https".toList] ∧
    (∀ c ∈ netloc, Url.endsNetloc c = false) ∧ Url.Closing rest ∧ Url.HostOf netloc host

structure Zoned (host main zone : List Char) : Prop where
  whole : host = main ++ zone
  free : '%' ∉ main
  opens : Url.Opens '%' zone

/-- A host in lower case up to its zone, without the first of any `www.` before it. -/
def NameOf (host : List Char) (name : String) : Prop :=
  ∃ main zone, Zoned host main zone ∧
    (Text.lowercaseAfter false main ++ zone = "www.".toList ++ name.toList ∨
      ¬"www.".toList <+: Text.lowercaseAfter false main ++ zone ∧
        Text.lowercaseAfter false main ++ zone = name.toList)

def SameHost (a b : List Char) : Prop :=
  ∃ main main' zone, Zoned a main zone ∧ Zoned b main' zone ∧ Text.SameLetters main main'

section
variable {site : String} {parts : Url.Parts} {host other main zone spelled rest : List Char}

theorem Zoned.lower (zoned : Zoned host main zone) :
    Url.lowerHost host = Text.lowercaseAfter false main ++ zone := by
  obtain ⟨before, after⟩ := Url.opensParted zoned.free zoned.opens
  rw [zoned.whole, Url.lowerHost, before, after]

theorem hostZoned (host : List Char) :
    Zoned host (host.takeWhile (· != '%')) (host.dropWhile (· != '%')) := by
  obtain ⟨free, opens⟩ := Url.partedOpens '%' host
  exact ⟨List.takeWhile_append_dropWhile.symm, free, opens⟩

theorem SameHost.lower (same : SameHost host other) :
    Url.lowerHost host = Url.lowerHost other := by
  obtain ⟨main, main', zone, left, right, letters⟩ := same
  rw [left.lower, right.lower, letters.lowercase]

theorem schemeColon (chars : ∀ c ∈ spelled, Url.isSchemeChar c = true) : ':' ∉ spelled :=
  fun colon => Url.bareUnmarked (.inr (chars ':' colon)) List.mem_cons_self

theorem webColon (web : spelled.map Char.toLower ∈ ["http".toList, "https".toList]) :
    ':' ∉ spelled := by
  intro colon
  have lowered : ':' ∈ spelled.map Char.toLower := List.mem_map_of_mem (f := Char.toLower) colon
  have none : ∀ scheme ∈ ["http".toList, "https".toList], ':' ∉ scheme := by decide
  exact none _ web lowered

theorem netlocRead (onWeb : OnWeb site parts) (colonless : ':' ∉ spelled)
    (counted : Url.counted site.toList = spelled ++ ':' :: '/' :: '/' :: rest) :
    parts.netloc = rest.takeWhile (!Url.endsNetloc ·) := by
  have read : Url.Parts.read [] site.toList = .ok parts := onWeb.read
  obtain ⟨more, found⟩ := webNamed onWeb
  obtain ⟨named, whole, -, chars⟩ := Url.schemeFound found
  rw [counted] at whole
  obtain rfl := Text.markAlike colonless (schemeColon chars) whole
  obtain ⟨-, rfl⟩ := List.cons.inj (List.append_cancel_left whole)
  rw [Url.readLocated, found] at read
  obtain ⟨_, -, ended⟩ := bindOk.mp read
  rw [← Except.ok.inj ended]
  rfl

theorem hostedRead (onWeb : OnWeb site parts) :
    Hosted site host ↔ Url.nameOf (Url.cutLast '@' parts.netloc).2 = host := by
  constructor
  · rintro ⟨scheme, netloc, rest, counted, web, within, closing, hosted⟩
    have located := netlocRead onWeb (webColon web) counted
    rw [located, (Url.closingParted within closing).1]
    exact Url.hostNamed hosted
  · rintro rfl
    obtain ⟨spelled, rest, counted, lowered, chars⟩ := Url.webCounted onWeb
    have located := netlocRead onWeb (schemeColon chars) counted
    have placed := Url.readPlaced onWeb.read
    refine ⟨spelled, parts.netloc, rest.dropWhile (!Url.endsNetloc ·), ?_, ?_, placed.within, ?_,
      Url.nameHosted placed.checked⟩
    · rw [located, List.takeWhile_append_dropWhile, counted]
    · simpa [lowered] using onWeb.scheme
    · intro c first
      have stops := List.head?_dropWhile_not (!Url.endsNetloc ·) rest
      rw [first] at stops
      simpa using stops

def shortened (host : String) : String :=
  if Text.startsWith host "www." then String.ofList (host.toList.drop 4) else host

theorem siteRead {url : String} (read : Url.parts url = .ok parts) :
    siteName url = (parts.host?.map shortened).getD "Unknown Site" := by
  unfold siteName
  rw [read]
  cases located : parts.host? <;> simp only [located] <;> rfl

theorem siteUnread {url : String} {e : Url.UrlError} (read : Url.parts url = .error e) :
    siteName url = "Unknown Site" := by
  unfold siteName
  rw [read]

theorem shortenedNames (host : List Char) :
    NameOf host (shortened (String.ofList (Url.lowerHost host))) := by
  refine ⟨_, _, hostZoned host, ?_⟩
  change Url.lowerHost host = _ ∨ ¬_ <+: Url.lowerHost host ∧ Url.lowerHost host = _
  unfold shortened Text.startsWith
  simp only [String.toList_ofList, List.isPrefixOf_iff_prefix]
  split
  · rename_i starts
    obtain ⟨name, whole⟩ := starts
    exact .inl (by simp [← whole])
  · rename_i other
    exact .inr ⟨other, by rw [String.toList_ofList]⟩

theorem lowerFilled (filled : host ≠ []) : Url.lowerHost host ≠ [] := by
  intro none
  obtain ⟨noMain, noZone⟩ := List.append_eq_nil_iff.mp none
  have whole := (hostZoned host).whole
  rw [noZone, List.append_nil] at whole
  exact Text.lowercaseFilled (whole ▸ filled) noMain

theorem hostFilled {named : String} (located : parts.host? = some named) : named ≠ "" := by
  rw [Url.hostRead, Option.ite_none_left_eq_some, List.isEmpty_iff] at located
  obtain ⟨filled, same⟩ := located
  obtain rfl := Option.some.inj same
  intro empty
  exact lowerFilled filled (by simpa using congrArg String.toList empty)

theorem shortenedEmpty {named : String} (filled : named ≠ "") (empty : shortened named = "") :
    named = "www." := by
  unfold shortened at empty
  split at empty
  · rename_i starts
    obtain ⟨rest, whole⟩ := List.isPrefixOf_iff_prefix.mp starts
    have none : rest = [] := by
      rw [← whole] at empty
      simpa using congrArg String.toList empty
    rw [none, List.append_nil] at whole
    exact String.toList_injective whole.symm
  · exact absurd empty filled

theorem siteNamed {url : String} (empty : siteName url = "") :
    ∃ parts, Url.parts url = .ok parts ∧ parts.host? = some "www." := by
  have unnamed : "Unknown Site" ≠ "" := by decide
  cases read : Url.parts url with
  | error e => exact absurd ((siteUnread read).symm.trans empty) unnamed
  | ok parts =>
    rw [siteRead read] at empty
    cases located : parts.host? with
    | none =>
      rw [located] at empty
      exact absurd empty unnamed
    | some named =>
      rw [located] at empty
      exact ⟨parts, rfl, by rw [located, shortenedEmpty (hostFilled located) empty]⟩

theorem hostedNamed (onWeb : OnWeb site parts) (hosted : Hosted site host) :
    siteName site = shortened (String.ofList (Url.lowerHost host)) := by
  have some := onWeb.host
  rw [Url.hostRead, (hostedRead onWeb).mp hosted] at some
  rw [siteRead onWeb.read, Url.hostRead, (hostedRead onWeb).mp hosted]
  dsimp only at some ⊢
  split
  · rename_i empty
    exact absurd (if_pos empty) some
  · rfl

theorem webHosted (onWeb : OnWeb site parts) :
    ∃ host, host ≠ [] ∧ ∀ other, Hosted site other ↔ host = other := by
  refine ⟨_, fun none => onWeb.host ?_, fun _ => hostedRead onWeb⟩
  rw [Url.hostRead, none]
  rfl

/- Only a host that is left out as a whole can have no name. An accepted site has one host and is
named for it, and sites on hosts with the same letters have the same name. -/
theorem sitesNamed :
    (∀ url, siteName url = "" →
      ∃ parts, Url.parts url = .ok parts ∧ parts.host? = some "www.") ∧
    ∀ given site, validateSite given = .ok site →
      (∃ host, host ≠ [] ∧ ∀ other, Hosted site other ↔ host = other) ∧
      ∀ host, Hosted site host →
        (Url.lowerHost host ≠ "www.".toList → NameOf host (siteName site)) ∧
        ∀ given' site' host', validateSite given' = .ok site' → Hosted site' host' →
          SameHost host host' → siteName site = siteName site' := by
  refine ⟨fun url => siteNamed, fun given site accepted => ?_⟩
  obtain ⟨-, -, parts, onWeb⟩ := siteAccepted.mp accepted
  refine ⟨webHosted onWeb, fun host hosted =>
    ⟨fun _ => ?_, fun given' site' host' accepted' hosted' same => ?_⟩⟩
  · rw [hostedNamed onWeb hosted]
    exact shortenedNames host
  · obtain ⟨-, -, parts', onWeb'⟩ := siteAccepted.mp accepted'
    rw [hostedNamed onWeb hosted, hostedNamed onWeb' hosted', same.lower]

end

theorem capitalHostNamed :
    NameOf "WWW.A.com".toList (siteName "HTTPS://me@WWW.A.com:80/p?q#f") ∧
      siteName "HTTPS://me@WWW.A.com:80/p?q#f" = siteName "http://www.a.com" ∧
      ∃ parts, Url.parts "http://www./" = .ok parts ∧ parts.host? = some "www." := by
  have accepted : validateSite (some " HTTPS://me@WWW.A.com:80/p?q#f ") =
      .ok "HTTPS://me@WWW.A.com:80/p?q#f" := by decide +kernel
  have accepted' : validateSite (some "http://www.a.com") = .ok "http://www.a.com" := by
    decide +kernel
  have hosted : Hosted "HTTPS://me@WWW.A.com:80/p?q#f" "WWW.A.com".toList := by
    refine ⟨"HTTPS".toList, "me@WWW.A.com:80".toList, "/p?q#f".toList, by decide, by decide,
      by simp [Url.endsNetloc], fun c first => by cases first; rfl, ?_⟩
    change Url.HostOf ("me".toList ++ '@' :: ("WWW.A.com".toList ++ ":80".toList)) _
    exact .signed (.plain (by decide) (by decide) (by decide) fun c first => by cases first; rfl)
  have hosted' : Hosted "http://www.a.com" "www.a.com".toList := by
    refine ⟨"http".toList, "www.a.com".toList, [], by decide, by decide,
      by simp [Url.endsNetloc], (fun c first => by cases first), ?_⟩
    change Url.HostOf ("www.a.com".toList ++ []) _
    exact .plain (by decide) (by decide) (by decide) (Url.opensNothing ':')
  have same : SameHost "WWW.A.com".toList "www.a.com".toList := by
    refine ⟨_, _, [], ⟨(List.append_nil _).symm, by decide, Url.opensNothing '%'⟩,
      ⟨(List.append_nil _).symm, by decide, Url.opensNothing '%'⟩, ⟨?_, fun place => ?_⟩⟩
    · decide
    · exact iff_of_false (Text.noFinals (by simp) place) (Text.noFinals (by simp) place)
  obtain ⟨-, named⟩ := sitesNamed.2 _ _ accepted
  obtain ⟨name, law⟩ := named _ hosted
  exact ⟨name (by decide), law _ _ _ accepted' hosted' same,
    sitesNamed.1 "http://www./" (by decide +kernel)⟩

theorem hostCaseKept :
    validateSite (some "http://[fe80::1%A]/") = .ok "http://[fe80::1%A]/" ∧
      validateSite (some "http://[fe80::1%a]/") = .ok "http://[fe80::1%a]/" ∧
      siteName "http://[fe80::1%A]/" = "fe80::1%A" ∧
      siteName "http://[fe80::1%a]/" = "fe80::1%a" ∧
      validateSite (some "http://ΑΣ/") = .ok "http://ΑΣ/" ∧
      validateSite (some "http://ασ/") = .ok "http://ασ/" ∧
      siteName "http://ΑΣ/" = "ας" ∧ siteName "http://ασ/" = "ασ" ∧
      validateSite (some "http://a.b ") = .ok "http://a.b" ∧ siteName "http://a.b " = "a.b " := by
  decide +kernel

end PageAudit
