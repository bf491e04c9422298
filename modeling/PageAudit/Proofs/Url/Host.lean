import PageAudit.Proofs.Url.Spelled
/-!
Hosts of addresses. A host stands in a network location behind the user and before the port, or in
brackets. Whatever else the location of an address on the web holds, it has one host only, and that
one is read.
-/
namespace PageAudit.Url

def Opens (mark : Char) (rest : List Char) : Prop := ∀ c, rest.head? = some c → c = mark

/-- The host of a network location: before a port or in brackets, behind any users. -/
inductive HostOf : List Char → List Char → Prop
  | plain {host port : List Char} (signed : '@' ∉ host ++ port) (bracketed : '[' ∉ host ++ port)
    (name : ':' ∉ host) (opens : Opens ':' port) : HostOf (host ++ port) host
  | bracketed {host rest : List Char} (signed : '@' ∉ host ++ rest) (name : ']' ∉ host)
    (opens : Opens ']' rest) : HostOf ('[' :: (host ++ rest)) host
  | signed {user location host : List Char} (hosted : HostOf location host) :
    HostOf (user ++ '@' :: location) host

def nameOf (location : List Char) : List Char :=
  if location.contains '[' then (cut ']' (cut '[' location).2).1 else (cut ':' location).1

def lowerHost (host : List Char) : List Char :=
  Text.lowercaseAfter false (host.takeWhile (· != '%')) ++ host.dropWhile (· != '%')

section
variable {text main rest netloc location host : List Char} {mark : Char} {parts : Parts}

theorem opensNothing (mark : Char) : Opens mark [] := by
  intro c first
  cases first

theorem opensParted (free : mark ∉ main) (opens : Opens mark rest) :
    (main ++ rest).takeWhile (· != mark) = main ∧
      (main ++ rest).dropWhile (· != mark) = rest := by
  have all : ∀ c ∈ main, (c != mark) = true := by
    intro c member
    rw [bne_iff_ne]
    rintro rfl
    exact free member
  rw [List.takeWhile_append_of_pos all, List.dropWhile_append_of_pos all]
  cases rest with
  | nil => exact ⟨List.append_nil main, rfl⟩
  | cons c more =>
    obtain rfl := opens c rfl
    simp

theorem partedOpens (mark : Char) (text : List Char) :
    mark ∉ text.takeWhile (· != mark) ∧ Opens mark (text.dropWhile (· != mark)) := by
  constructor
  · intro member
    simpa using List.mem_takeWhile_imp member
  · intro c first
    have stops := List.head?_dropWhile_not (· != mark) text
    rw [first] at stops
    simpa using stops

theorem cutOpens (free : mark ∉ main) (opens : Opens mark rest) :
    (cut mark (main ++ rest)).1 = main :=
  (opensParted free opens).1

theorem cutLastSigned (user location : List Char) (mark : Char) :
    (cutLast mark (user ++ mark :: location)).2 = (cutLast mark location).2 := by
  have apart : (user ++ mark :: location).reverse = location.reverse ++ mark :: user.reverse := by
    simp
  have stops : (mark :: user.reverse).takeWhile (· != mark) = [] := by simp
  simp only [cutLast, apart, List.takeWhile_append, stops, List.append_nil]
  congr 1
  split
  · rename_i whole
    exact ((List.takeWhile_prefix _).eq_of_length whole).symm
  · rfl

theorem cutLastParted (mark : Char) (text : List Char) : mark ∉ (cutLast mark text).2 ∧
    (text = (cutLast mark text).2 ∨ ∃ before, text = before ++ mark :: (cutLast mark text).2) := by
  obtain ⟨free, opens⟩ := partedOpens mark text.reverse
  have whole := List.takeWhile_append_dropWhile (p := (· != mark)) (l := text.reverse)
  refine ⟨fun member => free (List.mem_reverse.mp member), ?_⟩
  have parted : text = (text.reverse.dropWhile (· != mark)).reverse ++ (cutLast mark text).2 := by
    rw [cutLast, ← List.reverse_append, whole, List.reverse_reverse]
  cases ended : text.reverse.dropWhile (· != mark) with
  | nil =>
    rw [ended] at parted
    exact .inl parted
  | cons c before =>
    obtain rfl := opens c (by rw [ended]; rfl)
    rw [ended, List.reverse_cons, List.append_assoc] at parted
    exact .inr ⟨before.reverse, parted⟩

theorem hostNamed (hosted : HostOf netloc host) : nameOf (cutLast '@' netloc).2 = host := by
  induction hosted with
  | plain signed bracketed name opens =>
    rw [cutLastFree signed, nameOf, if_neg (by simpa using bracketed)]
    exact cutOpens name opens
  | @bracketed host rest signed name opens =>
    have signed : '@' ∉ '[' :: (host ++ rest) := by simpa using signed
    rw [cutLastFree signed]
    simpa [nameOf, cut] using cutOpens name opens
  | signed _ ih => rwa [cutLastSigned]

theorem bracketsSound (checked : checkNetloc netloc = .ok ())
    (inside : '[' ∈ (cutLast '@' netloc).2) : locationProblem? (cutLast '@' netloc).2 = none := by
  have among : '[' ∈ netloc := by
    rcases (cutLastParted '@' netloc).2 with whole | ⟨user, whole⟩
    · exact whole ▸ inside
    · exact whole ▸ List.mem_append_right _ (List.mem_cons_of_mem _ inside)
  have sound : bracketsProblem? netloc = none := by
    unfold checkNetloc at checked
    split at checked
    · cases checked
    · assumption
  unfold bracketsProblem? at sound
  simp only [List.contains_eq_mem, among, decide_true, if_true] at sound
  split at sound
  · cases sound
  · exact sound

theorem bracketFirst (sound : locationProblem? location = none) (inside : '[' ∈ location) :
    ∃ rest, location = '[' :: rest := by
  have first : location.takeWhile (· != '[') = [] := by
    unfold locationProblem? at sound
    simp only [List.contains_eq_mem, inside, decide_true, if_true] at sound
    by_contra filled
    simp [cut, filled] at sound
  cases location with
  | nil => cases inside
  | cons c rest =>
    by_cases bracket : c = '['
    · exact ⟨rest, by rw [bracket]⟩
    · simp [bracket] at first

theorem locationHosted (signed : '@' ∉ location)
    (brackets : '[' ∈ location → ∃ rest, location = '[' :: rest) :
    HostOf location (nameOf location) := by
  by_cases inside : '[' ∈ location
  · obtain ⟨rest, rfl⟩ := brackets inside
    obtain ⟨free, opens⟩ := partedOpens ']' rest
    have name : nameOf ('[' :: rest) = rest.takeWhile (· != ']') := by simp [nameOf, cut]
    have hosted := HostOf.bracketed (by simpa using signed) free opens
    rwa [List.takeWhile_append_dropWhile, ← name] at hosted
  · obtain ⟨free, opens⟩ := partedOpens ':' location
    have name : nameOf location = location.takeWhile (· != ':') := if_neg (by simpa using inside)
    have hosted := HostOf.plain (by simpa using signed) (by simpa using inside) free opens
    rwa [List.takeWhile_append_dropWhile, ← name] at hosted

theorem nameHosted (checked : checkNetloc netloc = .ok ()) :
    HostOf netloc (nameOf (cutLast '@' netloc).2) := by
  obtain ⟨signed, users⟩ := cutLastParted '@' netloc
  have within : ∀ host, HostOf (cutLast '@' netloc).2 host → HostOf netloc host := by
    intro host hosted
    rcases users with whole | ⟨user, whole⟩
    · rwa [whole]
    · rw [whole]
      exact hosted.signed
  exact within _ (locationHosted signed fun inside =>
    bracketFirst (bracketsSound checked inside) inside)

theorem hostRead (parts : Parts) : parts.host? =
    let name := nameOf (cutLast '@' parts.netloc).2
    if name.isEmpty then none else some (String.ofList (lowerHost name)) := rfl

end

end PageAudit.Url
