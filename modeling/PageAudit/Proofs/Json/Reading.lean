import PageAudit.Proofs.Json.Token
/-!
What is written as JSON is read as the same value again, in one line or in many. Every value ends
where a comma, a bracket or white space follows.
-/
namespace PageAudit.Json

inductive Plain (limit : Option Nat) : Json → Prop
  | null : Plain limit .null
  | bool (value : Bool) : Plain limit (.bool value)
  | number (n : Int) (short : isLong limit (toString n).toList = false) :
    Plain limit (.number (toString n))
  | string (value : String) : Plain limit (.string value)
  | list {items : List Json} (all : ∀ item ∈ items, Plain limit item) : Plain limit (.list items)
  | object {fields : List (String × Json)} (all : ∀ field ∈ fields, Plain limit field.2) :
    Plain limit (.object fields)

def Blank (space : List Char) : Prop := ∀ c ∈ space, isSpace c = true

structure Spacing.Neat (s : Spacing) : Prop where
  comma : ∃ space, s.comma.toList = ',' :: space ∧ Blank space
  colon : ∃ space, s.colon.toList = ':' :: space ∧ Blank space

theorem inlineNeat : inline.Neat :=
  ⟨⟨[' '], by decide, by simp [Blank, isSpace]⟩,
    [' '], by decide, by simp [Blank, isSpace]⟩

theorem indentedNeat : indented.Neat :=
  ⟨⟨[], by decide, nofun⟩, [' '], by decide, by simp [Blank, isSpace]⟩

section
variable {limit : Option Nat} {ds rest : List Char}

theorem spaceSkipped {space : List Char} (blank : Blank space) {c : Char}
    (filled : isSpace c = false) : skipSpace (space ++ c :: rest) = c :: rest := by
  rw [skipSpace, List.dropWhile_append_of_pos blank, List.dropWhile_cons_of_neg (by simp [filled])]

theorem newlineBlank (s : Spacing) (level : Nat) : Blank (s.newline level).toList := by
  intro c member
  unfold Spacing.newline at member
  split at member
  · rw [String.toList_append, List.mem_append] at member
    rcases member with line | indent
    · obtain rfl : c = '\n' := List.mem_singleton.mp line
      rfl
    · rw [String.toList_ofList] at indent
      obtain rfl : c = ' ' := List.eq_of_mem_replicate indent
      rfl
  · cases member

theorem blankEnds {space : List Char} {c : Char} (blank : Blank space) (ends : Ends (c :: rest)) :
    Ends (space ++ c :: rest) := by
  cases space with
  | nil => exact ends
  | cons d space =>
    intro e same
    obtain rfl : d = e := Option.some.inj same
    have white := blank d List.mem_cons_self
    simp only [isSpace, Bool.or_eq_true, beq_iff_eq] at white
    rcases white with ((rfl | rfl) | rfl) | rfl <;> decide

def Readable (limit : Option Nat) (v : Json) : Prop :=
  ∀ {s : Spacing}, s.Neat → ∀ {level fuel rest}, (v.write s level).toList.length < fuel →
    Ends rest → valueAt limit fuel ((v.write s level).toList ++ rest) = .ok (v, rest)

def Opens (text : List Char) : Prop :=
  ∃ c more, text = c :: more ∧ isSpace c = false ∧ c ≠ ']' ∧ c ≠ '\x7d'

theorem digitsOpen (digits : Digits ds) : Opens ds := by
  obtain ⟨d, more, rfl⟩ := List.exists_cons_of_ne_nil digits.filled
  have digit := digits.all d List.mem_cons_self
  refine ⟨d, more, rfl, ?_, ?_, ?_⟩
  · cases white : isSpace d with
    | false => rfl
    | true =>
      simp only [isSpace, Bool.or_eq_true, beq_iff_eq] at white
      rcases white with ((rfl | rfl) | rfl) | rfl <;> cases digit
  · rintro rfl
    cases digit
  · rintro rfl
    cases digit

theorem enclosed (s : Spacing) (level : Nat) (left right : String) (items : List String) :
    ∃ inside, (s.enclose level left right items).toList = left.toList ++ inside := by
  unfold Spacing.enclose
  split
  · exact ⟨right.toList, String.toList_append⟩
  · exact ⟨_, by simp only [String.toList_append, List.append_assoc]; rfl⟩

theorem plainOpens {v : Json} (plain : Plain limit v) (s : Spacing) (level : Nat) :
    Opens (v.write s level).toList := by
  cases plain with
  | null =>
    rw [write]
    exact ⟨'n', ['u', 'l', 'l'], rfl, by decide, by decide, by decide⟩
  | bool value =>
    rw [write]
    cases value with
    | true => exact ⟨'t', ['r', 'u', 'e'], rfl, by decide, by decide, by decide⟩
    | false => exact ⟨'f', ['a', 'l', 's', 'e'], rfl, by decide, by decide, by decide⟩
  | number n short =>
    rw [write]
    obtain ⟨ds, digits, written | written⟩ := intChars n
    · rw [written]
      exact digitsOpen digits
    · exact ⟨'-', ds, written, by decide, by decide, by decide⟩
  | string value =>
    rw [write]
    exact ⟨'"', _, quoteChars value, by decide, by decide, by decide⟩
  | @list items all =>
    rw [write]
    obtain ⟨inside, written⟩ := enclosed s level "[" "]" (writeItems s (level + 1) items)
    exact ⟨'[', inside, written, by decide, by decide, by decide⟩
  | @object fields all =>
    rw [write]
    obtain ⟨inside, written⟩ := enclosed s level "\x7b" "\x7d" (writeFields s (level + 1) fields)
    exact ⟨'\x7b', inside, written, by decide, by decide, by decide⟩

def between (s : Spacing) (level : Nat) : List Char := (s.comma ++ s.newline level).toList

theorem betweenRead {s : Spacing} (neat : s.Neat) (level : Nat) :
    ∃ space, between s level = ',' :: space ∧ Blank space := by
  obtain ⟨space, comma, blank⟩ := neat.comma
  refine ⟨space ++ (s.newline level).toList, ?_, ?_⟩
  · rw [between, String.toList_append, comma, List.cons_append]
  · exact List.forall_mem_append.mpr ⟨blank, newlineBlank s level⟩

def joined (s : Spacing) (level : Nat) (texts : List String) : List Char :=
  (between s level).intercalate (texts.map String.toList)

theorem joinedOne (s : Spacing) (level : Nat) (text : String) :
    joined s level [text] = text.toList := List.intercalate_singleton ..

theorem joinedMore (s : Spacing) (level : Nat) (text next : String) (more : List String) :
    joined s level (text :: next :: more) =
      text.toList ++ (between s level ++ joined s level (next :: more)) := by
  simp only [joined, List.map_cons, List.intercalate_cons_cons, List.append_assoc]

theorem joinedCons {s : Spacing} (neat : s.Neat) (level : Nat) :
    ∃ space, Blank space ∧ ∀ text next more, joined s level (text :: next :: more) =
      text.toList ++ ',' :: (space ++ joined s level (next :: more)) := by
  obtain ⟨space, comma, blank⟩ := betweenRead neat level
  refine ⟨space, blank, fun text next more => ?_⟩
  rw [joinedMore, comma, List.cons_append]

theorem joinedOpens {s : Spacing} {level : Nat} {text : String} (opens : Opens text.toList)
    (more : List String) : Opens (joined s level (text :: more)) := by
  obtain ⟨c, others, written, filled⟩ := opens
  cases more with
  | nil => exact ⟨c, others, (joinedOne ..).trans written, filled⟩
  | cons next more =>
    refine ⟨c, others ++ (between s level ++ joined s level (next :: more)), ?_, filled⟩
    rw [joinedMore, written, List.cons_append]

def itemsText (s : Spacing) (level : Nat) (items : List Json) : List Char :=
  joined s level (writeItems s level items)

def fieldsText (s : Spacing) (level : Nat) (fields : List (String × Json)) : List Char :=
  joined s level (writeFields s level fields)

theorem itemsOpen {v : Json} (plain : Plain limit v) (s : Spacing) (level : Nat)
    (items : List Json) : Opens (itemsText s level (v :: items)) := by
  rw [itemsText, writeItems]
  exact joinedOpens (plainOpens plain s level) _

theorem fieldsOpen (s : Spacing) (level : Nat) (field : String × Json)
    (fields : List (String × Json)) : Opens (fieldsText s level (field :: fields)) := by
  rw [fieldsText, writeFields]
  refine joinedOpens ?_ _
  rw [String.append_assoc, String.toList_append, quoteChars]
  exact ⟨'"', _, rfl, by decide, by decide, by decide⟩

theorem opensSkipped {space text : List Char} (blank : Blank space) (opens : Opens text) :
    skipSpace (space ++ (text ++ rest)) = text ++ rest := by
  obtain ⟨c, more, rfl, filled, -⟩ := opens
  exact spaceSkipped blank filled

theorem filledSkipped {c : Char} (filled : isSpace c = false) :
    skipSpace (c :: rest) = c :: rest :=
  List.dropWhile_cons_of_neg (by simp [filled])

/- The fuel that is left covers the text that is left, and a value ends at a comma or the tail. -/
theorem itemsRead {s : Spacing} (neat : s.Neat) {level fuel : Nat} {v : Json}
    {items done : List Json} {tail : List Char} (plain : ∀ item ∈ items, Plain limit item)
    (reads : ∀ item ∈ v :: items, Readable limit item) (blank : Blank tail)
    (enough : (itemsText s level (v :: items)).length + 1 < fuel) :
    itemsAt limit fuel done (itemsText s level (v :: items) ++ (tail ++ ']' :: rest)) =
      .ok (.list (done.reverse ++ v :: items), rest) := by
  obtain ⟨space, white, written⟩ := joinedCons neat level
  induction items generalizing v done fuel with
  | nil =>
    obtain ⟨fuel, rfl⟩ : ∃ n, fuel = n + 1 := Nat.exists_eq_add_one_of_ne_zero (by omega)
    simp only [itemsText, writeItems, joinedOne] at enough ⊢
    have ends : Ends (tail ++ ']' :: rest) := blankEnds blank (by simp [Ends])
    rw [itemsAt, reads v List.mem_cons_self neat (by omega) ends]
    simp only [spaceSkipped blank (c := ']') rfl, List.reverse_cons]
  | cons w items ih =>
    obtain ⟨fuel, rfl⟩ : ∃ n, fuel = n + 1 := Nat.exists_eq_add_one_of_ne_zero (by omega)
    obtain ⟨plainNext, plainMore⟩ := List.forall_mem_cons.mp plain
    obtain ⟨readsFirst, readsOthers⟩ := List.forall_mem_cons.mp reads
    have first : itemsText s level (v :: w :: items) =
        (v.write s level).toList ++ ',' :: (space ++ itemsText s level (w :: items)) := written ..
    rw [first, List.length_append, List.length_cons, List.length_append] at enough
    have ends : Ends (',' :: (space ++ (itemsText s level (w :: items) ++
        (tail ++ ']' :: rest)))) := by simp [Ends]
    have others : itemsAt limit fuel (v :: done)
        (itemsText s level (w :: items) ++ (tail ++ ']' :: rest)) = _ :=
      ih plainMore readsOthers (by omega)
    rw [first, List.append_assoc, List.cons_append, List.append_assoc, itemsAt,
      readsFirst neat (by omega) ends]
    simp only [filledSkipped (c := ',') rfl, opensSkipped white (itemsOpen plainNext s level items),
      others, List.reverse_cons, List.append_assoc, List.singleton_append]

theorem fieldRead {s : Spacing} (neat : s.Neat) {level fuel : Nat} (name : String) {v : Json}
    (plain : Plain limit v) (reads : Readable limit v)
    (enough : (quote name ++ s.colon ++ v.write s level).toList.length < fuel) (ends : Ends rest)
    (done : List (String × Json)) (more : List Char) :
    (skipSpace rest = ',' :: more →
      fieldsAt limit (fuel + 1) done ((quote name ++ s.colon ++ v.write s level).toList ++ rest) =
        fieldsAt limit fuel ((name, v) :: done) (skipSpace more)) ∧
    (skipSpace rest = '\x7d' :: more →
      fieldsAt limit (fuel + 1) done ((quote name ++ s.colon ++ v.write s level).toList ++ rest) =
        .ok (.object ((name, v) :: done).reverse, more)) := by
  obtain ⟨space, colon, white⟩ := neat.colon
  obtain ⟨text, written, named⟩ :=
    quoteRead name (s.colon.toList ++ ((v.write s level).toList ++ rest))
  have short : (v.write s level).toList.length < fuel := by
    simp only [String.toList_append, List.length_append] at enough
    omega
  simp only [String.toList_append, List.append_assoc]
  rw [written, fieldsAt, named, colon]
  simp only [List.cons_append, filledSkipped (c := ':') rfl,
    opensSkipped white (plainOpens plain s level), reads neat short ends]
  constructor <;> intro follows <;> simp only [follows]

theorem fieldsRead {s : Spacing} (neat : s.Neat) {level fuel : Nat} {field : String × Json}
    {fields done : List (String × Json)} {tail : List Char}
    (plain : ∀ f ∈ field :: fields, Plain limit f.2)
    (reads : ∀ f ∈ field :: fields, Readable limit f.2) (blank : Blank tail)
    (enough : (fieldsText s level (field :: fields)).length + 1 < fuel) :
    fieldsAt limit fuel done (fieldsText s level (field :: fields) ++ (tail ++ '\x7d' :: rest)) =
      .ok (.object (done.reverse ++ field :: fields), rest) := by
  obtain ⟨space, white, written⟩ := joinedCons neat level
  induction fields generalizing field done fuel with
  | nil =>
    obtain ⟨fuel, rfl⟩ : ∃ n, fuel = n + 1 := Nat.exists_eq_add_one_of_ne_zero (by omega)
    obtain ⟨name, v⟩ := field
    simp only [fieldsText, writeFields, joinedOne] at enough ⊢
    have ends : Ends (tail ++ '\x7d' :: rest) := blankEnds blank (by simp [Ends])
    have short : (quote name ++ s.colon ++ v.write s level).toList.length < fuel := by omega
    -- The last field is followed by the brace.
    have closes := (fieldRead neat name (plain _ List.mem_cons_self) (reads _ List.mem_cons_self)
      short ends done rest).2 (spaceSkipped blank rfl)
    rw [closes, List.reverse_cons]
  | cons next fields ih =>
    obtain ⟨fuel, rfl⟩ : ∃ n, fuel = n + 1 := Nat.exists_eq_add_one_of_ne_zero (by omega)
    obtain ⟨plainFirst, plainOthers⟩ := List.forall_mem_cons.mp plain
    obtain ⟨readsFirst, readsOthers⟩ := List.forall_mem_cons.mp reads
    obtain ⟨name, v⟩ := field
    have first : fieldsText s level ((name, v) :: next :: fields) =
        (quote name ++ s.colon ++ v.write s level).toList ++
          ',' :: (space ++ fieldsText s level (next :: fields)) := written ..
    rw [first, List.length_append, List.length_cons, List.length_append] at enough
    have ends : Ends (',' :: (space ++ (fieldsText s level (next :: fields) ++
        (tail ++ '\x7d' :: rest)))) := by simp [Ends]
    have others : fieldsAt limit fuel ((name, v) :: done)
        (fieldsText s level (next :: fields) ++ (tail ++ '\x7d' :: rest)) = _ :=
      ih plainOthers readsOthers (by omega)
    have short : (quote name ++ s.colon ++ v.write s level).toList.length < fuel := by omega
    -- Behind any other field there is a comma, and the name of the next one opens behind the gap.
    have goesOn := (fieldRead neat name plainFirst readsFirst short ends done _).1
      (filledSkipped rfl)
    rw [first, List.append_assoc, List.cons_append, List.append_assoc, goesOn,
      opensSkipped white (fieldsOpen s level next fields), others, List.reverse_cons,
      List.append_assoc, List.singleton_append]

theorem listAt {fuel : Nat} {space text : List Char} (blank : Blank space) (opens : Opens text) :
    valueAt limit (fuel + 1) ('[' :: (space ++ (text ++ rest))) =
      itemsAt limit fuel [] (text ++ rest) := by
  rw [valueAt, opensSkipped blank opens]
  obtain ⟨c, more, rfl, -, bracket, -⟩ := opens
  split
  · rename_i same
    exact absurd (List.cons.inj same).1 bracket
  · rfl

theorem objectAt {fuel : Nat} {space text : List Char} (blank : Blank space) (opens : Opens text) :
    valueAt limit (fuel + 1) ('\x7b' :: (space ++ (text ++ rest))) =
      fieldsAt limit fuel [] (text ++ rest) := by
  rw [valueAt, opensSkipped blank opens]
  obtain ⟨c, more, rfl, -, -, brace⟩ := opens
  split
  · rename_i same
    exact absurd (List.cons.inj same).1 brace
  · rfl

theorem numberAt {n : Int} {fuel : Nat} (short : isLong limit (toString n).toList = false)
    (ends : Ends rest) : valueAt limit (fuel + 1) ((toString n).toList ++ rest) =
      .ok (.number (toString n), rest) := by
  rw [← atomRead short ends]
  obtain ⟨ds, digits, written | written⟩ := intChars n
  · obtain ⟨d, more, rfl⟩ := List.exists_cons_of_ne_nil digits.filled
    have digit := digits.all d List.mem_cons_self
    rw [written]
    refine atomAt ?_ ?_ ?_ <;> rintro rfl <;> cases digit
  · rw [written]
    exact atomAt (by decide) (by decide) (by decide)

theorem enclosedEmpty (s : Spacing) (level : Nat) (left right : String) :
    (s.enclose level left right []).toList = left.toList ++ right.toList := String.toList_append

theorem enclosedFilled (s : Spacing) (level : Nat) (left right text : String) (more : List String) :
    (s.enclose level left right (text :: more)).toList =
      left.toList ++ ((s.newline (level + 1)).toList ++
        (joined s (level + 1) (text :: more) ++ ((s.newline level).toList ++ right.toList))) := by
  simp only [Spacing.enclose, List.isEmpty_cons, Bool.false_eq_true, if_false, String.toList_append,
    String.toList_intercalate, List.append_assoc, joined, between]

theorem listWritten (s : Spacing) (level : Nat) (v : Json) (items : List Json) :
    ((list (v :: items)).write s level).toList =
      '[' :: ((s.newline (level + 1)).toList ++
        (itemsText s (level + 1) (v :: items) ++ ((s.newline level).toList ++ [']']))) := by
  rw [write, writeItems, enclosedFilled, ← writeItems]
  rfl

theorem objectWritten (s : Spacing) (level : Nat) (field : String × Json)
    (fields : List (String × Json)) :
    ((object (field :: fields)).write s level).toList =
      '\x7b' :: ((s.newline (level + 1)).toList ++
        (fieldsText s (level + 1) (field :: fields) ++
          ((s.newline level).toList ++ ['\x7d']))) := by
  rw [write, writeFields, enclosedFilled, ← writeFields]
  rfl

theorem fueledReadable {v : Json} (reads : ∀ {s : Spacing}, s.Neat → ∀ level fuel rest,
    (v.write s level).toList.length < fuel + 1 → Ends rest →
      valueAt limit (fuel + 1) ((v.write s level).toList ++ rest) = .ok (v, rest)) :
    Readable limit v := by
  intro s neat level fuel rest enough ends
  obtain ⟨fuel, rfl⟩ : ∃ n, fuel = n + 1 := Nat.exists_eq_add_one_of_ne_zero (by omega)
  exact reads neat level fuel rest enough ends

theorem listReadable {items : List Json} (all : ∀ v ∈ items, Plain limit v)
    (reads : ∀ v ∈ items, Readable limit v) : Readable limit (.list items) := by
  refine fueledReadable fun {s} neat level fuel rest enough ends => ?_
  cases items with
  | nil =>
    rw [write, writeItems, enclosedEmpty]
    rfl
  | cons v items =>
    obtain ⟨first, others⟩ := List.forall_mem_cons.mp all
    rw [listWritten] at enough ⊢
    have short : (itemsText s (level + 1) (v :: items)).length + 1 < fuel := by
      simp only [List.length_cons, List.length_append] at enough
      omega
    simp only [List.cons_append, List.append_assoc, List.nil_append]
    rw [listAt (newlineBlank s (level + 1)) (itemsOpen first s (level + 1) items)]
    exact itemsRead neat others reads (newlineBlank s level) short

theorem objectReadable {fields : List (String × Json)}
    (all : ∀ field ∈ fields, Plain limit field.2)
    (reads : ∀ field ∈ fields, Readable limit field.2) : Readable limit (.object fields) := by
  refine fueledReadable fun {s} neat level fuel rest enough ends => ?_
  cases fields with
  | nil =>
    rw [write, writeFields, enclosedEmpty]
    rfl
  | cons field fields =>
    rw [objectWritten] at enough ⊢
    have short : (fieldsText s (level + 1) (field :: fields)).length + 1 < fuel := by
      simp only [List.length_cons, List.length_append] at enough
      omega
    simp only [List.cons_append, List.append_assoc, List.nil_append]
    rw [objectAt (newlineBlank s (level + 1)) (fieldsOpen s (level + 1) field fields)]
    exact fieldsRead neat all reads (newlineBlank s level) short

theorem plainReadable {v : Json} (plain : Plain limit v) : Readable limit v := by
  induction plain with
  | null =>
    refine fueledReadable fun {s} neat level fuel rest enough ends => ?_
    rw [write]
    rfl
  | bool value =>
    refine fueledReadable fun {s} neat level fuel rest enough ends => ?_
    rw [write]
    cases value with
    | true => rfl
    | false => rfl
  | number n short =>
    refine fueledReadable fun {s} neat level fuel rest enough ends => ?_
    rw [write]
    exact numberAt short ends
  | string value =>
    refine fueledReadable fun {s} neat level fuel rest enough ends => ?_
    obtain ⟨text, written, read⟩ := quoteRead value rest
    rw [write, written, valueAt, read]
  | list all ih => exact listReadable all ih
  | object all ih => exact objectReadable all ih

theorem parseRead {s : Spacing} (neat : s.Neat) {v : Json} (plain : Plain limit v) :
    parse limit (v.write s 0) = .ok v := by
  have skipped : skipSpace ([] ++ ((v.write s 0).toList ++ [])) = (v.write s 0).toList ++ [] :=
    opensSkipped nofun (plainOpens plain s 0)
  have read : valueAt limit ((v.write s 0).toList.length + 1) ((v.write s 0).toList ++ []) =
      .ok (v, []) := plainReadable plain neat (Nat.lt_succ_self _) nofun
  rw [List.append_nil] at read skipped
  rw [List.nil_append] at skipped
  simp only [parse, skipped, read]
  rfl

end

end PageAudit.Json
