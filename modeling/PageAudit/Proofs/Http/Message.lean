import Mathlib.Data.List.Perm.Basic
import Mathlib.Logic.Relation
import PageAudit.Http.Message
/-!
Header fields as they are looked up, and bodies as they are read. Names may be spelled in other
letters and neighbours of other names may change places without any look-up seeing it; a field that
is filled stays filled when more follow. Bytes that encode a text are read as that text.
-/
namespace PageAudit.Http.Headers

/-- One name in other letters, or two neighbours in the other order. Names that differ in no more
than the case of letters are one name. -/
inductive Rearranged : List (String × String) → List (String × String) → Prop where
  | spelled (before after : List (String × String)) {name name' : String} (value : String)
      (same : name.toList.map Char.toLower = name'.toList.map Char.toLower) :
      Rearranged (before ++ (name, value) :: after) (before ++ (name', value) :: after)
  | swapped (before after : List (String × String)) {field other : String × String}
      (apart : field.1.toList.map Char.toLower ≠ other.1.toList.map Char.toLower) :
      Rearranged (before ++ field :: other :: after) (before ++ other :: field :: after)

section
variable {fields fields' : List (String × String)} {h : Headers} {name : String}

theorem nameAlike {name other : String} : fieldName name = fieldName other ↔
    name.toList.map Char.toLower = other.toList.map Char.toLower := by
  rw [fieldName, fieldName, String.ofList_inj]

theorem valuesAppend (fields more : List (String × String)) (name : String) :
    (ofList (fields ++ more)).values name =
      (ofList fields).values name ++ (ofList more).values name := by
  simp only [values, ofList, List.map_append, List.filter_append]

theorem valuesCons (field : String × String) (fields : List (String × String)) (name : String) :
    (ofList (field :: fields)).values name =
      (if fieldName field.1 = fieldName name then [field.2] else []) ++
        (ofList fields).values name := by
  simp only [values, ofList, List.map_cons, List.filter_cons, beq_iff_eq]
  split <;> rfl

theorem Rearranged.values (step : Rearranged fields fields') (name : String) :
    (ofList fields').values name = (ofList fields).values name := by
  cases step with
  | spelled before after value same =>
    simp only [valuesAppend, valuesCons, nameAlike.mpr same]
  | @swapped before after field other apart =>
    simp only [valuesAppend, valuesCons]
    by_cases here : fieldName field.1 = fieldName name
    · have there : fieldName other.1 ≠ fieldName name := fun there =>
        apart (nameAlike.mp (here.trans there.symm))
      rw [if_neg there, List.nil_append, List.nil_append]
    · rw [if_neg here, List.nil_append, List.nil_append]

theorem getOfValues {h h' : Headers} (same : h'.values name = h.values name) :
    h'.get? name = h.get? name := by
  rw [get?, get?, same]

theorem rearrangedGet (run : Relation.ReflTransGen Rearranged fields fields') (name : String) :
    (ofList fields').get? name = (ofList fields).get? name := by
  induction run with
  | refl => rfl
  | tail _ step ih => exact (getOfValues (step.values name)).trans ih

theorem filledOfGet {h h' : Headers} (same : h'.get? name = h.get? name) :
    h'.filled? name = h.filled? name := by
  rw [filled?, filled?, same]

theorem filledExactly : (h.filled? name).isSome = true ↔
    1 < (h.values name).length ∨ ∃ value ∈ h.values name, value ≠ "" := by
  rw [filled?, get?]
  cases h.values name with
  | nil => simp
  | cons first more =>
    cases more with
    | nil => simp [Option.filter]
    | cons second more => simp [Option.filter]

example : (ofList [("Referrer-Policy", ""), ("referrer-policy", "")]).filled? "REFERRER-POLICY" =
    some ", " := by decide

theorem filledMore (fields more : List (String × String))
    (filled : ((ofList fields).filled? name).isSome = true) :
    ((ofList (fields ++ more)).filled? name).isSome = true := by
  rw [filledExactly] at filled ⊢
  rw [valuesAppend]
  refine filled.imp (fun several => ?_) fun ⟨value, member, text⟩ =>
    ⟨value, List.mem_append_left _ member, text⟩
  rw [List.length_append]
  exact Nat.lt_add_right _ several

theorem filledPerm (order : fields.Perm fields') :
    ((ofList fields').filled? name).isSome = ((ofList fields).filled? name).isSome := by
  have values : ((ofList fields').values name).Perm ((ofList fields).values name) :=
    ((order.symm.map _).filter _).map _
  rw [Bool.eq_iff_iff, filledExactly, filledExactly, values.length_eq]
  simp only [values.mem_iff]

end

end PageAudit.Http.Headers

namespace PageAudit.Http

/-- A byte that begins a character of this many more, the first of which lies between bounds. -/
structure Leads (n missing low high : Nat) : Prop where
  fits : n < 256
  above : 128 ≤ n
  told : tails? (UInt8.ofNat n) = some (missing, low, high)

section
variable {n missing low high value : Nat} {done : List Char}

theorem byteNumber (fits : n < 256) : (UInt8.ofNat n).toNat = n := by
  rw [UInt8.toNat_ofNat', Nat.mod_eq_of_lt fits]

theorem leadRead (leads : Leads n missing low high) :
    readByte (done, none) (UInt8.ofNat n) = (done, some ⟨n % (if missing = 1 then 32
      else if missing = 2 then 16 else 8), missing, low, high⟩) := by
  have plain : ¬n < 128 := Nat.not_lt.mpr leads.above
  simp only [readByte, begin, byteNumber leads.fits, plain, if_false, leads.told]

theorem tailRead (above : low ≤ n) (below : n ≤ high) (fits : n < 256) (more : 1 < missing) :
    readByte (done, some ⟨value, missing, low, high⟩) (UInt8.ofNat n) =
      (done, some ⟨value * 64 + n % 64, missing - 1, 0x80, 0xBF⟩) := by
  have few : ¬missing ≤ 1 := Nat.not_le.mpr more
  simp only [readByte, isTail, byteNumber fits, above, below, decide_true, Bool.and_self, if_true,
    few, if_false]

theorem lastRead (above : low ≤ n) (below : n ≤ high) (fits : n < 256) :
    readByte (done, some ⟨value, 1, low, high⟩) (UInt8.ofNat n) =
      (Char.ofNat (value * 64 + n % 64) :: done, none) := by
  simp only [readByte, isTail, byteNumber fits, above, below, decide_true, Bool.and_self, if_true,
    Nat.le_refl]

theorem twoLead (above : 0xC2 ≤ n) (below : n ≤ 0xDF) : Leads n 1 0x80 0xBF where
  fits := by omega
  above := by omega
  told := by simp [tails?, byteNumber (show n < 256 by omega), above, below]

/- The first of three bytes leaves bounds for the second, as no character is a surrogate. -/
theorem threeLead (above : 0x800 ≤ n) (below : n ≤ 0xFFFF) (whole : n < 0xD800 ∨ 0xDFFF < n) :
    ∃ low high, Leads (n / 4096 % 16 + 224) 2 low high ∧ low ≤ n / 64 % 64 + 128 ∧
      n / 64 % 64 + 128 ≤ high := by
  have fits : n / 4096 % 16 + 224 < 256 := by omega
  by_cases first : n / 4096 % 16 = 0
  · refine ⟨0xA0, 0xBF, ⟨fits, by omega, ?_⟩, by omega, by omega⟩
    simp [tails?, first]
  by_cases last : n / 4096 % 16 = 13
  · refine ⟨0x80, 0x9F, ⟨fits, by omega, ?_⟩, by omega, by omega⟩
    simp [tails?, last]
  · refine ⟨0x80, 0xBF, ⟨fits, by omega, ?_⟩, by omega, by omega⟩
    simp only [tails?, byteNumber fits, beq_iff_eq, Bool.and_eq_true, decide_eq_true_eq]
    rw [if_neg (by omega), if_neg (by omega), if_neg (by omega), if_pos (by omega)]

theorem fourLead (above : 0x10000 ≤ n) (below : n ≤ 0x10FFFF) :
    ∃ low high, Leads (n / 262144 % 8 + 240) 3 low high ∧ low ≤ n / 4096 % 64 + 128 ∧
      n / 4096 % 64 + 128 ≤ high := by
  have fits : n / 262144 % 8 + 240 < 256 := by omega
  by_cases first : n / 262144 % 8 = 0
  · refine ⟨0x90, 0xBF, ⟨fits, by omega, ?_⟩, by omega, by omega⟩
    simp [tails?, first]
  by_cases last : n / 262144 % 8 = 4
  · refine ⟨0x80, 0x8F, ⟨fits, by omega, ?_⟩, by omega, by omega⟩
    simp [tails?, last]
  · refine ⟨0x80, 0xBF, ⟨fits, by omega, ?_⟩, by omega, by omega⟩
    simp only [tails?, byteNumber fits, beq_iff_eq, Bool.and_eq_true, decide_eq_true_eq]
    rw [if_neg (by omega), if_neg (by omega), if_neg (by omega), if_neg (by omega),
      if_neg (by omega), if_pos (by omega)]

theorem charRead (done : List Char) (c : Char) :
    (String.utf8EncodeChar c).foldl readByte (done, none) = (c :: done, none) := by
  have whole : c.toNat < 0xD800 ∨ 0xDFFF < c.toNat ∧ c.toNat < 0x110000 := c.valid
  have same {n : Nat} (number : n = c.toNat) : Char.ofNat n = c := number ▸ Char.ofNat_toNat c
  have read : c.val.toNat = c.toNat := rfl
  simp only [String.utf8EncodeChar, read]
  generalize number : c.toNat = n at whole same ⊢
  split
  · rename_i ascii
    have plain : n < 128 := by omega
    simp only [List.foldl, readByte, begin, byteNumber (show n < 256 by omega), plain, if_true,
      same rfl]
  split
  · rename_i above below
    have lead := twoLead (n := n / 64 % 32 + 192) (by omega) (by omega)
    simp only [List.foldl]
    rw [leadRead lead, lastRead (by omega) (by omega) (by omega), same]
    simp only [if_true]
    omega
  split
  · rename_i above below
    obtain ⟨low, high, lead, least, most⟩ := threeLead (n := n) (by omega) below (by omega)
    simp only [List.foldl]
    rw [leadRead lead, tailRead least most (by omega) (by omega),
      lastRead (by omega) (by omega) (by omega), same]
    rw [if_neg (by decide), if_pos rfl]
    omega
  · rename_i above
    obtain ⟨low, high, lead, least, most⟩ := fourLead (n := n) (by omega) (by omega)
    simp only [List.foldl]
    rw [leadRead lead, tailRead least most (by omega) (by omega),
      tailRead (by omega) (by omega) (by omega) (by omega),
      lastRead (by omega) (by omega) (by omega), same]
    rw [if_neg (by decide), if_neg (by decide)]
    omega

theorem charsRead (text done : List Char) :
    (text.flatMap String.utf8EncodeChar).foldl readByte (done, none) =
      (text.reverse ++ done, none) := by
  induction text generalizing done with
  | nil => rfl
  | cons c rest ih =>
    rw [List.flatMap_cons, List.foldl_append, charRead, ih, List.reverse_cons, List.append_assoc,
      List.singleton_append]

theorem utf8Read (text : List Char) : utf8Text (text.flatMap String.utf8EncodeChar) = text := by
  rw [utf8Text, charsRead]
  simp

end

end PageAudit.Http
