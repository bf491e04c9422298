import PageAudit.Proofs.Text.Digit
import PageAudit.Text.Case
/-!
Texts of ASCII characters. Their characters are their bytes and their letters map one to one, so
they can be compared without decoding and without the tables for other scripts. The characters below
the letters are the case keys of nothing but themselves. In every script, characters with one case
key are those whose small letters are one letter or share a capital.
-/
namespace PageAudit.Text

def octets (text : String) : List UInt8 := text.toByteArray.data.toList

def isAscii (text : String) : Bool := (octets text).all (· < 128)

def asciiChars (text : String) : List Char := (octets text).map fun b => Char.ofNat b.toNat

theorem octetsEncode (text : String) : octets text = text.toList.flatMap String.utf8EncodeChar := by
  rw [octets, ← String.utf8Encode_toList, List.utf8Encode, List.data_toByteArray]

theorem highByte {n : Nat} (high : 128 ≤ n) (fits : n < 256) : ¬UInt8.ofNat n < 128 := by
  rw [UInt8.lt_iff_toNat_lt, UInt8.toNat_ofNat', Nat.mod_eq_of_lt fits]
  exact Nat.not_lt.mpr high

/- Outside ASCII the first byte is high, whether two, three or four bytes are written. -/
theorem encodeAscii {c : Char} (small : ∀ b ∈ String.utf8EncodeChar c, b < 128) :
    c.toNat < 128 ∧ String.utf8EncodeChar c = [UInt8.ofNat c.toNat] := by
  by_cases ascii : c.val.toNat ≤ 0x7f
  · exact ⟨Nat.lt_succ_of_le ascii, if_pos ascii⟩
  · exfalso
    by_cases two : c.val.toNat ≤ 0x7ff
    · simp only [String.utf8EncodeChar, if_neg ascii, if_pos two] at small
      exact highByte (by omega) (by omega) (small _ List.mem_cons_self)
    · by_cases three : c.val.toNat ≤ 0xffff
      · simp only [String.utf8EncodeChar, if_neg ascii, if_neg two, if_pos three] at small
        exact highByte (by omega) (by omega) (small _ List.mem_cons_self)
      · simp only [String.utf8EncodeChar, if_neg ascii, if_neg two, if_neg three] at small
        exact highByte (by omega) (by omega) (small _ List.mem_cons_self)

theorem encodedAscii {text : List Char}
    (small : ∀ b ∈ text.flatMap String.utf8EncodeChar, b < 128) :
    (∀ c ∈ text, c.toNat < 128) ∧
      (text.flatMap String.utf8EncodeChar).map (fun b => Char.ofNat b.toNat) = text := by
  induction text with
  | nil => exact ⟨nofun, rfl⟩
  | cons c rest ih =>
    simp only [List.flatMap_cons, List.mem_append] at small
    obtain ⟨ascii, encoded⟩ := encodeAscii fun b member => small b (.inl member)
    obtain ⟨restAscii, restChars⟩ := ih fun b member => small b (.inr member)
    refine ⟨List.forall_mem_cons.mpr ⟨ascii, restAscii⟩, ?_⟩
    have fits : (UInt8.ofNat c.toNat).toNat = c.toNat := by
      rw [UInt8.toNat_ofNat']
      omega
    rw [List.flatMap_cons, List.map_append, encoded, restChars, List.map_singleton, fits,
      Char.ofNat_toNat]
    rfl

theorem asciiText {text : String} (ascii : isAscii text = true) :
    text.toList = asciiChars text ∧ ∀ c ∈ asciiChars text, c.toNat < 128 := by
  simp only [isAscii, List.all_eq_true, decide_eq_true_eq, octetsEncode] at ascii
  obtain ⟨small, chars⟩ := encodedAscii ascii
  have same : text.toList = asciiChars text := by rw [asciiChars, octetsEncode, chars]
  exact ⟨same, same ▸ small⟩

theorem alphanumAscii {c : Char} (known : c.isAlphanum = true) : c.toNat < 128 := by
  have ranges : ((decide (c.val ≥ 'A'.val ∧ c.val ≤ 'Z'.val) ||
      (decide (c.val ≥ 'a'.val) && decide (c.val ≤ 'z'.val))) ||
      (decide (c.val ≥ '0'.val) && decide (c.val ≤ '9'.val))) = true := known
  simp only [Bool.or_eq_true, Bool.and_eq_true, decide_eq_true_eq] at ranges
  rcases ranges with (capital | small) | digit
  · exact Nat.lt_of_le_of_lt capital.2 (by decide)
  · exact Nat.lt_of_le_of_lt small.2 (by decide)
  · exact Nat.lt_of_le_of_lt digit.2 (by decide)

theorem lowerAscii {c : Char} (ascii : c.toNat < 128) : lower c = c.toLower := if_pos ascii

theorem lowercaseAscii {text : List Char} (ascii : ∀ c ∈ text, c.toNat < 128)
    (afterCased : Bool) : lowercaseAfter afterCased text = text.map Char.toLower := by
  induction text generalizing afterCased with
  | nil => rfl
  | cons c rest ih =>
    obtain ⟨small, restSmall⟩ := List.forall_mem_cons.mp ascii
    -- The two characters with rules of their own lie outside ASCII.
    have noSigma : (c.toNat == 0x3A3) = false := by rw [beq_eq_false_iff_ne]; omega
    have noDotted : (c.toNat == 0x130) = false := by rw [beq_eq_false_iff_ne]; omega
    rw [lowercaseAfter, noSigma, noDotted]
    simp only [Bool.false_eq_true, if_false, List.map_cons, lowerAscii small]
    rw [ih restSmall]

theorem lowercaseChars {text : String} (ascii : isAscii text = true) :
    (lowercase text).toList = (asciiChars text).map Char.toLower := by
  obtain ⟨chars, small⟩ := asciiText ascii
  rw [lowercase, String.toList_ofList, chars, lowercaseAscii small]

theorem ofNatHigh {n : Nat} (high : 65 ≤ n) :
    (Char.ofNat n).toNat = 0 ∨ 65 ≤ (Char.ofNat n).toNat := by
  by_cases valid : n.isValidChar
  · have whole : Char.ofNat n = Char.ofNatAux n valid := dif_pos valid
    rw [whole]
    exact .inr high
  · have none : Char.ofNat n = '\x00' := dif_neg valid
    rw [none]
    exact .inl rfl

theorem runsHigh : ∀ run ∈ lowerRuns.toList, 65 ≤ (run.first : Int) + run.shift := by decide +kernel

theorem capitalsHigh : ∀ row ∈ sharedCapitals, 65 ≤ row.2 := by decide +kernel

theorem lowAscii : ∀ n < 128, (Char.ofNat n).toLower.toNat < 65 →
    (Char.ofNat n).toLower = Char.ofNat n := by decide +kernel

theorem shiftHigh {n : Nat} (high : 128 ≤ n) : 65 ≤ shiftBy lowerRuns n := by
  rcases shiftCases lowerRuns n with kept | ⟨run, listed, first, -, moved⟩
  · omega
  · have least := runsHigh run listed
    omega

theorem keyHigh {c : Char} (high : 128 ≤ c.toNat) :
    (caseKey c).toNat = 0 ∨ 65 ≤ (caseKey c).toNat := by
  rw [caseKey, if_neg (Nat.not_lt.mpr high)]
  dsimp only
  split
  · rename_i n found
    exact ofNatHigh (capitalsHigh _ (lookupListed found))
  · rw [lower, if_neg (Nat.not_lt.mpr high)]
    exact ofNatHigh (shiftHigh high)

theorem lowKey {c d : Char} (some : 0 < d.toNat) (low : d.toNat < 65) (key : caseKey c = d) :
    c = d := by
  by_cases ascii : c.toNat < 128
  · have same := lowAscii c.toNat ascii
    rw [Char.ofNat_toNat] at same
    rw [caseKey, if_pos ascii] at key
    rw [← key, same (key ▸ low)]
  · have high := keyHigh (Nat.not_lt.mp ascii)
    rw [key] at high
    omega

theorem capitalsWide : ∀ n < 128, sharedCapitals.lookup n = none := by decide +kernel

theorem smallAscii : ∀ n < 128, (Char.ofNat n).toLower.toNat < 128 := by decide +kernel

theorem keySmall (c : Char) :
    caseKey c = Char.ofNat ((sharedCapitals.lookup (lower c).toNat).getD (lower c).toNat) := by
  unfold caseKey
  split
  · rename_i ascii
    have small := smallAscii c.toNat ascii
    rw [Char.ofNat_toNat, ← lowerAscii ascii] at small
    rw [capitalsWide _ small, Option.getD_none, Char.ofNat_toNat, lowerAscii ascii]
  · dsimp only
    split
    · rename_i n found
      rw [found, Option.getD_some]
    · rename_i none
      rw [none, Option.getD_none, Char.ofNat_toNat]

theorem lowerKey {c : Char} (ascii : (lower c).toNat < 128) : caseKey c = lower c := by
  rw [keySmall, capitalsWide _ ascii, Option.getD_none, Char.ofNat_toNat]

theorem lowLower {c d : Char} (some : 0 < d.toNat) (low : d.toNat < 65) (small : lower c = d) :
    c = d := by
  have ascii : (lower c).toNat < 128 := by
    rw [small]
    omega
  exact lowKey some low ((lowerKey ascii).trans small)

/-- A number for a character: that of its small letter, or of the one that stands for all small
letters with the same capital. -/
def SmallOf (c : Char) (n : Nat) : Prop :=
  (lower c).toNat = n ∨ ((lower c).toNat, n) ∈ sharedCapitals

/-- Two characters that differ in case at most: one small letter, or two that share a capital. -/
def Alike (c d : Char) : Prop := ∃ n, SmallOf c n ∧ SmallOf d n

section
variable {c d : Char} {n : Nat}

/- A letter that stands for others stands for itself too. -/
theorem capitalsApart : ∀ row ∈ sharedCapitals, sharedCapitals.lookup row.1 = some row.2 ∧
    sharedCapitals.lookup row.2 = none ∧ (Char.ofNat row.2).toNat = row.2 := by decide

theorem capitalsShared : ∀ row ∈ sharedCapitals,
    upper (Char.ofNat row.1) = upper (Char.ofNat row.2) := by decide +kernel

theorem keyNumber (c : Char) : SmallOf c (caseKey c).toNat := by
  rw [keySmall]
  cases found : sharedCapitals.lookup (lower c).toNat with
  | none =>
    rw [Option.getD_none, Char.ofNat_toNat]
    exact .inl rfl
  | some n =>
    obtain ⟨-, -, valid⟩ := capitalsApart _ (lookupListed found)
    rw [Option.getD_some, valid]
    exact .inr (lookupListed found)

theorem numberKey (small : SmallOf c n) :
    caseKey c = Char.ofNat ((sharedCapitals.lookup n).getD n) := by
  obtain rfl | member := small
  · exact keySmall c
  · obtain ⟨found, none, -⟩ := capitalsApart _ member
    rw [keySmall, found, none, Option.getD_some, Option.getD_none]

theorem keyAlike : caseKey c = caseKey d ↔ Alike c d := by
  constructor
  · intro same
    exact ⟨_, keyNumber c, same ▸ keyNumber d⟩
  · rintro ⟨n, small, other⟩
    exact (numberKey small).trans (numberKey other).symm

theorem numberCapital (small : SmallOf c n) : upper (lower c) = upper (Char.ofNat n) := by
  obtain rfl | member := small
  · rw [Char.ofNat_toNat]
  · have shared := capitalsShared _ member
    rwa [Char.ofNat_toNat] at shared

theorem alikeCapital (alike : Alike c d) : upper (lower c) = upper (lower d) := by
  obtain ⟨n, small, other⟩ := alike
  exact (numberCapital small).trans (numberCapital other).symm

end

end PageAudit.Text
