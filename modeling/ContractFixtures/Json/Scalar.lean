import ContractFixtures.Json.Basic
import ContractFixtures.Json.Reader
import ContractFixtures.Hex

/-!
# Words, strings and numbers

The values that hold no other values. Each reader here starts behind the character that tells
what kind of value it is.
-/

namespace ContractFixtures.Json

/-- Expects the rest of a word. -/
def word : List Char → List Char → Except Fault (List Char)
  | [], text => .ok text
  | _ :: _, [] => .error (.behind .endInValue [])
  | c :: cs, d :: rest =>
    if c = d then word cs rest else .error (.behind .expectedIdent (d :: rest))

theorem length_of_word {cs text rest : List Char} (h : word cs text = .ok rest) :
    rest.length ≤ text.length := by
  induction cs generalizing text with
  | nil => simp_all [word]
  | cons c cs ih =>
    cases text with
    | nil => simp [word] at h
    | cons d text =>
      simp only [word] at h
      split at h
      · have := ih h
        simp
        omega
      · simp at h

/-! ## Strings -/

/-- The value of an ASCII digit in base 16. -/
def hexDigit? (c : Char) : Option Nat :=
  if c.toNat < 128 then Hex.digit? (UInt8.ofNat c.toNat) else none

/-- The value of four digits in base 16. -/
def codeUnit? (a b c d : Char) : Option Nat := do
  return ((← hexDigit? a) * 16 + (← hexDigit? b)) * 256 + (← hexDigit? c) * 16 + (← hexDigit? d)

/-- The fault of a code unit: the text ends, or four bytes of it are not its digits. -/
def codeUnitFault (text : List Char) : Fault :=
  if Text.byteLength text < 4 then .located .endInString 0
  else .located .invalidEscape (Text.byteLength text - 4)

/-- Reads a code unit of four digits. -/
def codeUnit (text : List Char) : Except Fault (Nat × List Char) :=
  match text with
  | a :: b :: c :: d :: rest =>
    match codeUnit? a b c d with
    | some unit => .ok (unit, rest)
    | none => .error (codeUnitFault text)
  | _ => .error (codeUnitFault text)

/-- The first half of a pair that stands for one character. -/
def isLeading (unit : Nat) : Bool :=
  0xd800 ≤ unit && unit ≤ 0xdbff

/-- The second half of a pair. -/
def isTrailing (unit : Nat) : Bool :=
  0xdc00 ≤ unit && unit ≤ 0xdfff

/-- Expects one character of the escape that has to follow the first half of a pair. -/
def pairMark (c : Char) : List Char → Except Fault (List Char)
  | [] => .error (.behind .endInString [])
  | d :: rest => if c = d then .ok rest else .error (.behind .unexpectedEndOfEscape (d :: rest))

/-- Reads the character behind `\u`. -/
def unicodeEscape (text : List Char) : Except Fault (Char × List Char) := do
  let (unit, rest) ← codeUnit text
  if isTrailing unit then .error (.before .loneSurrogate rest)
  else if isLeading unit then
    let rest ← pairMark '\\' rest
    let rest ← pairMark 'u' rest
    let (second, rest) ← codeUnit rest
    if isTrailing second then
      .ok (Char.ofNat (0x10000 + (unit - 0xd800) * 0x400 + (second - 0xdc00)), rest)
    else .error (.before .loneSurrogate rest)
  else .ok (Char.ofNat unit, rest)

/-- Reads the character behind a backslash. -/
def escapeSequence (text : List Char) : Except Fault (Char × List Char) :=
  match text with
  | [] => .error (.behind .endInString [])
  | '"' :: rest => .ok ('"', rest)
  | '\\' :: rest => .ok ('\\', rest)
  | '/' :: rest => .ok ('/', rest)
  | 'b' :: rest => .ok ('\x08', rest)
  | 'f' :: rest => .ok ('\x0c', rest)
  | 'n' :: rest => .ok ('\n', rest)
  | 'r' :: rest => .ok ('\r', rest)
  | 't' :: rest => .ok ('\t', rest)
  | 'u' :: rest => unicodeEscape rest
  | _ => .error (.behind .invalidEscape text)

theorem length_of_codeUnit {text rest : List Char} {unit : Nat}
    (h : codeUnit text = .ok (unit, rest)) : rest.length < text.length := by
  unfold codeUnit at h
  split at h
  · split at h
    · cases h
      simp only [List.length_cons]
      omega
    · cases h
  · cases h

theorem length_of_pairMark {c : Char} {text rest : List Char} (h : pairMark c text = .ok rest) :
    rest.length < text.length := by
  unfold pairMark at h
  split at h
  · simp at h
  · split at h <;> simp_all

theorem length_of_unicodeEscape {text rest : List Char} {c : Char}
    (h : unicodeEscape text = .ok (c, rest)) : rest.length < text.length := by
  unfold unicodeEscape at h
  cases hu : codeUnit text with
  | error => simp [hu, bind, Except.bind] at h
  | ok u =>
    obtain ⟨unit, r⟩ := u
    have := length_of_codeUnit hu
    simp only [hu, bind, Except.bind] at h
    split at h
    · simp at h
    · split at h
      · cases hp : pairMark '\\' r with
        | error => simp [hp] at h
        | ok r1 =>
          have := length_of_pairMark hp
          cases hq : pairMark 'u' r1 with
          | error => simp [hp, hq] at h
          | ok r2 =>
            have := length_of_pairMark hq
            cases hv : codeUnit r2 with
            | error => simp [hp, hq, hv] at h
            | ok v =>
              have := length_of_codeUnit hv
              simp only [hp, hq, hv] at h
              split at h
              · simp at h
                obtain ⟨_, rfl⟩ := h
                omega
              · simp at h
      · simp at h
        obtain ⟨_, rfl⟩ := h
        omega

theorem length_of_escapeSequence {text rest : List Char} {c : Char}
    (h : escapeSequence text = .ok (c, rest)) : rest.length < text.length := by
  unfold escapeSequence at h
  split at h
  case h_10 =>
    have := length_of_unicodeEscape h
    simp
    omega
  all_goals simp_all

/-- Reads the characters of a string up to its closing quote. -/
def stringBody (text : List Char) : Except Fault (List Char × List Char) :=
  match text with
  | [] => .error (.behind .endInString [])
  | c :: rest =>
    if c = '"' then .ok ([], rest)
    else if c = '\\' then
      match _h : escapeSequence rest with
      | .error fault => .error fault
      | .ok (d, next) =>
        match stringBody next with
        | .error fault => .error fault
        | .ok (cs, rest) => .ok (d :: cs, rest)
    else if c.toNat < 0x20 then .error (.behind .controlCharacter (c :: rest))
    else
      match stringBody rest with
      | .error fault => .error fault
      | .ok (cs, rest) => .ok (c :: cs, rest)
termination_by text.length
decreasing_by
  · have := length_of_escapeSequence _h
    simp
    omega
  · simp

theorem length_of_stringBody {text rest cs : List Char} (h : stringBody text = .ok (cs, rest)) :
    rest.length < text.length := by
  fun_induction stringBody text generalizing cs rest with
  | case1 => simp at h
  | case2 => simp_all
  | case3 => simp at h
  | case4 => simp at h
  | case5 _ _ _ hd _ _ hs _ ih =>
    have hescape := length_of_escapeSequence hd
    have hbody := ih hs
    cases h
    rw [List.length_cons]
    omega
  | case6 => simp at h
  | case7 => simp at h
  | case8 _ _ _ _ _ _ _ hs ih =>
    cases h
    exact Nat.lt_succ_of_lt (ih hs)

/-! ## Numbers -/

/-- The value of a decimal digit. -/
def digitValue (c : Char) : Nat :=
  c.toNat - '0'.toNat

/-- Appends digits to a significand as long as it stays below `2 ^ 64`. Gives the significand,
the number of digits taken, and the text behind them. -/
def gather (significand : Nat) : List Char → Nat × Nat × List Char
  | [] => (significand, 0, [])
  | c :: rest =>
    let next := 10 * significand + digitValue c
    if c.isDigit ∧ next < UInt64.size then
      let taken := gather next rest
      (taken.1, taken.2.1 + 1, taken.2.2)
    else (significand, 0, c :: rest)

/-- Appends digits to an exponent. Fails behind the digit that takes it beyond `2 ^ 31 - 1`. -/
def gatherExponent (exponent : Nat) : List Char → Except (List Char) (Nat × List Char)
  | [] => .ok (exponent, [])
  | c :: rest =>
    if c.isDigit then
      let next := 10 * exponent + digitValue c
      if 2 * next < UInt32.size then gatherExponent next rest else .error rest
    else .ok (exponent, c :: rest)

/-- The number with a significand and a power of ten. -/
def scaled (negative : Bool) (significand : Nat) (exponent : Int) (rest : List Char) :
    Except Fault (Number × List Char) :=
  match Binary64.ofDecimal? significand exponent with
  | some x => .ok (.float negative x, rest)
  | none => .error (.before .numberOutOfRange rest)

/-- A sign in front of an exponent: whether it is a minus, and the text behind it. -/
def exponentSign : List Char → Bool × List Char
  | '+' :: rest => (false, rest)
  | '-' :: rest => (true, rest)
  | rest => (false, rest)

/-- Reads the power of ten behind the letter `e`. -/
def exponentPart (negative : Bool) (significand : Nat) (exponent : Int) (text : List Char) :
    Except Fault (Number × List Char) :=
  let (below, text) := exponentSign text
  match text with
  | [] => .error (.behind .endInValue [])
  | c :: rest =>
    if !c.isDigit then .error (.behind .invalidNumber (c :: rest))
    else
      match gatherExponent (digitValue c) rest with
      | .ok (e, rest) =>
        scaled negative significand (if below then exponent - e else exponent + e) rest
      | .error rest =>
        if significand ≠ 0 ∧ !below then .error (.before .numberOutOfRange rest)
        else .ok (.float negative .zero, rest.dropWhile Char.isDigit)

/-- Reads what may follow the digits of a floating-point number. -/
def floatEnd (negative : Bool) (significand : Nat) (exponent : Int) (text : List Char) :
    Except Fault (Number × List Char) :=
  match text with
  | 'e' :: rest => exponentPart negative significand exponent rest
  | 'E' :: rest => exponentPart negative significand exponent rest
  | _ => scaled negative significand exponent text

/-- Reads the digits behind the point. Those that the significand cannot hold count for nothing. -/
def fraction (negative : Bool) (significand : Nat) (exponent : Int) (text : List Char) :
    Except Fault (Number × List Char) :=
  match text with
  | [] => .error (.behind .endInValue [])
  | c :: _ =>
    if !c.isDigit then .error (.behind .invalidNumber text)
    else
      let taken := gather significand text
      floatEnd negative taken.1 (exponent - taken.2.1) (taken.2.2.dropWhile Char.isDigit)

/-- An integer is kept if 64 bits hold it. The negative zero is no integer. -/
def integer (negative : Bool) (significand : Nat) : Number :=
  if !negative then .integer significand
  else if 0 < significand ∧ 2 * significand ≤ UInt64.size then .integer (-significand)
  else .float true ((Binary64.ofRatio? significand 1).getD .zero)

/-- Whether a number with a leading zero goes on with a digit. -/
def zeroFollowed (first : Char) (rest : List Char) : Bool :=
  first == '0' && (rest.head?.map Char.isDigit).getD false

/-- Reads a number from behind its sign. Digits that the significand cannot hold scale it. -/
def numeral (negative : Bool) (text : List Char) : Except Fault (Number × List Char) :=
  match text with
  | [] => .error (.behind .endInValue [])
  | c :: rest =>
    if !c.isDigit then .error (.behind .invalidNumber (c :: rest))
    else if zeroFollowed c rest then .error (.behind .invalidNumber rest)
    else
      let taken := gather (digitValue c) rest
      let dropped := (taken.2.2.takeWhile Char.isDigit).length
      match taken.2.2.dropWhile Char.isDigit with
      | '.' :: more => fraction negative taken.1 dropped more
      | 'e' :: more => exponentPart negative taken.1 dropped more
      | 'E' :: more => exponentPart negative taken.1 dropped more
      | more =>
        if dropped = 0 then .ok (integer negative taken.1, more)
        else scaled negative taken.1 dropped more

theorem length_gather_le (significand : Nat) (text : List Char) :
    (gather significand text).2.2.length ≤ text.length := by
  induction text generalizing significand with
  | nil => simp [gather]
  | cons c text ih =>
    simp only [gather]
    split
    · have := ih (10 * significand + digitValue c)
      simp
      omega
    · simp

theorem length_of_gatherExponent {exponent e : Nat} {text rest : List Char}
    (h : gatherExponent exponent text = .ok (e, rest)) : rest.length ≤ text.length := by
  induction text generalizing exponent with
  | nil => simp_all [gatherExponent]
  | cons c text ih =>
    simp only [gatherExponent] at h
    split at h
    · split at h
      · have := ih h
        simp
        omega
      · simp at h
    · simp at h
      simp [← h.2]

theorem length_of_gatherExponent_error {exponent : Nat} {text rest : List Char}
    (h : gatherExponent exponent text = .error rest) : rest.length ≤ text.length := by
  induction text generalizing exponent with
  | nil => simp [gatherExponent] at h
  | cons c text ih =>
    simp only [gatherExponent] at h
    split at h
    · split at h
      · have := ih h
        simp
        omega
      · simp at h
        simp [h]
    · simp at h

theorem length_of_scaled {negative : Bool} {significand : Nat} {exponent : Int}
    {text rest : List Char} {n : Number}
    (h : scaled negative significand exponent text = .ok (n, rest)) :
    rest.length ≤ text.length := by
  unfold scaled at h
  split at h <;> simp_all

theorem length_exponentSign_le (text : List Char) :
    (exponentSign text).2.length ≤ text.length := by
  unfold exponentSign
  split <;> simp

theorem length_of_exponentPart {negative : Bool} {significand : Nat} {exponent : Int}
    {text rest : List Char} {n : Number}
    (h : exponentPart negative significand exponent text = .ok (n, rest)) :
    rest.length ≤ text.length := by
  have hs := length_exponentSign_le text
  unfold exponentPart at h
  simp only at h
  split at h
  · simp at h
  · next c more hc =>
    rw [hc] at hs
    split at h
    · simp at h
    · split at h
      · next he =>
        have := length_of_gatherExponent he
        have := length_of_scaled h
        simp at hs
        omega
      · next he =>
        have hr := length_of_gatherExponent_error he
        split at h
        · simp at h
        · simp only [Except.ok.injEq, Prod.mk.injEq] at h
          rw [← h.2]
          have := length_dropWhile_le Char.isDigit
          simp at hs
          exact Nat.le_trans (this _) (by omega)

theorem length_of_floatEnd {negative : Bool} {significand : Nat} {exponent : Int}
    {text rest : List Char} {n : Number}
    (h : floatEnd negative significand exponent text = .ok (n, rest)) :
    rest.length ≤ text.length := by
  unfold floatEnd at h
  split at h
  · have := length_of_exponentPart h
    simp
    omega
  · have := length_of_exponentPart h
    simp
    omega
  · exact length_of_scaled h

theorem length_of_fraction {negative : Bool} {significand : Nat} {exponent : Int}
    {text rest : List Char} {n : Number}
    (h : fraction negative significand exponent text = .ok (n, rest)) :
    rest.length ≤ text.length := by
  unfold fraction at h
  split at h
  · simp at h
  · next c more =>
    split at h
    · simp at h
    · have hd := length_dropWhile_le Char.isDigit (gather significand (c :: more)).2.2
      have := length_gather_le significand (c :: more)
      have := length_of_floatEnd h
      omega

theorem length_of_numeral {negative : Bool} {text rest : List Char} {n : Number}
    (h : numeral negative text = .ok (n, rest)) : rest.length < text.length := by
  unfold numeral at h
  split at h
  · simp at h
  · next c more =>
    split at h
    · simp at h
    · split at h
      · simp at h
      · have hg := length_gather_le (digitValue c) more
        have hd := length_dropWhile_le Char.isDigit (gather (digitValue c) more).2.2
        simp only at h
        split at h
        · next he =>
          have := length_of_fraction h
          simp [he] at hd ⊢
          omega
        · next he =>
          have := length_of_exponentPart h
          simp [he] at hd ⊢
          omega
        · next he =>
          have := length_of_exponentPart h
          simp [he] at hd ⊢
          omega
        · split at h
          · simp only [Except.ok.injEq, Prod.mk.injEq] at h
            rw [← h.2]
            simp
            omega
          · have := length_of_scaled h
            simp
            omega

/-- Reads a value that holds no other values. -/
def scalar (text : List Char) : Except Fault (Json × List Char) :=
  match text with
  | [] => .error (.behind .endInValue [])
  | 'n' :: rest => (word ['u', 'l', 'l'] rest).map fun rest => (.null, rest)
  | 't' :: rest => (word ['r', 'u', 'e'] rest).map fun rest => (.bool true, rest)
  | 'f' :: rest => (word ['a', 'l', 's', 'e'] rest).map fun rest => (.bool false, rest)
  | '"' :: rest => (stringBody rest).map fun (cs, rest) => (.string (String.ofList cs), rest)
  | '-' :: rest => (numeral true rest).map fun (n, rest) => (.number n, rest)
  | c :: _ =>
    if c.isDigit then (numeral false text).map fun (n, rest) => (.number n, rest)
    else .error (.behind .expectedValue text)

theorem length_of_scalar {text rest : List Char} {v : Json} (h : scalar text = .ok (v, rest)) :
    rest.length < text.length := by
  -- Every form takes its first character and leaves what the reader of its own part leaves.
  unfold scalar at h
  split at h
  · cases h
  · obtain ⟨r, hr, he⟩ := map_eq_ok_iff.1 h
    cases he
    exact Nat.lt_succ_of_le (length_of_word hr)
  · obtain ⟨r, hr, he⟩ := map_eq_ok_iff.1 h
    cases he
    exact Nat.lt_succ_of_le (length_of_word hr)
  · obtain ⟨r, hr, he⟩ := map_eq_ok_iff.1 h
    cases he
    exact Nat.lt_succ_of_le (length_of_word hr)
  · obtain ⟨⟨cs, r⟩, hr, he⟩ := map_eq_ok_iff.1 h
    cases he
    exact Nat.lt_succ_of_lt (length_of_stringBody hr)
  · obtain ⟨⟨n, r⟩, hr, he⟩ := map_eq_ok_iff.1 h
    cases he
    exact Nat.lt_succ_of_lt (length_of_numeral hr)
  · split at h
    · obtain ⟨⟨n, r⟩, hr, he⟩ := map_eq_ok_iff.1 h
      cases he
      exact length_of_numeral hr
    · cases h

end ContractFixtures.Json
