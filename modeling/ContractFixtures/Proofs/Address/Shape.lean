import ContractFixtures.Proofs.Address.Order

/-!
# The shape of checked texts

The version is the first of 25 bytes, so the number that is written lies between two neighbouring
multiples of a power of 58. So every checked text has 34 characters and starts with `A`. A text that
decodes to 25 bytes may have 33 or 35 characters, but then its first byte is another one. So a text
of another shape is refused before the checksum is computed, and for the same fault whatever the
checksum is.

* `HasShape`: 34 characters, of which the first is `A`.
* `RefusedEarly`: texts that are refused without the checksum.
* `Extends`: texts with more characters at their ends.

Results:
1. `hasShape_encode`: what is written for the version and 24 bytes has the shape.
2. `exists_isEarly_of_not_versioned`: other bytes are refused without the checksum.
3. `refusedEarly_of_not_hasShape`: so are texts of another shape.
4. `checked_shape`: the shape of checked texts, and what else is refused.
-/

namespace ContractFixtures.Address

/-- The shape of all checked texts. -/
def HasShape (text : String) : Prop :=
  text.toList.length = 34 ∧ text.toList.head? = some 'A'

/-- Faults that are found without the checksum. -/
inductive Fault.IsEarly : Fault → Prop
  | emptyText : IsEarly .emptyText
  | invalidChar (c : Char) (index : Nat) : IsEarly (.invalidChar c index)
  | invalidLength (length : Nat) : IsEarly (.invalidLength length)
  | invalidVersion (version : UInt8) : IsEarly (.invalidVersion version)

/-- Checks a decoded payload as `ofChecked` does, with any function for the checksum. -/
def ofCheckedBy (sum : List UInt8 → List UInt8) (bytes : List UInt8) : Except Fault Address :=
  if bytes.length ≠ 25 then .error (.invalidLength bytes.length)
  else
    let payload := bytes.take 21
    if payload.headD 0 ≠ version then .error (.invalidVersion (payload.headD 0))
    else if sum payload ≠ bytes.drop 21 then .error .checksumMismatch
    else ofBytes (payload.drop 1)

/-- Reads a checked text as `ofBase58` does, with any function for the checksum. -/
def ofBase58By (sum : List UInt8 → List UInt8) (text : String) : Except Fault Address :=
  if text = "" then .error .emptyText
  else
    match Base58.decode text with
    | .error ⟨c, index⟩ => .error (.invalidChar c index)
    | .ok bytes => ofCheckedBy sum bytes

theorem ofBase58By_checksum (text : String) : ofBase58By checksum text = ofBase58 text := rfl

/-- A text that is refused for a fault that is found without the checksum, and for the same one
whatever the checksum is. -/
def RefusedEarly (text : String) : Prop :=
  ∃ fault : Fault, fault.IsEarly ∧ ofBase58 text = .error fault ∧
    ∀ sum, ofBase58By sum text = .error fault

/-- A text that has more characters than another, in front of it or behind it. -/
def Extends (long short : String) : Prop :=
  ∃ front back : List Char, front ++ back ≠ [] ∧ long.toList = front ++ short.toList ++ back

/-! ## Written texts -/

/-- The number of the version and 24 bytes starts with the tenth digit, whose letter is `A`. -/
theorem hasShape_encode {rest : List UInt8} (h : rest.length = 24) :
    HasShape (Base58.encode (version :: rest)) := by
  obtain ⟨ds, hds, hlen⟩ := Base58.exists_reverse_digits_versioned h
  have htext : (Base58.encode (version :: rest)).toList = 'A' :: ds.map Base58.symbol := by
    rw [Base58.toList_encode_cons (by decide), hds]
    rfl
  unfold HasShape
  rw [htext, List.length_cons, List.length_map, hlen]
  exact ⟨rfl, rfl⟩

theorem hasShape_of_decode {text : String} {bytes : List UInt8}
    (h : Base58.decode text = .ok bytes) (hlen : bytes.length = 25)
    (hhead : bytes.head? = some version) : HasShape text := by
  obtain ⟨rest, rfl⟩ := List.head?_eq_some_iff.mp hhead
  rw [← Base58.encode_of_decode h]
  exact hasShape_encode (Nat.succ.inj hlen)

theorem hasShape_payload (a : Address) {sum : List UInt8} (h : sum.length = 4) :
    HasShape (Base58.encode (a.payload ++ sum)) := by
  have hlen : (a.bytes ++ sum).length = 24 := by rw [List.length_append, a.length_bytes, h]
  exact hasShape_encode hlen

/-! ## Refused texts -/

/-- The length and the version are checked first. -/
theorem exists_isEarly_of_not_versioned {bytes : List UInt8}
    (h : ¬ (bytes.length = 25 ∧ bytes.head? = some version)) :
    ∃ fault : Fault, fault.IsEarly ∧ ∀ sum, ofCheckedBy sum bytes = .error fault := by
  by_cases hlen : bytes.length = 25
  · have hne : (bytes.take 21).headD 0 ≠ version := by
      intro hversion
      cases bytes with
      | nil => cases hlen
      | cons b rest => exact h ⟨hlen, congrArg some hversion⟩
    refine ⟨_, .invalidVersion ((bytes.take 21).headD 0), fun sum => ?_⟩
    unfold ofCheckedBy
    rw [if_neg (not_not.mpr hlen)]
    exact if_pos hne
  · refine ⟨_, .invalidLength bytes.length, fun sum => ?_⟩
    unfold ofCheckedBy
    exact if_pos hlen

theorem refusedEarly_of_not_hasShape {text : String} (h : ¬ HasShape text) :
    RefusedEarly text := by
  suffices hfault : ∃ fault : Fault, fault.IsEarly ∧ ∀ sum, ofBase58By sum text = .error fault by
    obtain ⟨fault, hearly, hall⟩ := hfault
    exact ⟨fault, hearly, ofBase58By_checksum text ▸ hall checksum, hall⟩
  unfold ofBase58By
  by_cases hempty : text = ""
  · exact ⟨_, .emptyText, fun _ => if_pos hempty⟩
  · simp only [if_neg hempty]
    cases hd : Base58.decode text with
    | error fault => exact ⟨_, .invalidChar fault.char fault.index, fun _ => rfl⟩
    | ok bytes =>
      exact exists_isEarly_of_not_versioned fun hversioned =>
        h (hasShape_of_decode hd hversioned.1 hversioned.2)

/-- Of two texts of which one extends the other only one can have the shape. -/
theorem Extends.not_hasShape {long short : String} (h : Extends long short) :
    ¬ (HasShape long ∧ HasShape short) := by
  rintro ⟨⟨hlong, -⟩, hshort, -⟩
  obtain ⟨front, back, hne, htext⟩ := h
  have hmore : 0 < (front ++ back).length := List.length_pos_of_ne_nil hne
  rw [htext] at hlong
  simp only [List.length_append] at hlong hmore
  omega

/-- 25 bytes that start with the version are read from texts of one shape only, so this is the shape
of every address. All other texts are refused without the checksum, among them what comes of an
accepted text when characters are added or taken away at its ends. -/
theorem checked_shape :
    (∀ text bytes, Base58.decode text = .ok bytes → bytes.length = 25 →
      bytes.head? = some 0x17 → HasShape text) ∧
    (∀ (a : Address) (sum : List UInt8), sum.length = 4 →
      HasShape (Base58.encode (a.payload ++ sum))) ∧
    (∀ a : Address, HasShape a.toBase58) ∧
    (∀ text, HasShape text ∨ RefusedEarly text) ∧
    ∀ accepted a text, ofBase58 accepted = .ok a →
      Extends text accepted ∨ Extends accepted text → RefusedEarly text := by
  have hshape : ∀ a : Address, HasShape a.toBase58 := fun a =>
    a.hasShape_payload (length_checksum _)
  refine ⟨fun text bytes => hasShape_of_decode, fun a sum => a.hasShape_payload, hshape,
    fun text => ?_, fun accepted a text haccepted hends => ?_⟩
  · by_cases h : HasShape text
    · exact .inl h
    · exact .inr (refusedEarly_of_not_hasShape h)
  · obtain rfl := ofBase58_eq_ok_iff.mp haccepted
    refine refusedEarly_of_not_hasShape fun h => ?_
    rcases hends with hmore | hless
    · exact hmore.not_hasShape ⟨h, hshape a⟩
    · exact hless.not_hasShape ⟨hshape a, h⟩

/-- A `2` in front of an accepted text leaves 25 bytes, of which the first one is another. -/
theorem checked_shape_empty :
    (Base58.decode empty.toBase58 = .ok (empty.payload ++ checksum empty.payload) ∧
      (empty.payload ++ checksum empty.payload).length = 25 ∧
      (empty.payload ++ checksum empty.payload).head? = some 0x17 ∧ HasShape empty.toBase58) ∧
    ((List.replicate 4 (0 : UInt8)).length = 4 ∧
      HasShape (Base58.encode (empty.payload ++ List.replicate 4 0))) ∧
    ofBase58 empty.toBase58 = .ok empty ∧
      Extends (String.ofList ('2' :: empty.toBase58.toList)) empty.toBase58 ∧
      RefusedEarly (String.ofList ('2' :: empty.toBase58.toList)) := by
  have hdecode : Base58.decode empty.toBase58 = .ok (empty.payload ++ checksum empty.payload) :=
    Base58.decode_encode _
  have hlen : (empty.payload ++ checksum empty.payload).length = 25 := by
    rw [List.length_append, length_payload, length_checksum]
  have haccepted : ofBase58 empty.toBase58 = .ok empty := ofBase58_eq_ok_iff.mpr rfl
  have hextends : Extends (String.ofList ('2' :: empty.toBase58.toList)) empty.toBase58 :=
    ⟨['2'], [], by decide, by rw [String.toList_ofList, List.append_nil]; rfl⟩
  obtain ⟨hshape, hsum, -, -, hrefused⟩ := checked_shape
  exact ⟨⟨hdecode, hlen, rfl, hshape _ _ hdecode hlen rfl⟩, ⟨rfl, hsum empty _ rfl⟩, haccepted,
    hextends, hrefused _ _ _ haccepted (.inl hextends)⟩

end ContractFixtures.Address
