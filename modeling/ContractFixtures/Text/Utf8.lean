/-!
# The bytes of a text

Lengths and positions that are counted in bytes of the UTF-8 form.
-/

namespace ContractFixtures.Text

/-- The UTF-8 bytes of a list of characters. -/
def bytesOf (cs : List Char) : List UInt8 :=
  cs.flatMap String.utf8EncodeChar

/-- The number of UTF-8 bytes of a list of characters. -/
def byteLength : List Char → Nat
  | [] => 0
  | c :: cs => c.utf8Size + byteLength cs

@[simp] theorem byteLength_nil : byteLength [] = 0 := rfl

@[simp] theorem byteLength_cons (c : Char) (cs : List Char) :
    byteLength (c :: cs) = c.utf8Size + byteLength cs := rfl

@[simp] theorem byteLength_append (a b : List Char) :
    byteLength (a ++ b) = byteLength a + byteLength b := by
  induction a with
  | nil => simp
  | cons c cs ih => simp [ih, Nat.add_assoc]

@[simp] theorem length_bytesOf (cs : List Char) : (bytesOf cs).length = byteLength cs := by
  induction cs with
  | nil => rfl
  | cons c cs ih => simp_all [bytesOf, byteLength]

/-- The text whose UTF-8 form the bytes are, if they are one. -/
def ofBytes? (bytes : List UInt8) : Option String :=
  String.fromUTF8? ⟨bytes.toArray⟩

theorem toByteArray_eq_mk (bytes : List UInt8) : bytes.toByteArray = ⟨bytes.toArray⟩ := by
  apply ByteArray.ext
  simp

theorem mk_bytesOf (s : String) : (⟨(bytesOf s.toList).toArray⟩ : ByteArray) = s.toByteArray := by
  have h : s.toByteArray = s.toList.utf8Encode := by
    rw [← String.toByteArray_ofList, String.ofList_toList]
  rw [h, List.utf8Encode, toByteArray_eq_mk]
  rfl

/-- The UTF-8 form of a text denotes the text. -/
theorem ofBytes?_bytesOf (s : String) : ofBytes? (bytesOf s.toList) = some s := by
  unfold ofBytes?
  rw [mk_bytesOf, String.fromUTF8?, dif_pos s.isValidUTF8]
  rfl

end ContractFixtures.Text
