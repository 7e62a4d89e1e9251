import ContractFixtures.Json.Scalar
import ContractFixtures.Text.Quoted

/-!
# Reading documents

Values are read to a bounded depth of nesting. Typed lists are read item by item, so that an item
that is refused is reported at its place in the document.
-/

namespace ContractFixtures.Json

/-- The greatest depth of nesting. -/
def maxDepth : Nat := 127

/-- Expects the colon between a key and its value. -/
def colon (text : List Char) : Except Fault (List Char) :=
  match skipSpace text with
  | [] => .error (.behind .endInObject [])
  | ':' :: rest => .ok rest
  | other => .error (.behind .expectedColon other)

theorem length_of_colon {text rest : List Char} (h : colon text = .ok rest) :
    rest.length < text.length := by
  have hs := length_skipSpace_le text
  unfold colon at h
  split at h
  · cases h
  · next rest' htext =>
    cases h
    rw [htext] at hs
    exact hs
  · cases h

/-- Reads a member of an object. -/
def member (value : Reader Json) : Reader (String × Json) where
  run text :=
    match text with
    | '"' :: rest =>
      match stringBody rest with
      | .error fault => .error fault
      | .ok (key, rest) =>
        match colon rest with
        | .error fault => .error fault
        | .ok rest =>
          match value.run rest with
          | .error fault => .error fault
          | .ok (v, rest) => .ok ((String.ofList key, v), rest)
    | other => .error (.behind .keyNotString other)
  shrinks h := by
    split at h
    · split at h
      · simp at h
      · next hs =>
        split at h
        · simp at h
        · next hc =>
          split at h
          · simp at h
          · next hv =>
            cases h
            have hkey := Nat.lt_trans (length_of_colon hc) (length_of_stringBody hs)
            exact Nat.lt_succ_of_lt (Nat.lt_trans (value.shrinks hv) hkey)
    · simp at h

/-- Reads a value whose lists and objects hold what `nested` reads. Without it there are none. -/
def valueOver (nested : Option (Reader Json)) : Reader Json where
  run text :=
    match skipSpace text with
    | '[' :: rest =>
      match nested with
      | none => .error (.behind .tooDeep ('[' :: rest))
      | some value => (enclosed .list value rest).map fun (xs, rest) => (.array xs, rest)
    | '\x7b' :: rest =>
      match nested with
      | none => .error (.behind .tooDeep ('\x7b' :: rest))
      | some value =>
        (enclosed .object (member value) rest).map fun (ms, rest) => (.object ms, rest)
    | other => scalar other
  shrinks {text x rest} h := by
    have hs := length_skipSpace_le text
    split at h
    · next ht =>
      split at h
      · simp at h
      · obtain ⟨⟨xs, r⟩, hr, he⟩ := map_eq_ok_iff.1 h
        cases he
        rw [ht] at hs
        exact Nat.lt_trans (length_of_enclosed hr) hs
    · next ht =>
      split at h
      · simp at h
      · obtain ⟨⟨ms, r⟩, hr, he⟩ := map_eq_ok_iff.1 h
        cases he
        rw [ht] at hs
        exact Nat.lt_trans (length_of_enclosed hr) hs
    · exact Nat.lt_of_lt_of_le (length_of_scalar h) hs

/-- Reads a value nested at most `depth` deep. -/
def value : Nat → Reader Json
  | 0 => valueOver none
  | depth + 1 => valueOver (some (value depth))

/-- Reads a text as a value. -/
def parse (text : String) : Except Error Json :=
  (value maxDepth).document text

/-! ## Typed items -/

/-- A character of a string in a message. -/
def describeChar (c : Char) : List Char :=
  if c == '"' then ['\\', '"'] else if c == '\'' then ['\''] else Text.escapeChar c

/-- What a message calls a value. -/
def describe : Json → String
  | .null => "null"
  | .bool value => "boolean `" ++ (if value then "true" else "false") ++ "`"
  | .number (.integer value) => "integer `" ++ toString value ++ "`"
  | .number n => "floating point `" ++ String.ofList n.text ++ "`"
  | .string text => "string \"" ++ String.ofList (text.toList.flatMap describeChar) ++ "\""
  | .array _ => "sequence"
  | .object _ => "map"

/-- The fault of a value where another kind is expected. Brackets are not read, other values are. -/
def wrongKind (expected : String) (text : List Char) : Fault :=
  let refuse := fun (v : Json) (rest : List Char) =>
    Fault.before (.refused ("invalid type: " ++ v.describe ++ ", expected " ++ expected)) rest
  match text with
  | '[' :: _ => refuse (.array []) text
  | '\x7b' :: _ => refuse (.object []) text
  | _ =>
    match scalar text with
    | .error fault => fault
    | .ok (v, rest) => refuse v rest

/-- Reads a list of items. -/
def listOf {α : Type} (item : Reader α) : Reader (List α) where
  run text :=
    match skipSpace text with
    | '[' :: rest => enclosed .list item rest
    | other => .error (wrongKind "a sequence" other)
  shrinks {text x rest} h := by
    have hs := length_skipSpace_le text
    split at h
    · next ht =>
      rw [ht] at hs
      exact Nat.lt_trans (length_of_enclosed h) hs
    · simp at h

/-- Reads a string. -/
def stringItem : Reader String where
  run text :=
    match skipSpace text with
    | '"' :: rest => (stringBody rest).map fun (cs, rest) => (String.ofList cs, rest)
    | other => .error (wrongKind "a string" other)
  shrinks {text x rest} h := by
    have hs := length_skipSpace_le text
    split at h
    · next ht =>
      obtain ⟨⟨cs, r⟩, hr, he⟩ := map_eq_ok_iff.1 h
      cases he
      rw [ht] at hs
      exact Nat.lt_trans (length_of_stringBody hr) hs
    · simp at h

end ContractFixtures.Json
