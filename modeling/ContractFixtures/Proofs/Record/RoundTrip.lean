import ContractFixtures.Proofs.Json.Written
import ContractFixtures.Proofs.Record.Fields
import ContractFixtures.Record.Decoding
import ContractFixtures.Record.Encoding

/-!
# Records are read back

A record denotes a value without numbers, nested three deep at most, whose members are those that
the record is read from. Whatever texts a record holds, both of its written forms are read as it.

Results:
1. `Env.ofJson_toJson`, `Case.ofJson_toJson`: the value of a record denotes the record.
2. `decode_encode_records`: the written forms of a record are read as the record.
-/

namespace ContractFixtures

open Decoding

/-! ## Values of records -/

theorem Env.isIn_toJson (e : Env) :
    e.IsIn [("witness", .array (e.witness.map fun a => .string a.toBase58))] := by
  simp [IsIn, Json.lookup]

/-- The value of an environment denotes the environment, wherever it stands. -/
theorem Env.ofJson_toJson (path : String) (e : Env) : Env.ofJson path e.toJson = .ok e :=
  env_ofJson_eq_ok_iff.mpr ⟨_, rfl, e.isIn_toJson⟩

/-- The value of a case denotes the case. -/
theorem Case.ofJson_toJson (c : Case) : Case.ofJson c.toJson = .ok c := by
  refine case_ofJson_eq_ok_iff.mpr ⟨_, rfl, ?_⟩
  exact {
    env := ⟨_, by simp [Json.lookup, Env.toJson], c.env.isIn_toJson⟩
    needContext := .inr (by simp [Json.lookup])
    method := by simp [Json.lookup]
    param := by simp [Json.lookup]
    expected := by simp [Json.lookup]
    notify := .inr (by simp [Json.lookup]) }

/-! ## Texts of records -/

theorem Env.plain_toJson (depth : Nat) (e : Env) : Json.Plain (depth + 2) e.toJson := by
  refine .object fun m hm => ?_
  rw [List.mem_singleton.mp hm]
  refine .array fun v hv => ?_
  obtain ⟨a, _, rfl⟩ := List.mem_map.mp hv
  exact .string depth _

theorem Case.plain_toJson (depth : Nat) (c : Case) : Json.Plain (depth + 3) c.toJson := by
  refine .object fun m hm => ?_
  simp only [List.mem_cons, List.not_mem_nil, or_false] at hm
  rcases hm with rfl | rfl | rfl | rfl | rfl | rfl
  · exact c.env.plain_toJson depth
  · exact .bool _ _
  all_goals exact .string _ _

theorem Env.decode_of_parse {text : String} {e : Env} (h : Json.parse text = .ok e.toJson) :
    Env.decode text = .ok e := by
  simp only [Env.decode, Decoding.parse, h, bind, Except.bind, Env.ofJson_toJson]

theorem Case.decode_of_parse {text : String} {c : Case} (h : Json.parse text = .ok c.toJson) :
    Case.decode text = .ok c := by
  simp only [Case.decode, Decoding.parse, h, bind, Except.bind, Case.ofJson_toJson]

/-- Every environment and every case, whatever its addresses and texts, is read back from both of
its written forms. -/
theorem decode_encode_records :
    (∀ e : Env, Env.decode e.encode = .ok e ∧ Env.decode e.encodePretty = .ok e) ∧
      ∀ c : Case, Case.decode c.encode = .ok c ∧ Case.decode c.encodePretty = .ok c := by
  constructor
  · intro e
    have hp : Json.Plain Json.maxDepth e.toJson := e.plain_toJson 125
    exact ⟨Env.decode_of_parse (Json.parse_compact hp), Env.decode_of_parse (Json.parse_pretty hp)⟩
  · intro c
    have hp : Json.Plain Json.maxDepth c.toJson := c.plain_toJson 124
    exact ⟨Case.decode_of_parse (Json.parse_compact hp),
      Case.decode_of_parse (Json.parse_pretty hp)⟩

end ContractFixtures
