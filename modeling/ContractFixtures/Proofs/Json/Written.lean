import ContractFixtures.Json.Printer
import ContractFixtures.Proofs.Json.Layout
import ContractFixtures.Text.Split

/-!
# Written values are read back

The text on one line and the indented text are two layouts of the same tokens, so both are read as
the value that was written. Values with numbers are left out: a number is read back only within
the limits of its form.

Results:
1. `reads_compactChars`, `reads_prettyChars`: both texts of a value are read as the value.
2. `reads_prettyArray`: the indented text of a list is read by a typed reader.
3. `parse_compact`, `parse_pretty`: texts of values as whole documents.
-/

namespace ContractFixtures.Json

variable {α : Type}

/-- A value that holds no numbers and is nested at most `depth` deep. -/
inductive Plain : Nat → Json → Prop
  | null (depth : Nat) : Plain depth .null
  | bool (depth : Nat) (b : Bool) : Plain depth (.bool b)
  | string (depth : Nat) (s : String) : Plain depth (.string s)
  | array {depth : Nat} {xs : List Json} : (∀ x ∈ xs, Plain depth x) → Plain (depth + 1) (.array xs)
  | object {depth : Nat} {ms : List (String × Json)} :
      (∀ m ∈ ms, Plain depth m.2) → Plain (depth + 1) (.object ms)

/-! ## Rows of written items -/

theorem blank_space : Blank [' '] := by
  intro c hc
  rw [List.mem_singleton.mp hc]
  rfl

theorem blank_newLine (level : Nat) : Blank (newLine level) := by
  intro c hc
  rw [newLine, List.mem_cons] at hc
  rcases hc with rfl | hc
  · rfl
  · rw [List.eq_of_mem_replicate hc]
    rfl

/-- Texts with a comma in front of each but the first. -/
theorem eq_joinWith {f : List α → List Char} {g : α → List Char} (hnil : f [] = [])
    (hone : ∀ x, f [x] = g x) (hmore : ∀ x y rest, f (x :: y :: rest) = g x ++ ',' :: f (y :: rest))
    (xs : List α) : f xs = Text.joinWith [','] (xs.map g) := by
  induction xs with
  | nil => exact hnil
  | cons x xs ih =>
    cases xs with
    | nil => exact hone x
    | cons y ys =>
      rw [hmore, ih]
      simp [Text.joinWith]

theorem compactElements_eq (xs : List Json) :
    compactElements xs = Text.joinWith [','] (xs.map compactChars) :=
  eq_joinWith rfl (fun _ => rfl) (fun _ _ _ => rfl) xs

theorem compactMembers_eq (ms : List (String × Json)) :
    compactMembers ms =
      Text.joinWith [','] (ms.map fun m => quote m.1 ++ ':' :: compactChars m.2) :=
  eq_joinWith rfl (fun _ => rfl) (fun _ _ _ => by simp [compactMembers]) ms

theorem prettyElements_eq (level : Nat) (xs : List Json) :
    prettyElements level xs =
      Text.joinWith [','] (xs.map fun x => newLine level ++ prettyChars level x) :=
  eq_joinWith rfl (fun _ => rfl) (fun _ _ _ => rfl) xs

theorem prettyMembers_eq (level : Nat) (ms : List (String × Json)) :
    prettyMembers level ms = Text.joinWith [',']
      (ms.map fun m => newLine level ++ (quote m.1 ++ ':' :: ' ' :: prettyChars level m.2)) :=
  eq_joinWith rfl (fun _ => by simp [prettyMembers]) (fun _ _ _ => by simp [prettyMembers]) ms

/-- Written items with blanks in front of each and commas between them are a row. -/
theorem row_joinWith {item : Reader α} {write : α → List Char} {pad behind : List Char}
    (hpad : Blank pad) (hbehind : Blank behind) {x : α} {xs : List α}
    (h : ∀ y ∈ x :: xs, Reads item y (write y)) :
    Row item (x :: xs) (Text.joinWith [','] ((x :: xs).map fun y => pad ++ write y) ++ behind) := by
  induction xs generalizing x with
  | nil =>
    rw [List.map_singleton, Text.joinWith, List.append_assoc]
    exact .last hpad (h x (List.mem_singleton_self x)) hbehind
  | cons y ys ih =>
    have hx := h x List.mem_cons_self
    have hmore := ih fun z hz => h z (List.mem_cons_of_mem x hz)
    have hrow := Row.next hpad hx blank_nil hmore
    simpa [Text.joinWith] using hrow

theorem bracketed_joinWith {e : Enclosure} {item : Reader α} {write : α → List Char}
    {pad behind : List Char} (hpad : Blank pad) (hbehind : Blank behind) {xs : List α}
    (h : ∀ y ∈ xs, Reads item y (write y)) :
    Bracketed e item xs
      (Text.joinWith [','] (xs.map fun y => pad ++ write y) ++ behind ++ [e.close]) := by
  cases xs with
  | nil => exact .none hbehind
  | cons x xs => exact .some (row_joinWith hpad hbehind h)

/-! ## Values -/

/-- The text of a value on one line is read as the value. -/
theorem reads_compactChars {depth : Nat} {v : Json} (h : Plain depth v) :
    Reads (value depth) v v.compactChars := by
  induction h with
  | null depth => exact reads_null depth
  | bool depth b => exact reads_bool depth b
  | string depth s => exact reads_string depth s
  | @array depth xs _ ih =>
    have hb := bracketed_joinWith (e := .list) blank_nil blank_nil ih
    rw [List.append_nil] at hb
    rw [compactChars, compactElements_eq]
    exact reads_array hb
  | @object depth ms _ ih =>
    have hb := bracketed_joinWith (e := .object) blank_nil blank_nil
      fun m hm => reads_member blank_nil (ih m hm) m.1
    rw [List.append_nil] at hb
    rw [compactChars, compactMembers_eq]
    exact reads_object hb

/-- The indented text of a value, at any level, is read as the value. -/
theorem reads_prettyChars {depth : Nat} {v : Json} (h : Plain depth v) (level : Nat) :
    Reads (value depth) v (v.prettyChars level) := by
  induction h generalizing level with
  | null depth => exact reads_null depth
  | bool depth b => cases b <;> exact reads_bool depth _
  | string depth s => exact reads_string depth s
  | @array depth xs _ ih =>
    -- Without items there is no line between the brackets.
    cases xs with
    | nil => exact reads_array (.none blank_nil)
    | cons x xs =>
      have hb := bracketed_joinWith (e := .list) (blank_newLine (level + 1)) (blank_newLine level)
        fun y hy => ih y hy (level + 1)
      rw [prettyChars, prettyElements_eq]
      exact reads_array hb
  | @object depth ms _ ih =>
    cases ms with
    | nil => exact reads_object (.none blank_nil)
    | cons m ms =>
      have hb := bracketed_joinWith (e := .object) (blank_newLine (level + 1)) (blank_newLine level)
        fun n hn => reads_member blank_space (ih n hn (level + 1)) n.1
      rw [prettyChars, prettyMembers_eq]
      exact reads_object hb

/-! ## Typed lists -/

variable {β : Type}

/-- The text of a value is read as what the value stands for. -/
theorem reads_refine {r : Reader α} {x : α} {text : List Char} (h : Reads r x text)
    {f : α → Except String β} {y : β} (hf : f x = .ok y) : Reads (r.refine f) y text := by
  refine ⟨h.starts, fun rest => ?_⟩
  simp only [Reader.refine, h.run rest, hf]

theorem reads_listOf {item : Reader α} {xs : List α} {text : List Char}
    (h : Bracketed .list item xs text) : Reads (listOf item) xs ('[' :: text) := by
  refine ⟨⟨_, _, rfl, rfl, by decide⟩, fun rest => ?_⟩
  exact enclosed_of_bracketed isClosing_list h rest

/-- The indented text of an array is read as the items that its elements stand for, if theirs
are. -/
theorem reads_prettyArray {item : Reader α} {toJson : α → Json} {xs : List α}
    (h : ∀ x ∈ xs, ∀ level, Reads item x ((toJson x).prettyChars level)) (level : Nat) :
    Reads (listOf item) xs ((Json.array (xs.map toJson)).prettyChars level) := by
  cases xs with
  | nil => exact reads_listOf (.none blank_nil)
  | cons x xs =>
    have hb := bracketed_joinWith (e := .list) (blank_newLine (level + 1)) (blank_newLine level)
      fun y hy => h y hy (level + 1)
    have hwrite : prettyElements (level + 1) ((x :: xs).map toJson)
        = Text.joinWith [','] ((x :: xs).map fun y =>
            newLine (level + 1) ++ (toJson y).prettyChars (level + 1)) := by
      rw [prettyElements_eq, List.map_map]
      rfl
    rw [List.map_cons, prettyChars, ← List.map_cons, hwrite]
    exact reads_listOf hb

/-! ## Documents -/

theorem document_of_reads {item : Reader α} {x : α} {text : List Char} (h : Reads item x text) :
    item.document (String.ofList text) = .ok x := by
  have hrun := h.run []
  rw [List.append_nil] at hrun
  rw [Reader.document, String.toList_ofList, hrun]
  rfl

/-- The text of a value on one line denotes the value. -/
theorem parse_compact {v : Json} (h : Plain maxDepth v) : parse v.compact = .ok v :=
  document_of_reads (reads_compactChars h)

/-- The indented text of a value denotes the value. -/
theorem parse_pretty {v : Json} (h : Plain maxDepth v) : parse v.pretty = .ok v :=
  document_of_reads (reads_prettyChars h 0)

end ContractFixtures.Json
