import ContractFixtures.EnvFile
import ContractFixtures.Proofs.Text.ByteOrder

/-!
# Which value of a variable counts

An environment file is loaded line by line, and each line is read with what the lines before it
have set. In the end a variable that could be read before has its old value. Any other has that of
the first line for it, and nothing is read from the first bad line on. A setting is the path that
this value is, or its default if there is no value or an empty one.

* `Counts`: the value of a variable, next to the assignments of a file.
* `Yields`: lines, none of them bad, and their assignments.
* `FilePairs`: the assignments of lines in front of the first bad one.
* `Determines`: the path that variables and an environment file give to a setting.

Results:
1. `text?_assign`: the value that a variable has after assignments.
2. `pairsOfLines_append`, `pairsOfLines_eq_iff`: the assignments that are read from lines.
3. `lines_bytesOf`: the lines of a file that holds a text.
4. `ofVariables_precedence`: the path of each setting.
5. `ofVariables_eq_of_readable`, `ofVariables_eq_of_isBad`: what makes no difference to settings.
-/

namespace ContractFixtures

/-! ## Values of variables -/

namespace Variables

theorem text?_set (vars : Variables) (key value name : String) :
    (vars.set key value).text? name = if name == key then some value else vars.text? name := by
  unfold text? set
  rw [List.lookup_cons]
  split
  · next hkey =>
    rw [if_pos hkey]
    exact Text.ofBytes?_bytesOf value
  · next hkey => rw [hkey, if_neg Bool.false_ne_true]

theorem text?_setIfUnreadable (vars : Variables) (key value name : String) :
    (vars.setIfUnreadable key value).text? name
      = (vars.text? name).or ([(key, value)].lookup name) := by
  rw [List.lookup_singleton]
  unfold setIfUnreadable
  by_cases hkey : name = key
  · subst hkey
    rw [if_pos BEq.rfl]
    split
    · next old hold => rw [hold, Option.some_or]
    · next hold => rw [text?_set, if_pos BEq.rfl, hold, Option.none_or]
  · have hbeq : ¬(name == key) = true := fun heq => hkey (eq_of_beq heq)
    rw [if_neg hbeq, Option.or_none]
    split
    · rfl
    · rw [text?_set, if_neg hbeq]

end Variables

namespace EnvFile

variable {vars : Variables} {lines front behind : List (Option (List Char))}
  {pairs : List (String × String)} {name : String}

/-- Sets variables one after the other, unless they can be read already. -/
def assign (vars : Variables) (pairs : List (String × String)) : Variables :=
  pairs.foldl (fun vars p => vars.setIfUnreadable p.1 p.2) vars

theorem assign_concat (vars : Variables) (pairs : List (String × String)) (p : String × String) :
    assign vars (pairs ++ [p]) = (assign vars pairs).setIfUnreadable p.1 p.2 := by
  rw [assign, List.foldl_append]
  rfl

/-- A variable keeps a value that can be read, and else has the first that it is assigned. -/
theorem text?_assign (vars : Variables) (pairs : List (String × String)) (name : String) :
    (assign vars pairs).text? name = (vars.text? name).or (pairs.lookup name) := by
  induction pairs generalizing vars with
  | nil => exact (Option.or_none).symm
  | cons p pairs ih =>
    calc (assign vars (p :: pairs)).text? name
        = ((vars.setIfUnreadable p.1 p.2).text? name).or (pairs.lookup name) := ih _
      _ = (vars.text? name).or (([p].lookup name).or (pairs.lookup name)) := by
        rw [Variables.text?_setIfUnreadable, Option.or_assoc]
      _ = (vars.text? name).or ((p :: pairs).lookup name) := by
        rw [← List.lookup_append, List.singleton_append]

/-- The value of a variable that counts next to the assignments of a file. -/
inductive Counts (vars : Variables) (pairs : List (String × String)) (name : String) :
    Option String → Prop
  /-- Its own value, if it is set and can be read. -/
  | environment {value : String} (h : vars.text? name = some value) : Counts vars pairs name value
  /-- The first that is assigned to it, if it is unset or cannot be read. -/
  | file {before after : List (String × String)} {value : String} (h : vars.text? name = none)
      (hpairs : pairs = before ++ (name, value) :: after) (hfirst : ∀ p ∈ before, p.1 ≠ name) :
      Counts vars pairs name value
  | neither (h : vars.text? name = none) (hpairs : ∀ p ∈ pairs, p.1 ≠ name) :
      Counts vars pairs name none

theorem text?_assign_eq_iff {value : Option String} :
    (assign vars pairs).text? name = value ↔ Counts vars pairs name value := by
  have hne : ∀ p : String × String, (name != p.1) = true ↔ p.1 ≠ name := fun p => by
    rw [bne_iff_ne, ne_comm]
  rw [text?_assign]
  constructor
  · rintro rfl
    cases hvars : vars.text? name with
    | some value => exact .environment hvars
    | none =>
      rw [Option.none_or]
      cases hpairs : pairs.lookup name with
      | some value =>
        obtain ⟨before, after, hsplit, hfirst⟩ := List.lookup_eq_some_iff.mp hpairs
        exact .file hvars hsplit fun p hp => (hne p).mp (hfirst p hp)
      | none =>
        exact .neither hvars fun p hp => (hne p).mp (List.lookup_eq_none_iff.mp hpairs p hp)
  · intro h
    cases h with
    | environment h => rw [h, Option.some_or]
    | file h hpairs hfirst =>
      rw [h, Option.none_or]
      exact List.lookup_eq_some_iff.mpr ⟨_, _, hpairs, fun p hp => (hne p).mpr (hfirst p hp)⟩
    | neither h hpairs =>
      rw [h, Option.none_or]
      exact List.lookup_eq_none_iff.mpr fun p hp => (hne p).mpr (hpairs p hp)

/-! ## Lines -/

/-- What a reference to a variable stands for behind some assignments: the value that counts, or
nothing. -/
def valueAfter (vars : Variables) (pairs : List (String × String)) (name : String) : String :=
  ((assign vars pairs).text? name).getD ""

/-- What was assigned to a variable is never asked for: it is set by then. -/
theorem valueFor_assign (vars : Variables) (pairs : List (String × String)) :
    valueFor (assign vars pairs) pairs.reverse = valueAfter vars pairs := by
  funext name
  unfold valueFor valueAfter
  cases hvalue : (assign vars pairs).text? name with
  | some value => rfl
  | none =>
    have hpairs : pairs.lookup name = none := by
      rw [text?_assign] at hvalue
      exact (Option.or_eq_none_iff.mp hvalue).2
    have hreverse : pairs.reverse.lookup name = none := by
      rw [List.lookup_eq_none_iff] at hpairs ⊢
      exact fun p hp => hpairs p (List.mem_reverse.mp hp)
    show (pairs.reverse.lookup name).getD "" = ""
    rw [hreverse]
    rfl

/-- Lines, none of which is bad, and the assignments that they are. Each line is read behind those
of the lines before it. -/
inductive Yields (vars : Variables) :
    List (Option (List Char)) → List (String × String) → Prop
  | nil : Yields vars [] []
  | blank {lines : List (Option (List Char))} {pairs : List (String × String)} {line : List Char}
      (h : Yields vars lines pairs) (hline : readLine (valueAfter vars pairs) line = some none) :
      Yields vars (lines ++ [some line]) pairs
  | assignment {lines : List (Option (List Char))} {pairs : List (String × String)}
      {line : List Char} {p : String × String} (h : Yields vars lines pairs)
      (hline : readLine (valueAfter vars pairs) line = some (some p)) :
      Yields vars (lines ++ [some line]) (pairs ++ [p])

/-- A line that is bad behind some assignments: it is open at the end of the file, or it is no
assignment and not blank either. -/
inductive IsBad (vars : Variables) (pairs : List (String × String)) : Option (List Char) → Prop
  | open : IsBad vars pairs none
  | unreadable {line : List Char} (hline : readLine (valueAfter vars pairs) line = none) :
      IsBad vars pairs (some line)

/-- The assignments of lines in front of the first bad one. -/
def FilePairs (vars : Variables) (lines : List (Option (List Char)))
    (pairs : List (String × String)) : Prop :=
  ∃ front behind, lines = front ++ behind ∧ Yields vars front pairs ∧
    ∀ bad ∈ behind.head?, IsBad vars pairs bad

theorem pairsOfLines_append (h : Yields vars front pairs) (behind : List (Option (List Char))) :
    pairsOfLines vars [] (front ++ behind)
      = pairs ++ pairsOfLines (assign vars pairs) pairs.reverse behind := by
  induction h generalizing behind with
  | nil => rfl
  | blank _ hline ih =>
    rw [List.append_assoc, ih, List.singleton_append, pairsOfLines, valueFor_assign, hline]
  | assignment _ hline ih =>
    rw [List.append_assoc, ih, List.singleton_append, pairsOfLines, valueFor_assign, hline,
      assign_concat, List.reverse_concat, List.append_assoc, List.singleton_append]

theorem pairsOfLines_of_isBad (h : ∀ bad ∈ behind.head?, IsBad vars pairs bad) :
    pairsOfLines (assign vars pairs) pairs.reverse behind = [] := by
  cases behind with
  | nil => rfl
  | cons bad behind =>
    cases h bad rfl with
    | «open» => rfl
    | unreadable hline => rw [pairsOfLines, valueFor_assign, hline]

/-- Lines that are not bad can be read on up to a bad one or the end. -/
theorem exists_filePairs_append (h : Yields vars front pairs)
    (behind : List (Option (List Char))) : ∃ pairs, FilePairs vars (front ++ behind) pairs := by
  induction behind generalizing front pairs with
  | nil => exact ⟨pairs, front, [], rfl, h, fun _ hbad => nomatch hbad⟩
  | cons line behind ih =>
    have hstop (hbad : IsBad vars pairs line) :
        ∃ pairs, FilePairs vars (front ++ line :: behind) pairs :=
      ⟨pairs, front, line :: behind, rfl, h, fun bad hmem => by cases hmem; exact hbad⟩
    have hgo {line : List Char} {pairs : List (String × String)}
        (h : Yields vars (front ++ [some line]) pairs) :
        ∃ pairs, FilePairs vars (front ++ some line :: behind) pairs := by
      rw [List.append_cons]
      exact ih h
    cases line with
    | none => exact hstop .open
    | some line =>
      cases hline : readLine (valueAfter vars pairs) line with
      | none => exact hstop (.unreadable hline)
      | some read =>
        cases read with
        | none => exact hgo (h.blank hline)
        | some p => exact hgo (h.assignment hline)

/-- The assignments that are read are those in front of the first bad line. -/
theorem pairsOfLines_eq_iff : pairsOfLines vars [] lines = pairs ↔ FilePairs vars lines pairs := by
  have hread {pairs : List (String × String)} (h : FilePairs vars lines pairs) :
      pairsOfLines vars [] lines = pairs := by
    obtain ⟨front, behind, rfl, hfront, hbad⟩ := h
    rw [pairsOfLines_append hfront, pairsOfLines_of_isBad hbad, List.append_nil]
  constructor
  · rintro rfl
    obtain ⟨pairs, h⟩ : ∃ pairs, FilePairs vars ([] ++ lines) pairs :=
      exists_filePairs_append .nil lines
    rw [hread h]
    exact h
  · exact hread

/-! ## Bytes -/

/-- A line feed is a byte of no other character. -/
theorem lineFeed_not_mem {c : Char} (h : c ≠ '\n') : 0x0a ∉ String.utf8EncodeChar c := by
  have hne : c.val.toNat ≠ 10 := fun he => h (Char.ext (UInt32.toNat_inj.mp he))
  have hbound := Text.toNat_val_lt c
  unfold String.utf8EncodeChar
  generalize c.val.toNat = m at hne hbound
  dsimp only
  have hlineFeed : UInt8.toNat 0x0a = 10 := rfl
  split_ifs <;>
    simp only [List.mem_cons, List.not_mem_nil, or_false, ← UInt8.toNat_inj,
      UInt8.toNat_ofNat', hlineFeed] <;> omega

/-- Bytes without a line feed stand in front of the first line of the bytes behind them. -/
theorem byteLines_append {bytes : List UInt8} (hne : bytes ≠ []) (h : 0x0a ∉ bytes)
    (rest : List UInt8) :
    byteLines (bytes ++ rest) =
      match byteLines rest with
      | [] => [bytes]
      | line :: others => (bytes ++ line) :: others := by
  induction bytes with
  | nil => exact absurd rfl hne
  | cons b bytes ih =>
    obtain ⟨hb, hbytes⟩ := not_or.mp (List.mem_cons.not.mp h)
    rw [List.cons_append, byteLines, if_neg (Ne.symm hb)]
    by_cases hnil : bytes = []
    · rw [hnil, List.nil_append]
      cases byteLines rest <;> rfl
    · rw [ih hnil hbytes]
      cases byteLines rest <;> rfl

/-- The bytes of a text are cut into those of its lines. -/
theorem exists_texts_byteLines (cs : List Char) :
    ∃ texts : List (List Char), byteLines (Text.bytesOf cs) = texts.map Text.bytesOf ∧
      texts.flatten = cs := by
  induction cs with
  | nil => exact ⟨[], rfl, rfl⟩
  | cons c cs ih =>
    obtain ⟨texts, hlines, hflatten⟩ := ih
    have hbytes : Text.bytesOf (c :: cs) = String.utf8EncodeChar c ++ Text.bytesOf cs := rfl
    by_cases hc : c = '\n'
    · subst hc
      refine ⟨['\n'] :: texts, ?_, by rw [List.flatten_cons, hflatten, List.singleton_append]⟩
      have hlineFeed : String.utf8EncodeChar '\n' = [0x0a] := by decide
      rw [hbytes, hlineFeed, List.singleton_append, byteLines, if_pos rfl, hlines]
      rfl
    · rw [hbytes, byteLines_append String.utf8EncodeChar_ne_nil (lineFeed_not_mem hc), hlines]
      cases texts with
      | nil => exact ⟨[[c]], by simp [Text.bytesOf], by simpa using hflatten⟩
      | cons text texts =>
        refine ⟨(c :: text) :: texts, rfl, ?_⟩
        rw [List.flatten_cons] at hflatten
        rw [List.flatten_cons, List.cons_append, hflatten]

theorem readBytes_map_bytesOf (texts : List (List Char)) :
    readBytes (texts.map Text.bytesOf) = (texts.flatten, false) := by
  induction texts with
  | nil => rfl
  | cons text texts ih =>
    have htext := Text.ofBytes?_bytesOf (String.ofList text)
    rw [String.toList_ofList] at htext
    simp only [List.map_cons, readBytes, htext, ih, String.toList_ofList, List.flatten_cons]

/-- The lines of a file that holds a text are those of the text. -/
theorem lines_bytesOf (cs : List Char) :
    EnvFile.lines (Text.bytesOf cs) = linesFrom .complete [] (withoutMark cs) := by
  obtain ⟨texts, hlines, rfl⟩ := exists_texts_byteLines cs
  simp only [EnvFile.lines, hlines, readBytes_map_bytesOf, Bool.false_eq_true, if_false,
    List.append_nil]

/-- A second line for a name is read, and no line from a bad one on. -/
example :
    EnvFile.pairs [] (Text.bytesOf "a=1\na=2\n?\nb=3".toList) = [("a", "1"), ("a", "2")] := by
  cbv

/-- The lines of an environment file, if there is one. -/
def linesOf : Option (List UInt8) → List (Option (List Char))
  | none => []
  | some bytes => EnvFile.lines bytes

end EnvFile

/-! ## Settings -/

namespace Settings

open EnvFile

variable {home default path : Path} {vars : Variables} {envFile : Option (List UInt8)}
  {name : String}

/-- The path that a value of a setting stands for. -/
inductive StandsFor (default : Path) : Option String → Path → Prop
  | path {text : String} (h : text ≠ "") : StandsFor default (some text) ⟨text⟩
  | empty : StandsFor default (some "") default
  | missing : StandsFor default none default

theorem pathOf_eq_iff {value : Option String} :
    pathOf value default = path ↔ StandsFor default value path := by
  constructor
  · rintro rfl
    unfold pathOf
    split
    · exact .missing
    · split
      · next htext =>
        rw [htext]
        exact .empty
      · next htext => exact .path htext
  · intro h
    cases h with
    | path h => exact if_neg h
    | empty => rfl
    | missing => rfl

/-- The path that variables and an environment file give to a setting: what the value that counts
stands for. -/
def Determines (vars : Variables) (envFile : Option (List UInt8)) (name : String)
    (default path : Path) : Prop :=
  ∃ pairs value, FilePairs vars (linesOf envFile) pairs ∧ Counts vars pairs name value ∧
    StandsFor default value path

/-- The variables with those of an environment file, if there is one. -/
def loaded (vars : Variables) (envFile : Option (List UInt8)) : Variables :=
  assign vars (pairsOfLines vars [] (linesOf envFile))

theorem ofVariables_eq (home : Path) (vars : Variables) (envFile : Option (List UInt8)) :
    ofVariables home vars envFile
      = ofValues home ((loaded vars envFile).text? fixturesName)
          ((loaded vars envFile).text? skipFileName) := by
  cases envFile <;> rfl

theorem pathOf_loaded_eq_iff :
    pathOf ((loaded vars envFile).text? name) default = path ↔
      Determines vars envFile name default path := by
  rw [pathOf_eq_iff]
  constructor
  · intro h
    exact ⟨_, _, pairsOfLines_eq_iff.mp rfl, text?_assign_eq_iff.mp rfl, h⟩
  · rintro ⟨pairs, value, hpairs, hvalue, h⟩
    rw [loaded, pairsOfLines_eq_iff.mpr hpairs, text?_assign_eq_iff.mpr hvalue]
    exact h

/-- Both settings are what the value of their variable stands for: that of the environment if it
can be read, else the first in the file in front of its first bad line. -/
theorem ofVariables_precedence (home : Path) (vars : Variables) (envFile : Option (List UInt8)) :
    (∀ path, (ofVariables home vars envFile).fixtures = path ↔
      Determines vars envFile fixturesName (defaultFixtures home) path) ∧
    (∀ path, (ofVariables home vars envFile).skipFile = path ↔
      Determines vars envFile skipFileName (defaultSkipFile home) path) := by
  rw [ofVariables_eq]
  exact ⟨fun _ => pathOf_loaded_eq_iff, fun _ => pathOf_loaded_eq_iff⟩

/-- An environment file does not matter where both variables can be read. -/
theorem ofVariables_eq_of_readable {fixtures skipFile : String}
    (hfixtures : vars.text? fixturesName = some fixtures)
    (hskipFile : vars.text? skipFileName = some skipFile) :
    ofVariables home vars envFile = ofVariables home vars none := by
  have hloaded (envFile : Option (List UInt8)) {name value : String}
      (h : vars.text? name = some value) : (loaded vars envFile).text? name = some value :=
    text?_assign_eq_iff.mpr (.environment h)
  simp only [ofVariables_eq, hloaded _ hfixtures, hloaded _ hskipFile]

/-- Nothing matters behind the first bad line of an environment file. -/
theorem ofVariables_eq_of_isBad {front behind behind' : List (Option (List Char))}
    {pairs : List (String × String)} {bad : Option (List Char)} {bytes bytes' : List UInt8}
    (hfront : Yields vars front pairs) (hbad : IsBad vars pairs bad)
    (hbytes : linesOf (some bytes) = front ++ bad :: behind)
    (hbytes' : linesOf (some bytes') = front ++ bad :: behind') :
    ofVariables home vars (some bytes) = ofVariables home vars (some bytes') := by
  have hpairs (behind : List (Option (List Char))) :
      pairsOfLines vars [] (front ++ bad :: behind) = pairs :=
    pairsOfLines_eq_iff.mpr
      ⟨front, bad :: behind, rfl, hfront, fun line hline => by cases hline; exact hbad⟩
  have hsame : loaded vars (some bytes) = loaded vars (some bytes') := by
    rw [loaded, loaded, hbytes, hbytes', hpairs, hpairs]
  rw [ofVariables_eq, ofVariables_eq, hsame]

end Settings

end ContractFixtures
