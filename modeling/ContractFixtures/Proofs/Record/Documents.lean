import ContractFixtures.Proofs.Json.Lists
import ContractFixtures.Proofs.Record.RoundTrip
import ContractFixtures.Proofs.Traversal
import ContractFixtures.Suite.File

/-!
# Documents of records

A document that writes the texts of cases group by group is read as the cases that the texts are
read as on their own. If some of the texts are no cases, the document is refused for the first of
them, in the words in which that text is refused on its own, and with a place.

* `Case.told`: a case, or the words in which its text is refused.
* `IsDocumentOf`: a document that writes groups of texts.
* `TellsFirst`: an error about the first of some texts that is no case.

Results:
1. `Group.decodeList_encodeListPretty`: the indented text of groups is read as the groups.
2. `stands_document`: what a document of texts stands for.
3. `decodeList_iff_decode`: a document of texts is read as the texts are read on their own.
-/

namespace ContractFixtures

/-! ## Written groups -/

/-- A case within a document is read from its indented text, however far the text is indented. -/
theorem Case.reads_item (c : Case) (level : Nat) :
    Json.Reads (Case.item 125) c (c.toJson.prettyChars level) := by
  refine Json.reads_refine (Json.reads_prettyChars (c.plain_toJson 122) level) ?_
  rw [Case.ofJson_toJson]
  rfl

/-- The indented text of groups is read as the groups. -/
theorem Group.decodeList_encodeListPretty (groups : List Group) :
    Group.decodeList (Group.encodeListPretty groups) = .ok groups := by
  have hgroup : ∀ g ∈ groups, ∀ level, Json.Reads (Json.listOf (Case.item 125)) g
      ((Json.array (g.map Case.toJson)).prettyChars level) := fun g _ level =>
    Json.reads_prettyArray (fun c _ => c.reads_item) level
  exact Json.document_of_reads (Json.reads_prettyArray hgroup 0)

/-! ## Texts of cases -/

/-- The case that a text denotes on its own, or the words in which the text is refused. -/
def Case.told (text : String) : Except String Case :=
  (Case.decode text).mapError DecodingFault.message

theorem Case.told_eq_ok_iff {text : String} {c : Case} :
    Case.told text = .ok c ↔ Case.decode text = .ok c := by
  unfold told
  cases Case.decode text <;> simp [Except.mapError]

theorem Case.told_eq_error_iff {text reason : String} :
    Case.told text = .error reason ↔
      ∃ fault, Case.decode text = .error fault ∧ fault.message = reason := by
  unfold told
  cases Case.decode text <;> simp [Except.mapError]

/-- A text within a document stands for what it denotes on its own. -/
theorem Case.stands_item {text : String} {v : Json} (h : Json.parse text = .ok v)
    (hv : v.depth ≤ 125) : Json.Stands (Case.item 125) (Case.told text) text.toList := by
  have htold : Case.told text = (Case.ofJson v).mapError DecodingFault.message := by
    simp only [told, Case.decode, Decoding.parse, h, bind, Except.bind]
  rw [htold]
  exact Json.stands_refine h hv _

/-! ## Documents of texts -/

/-- A document that writes groups of texts as a list of lists. -/
def IsDocumentOf (groups : List (List String)) (document : String) : Prop :=
  ∃ bodies, List.Forall₂ (fun group body => Json.IsListOf (group.map String.toList) body) groups
    bodies ∧ Json.IsListOf bodies document.toList

/-- An error in the words of the fault of the first text that is no case, with its place. -/
def TellsFirst (texts : List String) (e : Json.Error) : Prop :=
  ∃ before text behind fault, texts = before ++ text :: behind ∧
    (∀ t ∈ before, ∃ c, Case.decode t = .ok c) ∧ Case.decode text = .error fault ∧
    e.message = fault.message ++ " at line " ++ toString e.position.line ++ " column "
      ++ toString e.position.column

section
variable {groups : List (List String)} {document : String} (hdocument : IsDocumentOf groups document)
  (htexts : ∀ text ∈ groups.flatten, ∃ v, Json.parse text = .ok v ∧ v.depth ≤ 125)
include hdocument htexts

/-- A document of texts stands for all cases or for the first refusal. -/
theorem stands_document :
    Json.Stands (Json.listOf (Json.listOf (Case.item 125))) (groups.mapM (List.mapM Case.told))
      document.toList := by
  obtain ⟨bodies, hbodies, hdocument⟩ := hdocument
  have hgroup : ∀ group ∈ groups, List.Forall₂ (Json.Stands (Case.item 125))
      (group.map Case.told) (group.map String.toList) := by
    intro group hgroup
    rw [List.forall₂_map_left_iff, List.forall₂_map_right_iff, List.forall₂_same]
    intro text htext
    obtain ⟨v, hparse, hv⟩ := htexts text (List.mem_flatten_of_mem hgroup htext)
    exact Case.stands_item hparse hv
  have hstands : List.Forall₂ (Json.Stands (Json.listOf (Case.item 125)))
      (groups.map (List.mapM Case.told)) bodies := by
    rw [List.forall₂_map_left_iff]
    refine ((List.forall₂_and_left _ _).mpr ⟨hgroup, hbodies⟩).imp ?_
    rintro group body ⟨htold, hbody⟩
    have hlist := Json.stands_listOf htold hbody
    rwa [List.mapM_map] at hlist
  have hlist := Json.stands_listOf hstands hdocument
  rwa [List.mapM_map] at hlist

theorem exists_tellsFirst_of_mapM_error {reason : String}
    (h : groups.mapM (List.mapM Case.told) = .error reason) :
    ∃ e, Group.decodeList document = .error e ∧ TellsFirst groups.flatten e := by
  obtain ⟨position, he⟩ := Json.document_of_stands_error (h ▸ stands_document hdocument htexts)
  obtain ⟨before, text, behind, hsplit, hbefore, htext⟩ := exists_of_mapM_mapM_error h
  obtain ⟨fault, hfault, rfl⟩ := Case.told_eq_error_iff.mp htext
  simp only [Case.told_eq_ok_iff] at hbefore
  exact ⟨_, he, before, text, behind, fault, hsplit, hbefore, hfault, rfl⟩

theorem decodeList_eq_ok_iff {cases : List Group} :
    Group.decodeList document = .ok cases ↔ groups.mapM (List.mapM Case.told) = .ok cases := by
  have hstands := stands_document hdocument htexts
  cases hall : groups.mapM (List.mapM Case.told) with
  | ok all =>
    rw [hall] at hstands
    have hread : Group.decodeList document = .ok all := Json.document_of_stands_ok hstands
    rw [hread, Except.ok.injEq, Except.ok.injEq]
  | error reason =>
    obtain ⟨e, he, -⟩ := exists_tellsFirst_of_mapM_error hdocument htexts hall
    simp [he]

theorem tellsFirst_of_decodeList_error {e : Json.Error}
    (h : Group.decodeList document = .error e) : TellsFirst groups.flatten e := by
  cases hall : groups.mapM (List.mapM Case.told) with
  | ok all => cases h.symm.trans ((decodeList_eq_ok_iff hdocument htexts).mpr hall)
  | error reason =>
    obtain ⟨e', he', htells⟩ := exists_tellsFirst_of_mapM_error hdocument htexts hall
    cases h.symm.trans he'
    exact htells

end

/-- A file that holds a document is loaded as the document is read, with its path. -/
theorem FixtureFile.load_of_find {fs : FileSystem} {path : Path} {document : String}
    (h : fs.find .content path = .ok (.file (Text.bytesOf document.toList))) :
    load fs path =
      match Group.decodeList document with
      | .ok groups => .ok ⟨path, groups⟩
      | .error e => .error (.malformed path e) := by
  have htext : fs.readText path = .ok document := by
    simp only [FileSystem.readText, h, Text.ofBytes?_bytesOf]
  rw [load, htext]
  cases hdecode : Group.decodeList document <;> simp only [ofText, hdecode]

/-- A document of texts that are nested at most 125 deep is read exactly if every text is a case on
its own, and then as these cases in the same groups. Otherwise the error tells of the first text
that is no case. A file that holds the document is loaded accordingly, with its path. -/
theorem decodeList_iff_decode {groups : List (List String)} {document : String}
    (hdocument : IsDocumentOf groups document)
    (htexts : ∀ text ∈ groups.flatten, ∃ v, Json.parse text = .ok v ∧ v.depth ≤ 125) :
    ((∃ cases, Group.decodeList document = .ok cases) ↔
        ∀ text ∈ groups.flatten, ∃ c, Case.decode text = .ok c) ∧
      (∀ cases, Group.decodeList document = .ok cases →
        List.Forall₂ (List.Forall₂ fun text c => Case.decode text = .ok c) groups cases) ∧
      (∀ e, Group.decodeList document = .error e → TellsFirst groups.flatten e) ∧
      ∀ (fs : FileSystem) (path : Path),
        fs.find .content path = .ok (.file (Text.bytesOf document.toList)) →
        FixtureFile.load fs path =
          match Group.decodeList document with
          | .ok cases => .ok ⟨path, cases⟩
          | .error e => .error (.malformed path e) := by
  refine ⟨?_, ?_, fun e => tellsFirst_of_decodeList_error hdocument htexts,
    fun _ _ => FixtureFile.load_of_find⟩
  · simp only [decodeList_eq_ok_iff hdocument htexts, exists_mapM_mapM_iff, Case.told_eq_ok_iff]
  · intro cases h
    rw [decodeList_eq_ok_iff hdocument htexts] at h
    simpa only [mapM_eq_ok_iff, Case.told_eq_ok_iff] using h

/-- A text, and behind it the texts of two values that are no cases. -/
def mixedGroups (text : String) : List (List String) :=
  [[text], [], ["7", "null"]]

/-- The same as a document. -/
def mixedDocument (text : String) : String :=
  "[[" ++ text ++ "], [], [7,null]]"

theorem isDocumentOf_mixedDocument (text : String) :
    IsDocumentOf (mixedGroups text) (mixedDocument text) := by
  have hblank := Json.blank_nil
  have hspace := Json.blank_space
  refine ⟨['[' :: (text.toList ++ [']']), [' ', '[', ']'],
    [' ', '[', '7', ',', 'n', 'u', 'l', 'l', ']']], ?_, [], [], [], hblank, hblank, hblank, ?_⟩
  · refine .cons ⟨[], [], [], hblank, hblank, hblank, rfl⟩ ?_
    refine .cons ⟨[' '], [], [], hspace, hblank, hblank, rfl⟩ ?_
    exact .cons ⟨[' '], [], [], hspace, hblank, hblank, by simp [Text.joinWith]⟩ .nil
  · simp [mixedDocument, Text.joinWith]

theorem decodeList_mixedDocument :
    (∀ text ∈ (mixedGroups ({} : Case).encode).flatten,
        ∃ v, Json.parse text = .ok v ∧ v.depth ≤ 125) ∧
      ∃ e, Group.decodeList (mixedDocument ({} : Case).encode) = .error e ∧
        e.message = (DecodingFault.wrongKind Decoding.rootField .object .number).message
          ++ " at line " ++ toString e.position.line ++ " column " ++ toString e.position.column := by
  have hcase : Json.parse ({} : Case).encode = .ok ({} : Case).toJson :=
    Json.parse_compact (Case.plain_toJson 124 {})
  have htexts : ∀ text ∈ (mixedGroups ({} : Case).encode).flatten,
      ∃ v, Json.parse text = .ok v ∧ v.depth ≤ 125 := by
    intro text htext
    simp only [mixedGroups, List.flatten_cons, List.flatten_nil, List.cons_append, List.nil_append,
      List.append_nil, List.mem_cons, List.not_mem_nil, or_false] at htext
    rcases htext with rfl | rfl | rfl
    · exact ⟨_, hcase, by decide⟩
    · exact ⟨.number (.integer 7), rfl, by decide⟩
    · exact ⟨.null, rfl, by decide⟩
  have hseven : Case.decode "7" = .error (.wrongKind Decoding.rootField .object .number) := rfl
  obtain ⟨hok, -, htells, -⟩ := decodeList_iff_decode (isDocumentOf_mixedDocument _) htexts
  refine ⟨htexts, ?_⟩
  cases hread : Group.decodeList (mixedDocument ({} : Case).encode) with
  | ok cases =>
    obtain ⟨c, hc⟩ := hok.mp ⟨cases, hread⟩ "7" (by simp [mixedGroups])
    cases hseven.symm.trans hc
  | error e =>
    obtain ⟨before, text, behind, fault, hsplit, hbefore, hfault, hmessage⟩ := htells e hread
    -- The first text is a case and the second is none, so the second is the one that is told.
    rcases before with _ | ⟨first, _ | ⟨second, more⟩⟩
    · obtain rfl : ({} : Case).encode = text := (List.cons.inj hsplit).1
      cases (Case.decode_of_parse hcase).symm.trans hfault
    · obtain rfl : "7" = text := (List.cons.inj (List.cons.inj hsplit).2).1
      cases hseven.symm.trans hfault
      exact ⟨e, rfl, hmessage⟩
    · have hsecond : "7" = second := (List.cons.inj (List.cons.inj hsplit).2).1
      obtain ⟨c, hc⟩ := hbefore "7" (by simp [hsecond])
      cases hseven.symm.trans hc

end ContractFixtures
