import TypedMustache.CompileResult.Storage
import TypedMustache.Proofs.Association
import TypedMustache.Proofs.Json.RoundTrip
import TypedMustache.Proofs.Text.SourceText

/-!
# Saved results load back

A compile result is turned into a record, the record into a JSON text, and the text
may be written into a file.  `CompileResult.loads_back` shows that every one of these
steps is undone when a result is read: whatever characters its texts have, however
many fragments there are, and whatever the indentation of the text is.

Reading a file turns every line end into a line feed.  That does no harm here,
because carriage returns are always escaped in a JSON text.
-/

namespace TypedMustache

/-! ## Files -/

namespace Workspace

variable {workspace saved : Workspace} {directory names : List String} {path : Path}
  {text : String}

/-- A text can be put at a place: there is a file already, or nothing in a directory. -/
inductive Place.Takes (names : List String) : Place → Prop where
  | file (text : String) : Takes names (.file names text)
  | vacant : Takes names (.vacant names)

theorem lookup_put (others : List String) :
    (workspace.put names text).files.lookup others =
      if others = names then some text else workspace.files.lookup others :=
  Association.lookup_set workspace.files (names, text) others

/-- Where a text was put, it is found. -/
theorem follow_put {parts : List String} (takes : (workspace.follow directory parts).Takes names) :
    (workspace.put names text).follow directory parts = .file names text := by
  have sameDirectories (others : List String) :
      (workspace.put names text).isDirectory others = workspace.isDirectory others :=
    rfl
  have sameBarred : (workspace.put names text).barred = workspace.barred := rfl
  induction parts generalizing directory with
  | nil =>
      rw [follow] at takes
      cases takes
  | cons name rest ih =>
      rw [follow, sameBarred]
      rw [follow] at takes
      split at takes
      · cases takes
      · rename_i searched
        rw [if_neg searched]
        split at takes
        · rename_i upward
          rw [if_pos upward]
          exact ih takes
        · rename_i downward
          rw [if_neg downward]
          split at takes
          · cases takes
          · rename_i short
            rw [if_neg short]
            simp only [sameDirectories] at takes ⊢
            split at takes
            · rename_i inside
              rw [if_pos inside]
              exact ih takes
            · rename_i outside
              rw [if_neg outside]
              -- The way ends here, or else nothing could be put at its end.
              cases rest with
              | nil =>
                  have here : directory ++ [name] = names := by
                    split at takes <;> cases takes <;> rfl
                  simp [here, lookup_put]
              | cons next others =>
                  split at takes <;> cases takes

theorem find_put (takes : (workspace.find path).Takes names) :
    (workspace.put names text).find path = .file names text := by
  rw [find] at takes ⊢
  split at takes
  · cases takes
  · rename_i nameable
    rw [if_neg nameable]
    split at takes
    · cases takes
    · rename_i short
      rw [if_neg short]
      exact follow_put takes

theorem exists_takes_of_write (written : workspace.write path text = .ok saved) :
    ∃ names, (workspace.find path).Takes names ∧ ¬ workspace.barred.contains names = true ∧
      saved = workspace.put names text := by
  rw [write] at written
  split at written
  · rename_i names old found
    split at written
    · cases written
    · rename_i opens
      cases written
      exact ⟨names, found ▸ .file old, opens, rfl⟩
  · rename_i names found
    split at written
    · cases written
    · rename_i opens
      cases written
      exact ⟨names, found ▸ .vacant, opens, rfl⟩
  · cases written

/-- What was written is read, but for its line ends. -/
theorem read_of_write (written : workspace.write path text = .ok saved) :
    saved.read path = .ok (String.ofList (Text.unifyNewlines text.toList)) := by
  rcases exists_takes_of_write written with ⟨names, takes, opens, rfl⟩
  have sameBarred : (workspace.put names text).barred = workspace.barred := rfl
  simp only [read, find_put takes, sameBarred, opens, if_false, Bool.false_eq_true]

end Workspace

/-! ## Records -/

theorem Fragment.ofDatum_toDatum (fragment : Fragment) :
    Fragment.ofDatum fragment.toDatum = .ok fragment := by
  simp [toDatum, ofDatum, Datum.record, Checked.text, Checked.flag, Datum.get?, Datum.flag]

theorem Fragment.document_toDatum (depth : Nat) (fragment : Fragment) :
    Json.Document (depth + 1) fragment.toDatum := by
  apply Json.Document.record
  intro field member
  simp only [List.mem_cons, List.not_mem_nil, or_false] at member
  rcases member with rfl | rfl | rfl
  · exact .text fragment.variant
  · exact .text fragment.code
  · exact .boolean fragment.foundYield

namespace CompileResult

theorem all_ofDatum_toDatum (fragments : List Fragment) :
    Checked.all (fragments.map (Fragment.ofDatum ∘ Fragment.toDatum)) = .ok fragments := by
  induction fragments with
  | nil =>
      rfl
  | cons fragment rest ih =>
      simp only [List.map_cons, Checked.all, Function.comp, Fragment.ofDatum_toDatum] at ih ⊢
      rw [ih]

theorem ofDatum_toDatum (result : CompileResult) : ofDatum result.toDatum = .ok result := by
  simp [toDatum, ofDatum, fragmentsOf, all_ofDatum_toDatum, Datum.record, Checked.text,
    Checked.flag, Datum.get?, Datum.flag]

theorem document_toDatum (depth : Nat) (result : CompileResult) :
    Json.Document (depth + 3) result.toDatum := by
  apply Json.Document.record
  intro field member
  simp only [List.mem_cons, List.not_mem_nil, or_false] at member
  rcases member with rfl | rfl | rfl | rfl | rfl | rfl
  · exact .text result.requestId
  · exact .text result.template
  · exact .text result.dataModule
  · exact .text result.dataName
  · exact .boolean result.layout
  · apply Json.Document.sequence
    intro item isItem
    rcases List.mem_map.mp isItem with ⟨fragment, -, rfl⟩
    exact fragment.document_toDatum depth

/-! ## Documents -/

theorem ofJson_toJson (result : CompileResult) (indent : Nat) (source : String) :
    ofJson (result.toJson indent) source = .ok result := by
  have document : Json.Document Json.depthLimit result.toDatum :=
    result.document_toDatum (Json.depthLimit - 3)
  rw [ofJson, toJson, Json.parse_render document indent]
  simp only [ofDatum_toDatum]

theorem unifyNewlines_toJson (result : CompileResult) (indent : Nat) :
    Text.unifyNewlines (result.toJson indent).toList = (result.toJson indent).toList :=
  Text.unifyNewlines_of_not_mem ((result.document_toDatum 0).unreturned indent 0)

theorem load_of_save {result : CompileResult} {workspace saved : Workspace} {path : Path}
    (done : result.save workspace path = .ok saved) : load saved path = .ok result := by
  have read := Workspace.read_of_write done
  rw [unifyNewlines_toJson, String.ofList_toList] at read
  simp only [load, read, ofJson_toJson]

/-- Whatever is in a result, it is read back from its documents and from its files. -/
theorem loads_back (result : CompileResult) :
    (∀ indent source, ofJson (result.toJson indent) source = .ok result) ∧
      ∀ workspace path saved,
        result.save workspace path = .ok saved → load saved path = .ok result := by
  constructor
  · exact result.ofJson_toJson
  · intro workspace path saved done
    exact load_of_save done

/-- A result with quotes, escapes, line ends and control characters in its texts. -/
def crypticResult : CompileResult :=
  { requestId := "\u0041\""
    template := "a\\n\r\n.html"
    dataModule := ""
    dataName := "\x7bÄ\x7d"
    layout := true
    fragments :=
      [{ variant := "header", code := "\twriter.write(\"\\\"\")\n", foundYield := true },
        { variant := "footer", code := String.ofList [Char.ofNat 0, Char.ofNat 31] }] }

theorem loads_back_crypticResult :
    ∃ saved, crypticResult.save {} { root := "", parts := ["saved"] } = .ok saved ∧
      load saved { root := "", parts := ["saved"] } = .ok crypticResult :=
  ⟨_, rfl, (loads_back crypticResult).2 {} _ _ rfl⟩

end CompileResult

end TypedMustache
