import Mathlib.Data.List.Nodup
import TypedMustache.Journal.Notice
import TypedMustache.Proofs.Association

/-!
# Records of notices

A record is put together from the fields of several parties: what says where its
notice comes from, the fields of the notice, what is bound to the request, and the
fields that every record has.  Later parties win.  `Fields.lookup_merge` says so
of any two lists of fields, and `Journal.lookup_record` of a record.

Recording notices adds a record for each of those that the configuration admits,
and changes nothing else (`Journal.emitAll_eq`).
-/

namespace TypedMustache

namespace Fields

/-! ## Looking fields up -/

variable (fields others : Fields) (field : String × Datum) (name : String)

/-- A field that was set has its new value, and the others have the values they had. -/
theorem lookup_put :
    (fields.put field).lookup name =
      if name = field.1 then some field.2 else fields.lookup name :=
  Association.lookup_set fields field name

/-- Of several fields that are set the last one of a name counts. -/
theorem lookup_merge :
    (fields.merge others).lookup name =
      (others.reverse.lookup name).or (fields.lookup name) := by
  unfold merge
  induction others generalizing fields with
  | nil =>
      rfl
  | cons field rest ih =>
      rw [List.foldl_cons, ih, lookup_put, List.reverse_cons, List.lookup_append,
        Association.lookup_cons, Option.or_assoc]
      congr 1
      split <;> rfl

/-- In a list with distinct keys the order does not matter for a look-up. -/
theorem lookup_reverse (distinct : (fields.map (·.1)).Nodup) :
    fields.reverse.lookup name = fields.lookup name := by
  induction fields with
  | nil =>
      rfl
  | cons field rest ih =>
      rcases List.nodup_cons.mp distinct with ⟨fresh, distinct⟩
      rw [List.reverse_cons, List.lookup_append, ih distinct, Association.lookup_cons,
        Association.lookup_cons]
      split
      · rename_i sought
        have missing : rest.lookup name = none := by
          rw [Association.lookup_eq_none_iff_any, List.any_eq_false]
          intro other member same
          exact fresh (List.mem_map.mpr ⟨other, member, (beq_iff_eq.mp same).trans sought⟩)
        rw [missing, Option.none_or]
      · rw [List.lookup_nil, Option.or_none]

theorem keys_put :
    (fields.put field).map (·.1) =
      if fields.any (·.1 == field.1) then fields.map (·.1)
      else fields.map (·.1) ++ [field.1] := by
  unfold put
  split
  · rw [List.map_map]
    apply List.map_congr_left
    intro earlier _
    rw [Function.comp_apply]
    split
    · rename_i same
      exact (beq_iff_eq.mp same).symm
    · rfl
  · rw [List.map_append, List.map_singleton]

variable {fields}

/-- Replacing or adding a field keeps the keys distinct. -/
theorem nodup_put (distinct : (fields.map (·.1)).Nodup) :
    ((fields.put field).map (·.1)).Nodup := by
  rw [keys_put]
  split
  · exact distinct
  · rename_i absent
    apply List.Nodup.append distinct (List.nodup_singleton _)
    rw [List.disjoint_singleton]
    intro present
    rcases List.mem_map.mp present with ⟨earlier, member, same⟩
    exact absent (List.any_eq_true.mpr ⟨earlier, member, beq_iff_eq.mpr same⟩)

/-- Setting fields gives no name to two of them. -/
theorem nodup_merge (distinct : (fields.map (·.1)).Nodup) :
    ((fields.merge others).map (·.1)).Nodup := by
  unfold merge
  induction others generalizing fields with
  | nil =>
      exact distinct
  | cons field rest ih =>
      exact ih (nodup_put field distinct)

end Fields

namespace Journal

/-! ## Records -/

/-- The records of notices that are given under a configuration while fields are bound. -/
def Configuration.recordsOf (configuration : Configuration) (bound : Fields)
    (notices : List Notice) : List Record :=
  (notices.filter configuration.admits).map (record { configuration, context := bound } [])

/-- Recording notices adds their records and changes nothing else. -/
theorem emitAll_eq (journal : Journal) (notices : List Notice) :
    journal.emitAll notices =
      { journal with
        records :=
          journal.records ++ journal.configuration.recordsOf journal.context notices } := by
  unfold emitAll
  induction notices generalizing journal with
  | nil =>
      simp [Configuration.recordsOf]
  | cons notice rest ih =>
      rw [List.foldl_cons, ih, emit]
      cases admitted : journal.configuration.admits notice with
      | true =>
          simp [Configuration.recordsOf, admitted, record]
      | false =>
          simp [Configuration.recordsOf, admitted]

@[simp]
theorem emitAll_nil (journal : Journal) : journal.emitAll [] = journal := rfl

@[simp]
theorem emitAll_cons (journal : Journal) (notice : Notice) (rest : List Notice) :
    journal.emitAll (notice :: rest) = (journal.emit notice).emitAll rest := rfl

/-- Notices are recorded in the order in which they come. -/
@[simp]
theorem emitAll_append (journal : Journal) (first second : List Notice) :
    journal.emitAll (first ++ second) = (journal.emitAll first).emitAll second :=
  List.foldl_append

theorem clear_clear (journal : Journal) : journal.clear.clear = journal.clear := rfl

/-- The fields of a record that say where its notice comes from. -/
def Notice.ownFields (notice : Notice) : Fields :=
  Fields.merge [("channel", .text notice.channel.label)]
    (match notice.severity.verbosity? with
    | some word => [("verbosity", .text word)]
    | none => [])

/-- What is bound to the request counts more than what a notice says. -/
theorem lookup_record
    (journal : Journal) (notice : Notice) {name : String}
    (free : name ∉ ["event", "level", "logger"]) :
    (journal.record [] notice).fields.lookup name =
      (journal.context.reverse.lookup name).or
        ((notice.fields.reverse.lookup name).or (notice.ownFields.lookup name)) := by
  let given := (notice.ownFields.merge notice.fields).merge journal.context
  have distinct : (given.map (·.1)).Nodup := by
    apply Fields.nodup_merge
    apply Fields.nodup_merge
    apply Fields.nodup_merge
    exact List.nodup_singleton _
  have fields :
      (journal.record [] notice).fields =
        (Fields.merge [] given).merge
          [("event", .text notice.event), ("level", .text notice.severity.recorded),
            ("logger", .text notice.channel.logger)] := rfl
  have free (event level logger : Datum) :
      List.lookup name [("event", event), ("level", level), ("logger", logger)].reverse = none := by
    simp_all [Association.lookup_cons]
  rw [fields, Fields.lookup_merge, free, Option.none_or, Fields.lookup_merge,
    Fields.lookup_reverse given name distinct, List.lookup_nil, Option.or_none,
    Fields.lookup_merge, Fields.lookup_merge]

end Journal

namespace Journal.Notice

/-! ## Ordinary notices -/

/-- A notice does not choose the fields that say where it comes from. -/
def IsOrdinary (notice : Notice) : Prop :=
  ∀ field ∈ notice.fields, field.1 ∉ ["channel", "verbosity"]

theorem isOrdinary_memberResolved (owner member : String) :
    (memberResolved owner member).IsOrdinary := by
  simp [IsOrdinary, memberResolved]

theorem isOrdinary_templateTokenized (source : String) (tokens : Nat) :
    (templateTokenized source tokens).IsOrdinary := by
  simp [IsOrdinary, templateTokenized]

theorem isOrdinary_sectionOpened (name : String) (inverted : Bool) (depth : Nat) :
    (sectionOpened name inverted depth).IsOrdinary := by
  simp [IsOrdinary, sectionOpened]

theorem isOrdinary_sectionClosed (name : String) (depth : Nat) :
    (sectionClosed name depth).IsOrdinary := by
  simp [IsOrdinary, sectionClosed]

theorem isOrdinary_yieldToggled (variant : String) (line : Int) (suppressing : Bool) :
    (yieldToggled variant line suppressing).IsOrdinary := by
  simp [IsOrdinary, yieldToggled]

end Journal.Notice

end TypedMustache
