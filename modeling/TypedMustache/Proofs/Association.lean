/-!
# Entries that are looked up by their keys

Fields of a record and files of a directory are lists of entries, each a key and a
value.  Setting an entry replaces an earlier one with the same key in its place, or
else adds the entry at the end.  `Association.lookup_set` says what is found then.
-/

namespace TypedMustache.Association

variable {κ ν : Type} [BEq κ] [LawfulBEq κ] {entries : List (κ × ν)} {entry : κ × ν} {key : κ}

theorem lookup_eq_none_iff_any :
    entries.lookup key = none ↔ entries.any (·.1 == key) = false := by
  rw [List.lookup_eq_none_iff, List.any_eq_false]
  apply forall₂_congr
  intro other _
  rw [bne_iff_ne, ne_comm, beq_iff_eq]

variable [DecidableEq κ]

theorem lookup_cons :
    (entry :: entries).lookup key =
      if key = entry.1 then some entry.2 else entries.lookup key := by
  rcases entry with ⟨name, value⟩
  rw [List.lookup_cons]
  by_cases sought : key = name
  · rw [if_pos sought, beq_iff_eq.mpr sought]
  · rw [if_neg sought, beq_eq_false_iff_ne.mpr sought]

theorem lookup_replaced :
    (entries.map fun earlier => if earlier.1 == entry.1 then entry else earlier).lookup key =
      if key = entry.1 then (entries.lookup key).map fun _ => entry.2
      else entries.lookup key := by
  induction entries with
  | nil =>
      split <;> rfl
  | cons earlier rest ih =>
      rw [List.map_cons, lookup_cons, lookup_cons, ih]
      by_cases replaced : earlier.1 = entry.1
      · by_cases sought : key = entry.1 <;> simp [replaced, sought]
      · by_cases found : key = earlier.1 <;> simp [found, replaced]

/-- An entry that was set has its new value, and the others have the values they had. -/
theorem lookup_set (entries : List (κ × ν)) (entry : κ × ν) (key : κ) :
    (if entries.any (·.1 == entry.1) then
        entries.map fun earlier => if earlier.1 == entry.1 then entry else earlier
      else entries ++ [entry]).lookup key =
      if key = entry.1 then some entry.2 else entries.lookup key := by
  split
  · rename_i present
    rw [lookup_replaced]
    split
    · rename_i sought
      cases found : entries.lookup key with
      | none =>
          rw [sought, lookup_eq_none_iff_any, present] at found
          cases found
      | some value =>
          rfl
    · rfl
  · rename_i absent
    rw [List.lookup_append, lookup_cons]
    split
    · rename_i sought
      have missing : entries.lookup key = none := by
        rw [lookup_eq_none_iff_any, sought]
        exact Bool.eq_false_iff.mpr absent
      rw [missing, Option.none_or]
    · rw [List.lookup_nil, Option.or_none]

end TypedMustache.Association
