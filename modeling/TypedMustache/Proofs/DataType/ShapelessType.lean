import TypedMustache.DataType.Shape
import TypedMustache.Proofs.Attempt

/-!
# Types without a shape

There is no section over a value whose type cannot be looked at.  The parts of a tuple may have
no place in a table or make no union, a union may not be joined once more, and an annotation may
be a value that has no place in a table itself.

In each case the language raises an error of its own: it says that something is no type, or that a
text is no expression (`DataType.blamesType_of_sectionShape`).  Such an error is no diagnostic,
so nothing locates it (`Failure.BlamesType.locate`).
-/

namespace TypedMustache

/-- What the language raises because of an annotation. -/
inductive Failure.BlamesType (texts : Texts) : Failure → Prop where
  | unhashable (sort : String) : BlamesType texts (.unhashable sort)
  | notAType (display : String) : BlamesType texts (.notAType display)
  /-- A union cannot be formed at all. -/
  | noUnion (message : String) : BlamesType texts (.raised { label := "TypeError", message })
  /-- A text is no expression. -/
  | text {text : String} {error : LanguageError} (refused : texts text = some error) :
      BlamesType texts (.raised error)

namespace Failure.BlamesType

variable {texts : Texts} {failure : Failure}

/-- Only diagnostics are given a place. -/
theorem locate (blamesType : failure.BlamesType texts) (position : Position) :
    failure.locate position = failure := by
  cases blamesType <;> rfl

/-- To blame a type is no diagnostic. -/
theorem ne_diagnosed (blamesType : failure.BlamesType texts) (diagnostic : Diagnostic) :
    failure ≠ .diagnosed diagnostic := by
  cases blamesType <;> simp

end Failure.BlamesType

namespace DataType

variable {catalog : Catalog} {texts : Texts} {type : DataType} {failure : Failure}
  {origin : ClassName} {arguments annotations : List DataType}

/-! ## Refusals -/

theorem blamesType_of_textRefusal? (refused : type.textRefusal? texts = some failure) :
    failure.BlamesType texts := by
  unfold textRefusal? at refused
  split at refused
  · rcases Option.map_eq_some_iff.mp refused with ⟨error, known, rfl⟩
    exact .text known
  · cases refused

theorem blamesType_of_plainRefusal? (refused : type.plainRefusal? = some failure) :
    failure.BlamesType texts := by
  unfold plainRefusal? at refused
  split at refused
  · split at refused
    · cases refused
    · cases refused
      exact .notAType _
  · split at refused
    · cases refused
      exact .notAType _
    · cases refused
  · split at refused
    · cases refused
      exact .notAType _
    · cases refused
  · cases refused
    exact .noUnion _
  · cases refused

/-- An annotation that a union refuses is to blame. -/
theorem blamesType_of_refusal? (refused : type.refusal? texts = some failure) :
    failure.BlamesType texts := by
  unfold refusal? at refused
  split at refused
  · exact blamesType_of_textRefusal? refused
  · split at refused
    · cases refused
      exact .notAType _
    · cases refused
  · split at refused
    · cases refused
      exact .notAType _
    · cases refused
  · exact blamesType_of_plainRefusal? refused

/-- A union fails for want of members, or because of the first one that is refused. -/
theorem blamesType_of_unionOf (failed : unionOf texts annotations = .error failure) :
    failure.BlamesType texts := by
  unfold unionOf at failed
  split at failed
  · cases failed
    exact .noUnion _
  · have refused := Attempt.map_eq_error_iff.mp failed
    unfold typeArguments at refused
    split at refused
    · rename_i reason found
      cases refused
      rcases List.exists_of_findSome?_eq_some found with ⟨part, -, refusal⟩
      exact blamesType_of_refusal? refusal
    · cases refused

/-! ## Looking at types -/

/-- If the arguments of a tuple cannot be joined, one of them is to blame. -/
theorem blamesType_of_elementOfArguments
    (failed : elementOfArguments catalog origin arguments = .error failure) :
    failure.BlamesType catalog.texts := by
  unfold elementOfArguments at failed
  split at failed
  · cases failed
  · split at failed
    · split at failed
      · cases failed
      · split at failed
        · cases failed
          exact .unhashable _
        · split at failed
          · cases failed
          · exact blamesType_of_unionOf failed
    · cases failed

theorem blamesType_of_elementOfApplication?
    (failed : elementOfApplication? catalog origin arguments = .error failure) :
    failure.BlamesType catalog.texts := by
  unfold elementOfApplication? at failed
  split at failed
  · split at failed
    · rename_i reason wrong
      cases failed
      exact blamesType_of_elementOfArguments wrong
    · cases failed
    · cases failed
  · cases failed

theorem blamesType_of_element? (failed : type.element? catalog = .error failure) :
    failure.BlamesType catalog.texts := by
  unfold element? at failed
  split at failed
  · cases failed
  · cases failed
  · exact blamesType_of_elementOfApplication? failed
  · exact blamesType_of_elementOfApplication? failed
  · split at failed
    · cases failed
      exact .unhashable _
    · cases failed
  · cases failed

theorem blamesType_of_shapeOf {optional : Bool}
    (failed : shapeOf catalog optional type = .error failure) :
    failure.BlamesType catalog.texts := by
  unfold shapeOf at failed
  split at failed
  · cases failed
  · split at failed
    · rename_i reason wrong
      cases failed
      exact blamesType_of_element? wrong
    · cases failed
    · cases failed

/-- If a type cannot be looked through, a member of it is to blame. -/
theorem blamesType_of_optionalInner? (failed : type.optionalInner? catalog = .error failure) :
    failure.BlamesType catalog.texts := by
  unfold optionalInner? at failed
  split at failed
  · split at failed
    · cases failed
    · exact blamesType_of_unionOf (Attempt.map_eq_error_iff.mp failed)
  · cases failed

/-- What keeps a type from having a shape is an annotation that is no type. -/
theorem blamesType_of_sectionShape (failed : type.sectionShape catalog = .error failure) :
    failure.BlamesType catalog.texts := by
  unfold sectionShape at failed
  split at failed
  · rename_i reason wrong
    cases failed
    exact blamesType_of_optionalInner? wrong
  · exact blamesType_of_shapeOf failed
  · exact blamesType_of_shapeOf failed

end DataType

end TypedMustache
