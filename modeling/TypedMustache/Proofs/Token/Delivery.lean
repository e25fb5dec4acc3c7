import Mathlib.Data.List.Basic
import Mathlib.Data.List.TakeWhile
import TypedMustache.Proofs.Attempt
import TypedMustache.Proofs.Token.Template

/-!
# What a consumer of tokens is handed

A consumer is any computation on a token that may change a state and may fail.
`TokenStream.delivery_of_feed` says what reaches it when the tokens of a list are
fed to it: the tokens before the first end token, and then that end token, or one
that is made up after the last token of the list.  Where the consumer fails, it has
been handed the tokens up to the one it fails at, and if that token is in the list,
nothing behind it makes a difference.

To speak about what a consumer was handed, `noting` keeps a record of it beside the
state of the consumer.
-/

namespace TypedMustache

variable {ε σ α : Type}

/-! ## Consumers -/

/-- A consumer gets over tokens, from one state to another. -/
inductive Passes (process : Token → EStateM ε σ Unit) : σ → List Token → σ → Prop where
  | done (state : σ) : Passes process state [] state
  | step {token : Token} {rest : List Token} {state next after : σ}
      (first : process token state = .ok () next) (later : Passes process next rest after) :
      Passes process state (token :: rest) after

/-- A consumer gets over all tokens but the last one, at which it fails. -/
inductive FailsAtLast (process : Token → EStateM ε σ Unit) :
    σ → List Token → ε → σ → Prop where
  | here {token : Token} {failure : ε} {state after : σ}
      (failed : process token state = .error failure after) :
      FailsAtLast process state [token] failure after
  | later {token : Token} {rest : List Token} {failure : ε} {state next after : σ}
      (first : process token state = .ok () next)
      (failed : FailsAtLast process next rest failure after) :
      FailsAtLast process state (token :: rest) failure after

/-- A consumer that also notes the tokens it is handed. -/
def noting (process : Token → EStateM ε σ Unit) (token : Token) :
    EStateM ε (σ × List Token) Unit := fun (state, handed) =>
  match process token state with
  | .ok () after => .ok () (after, handed ++ [token])
  | .error failure after => .error failure (after, handed ++ [token])

/-- What a computation comes to when its notes are left out. -/
def withoutNotes : EStateM.Result ε (σ × List Token) α → EStateM.Result ε σ α
  | .ok answer (after, _) => .ok answer after
  | .error failure (after, _) => .error failure after

section Traversal

variable {process : Token → EStateM ε σ Unit} {token : Token} {tokens rest handed all : List Token}
  {state after : σ} {failure : ε}

theorem passes_nil_iff : Passes process state [] after ↔ state = after := by
  constructor
  · rintro ⟨⟩
    rfl
  · rintro rfl
    exact .done state

theorem passes_cons_iff :
    Passes process state (token :: rest) after ↔
      ∃ next, process token state = .ok () next ∧ Passes process next rest after := by
  constructor
  · rintro (_ | ⟨first, later⟩)
    exact ⟨_, first, later⟩
  · rintro ⟨next, first, later⟩
    exact .step first later

theorem not_failsAtLast_nil : ¬ FailsAtLast process state [] failure after := by
  rintro ⟨⟩

theorem failsAtLast_cons_iff :
    FailsAtLast process state (token :: rest) failure after ↔
      rest = [] ∧ process token state = .error failure after ∨
        ∃ next, process token state = .ok () next ∧
          FailsAtLast process next rest failure after := by
  constructor
  · rintro (failed | ⟨first, failed⟩)
    · exact Or.inl ⟨rfl, failed⟩
    · exact Or.inr ⟨_, first, failed⟩
  · rintro (⟨rfl, failed⟩ | ⟨next, first, failed⟩)
    · exact .here failed
    · exact .later first failed

theorem forM_nil_apply : forM [] process state = .ok () state := rfl

theorem forM_cons_apply :
    forM (token :: rest) process state =
      match process token state with
      | .ok () next => forM rest process next
      | .error failure next => .error failure next := by
  rw [List.forM_cons, Attempt.bind_apply]
  cases process token state <;> rfl

/-- A consumer that notes what it is handed gets over tokens as it would without notes. -/
theorem forM_noting_eq_ok_iff :
    forM tokens (noting process) (state, handed) = .ok () (after, all) ↔
      all = handed ++ tokens ∧ Passes process state tokens after := by
  induction tokens generalizing state handed with
  | nil =>
      rw [passes_nil_iff, forM_nil_apply]
      simp [eq_comm, and_comm]
  | cons token rest ih =>
      rw [forM_cons_apply, passes_cons_iff, noting]
      cases done : process token state with
      | ok answer next =>
          simp [ih]
      | error failure next =>
          simp

/-- A failure was handed a prefix of the tokens and failed at the last of them. -/
theorem forM_noting_eq_error_iff :
    forM tokens (noting process) (state, handed) = .error failure (after, all) ↔
      ∃ reached, all = handed ++ reached ∧ reached <+: tokens ∧
        FailsAtLast process state reached failure after := by
  -- The note grows with each token, so what was handed over before is part of the statement.
  induction tokens generalizing state handed with
  | nil =>
      rw [forM_nil_apply]
      refine iff_of_false (by simp) ?_
      rintro ⟨reached, -, part, failed⟩
      rw [List.prefix_nil.mp part] at failed
      exact not_failsAtLast_nil failed
  | cons token rest ih =>
      rw [forM_cons_apply, noting]
      cases done : process token state with
      | ok answer next =>
          dsimp only
          rw [ih]
          constructor
          · rintro ⟨reached, rfl, part, failed⟩
            refine ⟨token :: reached, by simp, ?_, .later done failed⟩
            exact List.cons_prefix_cons.mpr ⟨rfl, part⟩
          · rintro ⟨reached, rfl, part, failed⟩
            rcases List.prefix_cons_iff.mp part with rfl | ⟨later, rfl, laterPart⟩
            · exact absurd failed not_failsAtLast_nil
            · rcases failsAtLast_cons_iff.mp failed with ⟨-, here⟩ | ⟨other, first, there⟩
              · rw [done] at here
                cases here
              · rw [done] at first
                cases first
                exact ⟨later, by simp, laterPart, there⟩
      | error reason next =>
          dsimp only
          constructor
          · intro same
            cases same
            exact ⟨[token], rfl, List.prefix_append [token] rest, .here done⟩
          · rintro ⟨reached, rfl, part, failed⟩
            rcases List.prefix_cons_iff.mp part with rfl | ⟨later, rfl, -⟩
            · exact absurd failed not_failsAtLast_nil
            · rcases failsAtLast_cons_iff.mp failed with ⟨rfl, here⟩ | ⟨other, first, -⟩
              · rw [done] at here
                cases here
                rfl
              · rw [done] at first
                cases first

/-- Notes make no difference to what a consumer does. -/
theorem withoutNotes_forM_noting :
    withoutNotes (forM tokens (noting process) (state, handed)) = forM tokens process state := by
  induction tokens generalizing state handed with
  | nil =>
      rfl
  | cons token rest ih =>
      rw [forM_cons_apply, forM_cons_apply, noting]
      cases done : process token state with
      | ok answer next => exact ih
      | error failure next => rfl

end Traversal

namespace TokenStream

/-! ## Tokens up to an end -/

/-- A source is handed over token by token, and then its end. -/
theorem feedFrom_eq
    (process : Token → EStateM ε σ Unit) (source : String) (last : Option Position)
    (stream : TokenStream ε) :
    stream.feedFrom process source last =
      (do
        forM stream.template process
        match stream.ending source last with
        | .ok token =>
            process token
            return token.position
        | .error failure => throw failure) := by
  induction stream generalizing last with
  | exhausted =>
      simp [feedFrom, template, ending, Token.atEnd]
  | broken failure =>
      simp [feedFrom, template, ending]
  | next token rest ih =>
      by_cases isEnd : token.kind = .endOfFile
      · simp [feedFrom, template, ending, isEnd]
      · simp [feedFrom, template, ending, isEnd, ih]

/-- The first end token of a list, or one that is made up: after the last token, or at the start. -/
def endOf (source : String) (tokens : List Token) : Token :=
  (tokens.find? (·.kind = .endOfFile)).getD
    (.atEnd ((tokens.getLast?.map (·.position)).getD (.start source)))

/-- The tokens of a list before the first end token, and the end token. -/
def upToEnd (source : String) (tokens : List Token) : List Token :=
  tokens.takeWhile (·.kind ≠ .endOfFile) ++ [endOf source tokens]

theorem feed_ofList_apply
    (process : Token → EStateM ε σ Unit) (source : String) (tokens : List Token) (state : σ) :
    (ofList tokens).feed process source state =
      match forM (upToEnd source tokens) process state with
      | .ok () after => .ok (endOf source tokens).position after
      | .error failure after => .error failure after := by
  have delivered :
      (ofList tokens).feed process source =
        (do
          forM (upToEnd source tokens) process
          return (endOf source tokens).position) := by
    rw [feed, feedFrom_eq, template_ofList_eq_takeWhile, ending_ofList_eq, Option.or_none]
    simp [upToEnd, endOf]
  rw [delivered, Attempt.bind_apply]
  cases forM (upToEnd source tokens) process state <;> rfl

section Feeding

variable {process : Token → EStateM ε σ Unit} {source : String} {tokens handed : List Token}
  {state after : σ} {failure : ε} {position : Position}

/-- A source of tokens is fed by going through them up to the end. -/
theorem feed_ofList_eq_ok_iff :
    (ofList tokens).feed process source state = .ok position after ↔
      position = (endOf source tokens).position ∧
        forM (upToEnd source tokens) process state = .ok () after := by
  rw [feed_ofList_apply]
  cases forM (upToEnd source tokens) process state with
  | ok answer reached => simp [eq_comm]
  | error reason reached => simp

/-- Feeding fails where going through the tokens does. -/
theorem feed_ofList_eq_error_iff :
    (ofList tokens).feed process source state = .error failure after ↔
      forM (upToEnd source tokens) process state = .error failure after := by
  rw [feed_ofList_apply]
  cases forM (upToEnd source tokens) process state <;> simp

/-- If all goes well, all tokens up to the end were handed over. -/
theorem feed_noting_eq_ok_iff :
    (ofList tokens).feed (noting process) source (state, []) = .ok position (after, handed) ↔
      position = (endOf source tokens).position ∧ handed = upToEnd source tokens ∧
        Passes process state handed after := by
  rw [feed_ofList_eq_ok_iff, forM_noting_eq_ok_iff, List.nil_append]
  constructor
  · rintro ⟨place, rfl, passes⟩
    exact ⟨place, rfl, passes⟩
  · rintro ⟨place, rfl, passes⟩
    exact ⟨place, rfl, passes⟩

/-- If it does not, those up to the failing one were. -/
theorem feed_noting_eq_error_iff :
    (ofList tokens).feed (noting process) source (state, []) = .error failure (after, handed) ↔
      handed <+: upToEnd source tokens ∧ FailsAtLast process state handed failure after := by
  rw [feed_ofList_eq_error_iff, forM_noting_eq_error_iff]
  simp

/-- Noting what is handed over does not change anything. -/
theorem feed_eq_withoutNotes :
    (ofList tokens).feed process source state =
      withoutNotes ((ofList tokens).feed (noting process) source (state, [])) := by
  have unnoted :
      withoutNotes (forM (upToEnd source tokens) (noting process) (state, [])) =
        forM (upToEnd source tokens) process state :=
    withoutNotes_forM_noting
  rw [feed_ofList_apply, feed_ofList_apply, ← unnoted]
  cases forM (upToEnd source tokens) (noting process) (state, []) <;> rfl

end Feeding

/-- There always is an end, even if it has to be made. -/
theorem kind_endOf (source : String) (tokens : List Token) :
    (endOf source tokens).kind = .endOfFile := by
  have ended := ending_ofList_eq (ε := Empty) tokens source none
  rw [Option.or_none] at ended
  exact kind_of_ending ended

theorem kind_of_mem_takeWhile {tokens : List Token} {token : Token}
    (early : token ∈ tokens.takeWhile (·.kind ≠ .endOfFile)) : token.kind ≠ .endOfFile := by
  simpa using List.mem_takeWhile_imp early

/-- There is one end token among the tokens up to the end, and it comes last. -/
theorem filter_upToEnd (source : String) (tokens : List Token) :
    (upToEnd source tokens).filter (·.kind = .endOfFile) = [endOf source tokens] := by
  have unended :
      (tokens.takeWhile (·.kind ≠ .endOfFile)).filter (·.kind = .endOfFile) = [] := by
    rw [List.filter_eq_nil_iff]
    intro token early
    simpa using kind_of_mem_takeWhile early
  rw [upToEnd, List.filter_append, unended, List.nil_append]
  simp [kind_endOf]

/-- The first tokens of a list are handed over if no token but the last of them ends it. -/
theorem prefix_upToEnd_iff
    {source : String} {tokens reached : List Token} (part : reached <+: tokens) :
    reached <+: upToEnd source tokens ↔
      ∀ token ∈ reached.dropLast, token.kind ≠ .endOfFile := by
  constructor
  · intro handed token early
    suffices member : token ∈ tokens.takeWhile (·.kind ≠ .endOfFile) from
      kind_of_mem_takeWhile member
    rcases List.prefix_concat_iff.mp handed with rfl | shorter
    · rwa [List.dropLast_concat] at early
    · exact shorter.subset (List.dropLast_subset _ early)
  · intro unended
    rcases List.eq_nil_or_concat' reached with rfl | ⟨front, last, rfl⟩
    · exact List.nil_prefix
    · rcases part with ⟨rest, rfl⟩
      rw [List.dropLast_concat] at unended
      have passed : ∀ token ∈ front, decide (token.kind ≠ .endOfFile) = true :=
        fun token early => decide_eq_true (unended token early)
      rw [upToEnd, List.append_assoc, List.takeWhile_append_of_pos passed, List.append_assoc,
        List.prefix_append_right_inj]
      by_cases isEnd : last.kind = .endOfFile
      · -- The end token of the list is then the last token of the part.
        have unfound : front.find? (·.kind = .endOfFile) = none := by
          rw [List.find?_eq_none]
          intro token early
          simpa using unended token early
        simp [endOf, List.find?_append, unfound, isEnd]
      · simp [isEnd]

/--
A consumer is handed the tokens of a list up to the first end token, or all of them
and an end token that is made up at the place of the last; so it is handed one end
token, as the last token.  If it gets over all of these, the answer is the place of
the end token.  If not, it is handed the tokens up to the one that it fails at, and
fails the same way over every list that starts with them.
-/
theorem delivery_of_feed
    (process : Token → EStateM ε σ Unit) (source : String) (tokens : List Token) (state : σ) :
    (upToEnd source tokens).filter (·.kind = .endOfFile) = [endOf source tokens] ∧
      (ofList tokens).feed process source state =
        withoutNotes ((ofList tokens).feed (noting process) source (state, [])) ∧
      (∀ position after handed,
        (ofList tokens).feed (noting process) source (state, []) =
            .ok position (after, handed) ↔
          position = (endOf source tokens).position ∧ handed = upToEnd source tokens ∧
            Passes process state handed after) ∧
      (∀ failure after handed,
        (ofList tokens).feed (noting process) source (state, []) =
            .error failure (after, handed) ↔
          handed <+: upToEnd source tokens ∧ FailsAtLast process state handed failure after) ∧
      ∀ failure after handed others name,
        (ofList tokens).feed (noting process) source (state, []) =
            .error failure (after, handed) →
          handed <+: tokens → handed <+: others →
            (ofList others).feed (noting process) name (state, []) =
              .error failure (after, handed) := by
  refine ⟨filter_upToEnd source tokens, ?_, ?_, ?_, ?_⟩
  · exact feed_eq_withoutNotes
  · intro position after handed
    exact feed_noting_eq_ok_iff
  · intro failure after handed
    exact feed_noting_eq_error_iff
  · intro failure after handed others name failed part shared
    rw [feed_noting_eq_error_iff] at failed ⊢
    rw [prefix_upToEnd_iff part] at failed
    rw [prefix_upToEnd_iff shared]
    exact failed

/-- A consumer that counts tokens, and does not take a closed section. -/
def counting (token : Token) : EStateM String Nat Unit := fun count =>
  if token.kind = .sectionClose then .error "closed" count else .ok () (count + 1)

/-- A text, a closed section, an end token and another text. -/
def closedPage : List Token :=
  [{ kind := .text, value := "a", position := .start "page" },
    { kind := .sectionClose, value := "b", position := { Position.start "page" with column := 2 } },
    Token.atEnd { Position.start "page" with column := 8 },
    { kind := .text, value := "c", position := { Position.start "page" with column := 9 } }]

/-- A page whose second token is refused. -/
theorem delivery_of_feed_closedPage :
    (ofList closedPage).feed (noting counting) "page" (0, []) =
        .error "closed" (1, closedPage.take 2) ∧
      closedPage.take 2 <+: closedPage ∧
      closedPage.take 2 <+: closedPage.take 2 ∧
      (ofList (closedPage.take 2)).feed (noting counting) "other" (0, []) =
        .error "closed" (1, closedPage.take 2) := by
  have failed :
      (ofList closedPage).feed (noting counting) "page" (0, []) =
        .error "closed" (1, closedPage.take 2) :=
    rfl
  have part : closedPage.take 2 <+: closedPage := List.take_prefix 2 closedPage
  have same : closedPage.take 2 <+: closedPage.take 2 := List.prefix_rfl
  rcases delivery_of_feed counting "page" closedPage 0 with ⟨-, -, -, -, kept⟩
  exact ⟨failed, part, same, kept _ _ _ _ "other" failed part same⟩

end TokenStream

end TypedMustache
