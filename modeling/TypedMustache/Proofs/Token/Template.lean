import TypedMustache.Token.Lexer

/-!
# The tokens of a template and its end

A consumer of a token source meets the tokens of the template and then its end
token.  `TokenStream.template` and `TokenStream.ending` name these two parts.  A
source made from a list, or from a text that was read to its end, has the listed
tokens as its template.
-/

namespace TypedMustache

namespace Token

/-- The kind and the value of a token. -/
abbrev Mark := Kind × String

/-- What a token says, wherever it stands. -/
def mark (token : Token) : Mark := (token.kind, token.value)

end Token

namespace TokenStream

variable {ε : Type}

/-- The tokens of a source before its end. -/
def template : TokenStream ε → List Token
  | exhausted => []
  | broken _ => []
  | next token rest => if token.kind = .endOfFile then [] else token :: rest.template

/-- The end token of a source, which is made up after the last place if there is none. -/
def ending (source : String) (last : Option Position) : TokenStream ε → Except ε Token
  | exhausted => .ok (Token.atEnd (last.getD (Position.start source)))
  | broken failure => .error failure
  | next token rest =>
      if token.kind = .endOfFile then .ok token
      else rest.ending source (some token.position)

theorem kind_of_ending
    {source : String} {last : Option Position} {stream : TokenStream ε} {token : Token}
    (ended : stream.ending source last = .ok token) : token.kind = .endOfFile := by
  induction stream generalizing last with
  | exhausted =>
      cases ended
      rfl
  | broken failure => cases ended
  | next first rest ih =>
      by_cases isEnd : first.kind = .endOfFile
      · simp only [ending, isEnd, if_true, Except.ok.injEq] at ended
        rw [← ended]
        exact isEnd
      · simp only [ending, isEnd, if_false] at ended
        exact ih ended

/-- Whether a source ends does not depend on its name or on the places seen before. -/
theorem exists_ending
    {source : String} {last : Option Position} {stream : TokenStream ε} {token : Token}
    (ended : stream.ending source last = .ok token)
    (other : String) (place : Option Position) :
    ∃ ending, stream.ending other place = .ok ending := by
  induction stream generalizing last place with
  | exhausted =>
      exact ⟨_, rfl⟩
  | broken failure =>
      cases ended
  | next first rest ih =>
      by_cases isEnd : first.kind = .endOfFile
      · exact ⟨first, by simp [ending, isEnd]⟩
      · simp only [ending, isEnd, if_false] at ended ⊢
        exact ih ended (some first.position)

theorem kind_of_mem_template {stream : TokenStream ε} {token : Token}
    (member : token ∈ stream.template) : token.kind ≠ .endOfFile := by
  induction stream with
  | exhausted => cases member
  | broken failure => cases member
  | next first rest ih =>
      by_cases isEnd : first.kind = .endOfFile
      · simp [template, isEnd] at member
      · simp only [template, isEnd, if_false, List.mem_cons] at member
        rcases member with rfl | later
        · exact isEnd
        · exact ih later

/-! ## Sources made from lists -/

theorem template_before {rest : TokenStream ε} {tokens : List Token}
    (endless : ∀ token ∈ tokens, token.kind ≠ .endOfFile) :
    (Scan.before rest tokens).template = tokens ++ rest.template := by
  induction tokens with
  | nil => rfl
  | cons token others ih =>
      have unended : token.kind ≠ .endOfFile := endless token (by simp)
      simp [Scan.before, template, unended,
        ih fun other member => endless other (by simp [member])]

theorem ending_before (rest : TokenStream ε) {tokens : List Token} (source : String)
    (last : Option Position) (endless : ∀ token ∈ tokens, token.kind ≠ .endOfFile) :
    ∃ place, (Scan.before rest tokens).ending source last = rest.ending source place := by
  induction tokens generalizing last with
  | nil => exact ⟨last, rfl⟩
  | cons token others ih =>
      have unended : token.kind ≠ .endOfFile := endless token (by simp)
      rcases ih (some token.position) fun other member => endless other (by simp [member]) with
        ⟨place, same⟩
      exact ⟨place, by simp [Scan.before, ending, unended, same]⟩

theorem ofList_eq_before (tokens : List Token) :
    (ofList tokens : TokenStream ε) = Scan.before .exhausted tokens := by
  induction tokens with
  | nil => rfl
  | cons token rest ih => simp [ofList, Scan.before, ih]

theorem template_ofList {tokens : List Token}
    (endless : ∀ token ∈ tokens, token.kind ≠ .endOfFile) :
    (ofList tokens : TokenStream ε).template = tokens := by
  simp [ofList_eq_before, template_before endless, template]

theorem ending_ofList {tokens : List Token} (source : String)
    (endless : ∀ token ∈ tokens, token.kind ≠ .endOfFile) :
    ∃ token, (ofList tokens : TokenStream ε).ending source none = .ok token := by
  rcases ending_before (exhausted : TokenStream ε) source none endless with ⟨place, same⟩
  exact ⟨_, by rw [ofList_eq_before, same, ending]⟩

theorem template_ofList_eq_takeWhile (tokens : List Token) :
    (ofList tokens : TokenStream ε).template = tokens.takeWhile (·.kind ≠ .endOfFile) := by
  induction tokens with
  | nil =>
      rfl
  | cons token rest ih =>
      by_cases isEnd : token.kind = .endOfFile
      · simp [ofList, template, isEnd]
      · simp [ofList, template, isEnd, ih]

/-- The end of a list is its first end token, or else it is made up at the last place. -/
theorem ending_ofList_eq (tokens : List Token) (source : String) (last : Option Position) :
    (ofList tokens : TokenStream ε).ending source last =
      .ok ((tokens.find? (·.kind = .endOfFile)).getD
        (.atEnd (((tokens.getLast?.map (·.position)).or last).getD (.start source)))) := by
  induction tokens generalizing last with
  | nil =>
      rfl
  | cons token rest ih =>
      by_cases isEnd : token.kind = .endOfFile
      · simp [ofList, ending, isEnd]
      · have later :
            (ofList (token :: rest) : TokenStream ε).ending source last =
              (ofList rest).ending source (some token.position) := by
          simp [ofList, ending, isEnd]
        rw [later, ih, List.getLast?_cons]
        cases rest.getLast? <;> simp [isEnd]

end TokenStream

namespace Scan

theorem template_stream {scan : Scan} (complete : scan.fault = none)
    (endless : ∀ token ∈ scan.tokens, token.kind ≠ .endOfFile) :
    scan.stream.template = scan.tokens := by
  simp [stream, diagnostic?, complete, TokenStream.template_before endless,
    TokenStream.template, Token.atEnd]

/-- A text with a wrong tag gives the tokens before the tag, and breaks off there. -/
theorem stream_of_fault {scan : Scan} (source : String) {fault : Fault}
    (wrong : scan.fault = some fault)
    (endless : ∀ token ∈ scan.tokens, token.kind ≠ .endOfFile) :
    scan.stream.template = scan.tokens ∧
      scan.stream.ending source none =
        .error (.diagnosed { fault, position := some scan.stop }) := by
  have broken : scan.stream =
      before (.broken (.diagnosed { fault, position := some scan.stop })) scan.tokens := by
    simp [stream, diagnostic?, wrong]
  rw [broken]
  constructor
  · rw [TokenStream.template_before endless, TokenStream.template, List.append_nil]
  · rcases TokenStream.ending_before
        (.broken (.diagnosed { fault, position := some scan.stop }) : TokenStream Failure)
        source none endless with ⟨place, same⟩
    rw [same, TokenStream.ending]

/-- A source that ends comes from a text without a wrong tag. -/
theorem fault_of_ending {scan : Scan} {source : String} {token : Token}
    (endless : ∀ token ∈ scan.tokens, token.kind ≠ .endOfFile)
    (ended : scan.stream.ending source none = .ok token) : scan.fault = none := by
  cases wrong : scan.fault with
  | none => rfl
  | some fault =>
      rw [(stream_of_fault source wrong endless).2] at ended
      cases ended

theorem ending_stream {scan : Scan} (source : String) (complete : scan.fault = none)
    (endless : ∀ token ∈ scan.tokens, token.kind ≠ .endOfFile) :
    scan.stream.ending source none = .ok (Token.atEnd scan.stop) := by
  rcases TokenStream.ending_before
      (.next (Token.atEnd scan.stop) .exhausted : TokenStream Failure) source none endless with
    ⟨place, same⟩
  simp only [stream, diagnostic?, complete, Option.map_none]
  rw [same]
  rfl

end Scan

end TypedMustache
