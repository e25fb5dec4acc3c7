import TypedMustache.Token

/-!
# Reading tokens one at a time

A consumer meets the tokens of a template one by one.  The source of the tokens
may end, with or without an end token of its own, and it may break off with a
failure, in which case everything before the failure has already been consumed.

`TokenStream.feed` hands the tokens to a consumer until the end of the template.
The consumer is sure to meet an end token unless it fails or the source does:
where the source has none, one is made up at the last place seen.
-/

namespace TypedMustache

/-- A source of tokens that is read one token at a time. -/
inductive TokenStream (ε : Type) where
  /-- There are no more tokens. -/
  | exhausted
  /-- The source fails instead of giving another token. -/
  | broken (failure : ε)
  /-- The source gives a token. -/
  | next (token : Token) (rest : TokenStream ε)

namespace TokenStream

/-- A source that gives the tokens of a list. -/
def ofList {ε : Type} : List Token → TokenStream ε
  | [] => exhausted
  | token :: rest => next token (ofList rest)

/--
Hand tokens to a consumer up to the first end token.  `last` is the place of the
token handed over before, if there was one.  The answer is the place of the end.
-/
def feedFrom {ε σ : Type} (process : Token → EStateM ε σ Unit) (source : String)
    (last : Option Position) : TokenStream ε → EStateM ε σ Position
  | exhausted => do
    let position := last.getD (Position.start source)
    process (Token.atEnd position)
    return position
  | broken failure => throw failure
  | next token rest => do
    process token
    if token.kind = .endOfFile then
      return token.position
    else
      feedFrom process source (some token.position) rest

/-- Hand all tokens of a source to a consumer, and an end token after them if there is none. -/
def feed {ε σ : Type} (process : Token → EStateM ε σ Unit) (source : String)
    (stream : TokenStream ε) : EStateM ε σ Position :=
  feedFrom process source none stream

end TokenStream

end TypedMustache
