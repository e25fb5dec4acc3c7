/-!
# HTML escaping

The generated code escapes text with `escapeHtml`, which replaces the five
characters that have a meaning in element content or in quoted attribute values.
The ampersand is replaced first, so that the entities written for the other
characters stay as they are.

A `Writer` collects text; an escaping writer hands what it is given to the
writer it wraps, escaped.
-/

namespace TypedMustache

/-- Replace every occurrence of one character. -/
def replaceChar (target : Char) (replacement : String) (text : List Char) : List Char :=
  text.flatMap fun char => if char == target then replacement.toList else [char]

/-- Escape text for HTML element content and quoted attribute values. -/
def escapeHtml (text : String) : String :=
  String.ofList <|
    replaceChar '\'' "&#x27;" <|
      replaceChar '"' "&quot;" <|
        replaceChar '>' "&gt;" <|
          replaceChar '<' "&lt;" <|
            replaceChar '&' "&amp;" text.toList

/-- Something that text can be written to. -/
inductive Writer where
  /-- A buffer holding everything written so far. -/
  | buffer (contents : String)
  /-- A wrapper that escapes everything written through it. -/
  | escaping (inner : Writer)

namespace Writer

/-- Write a text; the answer is the length of the text as it was given. -/
def write : Writer → String → Writer × Nat
  | buffer contents, text => (buffer (contents ++ text), text.length)
  | escaping inner, text => (escaping (inner.write (escapeHtml text)).1, text.length)

/-- The text that reached the buffer. -/
def contents : Writer → String
  | buffer contents => contents
  | escaping inner => inner.contents

/-- An empty buffer inside a number of escaping wrappers. -/
def wrapped : Nat → Writer
  | 0 => buffer ""
  | count + 1 => escaping (wrapped count)

end Writer

end TypedMustache
