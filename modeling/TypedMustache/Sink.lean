import TypedMustache.Diagnostic
import TypedMustache.Text.Split

/-!
# Sinks for generated code

A `Sink` collects generated statements.  Statements of one line are joined by
semicolons.  A block opens on a line of its own and indents everything up to its
end; a block without a statement gets a `pass`.  While output is suppressed
everything that is written is dropped, but the level of indentation is kept.

A `Mark` remembers what a sink holds.  Rolling back to a mark drops everything
that was written since.
-/

namespace TypedMustache

/-- Generated code under construction. -/
structure Sink where
  /-- One level of indentation. -/
  indent : String
  /-- The level that a drained sink starts over with. -/
  baseLevel : Int
  level : Int
  /-- The finished lines. -/
  lines : List String
  /-- The statements of the line under construction. -/
  pending : List String
  /-- How many statements the open blocks have, the innermost one first. -/
  blocks : List Nat
  /-- Whether what is written is dropped. -/
  suppressed : Bool
deriving DecidableEq, Repr

namespace Sink

/-- A sink without any code. -/
def fresh (indent : String) (level : Int) : Sink :=
  { indent, baseLevel := level, level, lines := [], pending := [], blocks := []
    suppressed := false }

/-- The indentation of a line; a negative level indents by nothing. -/
def margin (sink : Sink) : String :=
  Text.repeated sink.indent sink.level.toNat

/-- Suppress output from now on, or let it pass. -/
def suppress (sink : Sink) (suppressed : Bool) : Sink :=
  { sink with suppressed }

/-! ## Writing -/

/-- Count one more statement in the innermost block. -/
def countStatement : List Nat → List Nat
  | [] => []
  | count :: outer => (count + 1) :: outer

/-- The text of a line with the given statements. -/
def lineOf (sink : Sink) (statements : List String) : String :=
  let line := Text.join "; " statements
  if line.isEmpty then "" else sink.margin ++ line

/-- End the line under construction, whether or not output is suppressed. -/
def finish (sink : Sink) : Sink :=
  { sink with lines := sink.lines ++ [sink.lineOf sink.pending], pending := [] }

/-- End the line under construction if it has a statement. -/
def endPending (sink : Sink) : Sink :=
  if sink.pending.isEmpty then sink else sink.finish

/-- Append a statement to the line under construction. -/
def write (sink : Sink) (statement : String) : Sink :=
  if sink.suppressed then sink
  else
    { sink with
      pending := sink.pending ++ [statement]
      blocks := countStatement sink.blocks }

/-- End the line under construction. -/
def endLine (sink : Sink) : Sink :=
  if sink.suppressed then sink else sink.finish

/-- Append a finished line at the current level. -/
def putLine (sink : Sink) (line : String) : Sink :=
  { sink with lines := sink.lines ++ [sink.margin ++ line] }

/-- Open a block under a header. -/
def openBlock (sink : Sink) (header : String) : Sink :=
  if sink.suppressed then { sink with level := sink.level + 1 }
  else
    let headed := sink.endPending.putLine header
    { headed with
      level := sink.level + 1
      blocks := 0 :: countStatement sink.blocks }

/-- The sink after the innermost block, which has the given number of statements, was closed. -/
def closed (sink : Sink) (statements : Nat) (outer : List Nat) (trailer : Option String) : Sink :=
  let filled := if statements = 0 then sink.putLine "pass" else sink
  let outside := { filled with level := sink.level - 1, blocks := outer }
  match trailer with
  | none => outside
  | some line => if line.isEmpty then outside else outside.putLine line

/--
Close the innermost block, and put a line after it.  Without an open block this
fails, after the line under construction was ended.
-/
def closeBlock (trailer : Option String) : EStateM Failure Sink Unit := fun sink =>
  if sink.suppressed then .ok () { sink with level := sink.level - 1 }
  else
    let ended := sink.endPending
    match ended.blocks with
    | [] => .error .noOpenBlock ended
    | statements :: outer => .ok () (ended.closed statements outer trailer)

/-! ## Checkpoints -/

/-- Everything of a sink that writing can change; of the lines only their number. -/
structure Mark where
  lines : Nat
  pending : List String
  level : Int
  blocks : List Nat
  suppressed : Bool
deriving DecidableEq, Repr

/-- Remember what a sink holds. -/
def mark (sink : Sink) : Mark :=
  { lines := sink.lines.length
    pending := sink.pending
    level := sink.level
    blocks := sink.blocks
    suppressed := sink.suppressed }

/-- Drop what was written since a mark. -/
def rollback (sink : Sink) (mark : Mark) : Sink :=
  { sink with
    lines := sink.lines.take mark.lines
    pending := mark.pending
    level := mark.level
    blocks := mark.blocks
    suppressed := mark.suppressed }

/-! ## Results -/

/-- All lines, one under construction included. -/
def allLines (sink : Sink) : List String :=
  if sink.pending.isEmpty then sink.lines
  else sink.lines ++ [sink.margin ++ Text.join "; " sink.pending]

/-- The code written so far. -/
def value (sink : Sink) : String :=
  String.join (sink.allLines.map (· ++ "\n"))

/-- The sink started over at its base level; output stays suppressed if it is. -/
def drained (sink : Sink) : Sink :=
  { sink with lines := [], pending := [], blocks := [], level := sink.baseLevel }

end Sink

end TypedMustache
