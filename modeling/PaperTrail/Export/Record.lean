import PaperTrail.Export.Damage

/-!
# Records of an export

The bytes of an export are cut into records, and records into fields at semicolons.  A record ends
with a line feed or a carriage return; empty lines between records are passed over.  A field that
starts with a double quote goes on, across semicolons and line ends, to the closing quote, and two
quotes inside it stand for one.  Text behind the closing quote belongs to the field.

A record is found where the one before it ended, so the empty lines in front of it and the line
feed of a preceding carriage return come after the place that is noted for it.
-/

namespace PaperTrail.Export

structure Record where
  start : Position
  fields : List (List UInt8)
deriving DecidableEq

def quoteMark : UInt8 := 34

def delimiter : UInt8 := 59

def lineFeed : UInt8 := 10

def carriageReturn : UInt8 := 13

def isLineEnd (b : UInt8) : Bool := b == lineFeed || b == carriageReturn

def Position.after (p : Position) (b : UInt8) : Position :=
  ⟨if b = lineFeed then p.line + 1 else p.line, p.offset + 1⟩

inductive Mode
  /-- No byte of the record has been seen. -/
  | lineStart
  | fieldStart
  | bare
  | quoted
  /-- Behind a quote mark inside a quoted field, which closes it or is the first of two. -/
  | closing
deriving DecidableEq

/-- The fields and the bytes of the record at hand, and the records that are done, are kept with
the last one in front. -/
structure Scanner where
  mode : Mode
  here : Position
  start : Position
  bytes : List UInt8
  fields : List (List UInt8)
  done : List Record

namespace Scanner

def initial (p : Position) : Scanner := ⟨.lineStart, p, p, [], [], []⟩

def take (s : Scanner) (mode : Mode) (b : UInt8) : Scanner :=
  { s with mode, bytes := b :: s.bytes }

def allFields (s : Scanner) : List (List UInt8) := (s.bytes.reverse :: s.fields).reverse

def endField (s : Scanner) : Scanner :=
  { s with mode := .fieldStart, bytes := [], fields := s.bytes.reverse :: s.fields }

def endRecord (s : Scanner) : Scanner :=
  ⟨.lineStart, s.here, s.here, [], [], ⟨s.start, s.allFields⟩ :: s.done⟩

/-- Ends the field or the record at a semicolon or a line end, or goes on with the field. -/
def unquoted (s : Scanner) (b : UInt8) : Scanner :=
  if b = delimiter then s.endField
  else if isLineEnd b then s.endRecord
  else s.take .bare b

def openField (s : Scanner) (b : UInt8) : Scanner :=
  if b = quoteMark then { s with mode := .quoted } else s.unquoted b

def step (s : Scanner) (b : UInt8) : Scanner :=
  let s := { s with here := s.here.after b }
  match s.mode with
  | .lineStart => if isLineEnd b then s else s.openField b
  | .fieldStart => s.openField b
  | .bare => s.unquoted b
  | .quoted => if b = quoteMark then { s with mode := .closing } else s.take .quoted b
  | .closing => if b = quoteMark then s.take .quoted b else s.unquoted b

def run (s : Scanner) (bs : List UInt8) : Scanner := bs.foldl step s

/-- The end of the input ends a record that has begun. -/
def finish (s : Scanner) : Scanner :=
  match s.mode with
  | .lineStart => s
  | _ => s.endRecord

def records (s : Scanner) : List Record := s.done.reverse

@[simp] theorem run_nil (s : Scanner) : s.run [] = s := rfl

@[simp] theorem run_cons (s : Scanner) (b : UInt8) (bs : List UInt8) :
    s.run (b :: bs) = (s.step b).run bs := rfl

/-- The scanner carries its whole state from one chunk of bytes to the next. -/
theorem run_append (s : Scanner) (as bs : List UInt8) :
    s.run (as ++ bs) = (s.run as).run bs :=
  List.foldl_append

end Scanner

end PaperTrail.Export
