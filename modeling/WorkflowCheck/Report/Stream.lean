import WorkflowCheck.Failure

/-! The two streams of a report. A stream may be limited: it then takes bytes up to its limit,
and a text that does not fit is cut there. -/

namespace WorkflowCheck.Report

inductive Channel where
  | out
  | err
  deriving DecidableEq, Repr

structure Print where
  channel : Channel
  text : String
  deriving DecidableEq, Repr

structure Stream where
  limit : Option Nat
  written : Bytes

namespace Stream

def fits (s : Stream) (bytes : Bytes) : Bool :=
  match s.limit with
  | none => true
  | some limit => s.written.length + bytes.length ≤ limit

/-- The part of some bytes that a stream takes. -/
def taken (s : Stream) (bytes : Bytes) : Bytes :=
  match s.limit with
  | none => bytes
  | some limit => bytes.take (limit - s.written.length)

def write (s : Stream) (bytes : Bytes) : Stream := { s with written := s.written ++ s.taken bytes }

end Stream

structure Streams where
  out : Stream
  err : Stream

namespace Streams

def ofLimits (out err : Option Nat) : Streams := ⟨⟨out, []⟩, ⟨err, []⟩⟩

def stream (s : Streams) : Channel → Stream
  | .out => s.out
  | .err => s.err

def fits (s : Streams) (p : Print) : Bool := (s.stream p.channel).fits (Text.encode p.text)

def print (s : Streams) (p : Print) : Streams :=
  match p.channel with
  | .out => { s with out := s.out.write (Text.encode p.text) }
  | .err => { s with err := s.err.write (Text.encode p.text) }

/-- Prints in order until one does not fit. -/
def printAll (s : Streams) : List Print → Streams × Option IoFault
  | [] => (s, none)
  | p :: rest => if s.fits p then (s.print p).printAll rest else (s.print p, some .full)

end Streams

end WorkflowCheck.Report
