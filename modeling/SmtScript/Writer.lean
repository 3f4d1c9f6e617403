import SmtScript.Text.Utf8

/-!
# Writing to a limited sink

A sink takes bytes in pieces. All bytes are delivered by offering what is left again and
again, until nothing is left or the sink takes nothing. Only then the sink is flushed.
-/

namespace SmtScript

open Utf8 (Bytes)

structure Sink where
  /-- The most bytes of one write. -/
  chunk : Option Nat
  /-- The most bytes of all writes together. -/
  limit : Option Nat
  /-- Does a full sink fail, and not just take nothing? -/
  failsWhenFull : Bool
  failsToFlush : Bool
deriving DecidableEq

inductive WriteError where
  | full
  /-- A write took nothing. -/
  | incomplete
  | flushFailed
deriving DecidableEq

def WriteError.message : WriteError → String
  | .full => "writer is full"
  | .incomplete => "failed to write whole buffer"
  | .flushFailed => "flush failed"

/-- What came of writing. -/
structure Delivery where
  accepted : Bytes
  /-- Did flushing succeed, if the sink was flushed? -/
  flush? : Option Bool
  error? : Option WriteError
deriving DecidableEq

/-- Was the sink flushed without failing? -/
def Delivery.flushed (d : Delivery) : Bool :=
  d.flush? == some true

namespace Sink

/-- A sink without limits and failures. -/
def unlimited : Sink :=
  ⟨none, none, false, false⟩

/-- How many of `offered` bytes one write takes, after `taken` bytes. -/
def accepts (s : Sink) (taken offered : Nat) : Nat :=
  let byChunk := match s.chunk with
    | none => offered
    | some most => min offered most
  match s.limit with
  | none => byChunk
  | some most => min byChunk (most - taken)

/-- Why a write took nothing. -/
def refusal (s : Sink) : WriteError :=
  if s.failsWhenFull then .full else .incomplete

/-- Offers what is left until nothing is. -/
def writeAll (s : Sink) (taken left : Bytes) : Bytes × Option WriteError :=
  if left.isEmpty then (taken, none)
  else
    let count := s.accepts taken.length left.length
    if count = 0 then (taken, some s.refusal)
    else s.writeAll (taken ++ left.take count) (left.drop count)
termination_by left.length
decreasing_by
  simp only [List.length_drop]
  simp only [List.isEmpty_iff] at *
  have : left.length ≠ 0 := by simpa using ‹¬left = []›
  omega

def deliver (s : Sink) (bytes : Bytes) : Delivery :=
  match s.writeAll [] bytes with
  | (accepted, some e) => ⟨accepted, none, some e⟩
  | (accepted, none) =>
      if s.failsToFlush then ⟨accepted, some false, some .flushFailed⟩
      else ⟨accepted, some true, none⟩

end Sink

end SmtScript
