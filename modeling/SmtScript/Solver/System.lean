import SmtScript.Host.FileSystem
import SmtScript.Solver.Supervision

/-!
# What a runner relies on

A runner has executables looked up, names made for temporary files, bytes taken by files and
programs started. How that is done is up to the system, and so is what of it fails.
-/

namespace SmtScript.Solver

open Host (FileSystem Raw Temporaries)
open Host.FileSystem (Target)
open Supervision (Life)
open Utf8 (Bytes)

structure System where
  /-- Where an executable is that is called by its name or by a path. -/
  executable? : FileSystem → String → Option String
  temporaries : Temporaries
  /-- Is what a path leads to allowed to be opened for writing, or to be made? -/
  admits : FileSystem → Raw → Bool
  /-- How many of the bytes one write to a file takes, unless it fails. -/
  takes? : FileSystem → Nat → Bytes → Option Nat
  /-- Does a flush succeed? -/
  flushes : FileSystem → Target → Bool
  /-- Starts a program, with a time limit in nanoseconds. What the process does, and the files when
  it is over, unless it cannot be started. -/
  start? : FileSystem → Raw → List Raw → Option Nat → Option (Life × FileSystem)

namespace System

/-! ## Writing to files -/

def open? (s : System) (path : Raw) (mode : Nat) (files : FileSystem) :
    Option (Target × FileSystem) :=
  if s.admits files path then files.open? path mode else none

/-- One write, and how many of the bytes it took. -/
def write? (s : System) (target : Target) (bytes : Bytes) (files : FileSystem) :
    Option (Nat × FileSystem) :=
  match target with
  | .device .full => none
  | .device _ => some (bytes.length, files)
  | .file number =>
      (s.takes? files number bytes).map fun count =>
        ((bytes.take count).length, files.append number (bytes.take count))

/-- Writes what is left again and again, until nothing is left or nothing more is taken. Gives what
is left in the end. -/
def writeAll (s : System) (target : Target) (left : Bytes) (files : FileSystem) :
    Bytes × FileSystem :=
  if left = [] then ([], files)
  else
    match s.write? target left files with
    | none | some (0, _) => (left, files)
    | some (count + 1, files) => s.writeAll target (left.drop (count + 1)) files
termination_by left.length
decreasing_by
  have hpos : left.length ≠ 0 := fun hzero => ‹¬left = []› (List.length_eq_zero_iff.mp hzero)
  rw [List.length_drop]
  omega

/-! ## Writing through a buffer -/

/-- Fewer bytes than this are held back until a flush. -/
def bufferLimit : Nat := 8192

/-- Puts bytes in an empty buffer. More than it can hold are written at once. Says whether that
succeeded, and what is held back. -/
def buffer (s : System) (target : Target) (bytes : Bytes) (files : FileSystem) :
    Bool × Bytes × FileSystem :=
  if bytes.length < bufferLimit then (true, bytes, files)
  else
    let (left, files) := s.writeAll target bytes files
    (left.isEmpty, [], files)

/-- Writes what was held back. Says whether that succeeded, and what is still held back. -/
def flush (s : System) (target : Target) (held : Bytes) (files : FileSystem) :
    Bool × Bytes × FileSystem :=
  let (left, files) := s.writeAll target held files
  (left.isEmpty && s.flushes files target, left, files)

/-- What is still held back is tried once more. -/
def close (s : System) (target : Target) (held : Bytes) (files : FileSystem) : FileSystem :=
  (s.writeAll target held files).2

end System

end SmtScript.Solver
