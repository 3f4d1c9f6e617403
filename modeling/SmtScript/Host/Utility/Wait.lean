import SmtScript.Host.Utility.Effect
import SmtScript.Host.Utility.Quantity

/-!
# Waiting

`sleep` only takes time. A duration is a quantity of seconds, or of the unit that a letter behind
it names.
-/

namespace SmtScript.Host.Utility

/-- Longer than anybody waits. -/
def forEver : Nat :=
  Nat.pow 10 30

/-- The nanoseconds of a duration. -/
def nanoseconds? (arg : Raw) : Option Nat :=
  match Quantity.front? arg with
  | none => none
  | some (q, unit) =>
      let factor? := match unit with
        | [] | ['s'] => some 1
        | ['m'] => some 60
        | ['h'] => some 3600
        | ['d'] => some 86400
        | _ => none
      if q.undefined || q.negative && (q.infinite || q.top ≠ 0) then none
      else
        factor?.map fun factor =>
          if q.infinite then forEver else min forEver (factor * q.top * 1000000000 / q.bottom)

/-- Waits for all durations together. -/
def sleep (c : Call) : Effect :=
  withOptions c 1 [] fun o =>
    if c.args.isEmpty then misused c 1 "missing operand".toList
    else
      match o.operands.mapM nanoseconds? with
      | some durations => { Effect.quiet c 0 with duration := durations.foldl Nat.add 0 }
      | none =>
          let wrong := o.operands.filter fun arg => (nanoseconds? arg).isNone
          let message (arg : Raw) : Raw := "invalid time interval ".toList ++ Citation.escaped arg
          let e := wrong.dropLast.foldl (fun e arg => e.complain c 1 (message arg))
            (Effect.quiet c 0)
          { misused c 1 (message (wrong.getLastD [])) with
            said := e.said ++ (misused c 1 (message (wrong.getLastD []))).said }

end SmtScript.Host.Utility
