import ObjectCatalog.Log.ColorLine
import ObjectCatalog.Log.JsonLine

/-! # Layouts

The ways to write a record on a line: as JSON, coloured, or plain. A plain line keeps the text of
the failure on the record, where a later plain line finds it.
-/
namespace ObjectCatalog

inductive Layout
  | json (line : JsonLine)
  | color
  | plain
  /-- The message alone. -/
  | bare

namespace Layout

def below (line text : String) : String :=
  if text == "" then line
  else if line.endsWith "\n" then line ++ text else line ++ "\n" ++ text

def withFailure (line : String) (r : Record) : String × Record :=
  let failureText := match r.failure with
    | some raised =>
      if r.failureText == "" then Record.describeRaised raised else r.failureText
    | none => r.failureText
  (below (below line failureText) r.stack, { r with failureText })

def write (layout : Layout) (r : Record) : Except LineError (String × Record) :=
  match layout with
  | .json line => do return (← line.write r, r)
  | .color => do return (← ColorLine.write "" r, r)
  | .plain => do
    let message ← r.message.mapError LineError.message
    let time ← (r.timestamp "").mapError LineError.time
    return withFailure (String.intercalate " | "
      [time, r.severity, r.logger, r.transaction.display, message]) r
  | .bare => do return withFailure (← r.message.mapError LineError.message) r

end Layout

end ObjectCatalog
