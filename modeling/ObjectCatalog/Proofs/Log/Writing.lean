import Mathlib.Data.List.Nodup
import ObjectCatalog.Log.Session
import ObjectCatalog.Proofs.Log.Files

/-! # What handlers write

A handler that can write a record writes one line for it, on the console or at the end of its
file. Where no handler gets at the file of another one, each file ends with the line that its
handler has written.
-/
namespace ObjectCatalog

def Sink.isConsole : Sink → Bool
  | .console => true
  | .file .. => false

/-- The line that a handler makes of a record, if the record can be written. -/
def Handler.line? (h : Handler) (r : Record) : Option String :=
  (h.layout.write r).toOption.map (·.1)

def Handler.consoleText? (h : Handler) (r : Record) : Option String :=
  if h.sink.isConsole then (h.line? r).map (· ++ "\n") else none

/-- May a handler change a file? -/
def Handler.Touches (h : Handler) (other : String) : Prop :=
  ∃ path maxBytes backups, h.sink = .file path maxBytes backups ∧ LogFiles.IsSeries path other

/-- What deliveries add to the console and do to the files: each that can be written is one line,
in the layout of its handler, and nothing else is written. -/
structure Written (deliveries : List (Handler × Record)) (files : LogFiles) (out : LogOutput) :
    Prop where
  console : out.console = String.join (deliveries.filterMap fun d => d.1.consoleText? d.2)
  file : ∀ d ∈ deliveries, ∀ path maxBytes backups line,
    d.1.sink = .file path maxBytes backups → d.1.line? d.2 = some line →
      out.files.content? path =
        some (files.kept path maxBytes backups line ++ (line ++ "\n"))
  rest : ∀ path, (∀ d ∈ deliveries, d.1.Touches path → d.1.line? d.2 = none) →
    out.files.content? path = files.content? path

namespace LogSession

variable {h : Handler} {r : Record} {out : LogOutput} {line path : String}
  {deliveries : List (Handler × Record)}

theorem emit_of_line (hline : h.line? r = some line) :
    emit out (h, r) = writeTo h.sink line out := by
  unfold Handler.line? at hline
  unfold emit
  cases hwritten : h.layout.write r with
  | ok written =>
    rw [hwritten] at hline
    obtain rfl : written.1 = line := Option.some.inj hline
    rfl
  | error e =>
    rw [hwritten] at hline
    cases hline

theorem emit_of_none (hline : h.line? r = none) : emit out (h, r) = out := by
  unfold Handler.line? at hline
  unfold emit
  cases hwritten : h.layout.write r with
  | ok written =>
    rw [hwritten] at hline
    cases hline
  | error e => rfl

theorem console_emit (out : LogOutput) (h : Handler) (r : Record) :
    (emit out (h, r)).console = out.console ++ ((h.consoleText? r).getD "") := by
  unfold Handler.consoleText?
  cases hline : h.line? r with
  | none =>
    rw [emit_of_none hline]
    cases h.sink.isConsole <;> simp
  | some line =>
    rw [emit_of_line hline]
    cases h.sink with
    | console => simp [writeTo, Sink.isConsole, String.append_assoc]
    | file path maxBytes backups => simp [writeTo, Sink.isConsole]

theorem console_foldl_emit (out : LogOutput) (deliveries : List (Handler × Record)) :
    (deliveries.foldl emit out).console =
      out.console ++ String.join (deliveries.filterMap fun d => d.1.consoleText? d.2) := by
  induction deliveries generalizing out with
  | nil => simp
  | cons d deliveries ih =>
    obtain ⟨h, r⟩ := d
    rw [List.foldl_cons, ih, console_emit, List.filterMap_cons]
    cases h.consoleText? r with
    | none => simp
    | some text => simp [String.append_assoc]

theorem content?_emit_of_not_touches (htouch : h.Touches path → h.line? r = none) :
    (emit out (h, r)).files.content? path = out.files.content? path := by
  cases hline : h.line? r with
  | none => rw [emit_of_none hline]
  | some line =>
    rw [emit_of_line hline]
    cases hsink : h.sink with
    | console => rfl
    | file own maxBytes backups =>
      refine LogFiles.content?_writeLine_of_not_isSeries (fun hseries => ?_) maxBytes backups line
      have hnone := htouch ⟨own, maxBytes, backups, hsink, hseries⟩
      rw [hline] at hnone
      cases hnone

theorem content?_foldl_emit (htouch : ∀ d ∈ deliveries, d.1.Touches path → d.1.line? d.2 = none)
    (out : LogOutput) :
    (deliveries.foldl emit out).files.content? path = out.files.content? path := by
  induction deliveries generalizing out with
  | nil => rfl
  | cons d deliveries ih =>
    obtain ⟨h, r⟩ := d
    rw [List.foldl_cons, ih fun e he => htouch e (List.mem_cons_of_mem _ he)]
    exact content?_emit_of_not_touches (htouch (h, r) List.mem_cons_self)

/-- Handlers that do not get at each other's files write what each of them is to write. -/
theorem written_foldl_emit (hnames : (deliveries.map (·.1.name)).Nodup)
    (hapart : ∀ d ∈ deliveries, ∀ e ∈ deliveries, d.1.name ≠ e.1.name →
      ∀ path maxBytes backups, d.1.sink = .file path maxBytes backups → ¬ e.1.Touches path)
    (files : LogFiles) :
    Written deliveries files (deliveries.foldl emit ⟨"", files⟩) where
  console := by rw [console_foldl_emit, String.empty_append]
  file := by
    rintro ⟨h, r⟩ hd path maxBytes backups line hsink hline
    obtain ⟨before, after, rfl⟩ := List.append_of_mem hd
    have hothers : ∀ e ∈ before ++ after, e.1.Touches path → e.1.line? e.2 = none := by
      intro e he htouches
      have hmem : e ∈ before ++ (h, r) :: after := by
        rcases List.mem_append.mp he with he | he <;> simp [he]
      have hname : h.name ≠ e.1.name := by
        rw [List.map_append, List.map_cons, List.nodup_middle, List.nodup_cons,
          ← List.map_append] at hnames
        exact fun hsame => hnames.1 (hsame ▸ List.mem_map_of_mem he)
      exact absurd htouches (hapart _ hd e hmem hname path maxBytes backups hsink)
    rw [List.foldl_append, List.foldl_cons,
      content?_foldl_emit fun e he => hothers e (List.mem_append_right _ he),
      emit_of_line hline, hsink]
    have hbefore := content?_foldl_emit (fun e he => hothers e (List.mem_append_left _ he))
      ⟨"", files⟩
    exact (LogFiles.content?_writeLine_self _ path maxBytes backups line).trans
      (by rw [LogFiles.kept_congr hbefore])
  rest := fun path htouch => content?_foldl_emit htouch _

end LogSession

end ObjectCatalog
