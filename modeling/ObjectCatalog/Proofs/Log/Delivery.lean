import ObjectCatalog.Proofs.Log.Tree
import ObjectCatalog.Proofs.Log.Writing

/-! # Each record once, to each handler that serves it

Whatever is logged after setting up, and in whatever transactions, leaves the ways of records
alone. So each record gets to the handlers that its name and its level lead to, and to none of
them twice; and each of them writes one line for it, on the console or at the end of its file.
-/
namespace ObjectCatalog

/-! ## Logging after setting up -/

inductive LogUse
  | transact (transactions : Transactions)
  /-- A logger is asked for. -/
  | find (name : String)
  | log (r : Record)

namespace LogSession

def use (s : LogSession) : LogUse → LogSession
  | .transact transactions => { s with transactions }
  | .find name => { s with tree := s.tree.withLogger (Logger.properName name) }
  | .log r => (s.log r).2.1

def run (s : LogSession) (uses : List LogUse) : LogSession := uses.foldl use s

theorem use_keeps (s : LogSession) (u : LogUse) : (s.use u).rootFilters = s.rootFilters ∧
    ((s.use u).tree = s.tree ∨ ∃ name, (s.use u).tree = s.tree.withLogger name) := by
  cases u with
  | transact transactions => exact ⟨rfl, .inl rfl⟩
  | find name => exact ⟨rfl, .inr ⟨_, rfl⟩⟩
  | log r => exact ⟨rfl, .inr ⟨_, rfl⟩⟩

/-- The filters of the root give a record what every handler would give it. -/
theorem identify_passLogger (s : LogSession) (r : Record) :
    (s.passLogger r).identify s.transactions.current = r.identify s.transactions.current := by
  unfold passLogger
  split
  · exact Record.identify_pass_transactions _ r
  · rfl

theorem level_passLogger (s : LogSession) (r : Record) : (s.passLogger r).level = r.level := by
  unfold passLogger
  split
  · exact Record.level_pass _ _ r
  · rfl

end LogSession

theorem Settings.Routes.run {settings : Settings} {s t : LogSession} (h : settings.Routes s t.tree)
    (uses : List LogUse) : settings.Routes s (t.run uses).tree := by
  induction uses generalizing t with
  | nil => exact h
  | cons u uses ih =>
    refine ih ?_
    rcases (t.use_keeps u).2 with hsame | ⟨name, hmore⟩
    · rw [hsame]
      exact h
    · rw [hmore]
      exact h.withLogger name

namespace Settings

open LogSession

variable (settings : Settings)

/-! ## The files of the handlers -/

def fileFront (directory : PathName) : String :=
  let names := PathName.collapse directory.names
  if names.isEmpty then "" else String.intercalate "/" names ++ "/"

theorem fileName_child (directory : PathName) {name : String} (hname : name ≠ "..") :
    fileName (directory.child name) = fileFront directory ++ name := by
  have hchild : PathName.collapse (directory.child name).names =
      PathName.collapse directory.names ++ [name] := by
    simp [PathName.collapse, PathName.child, hname]
  unfold fileName fileFront
  rw [hchild]
  induction PathName.collapse directory.names with
  | nil => simp
  | cons first names ih =>
    cases names with
    | nil => simp
    | cons second names => simp_all [String.append_assoc]

theorem not_isSeries {front own other : String} (hhead : own.toList.head? ≠ other.toList.head?)
    (hown : own ≠ "") : ¬ LogFiles.IsSeries (front ++ own) (front ++ other) := by
  have hdiffer (tail : String) : front ++ other ≠ front ++ own ++ tail := by
    intro h
    rw [String.append_assoc, String.append_right_inj] at h
    apply hhead
    rw [h, String.toList_append]
    cases hletters : own.toList with
    | nil => exact absurd (String.toList_eq_nil_iff.mp hletters) hown
    | cons c letters => rfl
  rintro (h | ⟨n, h⟩)
  · exact hdiffer "" (by rw [h, String.append_empty])
  · exact hdiffer _ (by rw [h, LogFiles.numbered, String.append_assoc])

/-- A handler writes to the console, or to a file with its own name. -/
theorem sink_handler {h : HandlerConfig} (hmem : h ∈ settings.logging.handlers) :
    (settings.logging.handler h).sink = .console ∨ ∃ directory maxBytes backups,
      settings.logging.fileDirectory? = some directory ∧
      (h.name = "file" ∧ (settings.logging.handler h).sink =
          .file (fileFront directory ++ "catalog.log") maxBytes backups ∨
        h.name = "error_file" ∧ (settings.logging.handler h).sink =
          .file (fileFront directory ++ "errors.log") maxBytes backups) := by
  unfold LogSettings.handlers at hmem
  rcases List.mem_cons.mp hmem with rfl | hmem
  · exact .inl rfl
  · cases hfile : settings.logging.fileDirectory? with
    | none =>
      rw [hfile] at hmem
      rw [List.mem_singleton.mp hmem]
      exact .inl rfl
    | some directory =>
      rw [hfile] at hmem
      refine .inr ⟨directory, settings.logMaxBytes, settings.logBackupCount, rfl, ?_⟩
      rw [← fileName_child directory (by decide), ← fileName_child directory (by decide)]
      rcases List.mem_pair.mp hmem with rfl | rfl
      · exact .inl ⟨rfl, rfl⟩
      · exact .inr ⟨rfl, rfl⟩

/-- No handler gets at the file of another one. -/
theorem not_touches {g h : HandlerConfig} (hg : g ∈ settings.logging.handlers)
    (hh : h ∈ settings.logging.handlers) (hname : h.name ≠ g.name) {path : String}
    {maxBytes backups : Int}
    (hsink : (settings.logging.handler h).sink = .file path maxBytes backups) :
    ¬ (settings.logging.handler g).Touches path := by
  rintro ⟨own, limit, count, hown, hseries⟩
  rcases settings.sink_handler hh with hconsole | ⟨directory, _, _, hdirectory, hfile⟩
  · rw [hconsole] at hsink
    cases hsink
  rcases settings.sink_handler hg with hconsole | ⟨directory', _, _, hdirectory', hfile'⟩
  · rw [hconsole] at hown
    cases hown
  obtain rfl : directory = directory' := by
    rw [hdirectory] at hdirectory'
    exact Option.some.inj hdirectory'
  rcases hfile with ⟨hh, hfile⟩ | ⟨hh, hfile⟩ <;> rcases hfile' with ⟨hg, hfile'⟩ | ⟨hg, hfile'⟩
  · exact hname (hh.trans hg.symm)
  · rw [hfile] at hsink
    rw [hfile'] at hown
    cases hsink
    cases hown
    exact not_isSeries (by decide) (by decide) hseries
  · rw [hfile] at hsink
    rw [hfile'] at hown
    cases hsink
    cases hown
    exact not_isSeries (by decide) (by decide) hseries
  · exact hname (hh.trans hg.symm)

/-! ## Which handlers serve a record -/

def serves (t : LogSession) (r : Record) (h : HandlerConfig) : Bool :=
  t.effectiveLevel r.logger ≤ r.level && (settings.logging.handler h).level ≤ r.level &&
    (!(t.tree.path (Logger.properName r.logger)).contains LogSettings.statementLogger ||
      h.name == "console")

theorem rootHandlers_ne_nil : settings.rootHandlers ≠ [] := by
  simp [rootHandlers, LogSettings.handlers]

theorem level_pos_of_mem_rootHandlers {g : Handler} (hmem : g ∈ settings.rootHandlers) :
    0 < g.level := by
  obtain ⟨h, hh, rfl⟩ := List.mem_map.mp hmem
  rcases settings.level_of_mem_handlers hh with hlevel | hlevel <;>
    exact (settings.logging.level_handler hlevel).symm ▸ number_pos _

variable {s t : LogSession}

theorem received_eq (hroutes : settings.Routes s t.tree) (r : Record) :
    t.received r = if 0 < r.level ∧ t.effectiveLevel r.logger ≤ r.level then
      deliveries t.transactions.current
        (if LogSettings.statementLogger ∈ t.tree.path (Logger.properName r.logger) then
          [settings.console] else settings.rootHandlers) (t.passLogger r)
      else [] := by
  have hhandlers := hroutes.handlersOf (Logger.properName r.logger)
  have hfound : (handlersOf (t.chain r.logger)).isEmpty = false := by
    unfold chain
    rw [hhandlers]
    split
    · rfl
    · simpa using settings.rootHandlers_ne_nil
  unfold received isEnabled
  dsimp only
  rw [hfound, if_neg Bool.false_ne_true, chain, hhandlers]
  simp only [Bool.and_eq_true, decide_eq_true_eq]

theorem filter_serves (t : LogSession) (r : Record) :
    (settings.logging.handlers.filter (settings.serves t r)).map settings.logging.handler =
      if t.effectiveLevel r.logger ≤ r.level then
        (if LogSettings.statementLogger ∈ t.tree.path (Logger.properName r.logger) then
          [settings.console] else settings.rootHandlers).filter (·.level ≤ r.level)
      else [] := by
  have hmap (handlers : List HandlerConfig) : (handlers.filter fun h =>
      decide ((settings.logging.handler h).level ≤ r.level)).map settings.logging.handler =
        (handlers.map settings.logging.handler).filter (·.level ≤ r.level) := by
    rw [List.filter_map]
    rfl
  by_cases hlevel : t.effectiveLevel r.logger ≤ r.level
  · rw [if_pos hlevel]
    by_cases hstatement : LogSettings.statementLogger ∈ t.tree.path (Logger.properName r.logger)
    · have hserves : settings.serves t r = fun h =>
          decide ((settings.logging.handler h).level ≤ r.level) && h.name == "console" := by
        funext h
        simp [serves, hlevel, hstatement]
      rw [hserves, ← List.filter_filter, LogSettings.filter_console, if_pos hstatement, hmap]
      rfl
    · have hserves : settings.serves t r =
          fun h => decide ((settings.logging.handler h).level ≤ r.level) := by
        funext h
        simp [serves, hlevel, hstatement]
      rw [hserves, if_neg hstatement, hmap]
      rfl
  · have hserves : settings.serves t r = fun _ => false := by
      funext h
      simp [serves, hlevel]
    rw [hserves, if_neg hlevel, List.filter_false]
    rfl

theorem map_fst_received (hroutes : settings.Routes s t.tree) (r : Record) :
    (t.received r).map (·.1) =
      (settings.logging.handlers.filter (settings.serves t r)).map settings.logging.handler := by
  rw [filter_serves, received_eq settings hroutes]
  by_cases hpos : 0 < r.level
  · simp only [hpos, true_and]
    split
    · rw [map_fst_deliveries, level_passLogger]
    · rfl
  · have hnone : (if LogSettings.statementLogger ∈ t.tree.path (Logger.properName r.logger) then
        [settings.console] else settings.rootHandlers).filter (·.level ≤ r.level) = [] := by
      refine List.filter_eq_nil_iff.mpr fun g hg => ?_
      have hg : g ∈ settings.rootHandlers := by
        split at hg
        · rw [List.mem_singleton.mp hg]
          exact List.mem_map_of_mem List.mem_cons_self
        · exact hg
      have hlevel := settings.level_pos_of_mem_rootHandlers hg
      simp only [decide_eq_true_eq]
      omega
    rw [if_neg fun h => hpos h.1, hnone, ite_self]
    rfl

theorem exists_config_of_mem_received (hroutes : settings.Routes s t.tree) {r : Record}
    {d : Handler × Record} (hd : d ∈ t.received r) :
    ∃ h ∈ settings.logging.handlers, settings.logging.handler h = d.1 := by
  have hmem : d.1 ∈ (t.received r).map (·.1) := List.mem_map_of_mem hd
  rw [settings.map_fst_received hroutes] at hmem
  obtain ⟨h, hh, hmade⟩ := List.mem_map.mp hmem
  exact ⟨h, (List.mem_filter.mp hh).1, hmade⟩

theorem nodup_received (hroutes : settings.Routes s t.tree) (r : Record) :
    ((t.received r).map (·.1.name)).Nodup := by
  have hnames : (t.received r).map (·.1.name) =
      (settings.logging.handlers.filter (settings.serves t r)).map (·.name) := by
    calc (t.received r).map (·.1.name) = ((t.received r).map (·.1)).map (·.name) := by simp
      _ = _ := by
        rw [settings.map_fst_received hroutes, List.map_map]
        rfl
  rw [hnames]
  exact settings.logging.nodup_handlers.sublist (List.filter_sublist.map _)

theorem redacted_of_received (hroutes : settings.Routes s t.tree) {r x : Record} {h : Handler}
    {before after : List (Handler × Record)} (hsplit : t.received r = before ++ (h, x) :: after) :
    x = ((handedOn r before).identify t.transactions.current).redact := by
  obtain ⟨g, -, hg⟩ := settings.exists_config_of_mem_received hroutes
    (show (h, x) ∈ t.received r by rw [hsplit]; simp)
  have hfilters : h.filters = [.transaction, .redaction] := by
    rw [← show settings.logging.handler g = h from hg]
    rfl
  rw [received_eq settings hroutes] at hsplit
  split at hsplit
  · have hpassed := deliveries_split hsplit
    rw [hpassed, hfilters]
    cases before with
    | nil => exact congrArg Record.redact (identify_passLogger t r)
    | cons first before => rfl
  · simp at hsplit

theorem written_log (hroutes : settings.Routes s t.tree) (r : Record) :
    Written (t.received r) t.files ⟨(t.log r).2.2, (t.log r).2.1.files⟩ := by
  refine written_foldl_emit (settings.nodup_received hroutes r)
    (fun d hd e he hname path maxBytes backups hsink => ?_) t.files
  obtain ⟨h, hh, hd⟩ := settings.exists_config_of_mem_received hroutes hd
  obtain ⟨g, hg, he⟩ := settings.exists_config_of_mem_received hroutes he
  rw [← hd] at hsink hname
  rw [← he] at hname ⊢
  exact settings.not_touches hg hh hname hsink

/-- After setting up, whatever has been logged since, a record gets to just those handlers that
serve it, to each once, and what a handler gets has passed the filter for transactions and then
the one for secrets. Each writes it as one line, and nothing else is written. The level that
counts is that of the nearest logger that has one; and it is the loggers above a name that make it
one for statements of the database layer. Where no two dots of a name are side by side, the name
itself shows that, and loggers below the configured ones have no level of their own. -/
theorem delivered_once (s : LogSession) (uses : List LogUse) (r : Record) :
    let t := (s.setup settings.logging).1.run uses
    let name := Logger.properName r.logger
    (s.setup settings.logging).2 = none ∧
    (t.received r).map (·.1) =
      (settings.logging.handlers.filter (settings.serves t r)).map settings.logging.handler ∧
    ((t.received r).map (·.1.name)).Nodup ∧
    (∀ before h x after, t.received r = before ++ (h, x) :: after →
      x = ((handedOn r before).identify t.transactions.current).redact) ∧
    Written (t.received r) t.files ⟨(t.log r).2.2, (t.log r).2.1.files⟩ ∧
    t.effectiveLevel r.logger =
      (((t.tree.path name).map (settings.ownLevel s)).find? (· != 0)).getD 0 ∧
    (∀ other : String, ¬ ['.', '.'] <:+: other.toList →
      other.startsWith (LogSettings.storeLogger ++ ".") ∨
        other.startsWith (LogSettings.statementLogger ++ ".") → settings.ownLevel s other = 0) ∧
    (¬ ['.', '.'] <:+: name.toList → (LogSettings.statementLogger ∈ t.tree.path name ↔
      name = LogSettings.statementLogger ∨
        name.startsWith (LogSettings.statementLogger ++ "."))) := by
  obtain ⟨hset, hstart, -⟩ := settings.setup_logging s
  intro t name
  have hroutes : settings.Routes s t.tree := hstart.run uses
  refine ⟨hset, settings.map_fst_received hroutes r, settings.nodup_received hroutes r,
    fun before h x after => settings.redacted_of_received hroutes, settings.written_log hroutes r, ?_,
    fun other => settings.ownLevel_of_startsWith s, ?_⟩
  · unfold effectiveLevel chain
    rw [LoggerTree.nearestLevel_eq]
    congr 2
    exact List.map_congr_left fun other _ => hroutes.level other
  · exact LoggerTree.mem_path_iff (by decide) (by rw [hroutes.statements]; rfl)

def warningOf (logger : String) : Record :=
  ⟨logger, 30, "WARNING", .text "connection lost", .positional [], "", 0, {}, 0, 0, [], none, "", ""⟩

theorem delivered_once_statement :
    let t := ((LogSession.fresh [("sqlalchemy", 30)]).setup defaults.logging).1
    let r := warningOf LogSettings.statementLogger
    ∃ x, t.received r = [(defaults.console, x)] ∧
      x = (r.identify t.transactions.current).redact ∧
      ¬ ['.', '.'] <:+: LogSettings.statementLogger.toList ∧
      LogSettings.statementLogger ∈ t.tree.path LogSettings.statementLogger := by
  intro t r
  obtain ⟨-, hhandlers, -, hpassed, -, hlevel, -, hname⟩ :=
    defaults.delivered_once (.fresh [("sqlalchemy", 30)]) [] r
  have hdots : ¬ ['.', '.'] <:+: LogSettings.statementLogger.toList := by decide
  have hpath : LogSettings.statementLogger ∈ t.tree.path LogSettings.statementLogger :=
    (hname hdots).mpr (.inl rfl)
  have hroutes := (defaults.setup_logging (.fresh [("sqlalchemy", 30)])).2.1
  have hown : t.effectiveLevel r.logger = 30 := by
    obtain ⟨rest, hrest⟩ : ∃ rest, t.tree.path LogSettings.statementLogger =
        LogSettings.statementLogger :: rest := by
      unfold LoggerTree.path LoggerTree.below
      rw [show t.tree.find? LogSettings.statementLogger = some defaults.statementLogger from
        hroutes.statements]
      exact ⟨_, rfl⟩
    change t.effectiveLevel r.logger = (((t.tree.path LogSettings.statementLogger).map _).find? _).getD 0
      at hlevel
    rw [hlevel, hrest]
    rfl
  have hserving : defaults.logging.handlers.filter (defaults.serves t r) =
      [defaults.logging.consoleHandler] := by
    have hserves (h : HandlerConfig) : defaults.serves t r h =
        (decide ((defaults.logging.handler h).level ≤ 30) && h.name == "console") := by
      have hway : LogSettings.statementLogger ∈ t.tree.path (Logger.properName r.logger) := hpath
      have hsevere : r.level = 30 := rfl
      simp [serves, hown, hway, hsevere]
    rw [funext hserves]
    rfl
  change (t.received r).map (·.1) = (defaults.logging.handlers.filter (defaults.serves t r)).map _
    at hhandlers
  rw [hserving] at hhandlers
  obtain ⟨⟨h, x⟩, hreceived, hconsole⟩ := List.map_eq_singleton_iff.mp hhandlers
  obtain rfl : h = defaults.console := hconsole
  exact ⟨x, hreceived, hpassed [] _ x [] hreceived, hdots, hpath⟩

end Settings

end ObjectCatalog
