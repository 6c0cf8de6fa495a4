import Mathlib.Data.List.Nodup
import ObjectCatalog.Proofs.Log.Handling
import ObjectCatalog.Proofs.Log.Loggers

/-! # The tree of loggers that settings make

Validated settings can always be set up. The root and the store's logger then have the configured
level, and statements of the database layer have a level of their own and go to the console alone.
Loggers of other libraries keep the levels they have been given, and hand their records on to the
root.
-/
namespace ObjectCatalog

def LogLevel.number : LogLevel → Int
  | .debug => 10
  | .info => 20
  | .warning => 30
  | .error => 40
  | .critical => 50

theorem levelNumber?_name (level : LogLevel) :
    levelNumber? (.text level.name) = some level.number := by
  cases level <;> decide

/-! ## The handlers of validated settings -/

namespace LogSettings

open LogSession

def handler (s : LogSettings) (h : HandlerConfig) : Handler :=
  ⟨h.name, (levelNumber? h.level).getD 0, [.transaction, .redaction], layoutOf s h.structured,
    (sinkOf? h.target).getD .console⟩

theorem level_handler (s : LogSettings) {h : HandlerConfig} {level : LogLevel}
    (hlevel : h.level = .text level.name) : (s.handler h).level = level.number := by
  unfold handler
  rw [hlevel, levelNumber?_name]
  rfl

theorem eq_of_mem_handlers {s : LogSettings} {h : HandlerConfig} (hmem : h ∈ s.handlers) :
    h = s.consoleHandler ∨ h = errorConsoleHandler ∨
      ∃ directory, h = s.fileHandlerIn directory ∨ h = s.errorFileHandlerIn directory := by
  unfold handlers at hmem
  rcases List.mem_cons.mp hmem with rfl | hmem
  · exact .inl rfl
  · cases hfile : s.fileDirectory? with
    | none =>
      rw [hfile] at hmem
      exact .inr (.inl (List.mem_singleton.mp hmem))
    | some directory =>
      rw [hfile] at hmem
      exact .inr (.inr ⟨directory, List.mem_pair.mp hmem⟩)

theorem nodup_handlers (s : LogSettings) : (s.handlers.map (·.name)).Nodup := by
  unfold handlers
  cases s.fileDirectory? with
  | none => simp [consoleHandler, errorConsoleHandler]
  | some directory => simp [consoleHandler, fileHandlerIn, errorFileHandlerIn]

theorem filter_console (s : LogSettings) :
    s.handlers.filter (·.name == "console") = [s.consoleHandler] := by
  unfold handlers
  cases s.fileDirectory? with
  | none => simp [consoleHandler, errorConsoleHandler]
  | some directory => simp [consoleHandler, fileHandlerIn, errorFileHandlerIn]

end LogSettings

namespace Settings

open LogSession

variable (settings : Settings)

theorem level_of_mem_handlers {h : HandlerConfig} (hmem : h ∈ settings.logging.handlers) :
    h.level = .text settings.logLevel.name ∨ h.level = .text LogLevel.error.name := by
  rcases LogSettings.eq_of_mem_handlers hmem with rfl | rfl | ⟨directory, rfl | rfl⟩
  · exact .inl rfl
  · exact .inr rfl
  · exact .inl rfl
  · exact .inr rfl

theorem sink_of_mem_handlers {h : HandlerConfig} (hmem : h ∈ settings.logging.handlers) :
    (sinkOf? h.target).isSome = true := by
  rcases LogSettings.eq_of_mem_handlers hmem with rfl | rfl | ⟨directory, rfl | rfl⟩ <;> rfl

theorem handlerOf_of_mem {h : HandlerConfig} (hmem : h ∈ settings.logging.handlers) :
    handlerOf settings.logging h = .ok (h.name, settings.logging.handler h) := by
  obtain ⟨sink, hsink⟩ := Option.isSome_iff_exists.mp (settings.sink_of_mem_handlers hmem)
  have hfilters : (HandlerConfig.filterNames.filterMap fun name => RecordFilter.table.lookup name) =
      [.transaction, .redaction] := by decide
  have hlevel : ∃ level : LogLevel, h.level = .text level.name := by
    rcases settings.level_of_mem_handlers hmem with hlevel | hlevel <;> exact ⟨_, hlevel⟩
  obtain ⟨level, hlevel⟩ := hlevel
  simp only [handlerOf, LogSettings.handler, hsink, hlevel, levelNumber?_name, Value.isNull, hfilters,
    Option.getD_some]
  rfl

theorem mapM_handlerOf {handlers : List HandlerConfig}
    (hall : ∀ h ∈ handlers, h ∈ settings.logging.handlers) :
    handlers.mapM (handlerOf settings.logging) =
      .ok (handlers.map fun h => (h.name, settings.logging.handler h)) := by
  induction handlers with
  | nil => rfl
  | cons h handlers ih =>
    have hfirst := settings.handlerOf_of_mem (hall h List.mem_cons_self)
    have hrest := ih fun g hg => hall g (List.mem_cons_of_mem h hg)
    rw [List.mapM_cons, hfirst, hrest]
    rfl

theorem lookup_map_name {handlers : List HandlerConfig} {make : HandlerConfig → Handler}
    {h : HandlerConfig} (hnodup : (handlers.map (·.name)).Nodup) (hmem : h ∈ handlers) :
    (handlers.map fun h => (h.name, make h)).lookup h.name = some (make h) := by
  induction handlers with
  | nil => cases hmem
  | cons g handlers ih =>
    obtain ⟨hg, hnodup⟩ := List.nodup_cons.mp hnodup
    rw [List.map_cons, List.lookup_cons]
    rcases List.mem_cons.mp hmem with rfl | hmem
    · simp
    · have hother : (h.name == g.name) = false := by
        have hne : h.name ≠ g.name := fun heq => hg (List.mem_map.mpr ⟨h, hmem, heq⟩)
        simpa using hne
      rw [hother]
      exact ih hnodup hmem

/-- Handlers are found by their names, in whatever order they are made. -/
theorem exists_handlersFor : ∃ made, handlersFor settings.logging = .ok made ∧
    ∀ h ∈ settings.logging.handlers, made.lookup h.name = some (settings.logging.handler h) := by
  have hperm := List.mergeSort_perm settings.logging.handlers fun a b => decide (a.name ≤ b.name)
  refine ⟨_, settings.mapM_handlerOf fun h hmem => hperm.mem_iff.mp hmem, fun h hmem => ?_⟩
  apply lookup_map_name
  · exact (hperm.map _).nodup_iff.mpr settings.logging.nodup_handlers
  · exact hperm.mem_iff.mpr hmem

/-! ## The tree of loggers -/

def rootHandlers : List Handler := settings.logging.handlers.map settings.logging.handler

def console : Handler := settings.logging.handler settings.logging.consoleHandler

def statementLevel : Int := if settings.sqlLogging then 10 else 30

def storeLogger : Logger := ⟨LogSettings.storeLogger, settings.logLevel.number, true, []⟩

def statementLogger : Logger :=
  ⟨LogSettings.statementLogger, settings.statementLevel, false, [settings.console]⟩

def ownLevel (s : LogSession) (name : String) : Int :=
  if name = "" ∨ name = LogSettings.storeLogger then settings.logLevel.number
  else if name = LogSettings.statementLogger then settings.statementLevel
  else if s.tree.resets LogSettings.storeLogger name ∨ s.tree.resets LogSettings.statementLogger name then 0
  else s.tree.ownLevel name

/-- Loggers below a configured one have no level of their own, if their names have single dots
alone. -/
theorem ownLevel_of_startsWith (s : LogSession) {name : String}
    (hdots : ¬ ['.', '.'] <:+: name.toList)
    (hbelow : name.startsWith (LogSettings.storeLogger ++ ".") ∨
      name.startsWith (LogSettings.statementLogger ++ ".")) : settings.ownLevel s name = 0 := by
  have hnone : ∀ configured ∈ ["", LogSettings.storeLogger, LogSettings.statementLogger],
      ¬ ((LogSettings.storeLogger ++ ".").toList <+: configured.toList ∨
        (LogSettings.statementLogger ++ ".").toList <+: configured.toList) := by
    decide
  have hother : ∀ configured ∈ ["", LogSettings.storeLogger, LogSettings.statementLogger],
      name ≠ configured := by
    rintro configured hconfigured rfl
    simp only [String.startsWith_string_iff] at hbelow
    exact hnone name hconfigured hbelow
  have hempty : name ≠ "" := hother _ (by simp)
  have hstore : name ≠ LogSettings.storeLogger := hother _ (by simp)
  have hstatement : name ≠ LogSettings.statementLogger := hother _ (by simp)
  simp only [ownLevel, hempty, hstore, hstatement, or_self, if_false]
  cases hfound : s.tree.find? name with
  | none => simp [LoggerTree.ownLevel, hfound, hempty]
  | some l =>
    have hthere : (s.tree.find? name).isSome := by simp [hfound]
    exact if_pos (hbelow.imp (LoggerTree.resets_of_startsWith (by decide) hthere hdots)
      (LoggerTree.resets_of_startsWith (by decide) hthere hdots))

/-- Where records go, and from which level on, in a tree that settings have made out of that of
`s`. -/
structure Routes (s : LogSession) (t : LoggerTree) : Prop where
  root : t.root = ⟨"", settings.logLevel.number, true, settings.rootHandlers⟩
  statements : t.find? LogSettings.statementLogger = some settings.statementLogger
  level : ∀ name, t.ownLevel name = settings.ownLevel s name

theorem loggerOf_eq (s : LogSession) {made : List (String × Handler)} {l : LoggerConfig} {level : Int}
    (hlevel : levelNumber? l.level = some level) : s.loggerOf made l =
      ⟨l.name, level, l.propagate, (l.handlers.getD []).filterMap fun name => made.lookup name⟩ := by
  have hnull : l.level.isNull = false := by
    cases hvalue : l.level <;> first | rfl | simp [hvalue, levelNumber?, wholeNumber?] at hlevel
  simp [loggerOf, hlevel, hnull]

theorem levelNumber?_statements :
    levelNumber? (.text (if settings.logging.showStatements then "DEBUG" else "WARNING")) =
      some settings.statementLevel := by
  change levelNumber? (.text (if settings.sqlLogging then "DEBUG" else "WARNING")) = _
  unfold statementLevel
  cases settings.sqlLogging <;> decide

theorem filterMap_lookup {made : List (String × Handler)} {handlers : List HandlerConfig}
    {make : HandlerConfig → Handler}
    (hmade : ∀ h ∈ handlers, made.lookup h.name = some (make h)) :
    (handlers.map (·.name)).filterMap (fun name => made.lookup name) = handlers.map make := by
  rw [List.filterMap_map]
  exact List.filterMap_eq_map_iff_forall_eq_some.mpr hmade

/-- Loggers that are not configured are found as before, without their levels where those go. -/
theorem find?_keptLoggers (s : LogSession) {configured : List LoggerConfig} {name : String}
    (hname : ∀ c ∈ configured, c.name ≠ name) :
    (s.keptLoggers configured).find? (·.name == name) = (s.tree.find? name).map fun l =>
      if configured.any fun c => s.tree.resets c.name l.name then .unset l.name else l := by
  unfold keptLoggers LoggerTree.find?
  rw [List.find?_map, List.find?_filter]
  congr 1
  refine congrArg (List.find? · s.tree.loggers) (funext fun l => ?_)
  have hkept : (if configured.any fun c => s.tree.resets c.name l.name then Logger.unset l.name
      else l).name = l.name := by
    split <;> rfl
  rw [Function.comp_apply, hkept]
  cases hl : l.name == name with
  | false => simp
  | true =>
    have hother : (configured.any (·.name == l.name)) = false := by
      rw [eq_of_beq hl]
      simpa using hname
    simp [hother]

theorem routes_configuredTree (s : LogSession) {made : List (String × Handler)}
    (hmade : ∀ h ∈ settings.logging.handlers,
      made.lookup h.name = some (settings.logging.handler h)) :
    settings.Routes s (s.configuredTree settings.logging made) := by
  have hconsole : made.lookup "console" = some settings.console :=
    hmade settings.logging.consoleHandler List.mem_cons_self
  have hlevel := levelNumber?_name settings.logLevel
  have hroot : s.loggerOf made settings.logging.rootLogger =
      ⟨"", settings.logLevel.number, true, settings.rootHandlers⟩ := by
    rw [loggerOf_eq s hlevel]
    simp [LogSettings.rootLogger, filterMap_lookup hmade, rootHandlers]
  have hnamed : settings.logging.namedLoggers.map (s.loggerOf made) =
      [settings.storeLogger, settings.statementLogger] := by
    unfold LogSettings.namedLoggers
    rw [List.map_cons, List.map_cons, List.map_nil, loggerOf_eq s hlevel,
      loggerOf_eq s settings.levelNumber?_statements]
    simp [hconsole, storeLogger, statementLogger]
  have hfind (name : String) : (s.configuredTree settings.logging made).find? name =
      (settings.storeLogger :: settings.statementLogger ::
        s.keptLoggers settings.logging.namedLoggers).find? (·.name == name) := by
    rw [show settings.storeLogger :: settings.statementLogger :: s.keptLoggers _ = _ ++ _ from
      congrArg (· ++ s.keptLoggers settings.logging.namedLoggers) hnamed.symm]
    rfl
  refine ⟨hroot, by rw [hfind]; rfl, fun name => ?_⟩
  unfold LoggerTree.ownLevel ownLevel
  rw [hfind, show (s.configuredTree settings.logging made).root = _ from hroot]
  by_cases hempty : name = ""
  · simp [hempty]
  by_cases hstore : name = LogSettings.storeLogger
  · rw [hstore]
    rfl
  by_cases hstatement : name = LogSettings.statementLogger
  · rw [hstatement]
    rfl
  have hother : ∀ c ∈ settings.logging.namedLoggers, c.name ≠ name := by
    simp [LogSettings.namedLoggers, Ne.symm hstore, Ne.symm hstatement]
  rw [List.find?_cons_of_neg (by simpa [storeLogger] using Ne.symm hstore),
    List.find?_cons_of_neg (by simpa [statementLogger] using Ne.symm hstatement),
    find?_keptLoggers s hother]
  simp only [hempty, hstore, hstatement, or_self, if_false, LoggerTree.ownLevel, beq_iff_eq]
  cases hfound : s.tree.find? name with
  | none => simp
  | some l =>
    simp only [Option.map_some, Option.getD_some, LogSettings.namedLoggers, List.any_cons,
      List.any_nil, Bool.or_false, Bool.or_eq_true, LoggerTree.name_of_find? hfound]
    split <;> rfl

theorem makeDirectory_keeps (s : LogSession) (given : LogSettings) :
    (s.makeDirectory given).tree = s.tree ∧
      (s.makeDirectory given).rootFilters = s.rootFilters := by
  unfold makeDirectory
  split <;> exact ⟨rfl, rfl⟩

/-- Setting up does not fail, whatever was there before. -/
theorem setup_logging (s : LogSession) : (s.setup settings.logging).2 = none ∧
    settings.Routes s (s.setup settings.logging).1.tree ∧
      (s.setup settings.logging).1.rootFilters = s.rootFilters + 1 := by
  obtain ⟨made, hmade, hlookup⟩ := settings.exists_handlersFor
  obtain ⟨htree, hfilters⟩ := makeDirectory_keeps s settings.logging
  have hroutes := settings.routes_configuredTree (s.makeDirectory settings.logging) hlookup
  obtain ⟨t, hconfigured, hmadeTree, hmore⟩ : ∃ t,
      (s.makeDirectory settings.logging).configure settings.logging = .ok t ∧
        t.tree = (s.makeDirectory settings.logging).configuredTree settings.logging made ∧
        t.rootFilters = (s.makeDirectory settings.logging).rootFilters + 1 := by
    unfold configure
    rw [hmade]
    exact ⟨_, rfl, rfl, rfl⟩
  unfold setup
  dsimp only
  rw [hconfigured]
  refine ⟨rfl, ?_, by rw [hmore, hfilters]⟩
  rw [hmadeTree]
  refine ⟨hroutes.root, hroutes.statements, fun name => ?_⟩
  rw [hroutes.level, ownLevel, ownLevel, htree]

namespace Routes

variable {settings : Settings} {s : LogSession} {t : LoggerTree}

/-- Loggers that are asked for later change nothing. -/
theorem withLogger (h : settings.Routes s t) (name : String) :
    settings.Routes s (t.withLogger name) where
  root := by rw [LoggerTree.root_withLogger, h.root]
  statements := by
    rw [LoggerTree.find?_withLogger, h.statements]
    simp
  level := fun other => by rw [LoggerTree.ownLevel_withLogger, h.level]

theorem handlersOf (h : settings.Routes s t) (name : String) :
    LogSession.handlersOf (t.chain name) =
      if LogSettings.statementLogger ∈ t.path name then [settings.console]
      else settings.rootHandlers := by
  rw [LoggerTree.handlersOf_chain h.statements rfl, h.root]
  rfl

end Routes

theorem number_pos (level : LogLevel) : 0 < level.number := by
  cases level <;> decide

end Settings

end ObjectCatalog
