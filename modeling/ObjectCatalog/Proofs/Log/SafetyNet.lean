import ObjectCatalog.Proofs.Log.Delivery

/-! # What a handler that is added later sees

After setting up, other code may give any logger a level of its own and add handlers to the root.
The filter of the root is there for their sake, yet it sees records of the root itself only. A
record of any other logger has its identifier from a handler that was called before, if one was.
-/
namespace ObjectCatalog

/-! ## Changes from outside -/

namespace LoggerTree

def setLevel (t : LoggerTree) (name : String) (level : Int) : LoggerTree :=
  if name == "" then { t with root := { t.root with level } }
  else
    { t.withLogger name with
      loggers := (t.withLogger name).loggers.map fun l => if l.name == name then { l with level } else l
      plain := by
        intro l hl hother
        obtain ⟨m, hm, rfl⟩ := List.mem_map.mp hl
        have hplain := (t.withLogger name).plain m hm
        split at hother <;> rename_i hm
        · simpa [hm] using hplain hother
        · simpa [hm] using hplain hother }

def extendRoot (t : LoggerTree) (h : Handler) : LoggerTree :=
  { t with root := { t.root with handlers := t.root.handlers ++ [h] } }

variable {t : LoggerTree} {l : Logger} {name : String}

theorem root_setLevel (t : LoggerTree) (name : String) (level : Int) :
    (t.setLevel name level).root.handlers = t.root.handlers := by
  unfold setLevel
  split
  · rfl
  · exact congrArg Logger.handlers (root_withLogger t name)

/-- A logger that is there stays as it is but for its level. -/
theorem find?_setLevel (h : t.find? name = some l) (other : String) (level : Int) :
    ∃ own, (t.setLevel other level).find? name = some { l with level := own } := by
  unfold setLevel
  split
  · exact ⟨l.level, h⟩
  · have hthere : (t.withLogger other).find? name = some l := by
      rw [find?_withLogger, h]
      split <;> rfl
    unfold find? at hthere ⊢
    have hnames : (fun m : Logger => (if m.name == other then { m with level } else m).name == name) =
        fun m => m.name == name := by
      funext m
      split <;> rfl
    rw [List.find?_map, Function.comp_def, hnames, hthere]
    by_cases hl : l.name = other
    · exact ⟨level, by simp [hl]⟩
    · exact ⟨l.level, by simp [hl]⟩

end LoggerTree

inductive LogChange
  | use (u : LogUse)
  | setLevel (name : String) (level : Int)
  /-- A further handler of the root. -/
  | addHandler (h : Handler)

def addedHandlers (changes : List LogChange) : List Handler :=
  changes.filterMap fun
    | .addHandler h => some h
    | _ => none

namespace LogSession

def addHandler (s : LogSession) (h : Handler) : LogSession := { s with tree := s.tree.extendRoot h }

def change (s : LogSession) : LogChange → LogSession
  | .use u => s.use u
  | .setLevel name level => { s with tree := s.tree.setLevel (Logger.properName name) level }
  | .addHandler h => s.addHandler h

def changed (s : LogSession) (changes : List LogChange) : LogSession := changes.foldl change s

/-- Of the loggers below the root, only one has a handler, and it keeps records to itself. -/
structure Netted (console : Handler) (handlers : List Handler) (s : LogSession) : Prop where
  root : s.tree.root.handlers = handlers
  statements : ∃ level, s.tree.find? LogSettings.statementLogger =
    some ⟨LogSettings.statementLogger, level, false, [console]⟩
  filters : 0 < s.rootFilters

variable {s : LogSession} {console : Handler} {handlers : List Handler}

theorem netted_setup (settings : Settings) (s : LogSession) :
    Netted settings.console settings.rootHandlers (s.setup settings.logging).1 := by
  obtain ⟨-, hroutes, hfilters⟩ := settings.setup_logging s
  exact ⟨by rw [hroutes.root], ⟨_, hroutes.statements⟩, by omega⟩

theorem Netted.change (hs : s.Netted console handlers) (c : LogChange) :
    (s.change c).Netted console (handlers ++ addedHandlers [c]) := by
  obtain ⟨hroot, ⟨own, hstatements⟩, hfilters⟩ := hs
  cases c with
  | use u =>
    obtain ⟨hmore, htree⟩ := s.use_keeps u
    rw [show addedHandlers [.use u] = [] from rfl, List.append_nil]
    refine ⟨?_, ⟨own, ?_⟩, by rw [show (s.change (.use u)).rootFilters = _ from hmore]; exact hfilters⟩
    · rcases htree with hsame | ⟨name, hnew⟩
      · rw [show (s.change (.use u)).tree = _ from hsame, hroot]
      · rw [show (s.change (.use u)).tree = _ from hnew, LoggerTree.root_withLogger, hroot]
    · rcases htree with hsame | ⟨name, hnew⟩
      · rw [show (s.change (.use u)).tree = _ from hsame, hstatements]
      · rw [show (s.change (.use u)).tree = _ from hnew, LoggerTree.find?_withLogger, hstatements]
        split <;> rfl
  | setLevel name level =>
    rw [show addedHandlers [.setLevel name level] = [] from rfl, List.append_nil]
    exact ⟨(LoggerTree.root_setLevel _ _ _).trans hroot,
      LoggerTree.find?_setLevel hstatements _ level, hfilters⟩
  | addHandler h =>
    exact ⟨congrArg (· ++ [h]) hroot, ⟨own, hstatements⟩, hfilters⟩

theorem Netted.changed (hs : s.Netted console handlers) (changes : List LogChange) :
    (s.changed changes).Netted console (handlers ++ addedHandlers changes) := by
  induction changes generalizing s handlers with
  | nil =>
    rw [show addedHandlers [] = [] from rfl, List.append_nil]
    exact hs
  | cons c changes ih =>
    have hrest := ih (hs.change c)
    rw [List.append_assoc, addedHandlers, addedHandlers, ← List.filterMap_append] at hrest
    exact hrest

/-- A record gets to the handlers of the root, or to one handler below it. -/
theorem Netted.handlersOf (hs : s.Netted console handlers) (name : String) :
    handlersOf (s.chain name) = [console] ∨ handlersOf (s.chain name) = handlers := by
  obtain ⟨own, hstatements⟩ := hs.statements
  unfold chain
  rw [LoggerTree.handlersOf_chain hstatements rfl, hs.root]
  split
  · exact .inl rfl
  · exact .inr rfl

/-! ## Identifiers -/

variable {h : Handler} {r x : Record} {current : Option String}
  {before after : List (Handler × Record)}

/-- A handler sees an identifier if the record comes with one, or if the handler itself or one
before it that took the record gives identifiers. -/
theorem isIdentified_of_deliveries
    (hsplit : deliveries current handlers r = before ++ (h, x) :: after) :
    x.isIdentified = true ↔
      r.isIdentified = true ∨ ∃ g ∈ before.map (·.1) ++ [h], .transaction ∈ g.filters := by
  induction handlers generalizing r before with
  | nil => simp [deliveries] at hsplit
  | cons f handlers ih =>
    by_cases hlevel : f.level ≤ r.level
    · rw [deliveries_cons_of_le hlevel] at hsplit
      have hpass := Record.isIdentified_pass current f.filters r
      cases before with
      | nil =>
        cases hsplit
        simpa using hpass
      | cons first before =>
        obtain ⟨rfl, hrest⟩ := List.cons.inj hsplit
        rw [ih hrest, isIdentified_handOn, hpass]
        simp [or_assoc]
    · rw [deliveries_cons_of_lt hlevel] at hsplit
      exact ih hsplit

theorem isIdentified_passLogger (hfilters : 0 < s.rootFilters) (r : Record) :
    (s.passLogger r).isIdentified = true ↔
      r.isIdentified = true ∨ Logger.properName r.logger = "" := by
  unfold passLogger
  split
  · rename_i hroot
    have hsome : s.rootFilters ≠ 0 := by omega
    rw [Record.isIdentified_pass]
    simp [hsome, eq_of_beq hroot]
  · rename_i hother
    have hname : Logger.properName r.logger ≠ "" := by simpa using hother
    simp [hname]

/-- The handlers that a record gets to come from the tree, if there are any. -/
theorem received_eq_deliveries (hsplit : s.received r = before ++ (h, x) :: after)
    (hhandlers : handlersOf (s.chain r.logger) ≠ []) :
    deliveries s.transactions.current (handlersOf (s.chain r.logger)) (s.passLogger r) =
      before ++ (h, x) :: after := by
  unfold received at hsplit
  dsimp only at hsplit
  rw [List.isEmpty_eq_false_iff.mpr hhandlers] at hsplit
  split at hsplit
  · exact hsplit
  · simp at hsplit

end LogSession

namespace Settings

open LogSession

variable (settings : Settings)

theorem level_of_mem_rootHandlers {g : Handler} (hmem : g ∈ settings.rootHandlers) :
    g.level = settings.logLevel.number ∨ g.level = LogLevel.error.number := by
  obtain ⟨h, hh, rfl⟩ := List.mem_map.mp hmem
  rcases settings.level_of_mem_handlers hh with hlevel | hlevel
  · exact .inl (settings.logging.level_handler hlevel)
  · exact .inr (settings.logging.level_handler hlevel)

theorem exists_console_handler :
    ∃ g ∈ settings.rootHandlers, g.level = settings.logLevel.number :=
  ⟨settings.console, List.mem_map_of_mem List.mem_cons_self, settings.logging.level_handler rfl⟩

theorem exists_error_handler : ∃ g ∈ settings.rootHandlers, g.level = LogLevel.error.number := by
  obtain ⟨h, hmem, herror⟩ : ∃ h ∈ settings.logging.handlers,
      h.level = .text LogLevel.error.name := by
    unfold LogSettings.handlers
    cases settings.logging.fileDirectory? with
    | none => exact ⟨LogSettings.errorConsoleHandler, by simp, rfl⟩
    | some directory => exact ⟨settings.logging.errorFileHandlerIn directory, by simp, rfl⟩
  exact ⟨_, List.mem_map_of_mem hmem, settings.logging.level_handler herror⟩

/-- One of the handlers of the settings takes a record if it reaches the configured level, or is an
error. -/
theorem exists_taking_iff (level : Int) : (∃ g ∈ settings.rootHandlers, g.level ≤ level) ↔
    min settings.logLevel.number LogLevel.error.number ≤ level := by
  constructor
  · rintro ⟨g, hg, hlevel⟩
    rcases settings.level_of_mem_rootHandlers hg with hown | hown <;> omega
  · intro hlevel
    have hone : settings.logLevel.number ≤ level ∨ LogLevel.error.number ≤ level := by omega
    rcases hone with hlevel | hlevel
    · obtain ⟨g, hg, hconsole⟩ := settings.exists_console_handler
      exact ⟨g, hg, by omega⟩
    · obtain ⟨g, hg, herror⟩ := settings.exists_error_handler
      exact ⟨g, hg, by omega⟩

theorem filters_of_mem_rootHandlers {g : Handler} (hmem : g ∈ settings.rootHandlers) :
    g.filters = [.transaction, .redaction] := by
  obtain ⟨h, -, rfl⟩ := List.mem_map.mp hmem
  rfl

variable {h : Handler} {r x : Record} {current : Option String}
  {before after : List (Handler × Record)} {added : List Handler}

/-- Before a handler without filters, only those of the settings can have given an identifier. -/
theorem exists_giving_iff (hadded : ∀ g ∈ added, g.filters = []) (hplain : h.filters = [])
    (hsplit : deliveries current (settings.rootHandlers ++ added) r = before ++ (h, x) :: after) :
    (∃ g ∈ before.map (·.1) ++ [h], .transaction ∈ g.filters) ↔
      min settings.logLevel.number LogLevel.error.number ≤ r.level := by
  have hcalled : before.map (·.1) ++ h :: after.map (·.1) =
      settings.rootHandlers.filter (·.level ≤ r.level) ++ added.filter (·.level ≤ r.level) := by
    rw [← List.filter_append, ← map_fst_deliveries current, hsplit, List.map_append, List.map_cons]
  rw [← settings.exists_taking_iff]
  constructor
  · rintro ⟨g, hg, hgives⟩
    have hmem : g ∈ before.map (·.1) ++ h :: after.map (·.1) := by
      rcases List.mem_append.mp hg with hg | hg
      · exact List.mem_append_left _ hg
      · rw [List.mem_singleton.mp hg]
        simp
    rw [hcalled] at hmem
    rcases List.mem_append.mp hmem with hmem | hmem
    · obtain ⟨hroot, hlevel⟩ := List.mem_filter.mp hmem
      exact ⟨g, hroot, by simpa using hlevel⟩
    · rw [hadded g (List.mem_of_mem_filter hmem)] at hgives
      cases hgives
  · rintro ⟨g, hroot, hlevel⟩
    have hgives : .transaction ∈ g.filters := by simp [settings.filters_of_mem_rootHandlers hroot]
    have htaken : g ∈ settings.rootHandlers.filter (·.level ≤ r.level) :=
      List.mem_filter.mpr ⟨hroot, by simpa using hlevel⟩
    have hother : h ∉ settings.rootHandlers.filter (·.level ≤ r.level) := by
      intro hmem
      rw [settings.filters_of_mem_rootHandlers (List.mem_of_mem_filter hmem)] at hplain
      cases hplain
    -- the handlers of the settings are called first, so that all of them come before `h`
    rcases List.append_eq_append_iff.mp hcalled with ⟨rest, hroots, hrest⟩ | ⟨rest, hbefore, -⟩
    · cases rest with
      | nil =>
        rw [hroots, List.append_nil] at htaken
        exact ⟨g, by simp [htaken], hgives⟩
      | cons first rest =>
        obtain ⟨rfl, -⟩ := List.cons.inj hrest
        exact absurd (by simp [hroots]) hother
    · exact ⟨g, by simp [hbefore, htaken], hgives⟩

def plainHandler : Handler := ⟨"", 0, [], .plain, .console⟩

/-- A program in which the database layer has made its own logger. -/
def withLibrary : LogSession := .fresh [("sqlalchemy", 30)]

theorem effectiveLevel_pool :
    (withLibrary.setup settings.logging).1.effectiveLevel "sqlalchemy.pool" = 30 := by
  obtain ⟨-, hroutes, -⟩ := settings.setup_logging withLibrary
  generalize (withLibrary.setup settings.logging).1 = t at hroutes ⊢
  have hlibrary : t.tree.ownLevel "sqlalchemy" = 30 := hroutes.level _
  have hpool : t.tree.ownLevel "sqlalchemy.pool" = 0 := by
    rw [hroutes.level, ownLevel, if_neg (by decide), if_neg (by decide), if_neg (by decide +kernel)]
    rfl
  obtain ⟨l, hl⟩ : ∃ l, t.tree.find? "sqlalchemy" = some l := by
    cases hfound : t.tree.find? "sqlalchemy" with
    | some l => exact ⟨l, rfl⟩
    | none => simp [LoggerTree.ownLevel, hfound] at hlibrary
  obtain ⟨rest, habove⟩ : ∃ rest, t.tree.above "sqlalchemy.pool".toList.reverse = l :: rest := by
    have hletters : "sqlalchemy.pool".toList.reverse =
        "pool".toList.reverse ++ '.' :: 'y' :: "sqlalchem".toList.reverse := by decide
    rw [hletters, LoggerTree.above_append (by decide), LoggerTree.above_dot (by decide)]
    exact ⟨_, congrArg (fun found : Option Logger => found.toList ++ _) hl⟩
  unfold effectiveLevel chain
  rw [LoggerTree.nearestLevel_eq]
  unfold LoggerTree.path LoggerTree.below
  change (((((t.tree.find? "sqlalchemy.pool").toList ++
    t.tree.above "sqlalchemy.pool".toList.reverse).map (·.name) ++ [""]).map
      t.tree.ownLevel).find? (· != 0)).getD 0 = 30
  rw [habove]
  cases hfound : t.tree.find? "sqlalchemy.pool" with
  | none => simp [LoggerTree.name_of_find? hl, hlibrary]
  | some m =>
    simp [LoggerTree.name_of_find? hl, LoggerTree.name_of_find? hfound, hlibrary, hpool]

/-- A warning of the database layer, once the plain handler has been added. -/
theorem received_poolWarning :
    let t := (withLibrary.setup settings.logging).1.changed [.addHandler plainHandler]
    t.received (warningOf "sqlalchemy.pool") =
      deliveries t.transactions.current (settings.rootHandlers ++ [plainHandler])
        (warningOf "sqlalchemy.pool") := by
  intro t
  obtain ⟨-, hroutes, -⟩ := settings.setup_logging withLibrary
  have henabled : t.isEnabled "sqlalchemy.pool" 30 = true := by
    have hlevel : t.effectiveLevel "sqlalchemy.pool" = 30 := by
      have hbefore := settings.effectiveLevel_pool
      unfold effectiveLevel chain at hbefore ⊢
      rw [LoggerTree.nearestLevel_eq] at hbefore ⊢
      exact hbefore
    unfold isEnabled
    rw [hlevel]
    rfl
  have hhandlers : handlersOf (t.chain "sqlalchemy.pool") = settings.rootHandlers ++ [plainHandler] := by
    have hstatements : t.tree.find? LogSettings.statementLogger = some settings.statementLogger :=
      hroutes.statements
    have hroot : t.tree.root.handlers = settings.rootHandlers ++ [plainHandler] :=
      congrArg (fun root : Logger => root.handlers ++ [plainHandler]) hroutes.root
    have hother : LogSettings.statementLogger ∉ t.tree.path "sqlalchemy.pool" := by
      rw [LoggerTree.mem_path_iff (by decide) (by rw [hstatements]; rfl) (by decide)]
      decide +kernel
    unfold chain
    change handlersOf (t.tree.chain "sqlalchemy.pool") = _
    rw [LoggerTree.handlersOf_chain hstatements rfl, if_neg hother, hroot]
  have hsome : (settings.rootHandlers ++ [plainHandler]).isEmpty = false := by simp
  unfold received
  change (if t.isEnabled "sqlalchemy.pool" 30 then _ else _) = _
  rw [if_pos henabled]
  dsimp only
  rw [show (warningOf "sqlalchemy.pool").logger = "sqlalchemy.pool" from rfl, hhandlers, hsome]
  rfl

/-- Which handlers see an identifier on a record, after whatever changes from outside. If no handler
that is added has filters, they see one if the record comes with one, is one of the root itself, or
reaches the configured level or that of errors. -/
theorem sees_identifier_iff (s : LogSession) (changes : List LogChange) (r : Record) :
    let t := (s.setup settings.logging).1.changed changes
    ∀ before h x after, t.received r = before ++ (h, x) :: after →
      (x.isIdentified = true ↔ r.isIdentified = true ∨ Logger.properName r.logger = "" ∨
        ∃ g ∈ before.map (·.1) ++ [h], .transaction ∈ g.filters) ∧
      ((∀ g ∈ addedHandlers changes, g.filters = []) → h.filters = [] →
        (x.isIdentified = true ↔ r.isIdentified = true ∨ Logger.properName r.logger = "" ∨
          min settings.logLevel.number LogLevel.error.number ≤ r.level)) := by
  intro t before h x after hreceived
  have hnet : t.Netted settings.console (settings.rootHandlers ++ addedHandlers changes) :=
    (netted_setup settings s).changed changes
  have hhandlers := hnet.handlersOf r.logger
  have hsome : handlersOf (t.chain r.logger) ≠ [] := by
    rcases hhandlers with hconsole | hroot
    · simp [hconsole]
    · simp [hroot, settings.rootHandlers_ne_nil]
  have hsplit := received_eq_deliveries hreceived hsome
  have hseen : x.isIdentified = true ↔ r.isIdentified = true ∨ Logger.properName r.logger = "" ∨
      ∃ g ∈ before.map (·.1) ++ [h], .transaction ∈ g.filters := by
    rw [isIdentified_of_deliveries hsplit, isIdentified_passLogger hnet.filters, or_assoc]
  refine ⟨hseen, fun hadded hplain => ?_⟩
  rw [hseen]
  rcases hhandlers with hconsole | hroot
  · have hmem : h ∈ (deliveries t.transactions.current [settings.console]
        (t.passLogger r)).map (·.1) := by
      rw [← hconsole, hsplit]
      simp
    rw [map_fst_deliveries] at hmem
    obtain rfl := List.mem_singleton.mp (List.mem_of_mem_filter hmem)
    cases hplain
  · rw [hroot] at hsplit
    rw [settings.exists_giving_iff hadded hplain hsplit, level_passLogger]

theorem sees_identifier_default :
    let t := (withLibrary.setup defaults.logging).1.changed [.addHandler plainHandler]
    ∃ before x, t.received (warningOf "sqlalchemy.pool") = before ++ [(plainHandler, x)] ∧
      x.isIdentified = true := by
  intro t
  have hcalled : (t.received (warningOf "sqlalchemy.pool")).map (·.1) =
      [defaults.console] ++ [plainHandler] := by
    rw [defaults.received_poolWarning, map_fst_deliveries]
    rfl
  obtain ⟨before, last, hreceived, -, hlast⟩ := List.map_eq_append_iff.mp hcalled
  obtain ⟨⟨h, x⟩, rfl, hplain⟩ := List.map_eq_singleton_iff.mp hlast
  obtain rfl : h = plainHandler := hplain
  have hseen := (defaults.sees_identifier_iff withLibrary [.addHandler plainHandler]
    (warningOf "sqlalchemy.pool") before plainHandler x [] hreceived).2 (by simp [addedHandlers,
      plainHandler]) rfl
  exact ⟨before, x, hreceived, hseen.mpr (.inr (.inr (by decide)))⟩

/-- Where only errors are handled, the added handler gets the warning without an identifier. -/
theorem plainHandler_misses_identifier :
    let t := (withLibrary.setup { defaults with logLevel := .error }.logging).1.changed
      [.addHandler plainHandler]
    t.received (warningOf "sqlalchemy.pool") = [(plainHandler, warningOf "sqlalchemy.pool")] ∧
      (warningOf "sqlalchemy.pool").isIdentified = false := by
  intro t
  constructor
  · rw [Settings.received_poolWarning { defaults with logLevel := .error }]
    rfl
  · rfl

end Settings

end ObjectCatalog
