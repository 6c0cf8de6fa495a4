import Mathlib.Data.List.Forall2
import Mathlib.Data.List.Nodup
import ObjectCatalog.Log.JsonLine
import ObjectCatalog.Proofs.Decimal.Nearest
import ObjectCatalog.Proofs.Json.Encoding
import ObjectCatalog.Proofs.Log.RedactedMessage
import ObjectCatalog.Proofs.Log.Fits

/-! # What a line of JSON shows

A line stands for one object. Its first ten members are the record's own, then come its failure
and its stack where it has them, and then the further attributes of the record, each once and in
their order. None of these can take the place of a member in front of it. No sign of a line is a
control character; but a line is a text of the standard only as long as all numbers that it shows
are finite.
-/
namespace ObjectCatalog

open Json

/-- The further attributes of a record have different names, and their numbers are numbers of the
format. -/
structure Record.Proper (r : Record) : Prop where
  nodup : (r.extras.map Prod.fst).Nodup
  inFormat : ∀ name v, (name, v) ∈ r.extras → v.InFormat

namespace JsonLine

structure Proper (layout : JsonLine) : Prop where
  service : layout.service.InFormat
  environment : layout.environment.InFormat

variable {layout : JsonLine} {r : Record} {time message line : String}

/-! ## Members -/

def leading (layout : JsonLine) (r : Record) (time message : String) : List (String × Data) :=
  [("timestamp", .text time),
    ("level", .text r.severity),
    ("logger", .text r.logger),
    ("message", .text message),
    ("pathname", .text r.pathname),
    ("lineno", .number (toString r.line).toList),
    ("transaction_id", data r.transaction),
    ("service", data layout.service),
    ("env", data layout.environment),
    ("version", .text Manifest.ownVersion)]

def troubles (r : Record) : List (String × Data) :=
  (r.failure.map fun raised => ("exc_info", Data.text (Record.describeRaised raised))).toList ++
    (if r.stack = "" then [] else [("stack_info", .text r.stack)])

/-- May an attribute of this name be shown behind these members? -/
def Showable (members : List (String × Data)) (name : String) : Prop :=
  name ∉ Record.ownNames ∧ Record.isHidden name = false ∧ name ∉ members.map Prod.fst

instance (members : List (String × Data)) (name : String) : Decidable (Showable members name) :=
  inferInstanceAs (Decidable (_ ∧ _ ∧ _))

/-- A member shows an attribute: its value, or its display if something in the value has no form. -/
structure Shows (entry : String × Value) (member : String × Data) : Prop where
  name : member.1 = entry.1
  value : entry.2.HasForm → member.2 = data entry.2
  display : ¬ entry.2.HasForm → member.2 = .text entry.2.display

def shown (r : Record) : List (String × Data) :=
  (r.extras.filter fun entry => isExtra entry.1).map fun entry => (entry.1, data (written entry.2))

def members (layout : JsonLine) (r : Record) (time message : String) : List (String × Data) :=
  leading layout r time message ++ troubles r ++ shown r

theorem data_table (entries : List (String × Value)) :
    data (.table entries) = .object (entries.map fun entry => (entry.1, data entry.2)) := by
  rw [Value.table, data]
  congr 1
  induction entries with
  | nil => rfl
  | cons entry entries ih => rw [List.map_cons, dataOfEntries, ih, List.map_cons, nameOf_eq rfl]

theorem data_fields (layout : JsonLine) (r : Record) (time message : String) :
    data (.table (layout.fields r time message)) = .object (members layout r time message) := by
  rw [data_table]
  congr 1
  unfold fields members
  rw [List.map_append, List.map_append]
  congr 1
  · congr 1
    unfold failureFields troubles
    cases r.failure <;> by_cases hstack : r.stack = "" <;> simp [hstack, data]
  · simp [extraFields, shown, Function.comp_def]

/-! ## Writing -/

theorem write_eq_ok_iff : layout.write r = .ok line ↔
    ∃ time, r.timestamp layout.timePattern = .ok time ∧ ∃ message, r.message = .ok message ∧
      encode (some Value.display) (.table (layout.fields r time message)) = .ok line := by
  simp only [write, Except.bind_eq_ok_iff, Except.mapError_eq_ok_iff]

theorem write_eq_error_iff {e : LineError} : layout.write r = .error e ↔
    (∃ t, r.timestamp layout.timePattern = .error t ∧ .time t = e) ∨
      ∃ time, r.timestamp layout.timePattern = .ok time ∧
        ((∃ m, r.message = .error m ∧ .message m = e) ∨ ∃ message, r.message = .ok message ∧
          ∃ u, encode (some Value.display) (.table (layout.fields r time message)) = .error u ∧
            .unwritable u = e) := by
  simp only [write, Except.bind_eq_error_iff, Except.mapError_eq_ok_iff, Except.mapError_eq_error_iff]

theorem inFormat_transaction (h : ∀ name v, (name, v) ∈ r.extras → v.InFormat) :
    r.transaction.InFormat := by
  unfold Record.transaction Record.attribute?
  cases hfound : r.extras.lookup Record.transactionKey with
  | none => exact Value.eachNumber_text _ "-"
  | some v =>
    obtain ⟨before, after, hextras, -⟩ := List.lookup_eq_some_iff.mp hfound
    exact h Record.transactionKey v (by simp [hextras])

/-- The values of the fields are texts and numbers of the record, apart from those that are given.
-/
theorem forall_fields {P : Value → Prop} (htext : ∀ s, P (.text s)) (hint : ∀ n, P (.int n)) :
    (∀ entry ∈ layout.fields r time message, P entry.2) ↔
      P r.transaction ∧ P layout.service ∧ P layout.environment ∧
        ∀ name v, (name, v) ∈ r.extras → isExtra name = true → P (written v) := by
  have hbase : (∀ entry ∈ layout.baseFields r time message, P entry.2) ↔
      P r.transaction ∧ P layout.service ∧ P layout.environment := by
    simp [baseFields, htext, hint]
  have hfailure : ∀ entry ∈ failureFields r, P entry.2 := by
    unfold failureFields
    cases r.failure <;> by_cases hstack : r.stack = "" <;> simp [hstack, htext]
  have hextras : (∀ entry ∈ extraFields r, P entry.2) ↔
      ∀ name v, (name, v) ∈ r.extras → isExtra name = true → P (written v) := by
    unfold extraFields
    rw [List.forall_mem_map]
    simp only [List.mem_filter, and_imp, Prod.forall]
  unfold fields
  rw [List.forall_mem_append, List.forall_mem_append, hbase, hextras]
  tauto

theorem inFormat_fields (hlayout : layout.Proper)
    (h : ∀ name v, (name, v) ∈ r.extras → v.InFormat) (time message : String) :
    (Value.table (layout.fields r time message)).InFormat := by
  rw [Value.InFormat, Value.eachNumber_table]
  refine (forall_fields (Value.eachNumber_text _) (Value.eachNumber_int _)).mpr
    ⟨inFormat_transaction h, hlayout.service, hlayout.environment, fun name v hv _ => ?_⟩
  unfold written
  split
  · exact h name v hv
  · exact Value.eachNumber_text _ _

/-- Are all keys names in what comes to a line without a trial? -/
structure Named (layout : JsonLine) (r : Record) : Prop where
  transaction : r.transaction.HasNames
  service : layout.service.HasNames
  environment : layout.environment.HasNames

/-- An attribute that passes its trial has names for keys, and the display of any other has no
keys. -/
theorem hasNames_written (v : Value) : (written v).HasNames := by
  unfold written
  split
  next htrial => exact (exists_encode_none_iff.mp ⟨_, htrial⟩).hasNames
  next => exact Value.hasNames_of_parts rfl rfl

theorem hasNames_fields_iff (layout : JsonLine) (r : Record) (time message : String) :
    (Value.table (layout.fields r time message)).HasNames ↔ Named layout r := by
  rw [Value.hasNames_table, forall_fields (fun _ => Value.hasNames_of_parts rfl rfl)
    (fun _ => Value.hasNames_of_parts rfl rfl)]
  constructor
  · rintro ⟨htransaction, hservice, henvironment, -⟩
    exact ⟨htransaction, hservice, henvironment⟩
  · rintro ⟨htransaction, hservice, henvironment⟩
    exact ⟨htransaction, hservice, henvironment, fun _ v _ _ => hasNames_written v⟩

/-- A record with a time and a message has a line exactly if the keys in what is not tried are
names. -/
theorem exists_write_iff (htime : r.timestamp layout.timePattern = .ok time)
    (hmessage : r.message = .ok message) : (∃ line, layout.write r = .ok line) ↔ Named layout r := by
  rw [← hasNames_fields_iff layout r time message, ← exists_encode_some_iff (f := Value.display)]
  refine exists_congr fun line => ?_
  simp [write_eq_ok_iff, htime, hmessage]

theorem written_of_hasForm {v : Value} (h : v.HasForm) : written v = v := by
  obtain ⟨text, htext⟩ := exists_encode_none_iff.mpr h
  rw [written, htext]

theorem written_of_not_hasForm {v : Value} (h : ¬ v.HasForm) : written v = .text v.display := by
  unfold written
  split
  next htrial => exact absurd (exists_encode_none_iff.mp ⟨_, htrial⟩) h
  next => rfl

/-! ## Names -/

theorem map_fst_leading (layout : JsonLine) (r : Record) (time message : String) :
    (leading layout r time message).map Prod.fst = baseNames := rfl

theorem map_fst_troubles_sublist (r : Record) :
    ((troubles r).map Prod.fst).Sublist ["exc_info", "stack_info"] := by
  unfold troubles
  cases r.failure <;> by_cases hstack : r.stack = "" <;> simp [hstack]

theorem isExtra_iff {name : String} : isExtra name = true ↔
    Showable (leading layout r time message ++ troubles r) name := by
  have htroubles : name ∉ Record.ownNames → name ∉ (troubles r).map Prod.fst := by
    intro hown htrouble
    have hall : ∀ x ∈ ["exc_info", "stack_info"], x ∈ Record.ownNames := by decide
    exact hown (hall name ((map_fst_troubles_sublist r).subset htrouble))
  unfold Showable isExtra
  rw [List.map_append, map_fst_leading, List.mem_append]
  simp only [Bool.and_eq_true, Bool.not_eq_true', List.contains_eq_mem, decide_eq_false_iff_not]
  tauto

theorem map_fst_shown (r : Record) :
    (shown r).map Prod.fst = (r.extras.filter fun entry => isExtra entry.1).map Prod.fst := by
  simp [shown, Function.comp_def]

theorem nodup_members (h : (r.extras.map Prod.fst).Nodup) :
    ((members layout r time message).map Prod.fst).Nodup := by
  have hfront : ((leading layout r time message ++ troubles r).map Prod.fst).Nodup := by
    rw [List.map_append, map_fst_leading]
    refine List.nodup_append.mpr ⟨by decide, (by decide : ["exc_info", "stack_info"].Nodup).sublist
      (map_fst_troubles_sublist r), ?_⟩
    intro x hx y hy
    have hapart : ∀ x ∈ baseNames, ∀ y ∈ ["exc_info", "stack_info"], x ≠ y := by decide
    exact hapart x hx y ((map_fst_troubles_sublist r).subset hy)
  unfold members
  rw [List.map_append, map_fst_shown]
  refine List.nodup_append.mpr ⟨hfront, h.sublist (List.filter_sublist.map Prod.fst), ?_⟩
  rintro x hx y hy rfl
  obtain ⟨entry, hentry, rfl⟩ := List.mem_map.mp hy
  have hextra : Showable (leading layout r time message ++ troubles r) entry.1 :=
    isExtra_iff.mp (List.mem_filter.mp hentry).2
  exact hextra.2.2 hx

theorem forall₂_shown (r : Record) :
    List.Forall₂ Shows (r.extras.filter fun entry => isExtra entry.1) (shown r) := by
  unfold shown
  rw [List.forall₂_map_right_iff, List.forall₂_same]
  intro entry _
  refine ⟨rfl, fun h => ?_, fun h => ?_⟩
  · rw [written_of_hasForm h]
  · rw [written_of_not_hasForm h, data]

/-! ## The object -/

/-- A line stands for one object: the ten members of the record, then those of its failure and its
stack, and then one for every attribute that can be shown behind them, in the order of the record.
No name comes twice. -/
def Faithful (layout : JsonLine) (r : Record) (time message line : String) : Prop :=
  ∃ attributes, (∀ d, Denotes true line d ↔
      d = .object (leading layout r time message ++ troubles r ++ attributes)) ∧
    ((leading layout r time message ++ troubles r ++ attributes).map Prod.fst).Nodup ∧
    List.Forall₂ Shows (r.extras.filter fun entry =>
      Showable (leading layout r time message ++ troubles r) entry.1) attributes

theorem faithful_encode (hlayout : layout.Proper) (hr : r.Proper)
    (hline : encode (some Value.display) (.table (layout.fields r time message)) = .ok line) :
    Faithful layout r time message line := by
  have hobject := denotes_encode hline (inFormat_fields hlayout hr.inFormat time message)
  rw [data_fields] at hobject
  refine ⟨shown r, fun d => ⟨fun h => h.unique hobject, fun h => h ▸ hobject⟩,
    nodup_members hr.nodup, ?_⟩
  have hnames (name : String) : isExtra name = true ↔
      Showable (leading layout r time message ++ troubles r) name := isExtra_iff
  simpa only [← hnames, Bool.decide_eq_true] using forall₂_shown r

/-- No attribute but the identifier of the transaction has an influence on the leading members. -/
theorem leading_withExtras {extras : List (String × Value)}
    (h : extras.lookup Record.transactionKey = r.attribute? Record.transactionKey)
    (time message : String) :
    leading layout { r with extras } time message = leading layout r time message := by
  have htransaction : { r with extras }.transaction = r.transaction := by
    unfold Record.transaction
    rw [← h]
    rfl
  unfold leading
  rw [htransaction]

/-- Writing a record fails exactly if it has no time, or no message, or a key that is no name in
the identifier of its transaction or in the settings of the layout. A line that is written is
faithful, and its leading members are the same whatever attributes are added to the record. -/
theorem line_faithful (hlayout : layout.Proper) (hr : r.Proper) :
    (∀ e, layout.write r = .error (.time e) ↔ r.timestamp layout.timePattern = .error e) ∧
      ∀ time, r.timestamp layout.timePattern = .ok time →
        (∀ e, layout.write r = .error (.message e) ↔ r.message = .error e) ∧
        (∀ message, r.message = .ok message →
          ((∃ line, layout.write r = .ok line) ↔ Named layout r) ∧
          (∀ e, layout.write r = .error e →
            ∃ key : Value, key.isName = false ∧ e = .unwritable (.key key.kindName)) ∧
          ∀ line, layout.write r = .ok line → Faithful layout r time message line) ∧
        ∀ extras, extras.lookup Record.transactionKey = r.attribute? Record.transactionKey →
          { r with extras }.timestamp layout.timePattern = .ok time ∧
          { r with extras }.message = r.message ∧
          ∀ message, leading layout { r with extras } time message = leading layout r time message := by
  refine ⟨fun e => ?_, fun time htime => ⟨fun e => ?_, fun message hmessage => ⟨?_, ?_, ?_⟩, ?_⟩⟩
  · simp [write_eq_error_iff]
  · simp [write_eq_error_iff, htime]
  · exact exists_write_iff htime hmessage
  · intro e he
    simp only [write_eq_error_iff, htime, hmessage] at he
    obtain ⟨u, hu, rfl⟩ : ∃ u, encode (some Value.display) (.table (layout.fields r time message)) =
      .error u ∧ LineError.unwritable u = e := by simpa using he
    obtain ⟨-, -, key, -, hkey, rfl⟩ := key_of_encode_eq_error _ hu
    exact ⟨key, hkey, rfl⟩
  · intro line hline
    refine faithful_encode hlayout hr ?_
    simpa [write_eq_ok_iff, htime, hmessage] using hline
  · exact fun extras hextras => ⟨htime, rfl, leading_withExtras hextras time⟩

def plain : JsonLine := ⟨.null, .text "catalog", ""⟩

theorem proper_plain : plain.Proper :=
  ⟨Value.eachNumber_text _ _, Value.eachNumber_null _⟩

theorem named_plain {r : Record} (h : r.transaction.HasNames) : Named plain r :=
  ⟨h, Value.hasNames_of_parts rfl rfl, Value.hasNames_of_parts rfl rfl⟩

theorem timestamp_of_start (hcreated : r.created = 0) (hmilliseconds : r.milliseconds = 0) :
    r.timestamp "" = .ok "1970-01-01 00:00:00,000" := by
  rw [Record.timestamp, hcreated, hmilliseconds]
  cbv

/-- A record with a stack whose attributes include one named like a member of the record, a hidden
one, one without a form, one with a key that is no name and a number that is not finite. -/
def colliding : Record :=
  { Record.saying "%d rows" (.positional [.int 7]) with
    stack := "here"
    extras := [("level", .text "DEBUG"), ("transaction_id", .text "t1"), ("_hidden", .int 1),
      ("raw", .list [.bytes [1]]), ("pairs", .mapping [(.tuple [.int 1], .null)]),
      ("share", .float .nan)] }

theorem proper_colliding : colliding.Proper := by
  have hbytes : (Value.bytes [1]).InFormat := Value.eachNumber_of_parts rfl nofun
  have hpairs : (Value.mapping [(.tuple [.int 1], .null)]).InFormat := by
    rw [Value.InFormat, Value.eachNumber_iff]
    simp [Value.parts]
  refine ⟨by decide, ?_⟩
  simp [colliding, or_imp, forall_and, hbytes, hpairs, Binary64.InFormat]

theorem line_faithful_colliding : ∃ line, plain.write colliding = .ok line ∧
    ∀ d, Denotes true line d ↔ d = .object
      [("timestamp", .text "1970-01-01 00:00:00,000"), ("level", .text "INFO"),
        ("logger", .text "catalog"), ("message", .text "7 rows"), ("pathname", .text ""),
        ("lineno", .number ['0']), ("transaction_id", .text "t1"), ("service", .text "catalog"),
        ("env", .null), ("version", .text Manifest.ownVersion), ("stack_info", .text "here"),
        ("raw", .text "[b'\\x01']"), ("pairs", .text "\x7b(1,): None\x7d"), ("share", .word .nan)] := by
  obtain ⟨-, hwritten⟩ := line_faithful proper_plain proper_colliding
  obtain ⟨-, hmessage, -⟩ := hwritten _ (timestamp_of_start rfl rfl)
  obtain ⟨hline, -, hfaithful⟩ := hmessage "7 rows" (by cbv)
  obtain ⟨line, hline⟩ := hline.mpr (named_plain (Value.hasNames_of_parts rfl rfl))
  obtain ⟨attributes, hdenotes, -, hshows⟩ := hfaithful line hline
  refine ⟨line, hline, ?_⟩
  have hshown : (colliding.extras.filter fun entry => Showable
      (leading plain colliding "1970-01-01 00:00:00,000" "7 rows" ++ troubles colliding) entry.1) =
        [("raw", .list [.bytes [1]]), ("pairs", .mapping [(.tuple [.int 1], .null)]),
          ("share", .float .nan)] := by
    simp only [← isExtra_iff, Bool.decide_eq_true]
    cbv
  rw [hshown] at hshows
  obtain ⟨raw, _, hraw, hrest, rfl⟩ := List.forall₂_cons_left_iff.mp hshows
  obtain ⟨pairs, _, hpairs, hlast, rfl⟩ := List.forall₂_cons_left_iff.mp hrest
  obtain ⟨share, _, hshare, ⟨⟩, rfl⟩ := List.forall₂_cons_left_iff.mp hlast
  have hrawText : raw = ("raw", .text "[b'\\x01']") := by
    have hformless : ¬ (Value.list [.bytes [1]]).HasForm := fun h =>
      Bool.noConfusion (h (.bytes [1]) (.part (List.mem_singleton.mpr rfl) (.refl _))).1
    have htext : (Value.list [.bytes [1]]).display = "[b'\\x01']" := by cbv
    exact Prod.ext hraw.name (htext ▸ hraw.display hformless)
  have hpairsText : pairs = ("pairs", .text "\x7b(1,): None\x7d") := by
    have hformless : ¬ (Value.mapping [(.tuple [.int 1], .null)]).HasForm := fun h =>
      Bool.noConfusion ((h _ (.refl _)).2 (.tuple [.int 1]) (List.mem_singleton.mpr rfl))
    have htext : (Value.mapping [(.tuple [.int 1], .null)]).display = "\x7b(1,): None\x7d" := by cbv
    exact Prod.ext hpairs.name (htext ▸ hpairs.display hformless)
  have hshareWord : share = ("share", .word .nan) := by
    have hform : (Value.float .nan).HasForm := exists_encode_none_iff.mp ⟨_, rfl⟩
    exact Prod.ext hshare.name (hshare.value hform)
  intro d
  rw [hdenotes, hrawText, hpairsText, hshareWord]
  rfl

def paired : Record :=
  { Record.saying "moved" (.positional []) with
    extras := [("transaction_id", .mapping [(.tuple [.text "a", .int 1], .int 1)])] }

/-- Records with a message, but with a key or a time that cannot be written. -/
theorem line_refused :
    paired.message = .ok "moved" ∧ plain.write paired = .error (.unwritable (.key "tuple")) ∧
      { paired with created := 10 ^ 20 }.message = .ok "moved" ∧
      plain.write { paired with created := 10 ^ 20 } = .error (.time .clockRange) := by
  have hmessage : paired.message = .ok "moved" := by cbv
  refine ⟨hmessage, write_eq_error_iff.mpr (.inr ⟨_, timestamp_of_start rfl rfl, .inr
    ⟨_, hmessage, _, ?_, rfl⟩⟩), hmessage, write_eq_error_iff.mpr (.inl ⟨.clockRange, ?_, rfl⟩)⟩
  · cbv
  · cbv

/-! ## Lines of the standard -/

theorem isFinite_written_iff {v : Value} : (written v).IsFinite ↔ (v.HasForm → v.IsFinite) := by
  by_cases h : v.HasForm
  · simp [written_of_hasForm h, h]
  · simp [written_of_not_hasForm h, h]

/-- A line is a text of the standard exactly if all numbers in the identifier of the transaction, in
the settings of the layout and in the attributes shown as they are have a numeral. The others come
out as words that the standard does not know. -/
theorem isJson_line_iff (hlayout : layout.Proper)
    (h : ∀ name v, (name, v) ∈ r.extras → v.InFormat) (hline : layout.write r = .ok line) :
    IsJson line ↔ r.transaction.IsFinite ∧ layout.service.IsFinite ∧ layout.environment.IsFinite ∧
      ∀ name v, (name, v) ∈ r.extras → isExtra name = true → v.HasForm → v.IsFinite := by
  obtain ⟨time, -, message, -, hencode⟩ := write_eq_ok_iff.mp hline
  rw [isJson_encode_iff hencode (inFormat_fields hlayout h time message), Value.IsFinite,
    Value.eachNumber_table, forall_fields (Value.eachNumber_text _) (Value.eachNumber_int _)]
  simp only [isFinite_written_iff]

def sharing (x : Binary64) : Record :=
  { Record.saying "sampled" (.positional []) with extras := [("share", .float x)] }

theorem inFormat_sharing {x : Binary64} (hx : x.InFormat) :
    ∀ name v, (name, v) ∈ (sharing x).extras → v.InFormat := by
  simpa [sharing] using hx

theorem exists_write_sharing (x : Binary64) : ∃ line, plain.write (sharing x) = .ok line := by
  have hmessage : (sharing x).message = .ok "sampled" := by cbv
  exact (exists_write_iff (timestamp_of_start rfl rfl) hmessage).mpr
    (named_plain (Value.hasNames_of_parts rfl rfl))

def half : Binary64 := .ofDecimal false 5 (-1)

theorem isJson_line_sharing : ∃ line, plain.write (sharing half) = .ok line ∧ IsJson line := by
  have hhalf : half.InFormat := Binary64.inFormat_ofDecimal false 5 (-1)
  have hfinite : half.isFinite = true := by decide +kernel
  obtain ⟨line, hline⟩ := exists_write_sharing half
  refine ⟨line, hline, (isJson_line_iff proper_plain (inFormat_sharing hhalf) hline).mpr
    ⟨?_, ?_, ?_, ?_⟩⟩
  · exact Value.eachNumber_text _ "-"
  · exact Value.eachNumber_text _ "catalog"
  · exact Value.eachNumber_null _
  · simp [sharing, hfinite]

theorem line_not_json : ∃ line, plain.write (sharing .nan) = .ok line ∧ ¬ IsJson line := by
  have hnan : Binary64.nan.InFormat := trivial
  obtain ⟨line, hline⟩ := exists_write_sharing .nan
  refine ⟨line, hline, ?_⟩
  obtain ⟨time, -, message, -, hencode⟩ := write_eq_ok_iff.mp hline
  rw [isJson_encode_iff hencode (inFormat_fields proper_plain (inFormat_sharing hnan) time message),
    Value.IsFinite, Value.eachNumber_table,
    forall_fields (Value.eachNumber_text _) (Value.eachNumber_int _)]
  rintro ⟨-, -, -, hfinite⟩
  have hform : (Value.float .nan).HasForm := exists_encode_none_iff.mp ⟨_, rfl⟩
  have hshare := hfinite "share" (.float .nan) (List.mem_singleton.mpr rfl) (by cbv)
  rw [written_of_hasForm hform] at hshare
  exact Bool.false_ne_true (Value.eachNumber_float.mp hshare)

/-! ## One line -/

/-- Whatever control characters are in the texts of a record, none of them is in its line. -/
theorem line_unbroken (hline : layout.write r = .ok line) :
    ∀ c ∈ line.toList, 0x20 ≤ c.toNat ∧ c ≠ '\n' ∧ c ≠ '\r' := by
  obtain ⟨time, -, message, -, hencode⟩ := write_eq_ok_iff.mp hline
  intro c hc
  have hcontrol : 0x20 ≤ c.toNat := uncontrolled_encode _ hencode c hc
  refine ⟨hcontrol, ?_, ?_⟩
  · rintro rfl
    exact absurd hcontrol (by decide)
  · rintro rfl
    exact absurd hcontrol (by decide)

/-- A record with line breaks and other control characters wherever a text can stand. -/
def scattered : Record :=
  { Record.saying "one\nlevel=%s" (.positional [.text "two\r\nthree"]) with
    logger := "catalog\n"
    pathname := "app\r.py"
    stack := "first\n  second"
    failure := some (.ofFailure (.fault (.plain "ValueError" [.text "un\nknown"] [])))
    extras := [("transaction_id", .text "t\n1"),
      ("in\ner", .mapping [(.text "ke\ty", .list [.text "\x00", .tuple [.set [.text "\n"]]])])] }

theorem line_unbroken_scattered : ∃ line,
    JsonLine.write ⟨.text "dev\n", .text "catalog\r", ""⟩ scattered = .ok line ∧
      '\n' ∉ line.toList ∧ '\r' ∉ line.toList := by
  have hmessage : scattered.message = .ok "one\nlevel=two\r\nthree" := by cbv
  obtain ⟨line, hline⟩ : ∃ line, JsonLine.write ⟨.text "dev\n", .text "catalog\r", ""⟩ scattered =
      .ok line :=
    (exists_write_iff (timestamp_of_start rfl rfl) hmessage).mpr ⟨Value.hasNames_of_parts rfl rfl,
      Value.hasNames_of_parts rfl rfl, Value.hasNames_of_parts rfl rfl⟩
  exact ⟨line, hline, fun h => (line_unbroken hline _ h).2.1 rfl,
    fun h => (line_unbroken hline _ h).2.2 rfl⟩

end JsonLine

end ObjectCatalog
