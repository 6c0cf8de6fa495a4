import ObjectCatalog.Proofs.Dialect.Terminators
import ObjectCatalog.Proofs.Schema.Definitions

/-! # Inserts into tables

The insert for some columns of a table fits every dialect, whatever the names of the table and its
columns are: it opens as an insert does, and the parenthesis at its end keeps it from being taken
for adapted. If the names are plain, it can be read back: its columns are the selected ones, and so
are its binds.
-/
namespace ObjectCatalog

open Text (PlainName isWordChar isBlank trimStart AllBlank)

namespace Table

/-! ## The text of an insert -/

def insertBody (table : String) (names : List String) : String :=
  " " ++ table ++ " (" ++ String.intercalate ", " names ++ ") VALUES (" ++
    String.intercalate ", " (names.map (":" ++ ·)) ++ ")"

theorem insertText_eq (table : String) (names : List String) :
    insertText table names = "INSERT INTO" ++ insertBody table names := by
  have hopening : "INSERT INTO " = "INSERT INTO" ++ " " := rfl
  unfold insertText insertBody
  rw [hopening]
  simp only [String.append_assoc]

def adaptedText (a : Adapter) (table : String) (names : List String) : String :=
  match a with
  | .onConflict => insertText table names ++ " ON CONFLICT DO NOTHING"
  | .insertIgnore _ => "INSERT IGNORE INTO" ++ insertBody table names

theorem toList_insertBody (table : String) (names : List String) :
    (insertBody table names).toList = ' ' :: (table.toList ++ ' ' :: '(' ::
      ([',', ' '].intercalate (names.map String.toList) ++ ") VALUES (".toList ++
        [',', ' '].intercalate (names.map fun name => ':' :: name.toList) ++ [')'])) := by
  have hcolons : (names.map (":" ++ ·)).map String.toList =
      names.map fun name => ':' :: name.toList := by
    rw [List.map_map]
    exact List.map_congr_left fun name _ => String.toList_append ..
  unfold insertBody
  simp only [String.toList_append, String.toList_intercalate, hcolons]
  simp

end Table

namespace Insert

open Text

/-- An insert that is not adapted, neither by a clause nor by other first words. -/
structure Unadapted (sql : String) : Prop where
  not_closed : ¬ EndsWithClause sql.toList
  not_ignoring : afterWords? insertIgnoreInto sql.toList = none

/-- No letter of the clause is a parenthesis, and none stands behind it. -/
theorem not_endsWithClause_close (more : List Char) : ¬ EndsWithClause (more ++ [')']) := by
  rintro ⟨front, phrase, ending, hcloses, hending⟩
  have hlast := congrArg List.getLast? hcloses.sql_eq
  rcases List.eq_nil_or_concat ending with rfl | ⟨separators, c, rfl⟩
  · obtain ⟨letters, c, rfl, hc⟩ := hcloses.phrase.last_letter isWord_of_conflictWords
    have hclose : ')' = c := by simpa using hlast
    exact hc.ne (by decide) hclose.symm
  · obtain rfl : ')' = c := by simpa using hlast
    exact absurd (hending.separators ')' (by simp)) (by decide)

variable (table : String) (names : List String)

theorem toList_insertText : (Table.insertText table names).toList =
    "INSERT INTO".toList ++ (Table.insertBody table names).toList := by
  rw [Table.insertText_eq, String.toList_append]

theorem exists_close : ∃ more, (Table.insertText table names).toList = more ++ [')'] := by
  unfold Table.insertText
  rw [String.toList_append]
  exact ⟨_, rfl⟩

theorem opens_insertText : Opens insertInto [] "INSERT INTO".toList
    (Table.insertBody table names).toList (Table.insertText table names).toList := by
  refine ⟨toList_insertText table names, List.forall_mem_nil _,
    phrase_of_keywords? (by decide) isWord_of_insertInto (by decide), ?_⟩
  rw [Table.toList_insertBody]
  rfl

theorem unadapted_insertText : Unadapted (Table.insertText table names) where
  not_closed := by
    obtain ⟨more, hmore⟩ := exists_close table names
    rw [hmore]
    exact not_endsWithClause_close more
  not_ignoring := by
    rw [toList_insertText, Table.toList_insertBody]
    rfl

/-- Every adapter takes the insert, and adapts it. -/
theorem adapt_insertText (a : Adapter) :
    adapt a (Table.insertText table names) = .ok (Table.adaptedText a table names) := by
  have hopens := opens_insertText table names
  have hunadapted := unadapted_insertText table names
  cases a with
  | onConflict =>
    obtain ⟨more, hmore⟩ := exists_close table names
    have hkept : lessTerminator (Table.insertText table names).toList =
        (Table.insertText table names).toList := by
      have hless : lessTerminator (more ++ [')'] ++ []) = more ++ [')'] ++ lessTerminator [] :=
        lessTerminator_append (by decide) []
      rw [List.append_nil] at hless
      rw [hmore, hless]
      exact List.append_nil _
    rw [adapt_of_adaptChars? (adaptChars?_of_not_closed hopens hunadapted.not_closed),
      appendClause_eq, hkept, String.ofList_append, String.ofList_toList]
    rfl
  | insertIgnore keyLength =>
    rw [adapt_of_adaptChars? (adaptChars?_of_plain hopens hunadapted.not_ignoring), List.nil_append,
      String.ofList_append, String.ofList_toList]
    rfl

end Insert

/-! ## Reading an insert back -/

namespace Binds

variable {name : String} {names : List String} {more : List Char} {c : Char}

theorem scan_of_ne (h : c ≠ ':') (blocked : Bool) (rest : List Char) :
    scan blocked (c :: rest) = scan (blocksBind c) rest := by
  have hcolon : (c == ':') = false := beq_eq_false_iff_ne.mpr h
  simp [scan, hcolon]

theorem ne_colon_of_not_blocksBind (h : blocksBind c = false) : c ≠ ':' := by
  rintro rfl
  cases h

/-- No bind begins up to a character that blocks none. -/
theorem scan_past (h : ':' ∉ more) (hc : blocksBind c = false) (blocked : Bool) (rest : List Char) :
    scan blocked (more ++ c :: rest) = scan false rest := by
  induction more generalizing blocked with
  | nil =>
    rw [List.nil_append, scan_of_ne (ne_colon_of_not_blocksBind hc), hc]
  | cons b more ih =>
    obtain ⟨hb, hmore⟩ := not_or.mp (List.mem_cons.not.mp h)
    rw [List.cons_append, scan_of_ne (Ne.symm hb), ih hmore]

theorem scan_of_notMem (h : ':' ∉ more) (blocked : Bool) : scan blocked more = [] := by
  induction more generalizing blocked with
  | nil => rfl
  | cons b more ih =>
    obtain ⟨hb, hmore⟩ := not_or.mp (List.mem_cons.not.mp h)
    rw [scan_of_ne (Ne.symm hb), ih hmore]

theorem scan_bind (h : PlainName name) (hc : blocksBind c = false) (rest : List Char) :
    scan false (':' :: (name.toList ++ c :: rest)) = name.toList :: scan false rest := by
  have hword : isWordChar c = false := (Bool.or_eq_false_iff.mp hc).2
  have hname : nameAt (name.toList ++ c :: rest) = name.toList := by
    unfold nameAt
    dsimp only
    rw [h.takeWhile_append hword, List.drop_left]
    split
    · rename_i heq
      exact absurd (List.cons.inj heq).1 (ne_colon_of_not_blocksBind hc)
    · rfl
  have hne : name.toList.isEmpty = false := by simpa using h.ne_nil
  rw [scan, hname, hne, scan_past (h.notMem (by decide)) hc]
  rfl

/-- The binds in a list of values are those that it was made of. -/
theorem scan_values (h : ∀ name ∈ names, PlainName name) (rest : List Char) :
    scan false ([',', ' '].intercalate (names.map fun name => ':' :: name.toList) ++ ')' :: rest) =
      names.map String.toList ++ scan false rest := by
  have hclose : blocksBind ')' = false := by decide
  have hcomma : blocksBind ',' = false := by decide
  have hblank : blocksBind ' ' = false := by decide
  induction names with
  | nil =>
    rw [List.map_nil, List.intercalate_nil]
    exact scan_past (by simp) hclose false rest
  | cons name names ih =>
    obtain ⟨hname, hnames⟩ := List.forall_mem_cons.mp h
    cases names with
    | nil =>
      rw [List.map_singleton, List.intercalate_singleton, List.cons_append, scan_bind hname hclose]
      rfl
    | cons next names =>
      rw [List.map_cons, List.intercalate_cons_of_ne_nil (by simp), List.append_assoc,
        List.append_assoc, List.cons_append, List.cons_append, List.cons_append, List.nil_append,
        scan_bind hname hcomma, scan_of_ne (by decide), hblank, ih hnames]
      rfl

end Binds

namespace Table

def columnList (sql : String) : List String :=
  (List.splitOn ',' ((sql.toList.dropWhile (· != '(')).tail.takeWhile (· != ')'))).map fun entry =>
    String.ofList (trimStart entry)

theorem trimStart_plain {name : String} (h : PlainName name) : trimStart name.toList = name.toList := by
  cases hname : name.toList with
  | nil => exact absurd hname h.ne_nil
  | cons c more =>
    refine Text.trimStart_of_not_isBlank ?_ more
    rw [← Bool.not_eq_true]
    intro hblank
    have hword := h.wordChar c (by rw [hname]; exact List.mem_cons_self)
    rw [Text.not_isWordChar_of_isBlank hblank] at hword
    cases hword

theorem map_trimStart_pieces {names : List String} (h : ∀ name ∈ names, PlainName name) :
    (names.map fun name => ' ' :: name.toList).map (fun entry => String.ofList (trimStart entry)) =
      names := by
  rw [List.map_map]
  refine (List.map_congr_left fun name hname => ?_).trans (List.map_id names)
  show String.ofList (trimStart ([' '] ++ name.toList)) = name
  have hblank : AllBlank [' '] := List.all_eq_true.mp (by decide)
  rw [Text.trimStart_append hblank, trimStart_plain (h name hname), String.ofList_toList]

/-- Between its parentheses a column list has the names that it was made of. -/
theorem columnList_eq {sql : String} {front rest : List Char} {names : List String}
    (hfront : '(' ∉ front) (hne : names ≠ []) (h : ∀ name ∈ names, PlainName name)
    (hsql : sql.toList =
      front ++ '(' :: ([',', ' '].intercalate (names.map String.toList) ++ ')' :: rest)) :
    columnList sql = names := by
  have hopen : sql.toList.dropWhile (· != '(') =
      '(' :: ([',', ' '].intercalate (names.map String.toList) ++ ')' :: rest) := by
    have hstop : ∀ c ∈ front, (c != '(') = true := by
      rintro c hc
      exact bne_iff_ne.mpr fun heq => hfront (heq ▸ hc)
    rw [hsql, Text.dropWhile_append_stop rfl, List.dropWhile_eq_nil_iff.mpr hstop, List.nil_append]
  have hclose : ∀ c ∈ [',', ' '].intercalate (names.map String.toList), (c != ')') = true := by
    rintro c hc
    refine bne_iff_ne.mpr fun heq => ?_
    exact PlainName.notMem_intercalate h (by decide) (by decide) (heq ▸ hc)
  unfold columnList
  rw [hopen, List.tail_cons, Text.takeWhile_append_stop rfl, List.takeWhile_eq_self_iff.mpr hclose]
  cases names with
  | nil => exact absurd rfl hne
  | cons name names =>
    obtain ⟨hname, hnames⟩ := List.forall_mem_cons.mp h
    have hpieces : (names.map String.toList).map ([' '] ++ ·) =
        names.map fun name => ' ' :: name.toList := List.map_map
    have hcomma : ∀ piece ∈ name.toList :: names.map fun name => ' ' :: name.toList,
        ¬ ',' ∈ piece := by
      refine List.forall_mem_cons.mpr ⟨hname.notMem (by decide), fun piece hpiece => ?_⟩
      obtain ⟨other, hother, rfl⟩ := List.mem_map.mp hpiece
      exact List.not_mem_cons_of_ne_of_not_mem (by decide) ((hnames other hother).notMem (by decide))
    rw [List.map_cons, Text.intercalate_cons_cons_eq, hpieces,
      List.splitOn_intercalate ',' hcomma (by simp), List.map_cons, trimStart_plain hname,
      String.ofList_toList, map_trimStart_pieces hnames]

section Plain

variable {table : String} {names : List String}

/-- Adapting leaves the body of an insert alone, and adds neither colons nor parentheses. -/
theorem exists_frame (a : Adapter) (table : String) (names : List String) : ∃ opening closing,
    ':' ∉ opening ∧ '(' ∉ opening ∧ ':' ∉ closing ∧
      (adaptedText a table names).toList = opening ++ (insertBody table names).toList ++ closing := by
  cases a with
  | onConflict =>
    refine ⟨"INSERT INTO".toList, " ON CONFLICT DO NOTHING".toList, by decide, by decide, by decide, ?_⟩
    show (insertText table names ++ " ON CONFLICT DO NOTHING").toList = _
    rw [insertText_eq, String.toList_append, String.toList_append]
  | insertIgnore keyLength =>
    refine ⟨"INSERT IGNORE INTO".toList, [], by decide, by decide, by decide, ?_⟩
    show ("INSERT IGNORE INTO" ++ insertBody table names).toList = _
    rw [String.toList_append, List.append_nil]

theorem scan_adaptedText (htable : PlainName table) (hnames : ∀ name ∈ names, PlainName name)
    (a : Adapter) :
    Binds.scan false (adaptedText a table names).toList = names.map String.toList := by
  obtain ⟨opening, closing, hopening, -, hclosing, htext⟩ := exists_frame a table names
  have hcolon : isWordChar ':' = false := by decide
  have hfront : ':' ∉ opening ++ ' ' :: (table.toList ++ ' ' :: '(' ::
      ([',', ' '].intercalate (names.map String.toList) ++ ") VALUES ".toList)) := by
    simp [hopening, htable.notMem hcolon, PlainName.notMem_intercalate hnames hcolon]
  have hsplit : (adaptedText a table names).toList =
      (opening ++ ' ' :: (table.toList ++ ' ' :: '(' ::
        ([',', ' '].intercalate (names.map String.toList) ++ ") VALUES ".toList))) ++
      '(' :: ([',', ' '].intercalate (names.map fun name => ':' :: name.toList) ++
        ')' :: closing) := by
    rw [htext, toList_insertBody]
    simp
  rw [hsplit, Binds.scan_past hfront (by decide), Binds.scan_values hnames,
    Binds.scan_of_notMem hclosing, List.append_nil]

theorem columnList_adaptedText (htable : PlainName table) (hne : names ≠ [])
    (hnames : ∀ name ∈ names, PlainName name) (a : Adapter) :
    columnList (adaptedText a table names) = names := by
  obtain ⟨opening, closing, -, hopening, -, htext⟩ := exists_frame a table names
  have hfront : '(' ∉ opening ++ ' ' :: (table.toList ++ [' ']) := by
    simp [hopening, htable.notMem (show isWordChar '(' = false by decide)]
  have hsplit : (adaptedText a table names).toList = opening ++ ' ' :: (table.toList ++ [' ']) ++
      '(' :: ([',', ' '].intercalate (names.map String.toList) ++ ')' :: (" VALUES (".toList ++
        [',', ' '].intercalate (names.map fun name => ':' :: name.toList) ++ ')' :: closing)) := by
    rw [htext, toList_insertBody]
    simp
  exact columnList_eq hfront hne hnames hsplit

end Plain

/-! ## The selected columns -/

variable {t : Table} {d : Descriptor} {names : List String}

def FirstUnknown (t : Table) (names : List String) (e : UnknownColumn) : Prop :=
  t.column e.column = .error e ∧ ∃ before after, names = before ++ e.column :: after ∧
    ∀ name ∈ before, ∃ c, t.column name = .ok c

def Known (t : Table) (names : List String) : Prop := ∀ name ∈ names, ∃ c, t.column name = .ok c

theorem column_eq_ok_iff {name : String} {c : Column} :
    t.column name = .ok c ↔ t.column? name = some c := by
  unfold column
  cases t.column? name <;> simp

theorem mem_of_column {name : String} {c : Column} (h : t.column name = .ok c) :
    c ∈ t.columns ∧ c.name = name := by
  have hfound := column_eq_ok_iff.mp h
  unfold column? at hfound
  exact ⟨List.mem_of_find?_eq_some hfound, by simpa using List.find?_some hfound⟩

theorem column_eq_error_iff {name : String} {e : UnknownColumn} :
    t.column name = .error e ↔ (t.column? name).isNone = true ∧ ⟨t.name, name⟩ = e := by
  unfold column
  cases t.column? name <;> simp

theorem exists_column_iff {name : String} :
    (∃ c, t.column name = .ok c) ↔ (t.column? name).isNone = false := by
  unfold column
  cases t.column? name <;> simp

theorem firstUnknown?_eq_some_iff {e : UnknownColumn} :
    t.firstUnknown? names = some e ↔ t.FirstUnknown names e := by
  unfold firstUnknown? FirstUnknown
  simp only [Option.map_eq_some_iff, List.find?_eq_some_iff_append, column_eq_error_iff,
    exists_column_iff, Bool.not_eq_true']
  constructor
  · rintro ⟨name, ⟨hnone, hsplit⟩, rfl⟩
    exact ⟨⟨hnone, rfl⟩, hsplit⟩
  · rintro ⟨⟨hnone, he⟩, hsplit⟩
    exact ⟨e.column, ⟨hnone, hsplit⟩, he⟩

theorem firstUnknown?_eq_none_iff : t.firstUnknown? names = none ↔ t.Known names := by
  unfold firstUnknown? Known
  simp only [Option.map_eq_none_iff, List.find?_eq_none, exists_column_iff, Bool.not_eq_true]

theorem FirstUnknown.not_known {e : UnknownColumn} (h : t.FirstUnknown names e) :
    ¬ t.Known names := by
  rw [← firstUnknown?_eq_none_iff, firstUnknown?_eq_some_iff.mpr h]
  exact nofun

theorem FirstUnknown.ne_nil {e : UnknownColumn} (h : t.FirstUnknown names e) : names ≠ [] := by
  rintro rfl
  exact h.not_known (List.forall_mem_nil _)

theorem FirstUnknown.unique {e e' : UnknownColumn} (h : t.FirstUnknown names e)
    (h' : t.FirstUnknown names e') : e = e' := by
  rw [← firstUnknown?_eq_some_iff] at h h'
  exact Option.some.inj (h.symm.trans h')

theorem selectColumns_of_unknown {e : UnknownColumn} (h : t.FirstUnknown names e) :
    t.selectColumns (some names) = .error (.unknownColumn e) := by
  have hsome : names.isEmpty = false := by simpa using h.ne_nil
  unfold selectColumns
  simp only [hsome, Bool.false_eq_true, if_false, firstUnknown?_eq_some_iff.mpr h]

theorem selectColumns_of_known (hne : names ≠ []) (h : t.Known names) :
    t.selectColumns (some names) = .ok names := by
  have hsome : names.isEmpty = false := by simpa using hne
  unfold selectColumns
  simp only [hsome, Bool.false_eq_true, if_false, firstUnknown?_eq_none_iff.mpr h]

theorem selection_cases (t : Table) (names : List String) :
    names = [] ∨ (∃ e, t.FirstUnknown names e) ∨ (names ≠ [] ∧ t.Known names) := by
  by_cases hne : names = []
  · exact .inl hne
  · cases hfirst : t.firstUnknown? names with
    | some e => exact .inr (.inl ⟨e, firstUnknown?_eq_some_iff.mp hfirst⟩)
    | none => exact .inr (.inr ⟨hne, firstUnknown?_eq_none_iff.mp hfirst⟩)

/-! ## The statement and its binds -/

def bound (t : Table) (d : Descriptor) (names : List String) : Except InsertError BoundStatement :=
  let sql := adaptedText d.adapter t.name names
  match names.find? fun name => !(Binds.names sql).contains name with
  | some name => .error (.noBind name)
  | none => .ok ⟨sql, (Binds.names sql).map fun name => (name, t.bindType? d names name)⟩

/-- All columns are selected as if they were named. -/
theorem adaptedInsert_eq (t : Table) (d : Descriptor) (columns : Option (List String)) :
    t.adaptedInsert d columns =
      (t.selectColumns (some (columns.getD t.columnNames))).bind (t.bound d) := by
  have hselect : t.selectColumns columns = .ok (columns.getD t.columnNames) ∨
      t.selectColumns columns = t.selectColumns (some (columns.getD t.columnNames)) := by
    cases columns with
    | none => exact .inl rfl
    | some names => exact .inr rfl
  generalize columns.getD t.columnNames = names at hselect ⊢
  unfold adaptedInsert insertStatement
  rcases t.selection_cases names with rfl | ⟨e, he⟩ | ⟨hne, hknown⟩
  · rcases hselect with h | h <;> rw [h] <;> rfl
  · have hunknown := selectColumns_of_unknown he
    rcases hselect with h | h
    · rw [h]
      dsimp only [bind, Except.bind]
      rw [hunknown]
      rfl
    · rw [h, hunknown]
      rfl
  · have hnames := selectColumns_of_known hne hknown
    rw [hnames, or_self] at hselect
    rw [hselect, hnames]
    dsimp only [bind, Except.bind, Except.map]
    rw [hnames]
    dsimp only
    rw [Insert.adapt_insertText]
    rfl

theorem bound_cases (t : Table) (d : Descriptor) (names : List String) :
    (∃ s, t.bound d names = .ok s ∧ s.sql = adaptedText d.adapter t.name names) ∨
      ∃ name, t.bound d names = .error (.noBind name) := by
  unfold bound
  dsimp only
  split
  · exact .inr ⟨_, rfl⟩
  · exact .inl ⟨_, rfl, rfl⟩

theorem adaptedInsert_cases (t : Table) (d : Descriptor) (columns : Option (List String)) :
    let names := columns.getD t.columnNames
    (names = [] ∧ t.adaptedInsert d columns = .error .noColumns) ∨
      (∃ e, t.FirstUnknown names e ∧ t.adaptedInsert d columns = .error (.unknownColumn e)) ∨
      names ≠ [] ∧ t.Known names ∧ t.adaptedInsert d columns = t.bound d names := by
  intro names
  have heq : t.adaptedInsert d columns = (t.selectColumns (some names)).bind (t.bound d) :=
    t.adaptedInsert_eq d columns
  rw [heq]
  rcases t.selection_cases names with hnil | ⟨e, he⟩ | ⟨hne, hknown⟩
  · rw [hnil]
    exact .inl ⟨rfl, rfl⟩
  · rw [selectColumns_of_unknown he]
    exact .inr (.inl ⟨e, he, rfl⟩)
  · rw [selectColumns_of_known hne hknown]
    exact .inr (.inr ⟨hne, hknown, rfl⟩)

/-- The statement has the selected columns in their order, and values for them in the same order.
Its binds are these columns, each with the type of its kind. -/
structure Fits (t : Table) (d : Descriptor) (names : List String) (s : BoundStatement) : Prop where
  columns : columnList s.sql = names
  values : (Binds.scan false s.sql.toList).map String.ofList = names
  binds : s.binds.map Prod.fst = names.eraseDups
  typed : ∀ name type, (name, type) ∈ s.binds →
    ∃ c, t.column name = .ok c ∧ type = some (d.columnType c.logical).bind

theorem fits_bound (ht : t.Plain) (hne : names ≠ []) (hknown : t.Known names) :
    ∃ s, t.bound d names = .ok s ∧ t.Fits d names s := by
  have hplain : ∀ name ∈ names, PlainName name := by
    intro name hname
    obtain ⟨c, hc⟩ := hknown name hname
    obtain ⟨hmem, rfl⟩ := mem_of_column hc
    exact ht.columns c hmem
  have hscan : (Binds.scan false (adaptedText d.adapter t.name names).toList).map String.ofList =
      names := by
    rw [scan_adaptedText ht.name hplain, List.map_map]
    exact (List.map_congr_left fun name _ => String.ofList_toList).trans (List.map_id names)
  have hnames : Binds.names (adaptedText d.adapter t.name names) = names.eraseDups :=
    congrArg List.eraseDups hscan
  have hall : (names.find? fun name => !names.eraseDups.contains name) = none := by
    simp [List.find?_eq_none]
  unfold bound
  simp only [hnames, hall]
  refine ⟨_, rfl, columnList_adaptedText ht.name hne hplain d.adapter, hscan, ?_, ?_⟩
  · rw [List.map_map]
    exact List.map_id _
  · intro name type hmem
    obtain ⟨_, hname, ⟨⟩⟩ := List.mem_map.mp hmem
    rw [List.mem_eraseDups] at hname
    obtain ⟨c, hc⟩ := hknown name hname
    refine ⟨c, hc, ?_⟩
    unfold bindType?
    rw [if_pos (List.contains_iff_mem.mpr hname), column_eq_ok_iff.mp hc]
    rfl

end Table

inductive Insert.AdaptedOnce : Adapter → String → String → Prop
  | appended (sql : String) : AdaptedOnce .onConflict sql (sql ++ " ON CONFLICT DO NOTHING")
  | replaced (keyLength : Int) (rest : String) :
    AdaptedOnce (.insertIgnore keyLength) ("INSERT INTO" ++ rest) ("INSERT IGNORE INTO" ++ rest)

namespace Table

open ObjectCatalog.Insert (Unadapted AdaptedOnce adapt)

variable {t : Table} {d : Descriptor} {names : List String} {e : UnknownColumn}

theorem adaptedOnce_insertText (a : Adapter) (table : String) (names : List String) :
    AdaptedOnce a (insertText table names) (adaptedText a table names) := by
  cases a with
  | onConflict => exact .appended _
  | insertIgnore keyLength =>
    rw [insertText_eq]
    exact .replaced keyLength _

/-- An insert is refused exactly if no column is selected, or one that the table does not have:
then the first of these is named. Every other one is adapted, and it is not adapted yet, whatever
the names are. Between plain names the statement has the selected columns, their values and their
binds. -/
theorem adaptedInsert_fits (t : Table) (d : Descriptor) (columns : Option (List String)) :
    let names := columns.getD t.columnNames
    (t.adaptedInsert d columns = .error .noColumns ↔ names = []) ∧
    (∀ e, t.adaptedInsert d columns = .error (.unknownColumn e) ↔ t.FirstUnknown names e) ∧
    (names ≠ [] → t.Known names → ∃ adapted,
      Unadapted (insertText t.name names) ∧
      adapt d.adapter (insertText t.name names) = .ok adapted ∧
      AdaptedOnce d.adapter (insertText t.name names) adapted ∧
      (∀ s, t.adaptedInsert d columns = .ok s → s.sql = adapted) ∧
      (t.Plain → ∃ s, t.adaptedInsert d columns = .ok s ∧ t.Fits d names s)) := by
  intro names
  have hbound : ∀ e, (∀ name, e ≠ .noBind name) → t.bound d names ≠ .error e := by
    intro e he herror
    rcases t.bound_cases d names with ⟨s, hs, -⟩ | ⟨name, hname⟩
    · rw [hs] at herror
      cases herror
    · rw [hname] at herror
      exact he name (Except.error.inj herror).symm
  refine ⟨?_, fun e => ?_, fun hne hknown => ?_⟩
  · rcases t.adaptedInsert_cases d columns with ⟨hnil, h⟩ | ⟨e, he, h⟩ | ⟨hne, hknown, h⟩
    · exact iff_of_true h hnil
    · exact iff_of_false (by rw [h]; nofun) he.ne_nil
    · exact iff_of_false (by rw [h]; exact hbound _ nofun) hne
  · rcases t.adaptedInsert_cases d columns with ⟨hnil, h⟩ | ⟨first, hfirst, h⟩ | ⟨hne, hknown, h⟩
    · exact iff_of_false (by rw [h]; nofun) fun he => he.ne_nil hnil
    · rw [h]
      constructor
      · rintro ⟨⟩
        exact hfirst
      · intro he
        rw [hfirst.unique he]
    · exact iff_of_false (by rw [h]; exact hbound _ nofun) fun he => he.not_known hknown
  · have h : t.adaptedInsert d columns = t.bound d names := by
      rcases t.adaptedInsert_cases d columns with ⟨hnil, -⟩ | ⟨e, he, -⟩ | ⟨-, -, h⟩
      · exact absurd hnil hne
      · exact absurd hknown he.not_known
      · exact h
    rw [h]
    refine ⟨_, Insert.unadapted_insertText .., Insert.adapt_insertText ..,
      adaptedOnce_insertText .., ?_, fun ht => fits_bound ht hne hknown⟩
    intro s hs
    rcases t.bound_cases d names with ⟨other, hother, hsql⟩ | ⟨name, hname⟩
    · rw [hs] at hother
      rw [Except.ok.inj hother, hsql]
    · rw [hs] at hname
      cases hname

def noColumns : Table := ⟨"none", [], [], by simp⟩

/-- The selection of all columns is no empty list, and is refused if the table has none. -/
theorem insert_of_no_columns :
    noColumns.adaptedInsert Dialect.postgresql none = .error .noColumns ∧
      (none : Option (List String)) ≠ some [] :=
  ⟨rfl, nofun⟩

theorem adaptedInsert_fits_payload :
    let names := ["payload", "obj_id"]
    (names ≠ [] ∧ objsTable.Known names ∧ objsTable.Plain) ∧
    ∃ s, objsTable.adaptedInsert Dialect.mysql (some names) = .ok s ∧
      s.sql = "INSERT IGNORE INTO objs (payload, obj_id) VALUES (:payload, :obj_id)" ∧
      objsTable.Fits Dialect.mysql names s ∧ ("obj_id", some .varbinary) ∈ s.binds := by
  intro names
  have hknown : objsTable.Known names := by
    refine List.forall_mem_cons.mpr ⟨⟨_, rfl⟩, fun name hname => ?_⟩
    rw [List.mem_singleton.mp hname]
    exact ⟨_, rfl⟩
  obtain ⟨-, -, hselected⟩ := adaptedInsert_fits objsTable Dialect.mysql (some names)
  obtain ⟨adapted, -, hadapt, -, hsql, hfits⟩ := hselected (by decide) hknown
  obtain ⟨s, hs, hfits⟩ := hfits (by decide)
  have hadapted := Insert.adapt_insertText "objs" names Dialect.mysql.adapter
  obtain ⟨⟨_, type⟩, hbind, rfl⟩ : ∃ bind ∈ s.binds, bind.1 = "obj_id" := by
    rw [← List.mem_map, hfits.binds]
    decide
  obtain ⟨c, hc, htype⟩ := hfits.typed "obj_id" type hbind
  obtain rfl : ⟨"obj_id", .objId⟩ = c := Except.ok.inj hc
  refine ⟨⟨by decide, hknown, by decide⟩, s, hs, ?_, hfits, htype ▸ hbind⟩
  rw [hsql s hs]
  exact Except.ok.inj (hadapt.symm.trans hadapted)

end Table

end ObjectCatalog
