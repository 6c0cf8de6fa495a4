import Mathlib.Data.List.Forall2
import ObjectCatalog.Proofs.Dialect.Classes
import ObjectCatalog.Proofs.Text.Pieces
import ObjectCatalog.Schema.Statement

/-! # Definitions of tables

The definition of a table can be written in every dialect: each kind of column has a type, and each
name in the key has a column. The text tells the table apart, up to kinds of columns for which the
dialect has one keyword: where its name ends, and where its lines and the entries of its key end, a
character stands that they do not have.
-/
namespace ObjectCatalog

open Text (PlainName PiecesWithout)

inductive Unfound
  | columnType (kind : LogicalType)
  | column (e : UnknownColumn)

/-- A list is gone through exactly if each of its members is. -/
theorem mapM_eq_ok_iff {α β ε : Type} {f : α → Except ε β} {xs : List α} {ys : List β} :
    xs.mapM f = .ok ys ↔ List.Forall₂ (fun x y => f x = .ok y) xs ys := by
  induction xs generalizing ys with
  | nil => cases ys <;> simp [pure, Except.pure]
  | cons x xs ih =>
    rw [List.mapM_cons]
    cases hx : f x with
    | error e => cases ys <;> simp [bind, Except.bind, hx]
    | ok y =>
      cases hxs : xs.mapM f with
      | error e => cases ys <;> simp [bind, Except.bind, ← ih, hxs, hx]
      | ok rest => cases ys <;> simp [bind, Except.bind, pure, Except.pure, ← ih, hxs, hx]

namespace Table

variable {t u : Table} {d : Descriptor} {c : Column} {name : String}

/-! ## Looking up -/

def writeColumn (types : List (LogicalType × ColumnType)) (c : Column) : Except Unfound String :=
  match types.lookup c.logical with
  | some type => .ok ("    " ++ c.name ++ " " ++ type.keyword)
  | none => .error (.columnType c.logical)

def writeEntry (t : Table) (d : Descriptor) (name : String) : Except Unfound String :=
  match t.column name with
  | .ok c => .ok (d.keyColumn name c.logical)
  | .error e => .error (.column e)

def keyLine (entries : List String) : String :=
  "    PRIMARY KEY (" ++ String.intercalate ", " entries ++ ")"

def definitionText (t : Table) (d : Descriptor) (lines : List String) : String :=
  "CREATE TABLE " ++ existsClause d ++ t.name ++ " (\n" ++ String.intercalate ",\n" lines ++ "\n)"

def writeDefinition (t : Table) (d : Descriptor) (types : List (LogicalType × ColumnType)) :
    Except Unfound String := do
  let lines ← t.columns.mapM (writeColumn types)
  let entries ← t.primaryKey.mapM (t.writeEntry d)
  .ok (t.definitionText d (lines ++ [keyLine entries]))

/-- How a name stands in the primary key: with a length if the dialect asks for one and the first
column of that name holds object ids, and on its own otherwise. -/
inductive KeyEntry (t : Table) (d : Descriptor) (name : String) : String → Prop
  | bare (c : Column) (found : t.column name = .ok c)
      (plain : d.adapter = .onConflict ∨ c.logical ≠ .objId) : KeyEntry t d name name
  | bounded (c : Column) (found : t.column name = .ok c) (keyLength : Int)
      (adapter : d.adapter = .insertIgnore keyLength) (kind : c.logical = .objId) :
      KeyEntry t d name (name ++ "(" ++ toString keyLength ++ ")")

theorem column_eq_ok (h : ∃ c ∈ t.columns, c.name = name) :
    t.column name = .ok (t.columnOf name h) := by
  obtain ⟨c, hc⟩ := Option.isSome_iff_exists.mp (column?_isSome_iff.mpr h)
  unfold column columnOf
  simp only [hc, Option.get_some]

theorem keyEntry_keyColumn (h : t.column name = .ok c) :
    KeyEntry t d name (d.keyColumn name c.logical) := by
  unfold Descriptor.keyColumn
  cases hadapter : d.adapter with
  | onConflict => exact .bare c h (.inl hadapter)
  | insertIgnore keyLength =>
    cases hkind : c.logical with
    | objId => exact .bounded c h keyLength hadapter hkind
    | _ => exact .bare c h (.inr (by simp [hkind]))

/-- The entries are those of the names, in their order. -/
theorem forall₂_keyEntries (t : Table) (d : Descriptor) : List.Forall₂
    (fun name entry => ∃ c, t.column name = .ok c ∧ entry = d.keyColumn name c.logical)
    t.primaryKey (t.keyEntries d) := by
  have hentries : List.Forall₂
      (fun name entry => ∃ c, t.column name = .ok c ∧ entry = d.keyColumn name c.logical)
      (t.primaryKey.attach.map Subtype.val) (t.keyEntries d) := by
    unfold keyEntries
    rw [List.forall₂_map_left_iff, List.forall₂_map_right_iff, List.forall₂_same]
    exact fun key _ => ⟨_, column_eq_ok (t.key_mem key.1 key.2), rfl⟩
  rwa [List.attach_map_subtype_val] at hentries

/-- Nothing that a definition asks for is missing. -/
theorem writeDefinition_eq_ok {types : List (LogicalType × ColumnType)}
    (h : ∀ kind, types.lookup kind = some (d.columnType kind)) (t : Table) :
    t.writeDefinition d types = .ok (t.createStatement d) := by
  have hlines : t.columns.mapM (writeColumn types) = .ok (t.columns.map (columnLine d)) := by
    rw [mapM_eq_ok_iff, List.forall₂_map_right_iff, List.forall₂_same]
    intro c _
    unfold writeColumn
    rw [h]
    rfl
  have hentries : t.primaryKey.mapM (t.writeEntry d) = .ok (t.keyEntries d) := by
    rw [mapM_eq_ok_iff]
    refine (forall₂_keyEntries t d).imp ?_
    rintro name _ ⟨c, hc, rfl⟩
    unfold writeEntry
    rw [hc]
  unfold writeDefinition
  rw [hlines, hentries]
  rfl

/-! ## Reading back -/

structure Plain (t : Table) : Prop where
  name : PlainName t.name
  columns : ∀ c ∈ t.columns, PlainName c.name

instance (t : Table) : Decidable t.Plain :=
  decidable_of_iff (PlainName t.name ∧ ∀ c ∈ t.columns, PlainName c.name)
    ⟨fun h => ⟨h.1, h.2⟩, fun h => ⟨h.name, h.columns⟩⟩

theorem Plain.key (h : t.Plain) (hname : name ∈ t.primaryKey) : PlainName name := by
  obtain ⟨c, hc, rfl⟩ := t.key_mem name hname
  exact h.columns c hc

def keywords (t : Table) (d : Descriptor) : List (String × String) :=
  t.columns.map fun c => (c.name, (d.columnType c.logical).keyword)

def lines (t : Table) (d : Descriptor) : List String :=
  t.columns.map (columnLine d) ++ [keyLine (t.keyEntries d)]

def readColumn (line : String) : String × String :=
  (String.ofList ((line.toList.drop 4).takeWhile Text.isWordChar),
    String.ofList ((line.toList.drop 4).dropWhile Text.isWordChar).tail)

def readEntry (entry : String) : String := String.ofList (entry.toList.takeWhile Text.isWordChar)

theorem readColumn_columnLine (h : PlainName c.name) :
    readColumn (columnLine d c) = (c.name, (d.columnType c.logical).keyword) := by
  have hline : (columnLine d c).toList.drop 4 =
      c.name.toList ++ ' ' :: (d.columnType c.logical).keyword.toList := by
    simp [columnLine, String.toList_append]
  unfold readColumn
  rw [hline, h.takeWhile_append (by decide), h.dropWhile_append (by decide)]
  simp

theorem readEntry_of_keyEntry {entry : String} (h : PlainName name) (hentry : KeyEntry t d name entry) :
    readEntry entry = name := by
  unfold readEntry
  cases hentry with
  | bare => rw [List.takeWhile_eq_self_iff.mpr h.wordChar, String.ofList_toList]
  | bounded c found keyLength =>
    have hentry : (name ++ "(" ++ toString keyLength ++ ")").toList =
        name.toList ++ '(' :: ((toString keyLength).toList ++ [')']) := by
      simp [String.toList_append]
    rw [hentry, h.takeWhile_append (by decide), String.ofList_toList]

theorem toList_keyLine (entries : List String) : (keyLine entries).toList =
    "    PRIMARY KEY (".toList ++ ([',', ' '].intercalate (entries.map String.toList) ++ [')']) := by
  unfold keyLine
  rw [String.toList_append, String.toList_append, String.toList_intercalate, List.append_assoc]
  rfl

theorem notMem_of_keyEntry {entry : String} {sign : Char} (h : PlainName name)
    (hentry : KeyEntry t d name entry) (hword : Text.isWordChar sign = false)
    (hdigit : sign.isDigit = false) (hsign : sign ∉ ['(', ')', '-']) : sign ∉ entry.toList := by
  cases hentry with
  | bare => exact h.notMem hword
  | bounded c found keyLength =>
    obtain ⟨hopen, hclose, hminus⟩ : sign ≠ '(' ∧ sign ≠ ')' ∧ sign ≠ '-' := by simpa using hsign
    have hnumber := Text.notMem_toString hdigit hminus keyLength
    simp only [String.toList_append, List.mem_append, not_or]
    exact ⟨⟨⟨h.notMem hword, by simp [hopen]⟩, hnumber⟩, by simp [hclose]⟩

/-- An entry is that of some name in the key. -/
theorem exists_keyEntry {entry : String} (h : entry ∈ t.keyEntries d) :
    ∃ name ∈ t.primaryKey, KeyEntry t d name entry := by
  unfold keyEntries at h
  obtain ⟨⟨name, hname⟩, -, rfl⟩ := List.mem_map.mp h
  exact ⟨name, hname, keyEntry_keyColumn (column_eq_ok (t.key_mem name hname))⟩

theorem map_readEntry_keyEntries (h : t.Plain) (d : Descriptor) :
    (t.keyEntries d).map readEntry = t.primaryKey := by
  unfold keyEntries
  rw [List.map_map]
  refine Eq.trans (List.map_congr_left ?_) (List.attach_map_subtype_val _)
  rintro ⟨name, hname⟩ -
  exact readEntry_of_keyEntry (h.key hname) (keyEntry_keyColumn (column_eq_ok (t.key_mem name hname)))

theorem map_readColumn_columnLine (h : t.Plain) (d : Descriptor) :
    (t.columns.map (columnLine d)).map readColumn = t.keywords d := by
  rw [List.map_map]
  exact List.map_congr_left fun c hc => readColumn_columnLine (h.columns c hc)

/-- No entry has a comma. -/
theorem pieces_keyEntries (h : t.Plain) (d : Descriptor) :
    PiecesWithout ',' ((t.keyEntries d).map String.toList) := by
  intro piece hpiece
  obtain ⟨entry, hentry, rfl⟩ := List.mem_map.mp hpiece
  obtain ⟨name, hname, hkey⟩ := exists_keyEntry hentry
  have hplain := h.key hname
  refine ⟨fun hnil => hplain.ne_nil ?_,
    notMem_of_keyEntry hplain hkey (by decide) (by decide) (by decide)⟩
  rw [← readEntry_of_keyEntry hplain hkey, readEntry, hnil]
  rfl

/-- No line has a break. -/
theorem pieces_lines (h : t.Plain) (hd : ∀ kind, '\n' ∉ (d.columnType kind).keyword.toList) :
    PiecesWithout '\n' ((t.lines d).map String.toList) := by
  intro piece hpiece
  obtain ⟨line, hline, rfl⟩ := List.mem_map.mp hpiece
  rcases List.mem_append.mp hline with hcolumn | hkey
  · obtain ⟨c, hc, rfl⟩ := List.mem_map.mp hcolumn
    have hname := (h.columns c hc).notMem (show Text.isWordChar '\n' = false by decide)
    simp [columnLine, String.toList_append, hname, hd]
  · obtain rfl := List.mem_singleton.mp hkey
    have hentries : '\n' ∉ [',', ' '].intercalate ((t.keyEntries d).map String.toList) := by
      refine Text.notMem_intercalate (by decide) fun piece hpiece => ?_
      obtain ⟨entry, hentry, rfl⟩ := List.mem_map.mp hpiece
      obtain ⟨name, hname, hkey⟩ := exists_keyEntry hentry
      exact notMem_of_keyEntry (h.key hname) hkey (by decide) (by decide) (by decide)
    rw [toList_keyLine]
    exact ⟨by simp, by simpa using hentries⟩

theorem toList_createStatement (t : Table) (d : Descriptor) : (t.createStatement d).toList =
    ("CREATE TABLE " ++ existsClause d).toList ++ (t.name.toList ++ ' ' :: ('(' :: '\n' ::
      ([',', '\n'].intercalate ((t.lines d).map String.toList) ++ ['\n', ')']))) := by
  have htext : t.createStatement d = "CREATE TABLE " ++ existsClause d ++ t.name ++ " (\n" ++
      String.intercalate ",\n" (t.lines d) ++ "\n)" := rfl
  rw [htext]
  simp [String.toList_append, String.toList_intercalate]

theorem eq_of_lines_eq (ht : t.Plain) (hu : u.Plain) (h : t.lines d = u.lines d) :
    t.keywords d = u.keywords d ∧ t.primaryKey = u.primaryKey := by
  have hlines : t.columns.map (columnLine d) ++ [keyLine (t.keyEntries d)] =
      u.columns.map (columnLine d) ++ [keyLine (u.keyEntries d)] := h
  obtain ⟨hcolumns, hkey⟩ := List.append_inj' hlines (by simp)
  constructor
  · rw [← map_readColumn_columnLine ht, ← map_readColumn_columnLine hu, hcolumns]
  · have hentries := congrArg String.toList (List.singleton_inj.mp hkey)
    rw [toList_keyLine, toList_keyLine] at hentries
    have hjoined := List.append_cancel_right (List.append_cancel_left hentries)
    have hpieces := Text.intercalate_inj [] [' '] (by simp)
      (pieces_keyEntries ht d) (pieces_keyEntries hu d) hjoined
    rw [← map_readEntry_keyEntries ht d, ← map_readEntry_keyEntries hu d,
      List.map_injective_iff.mpr (fun _ _ => String.toList_inj.mp) hpieces]

/-- A table with plain names can be told from its definition. -/
theorem eq_of_createStatement_eq (hd : ∀ kind, '\n' ∉ (d.columnType kind).keyword.toList)
    (ht : t.Plain) (hu : u.Plain) (h : t.createStatement d = u.createStatement d) :
    t.name = u.name ∧ t.keywords d = u.keywords d ∧ t.primaryKey = u.primaryKey := by
  have htext := congrArg String.toList h
  rw [toList_createStatement, toList_createStatement, List.append_cancel_left_eq] at htext
  have hspace : Text.isWordChar ' ' = false := by decide
  obtain ⟨hname, hrest⟩ :=
    (Text.append_cons_inj (ht.name.notMem hspace) (hu.name.notMem hspace)).mp htext
  have hbody := List.append_cancel_right (List.cons.inj (List.cons.inj hrest).2).2
  have hlines := Text.intercalate_inj [','] [] (by decide)
    (pieces_lines ht hd) (pieces_lines hu hd) hbody
  exact ⟨String.toList_inj.mp hname,
    eq_of_lines_eq ht hu (List.map_injective_iff.mpr (fun _ _ => String.toList_inj.mp) hlines)⟩

/-- In a dialect that has been built every table has a definition, for which nothing is missing.
Its last line has the names of the key, in their order, each on its own or with the length that
the dialect asks for. Unless a keyword has a line break, tables with plain names and one
definition agree in their names, their columns with the keywords of these, and their keys. -/
theorem createStatement_total_lossless (decl : Declaration) (d : Descriptor)
    (h : decl.build = .ok d) :
    (∃ types, Declaration.resolveTypes decl.columnTypes = .ok types ∧
      ∀ t : Table, t.writeDefinition d types = .ok (t.createStatement d)) ∧
    (∀ t : Table, ∃ entries, List.Forall₂ (t.KeyEntry d) t.primaryKey entries ∧
      t.createStatement d =
        t.definitionText d (t.columns.map (columnLine d) ++ [keyLine entries])) ∧
    ((∀ kind, '\n' ∉ (d.columnType kind).keyword.toList) → ∀ t u : Table, t.Plain → u.Plain →
      t.createStatement d = u.createStatement d →
        t.name = u.name ∧ t.keywords d = u.keywords d ∧ t.primaryKey = u.primaryKey) := by
  refine ⟨?_, fun t => ⟨t.keyEntries d, ?_, rfl⟩, fun hd t u => eq_of_createStatement_eq hd⟩
  · obtain ⟨family, types, -, htypes, -, -, -, hlookup⟩ := Declaration.exists_of_build h
    exact ⟨types, htypes, writeDefinition_eq_ok hlookup⟩
  · refine (forall₂_keyEntries t d).imp ?_
    rintro name _ ⟨c, hc, rfl⟩
    exact keyEntry_keyColumn hc

def fewTypes : Declaration where
  family := "mysql"
  adapter := .insertIgnore 32
  columnTypes := [("name", ⟨"VARCHAR(64)", .varchar⟩), ("obj_id", ⟨"TINYBLOB", .varbinary⟩),
    ("bool", ⟨"BIT(1)", .bit⟩), ("varbinary", ⟨"TINYBLOB", .varbinary⟩),
    ("bigint", ⟨"BIGINT", .bigint⟩), ("varchar", ⟨"VARCHAR(64)", .varchar⟩)]
  constraintCodes := ["23000"]
  retryCodes := []
  existsCodes := ["42S01"]

def sealedBy (kind : LogicalType) : Table where
  name := "sealed"
  columns := [⟨"id", .objId⟩, ⟨"seal", kind⟩]
  primaryKey := ["id"]
  key_mem := by simp

theorem createStatement_total_lossless_sealed : ∃ d, fewTypes.build = .ok d ∧
    ((∀ kind, '\n' ∉ (d.columnType kind).keyword.toList) ∧
      (sealedBy .objId).Plain ∧ (sealedBy .varbinary).Plain ∧
      (sealedBy .objId).createStatement d = (sealedBy .varbinary).createStatement d) ∧
    (sealedBy .objId).keywords d = (sealedBy .varbinary).keywords d ∧
    (sealedBy .objId).createStatement d = (sealedBy .objId).definitionText d
      ((sealedBy .objId).columns.map (columnLine d) ++ [keyLine ["id(32)"]]) := by
  refine ⟨fewTypes.build.toOption.get rfl, rfl, ?_⟩
  have hbreak : ∀ kind,
      '\n' ∉ ((fewTypes.build.toOption.get rfl).columnType kind).keyword.toList := by
    intro kind
    cases kind <;> decide
  have hsame : (sealedBy .objId).createStatement (fewTypes.build.toOption.get rfl) =
      (sealedBy .varbinary).createStatement (fewTypes.build.toOption.get rfl) := rfl
  obtain ⟨-, hkeys, hread⟩ := createStatement_total_lossless fewTypes _ rfl
  obtain ⟨-, hkeywords, -⟩ := hread hbreak (sealedBy .objId) (sealedBy .varbinary) (by decide)
    (by decide) hsame
  obtain ⟨entries, hentries, htext⟩ := hkeys (sealedBy .objId)
  refine ⟨⟨hbreak, by decide, by decide, hsame⟩, hkeywords, ?_⟩
  obtain ⟨entry, rfl, hentry⟩ :
      ∃ entry, entries = [entry] ∧ (sealedBy .objId).KeyEntry _ "id" entry := by
    cases hentries with
    | cons hentry hnone =>
      cases hnone
      exact ⟨_, rfl, hentry⟩
  cases hentry with
  | bare c found plain =>
    obtain rfl : ⟨"id", .objId⟩ = c := Except.ok.inj found
    rcases plain with hadapter | hkind
    · cases hadapter
    · exact absurd rfl hkind
  | bounded c found keyLength adapter kind =>
    obtain rfl : 32 = keyLength := Adapter.insertIgnore.inj adapter
    exact htext

end Table

end ObjectCatalog
