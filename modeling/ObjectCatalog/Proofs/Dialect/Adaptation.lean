import ObjectCatalog.Dialect.Builtin
import ObjectCatalog.Dialect.Insert
import ObjectCatalog.Proofs.Text.Phrases

/-! # Which statements are adapted, and to what

The statements that an adapter takes are those that open with its phrases, and it refuses every
other. What it makes of one is the statement itself, if that is adapted already, or the statement
with its leading phrase replaced, or with the conflict clause in the place of its last blanks and
semicolons. Each of these is adapted already, so that a second adaptation changes nothing.
-/
namespace ObjectCatalog.Insert

open Text

/-! ## How statements open -/

/-- The statement reads: blanks, a phrase of the words, and a rest into which no word goes on. -/
structure Opens (words : List (List Char)) (blanks phrase rest sql : List Char) : Prop where
  sql_eq : sql = blanks ++ phrase ++ rest
  blank : AllBlank blanks
  phrase : Phrase words phrase
  apart : startsOutsideWord rest = true

def openings : Adapter → List (List (List Char))
  | .onConflict => [insertInto]
  | .insertIgnore _ => [insertIgnoreInto, insertInto]

def IsInsert (a : Adapter) (sql : List Char) : Prop :=
  ∃ words ∈ openings a, ∃ blanks phrase rest, Opens words blanks phrase rest sql

theorem isWord_of_insertInto : ∀ word ∈ insertInto, IsWord word := by
  decide

theorem isWord_of_insertIgnoreInto : ∀ word ∈ insertIgnoreInto, IsWord word := by
  decide

theorem isWord_of_conflictWords : ∀ word ∈ conflictWords, IsWord word := by
  decide

variable {words : List (List Char)} {sql blanks phrase rest : List Char}

theorem Opens.trimStart_eq (hwords : ∀ word ∈ words, IsWord word)
    (h : Opens words blanks phrase rest sql) : trimStart sql = phrase ++ rest := by
  obtain ⟨c, more, rfl, hc⟩ := h.phrase.first hwords
  rw [h.sql_eq, List.append_assoc, trimStart_append h.blank, List.cons_append,
    trimStart_of_not_isBlank (not_isBlank_of_not_isSeparator hc)]

theorem Opens.leadingBlanks_eq (hwords : ∀ word ∈ words, IsWord word)
    (h : Opens words blanks phrase rest sql) : leadingBlanks sql = blanks := by
  have hsplit : leadingBlanks sql ++ trimStart sql = sql := List.takeWhile_append_dropWhile
  rw [h.trimStart_eq hwords] at hsplit
  have hsql := h.sql_eq
  rw [List.append_assoc] at hsql
  exact List.append_cancel_right (hsplit.trans hsql)

theorem afterWords?_eq_some_iff (hne : words ≠ []) (hwords : ∀ word ∈ words, IsWord word) :
    afterWords? words sql = some rest ↔ ∃ blanks phrase, Opens words blanks phrase rest sql := by
  unfold afterWords?
  rw [Option.filter_eq_some_iff, keywords?_eq_some_iff hne hwords]
  constructor
  · rintro ⟨⟨phrase, hphrase, htext⟩, hapart⟩
    obtain ⟨blanks, hblanks, hsql⟩ := exists_blanks sql
    refine ⟨blanks, phrase, ?_, hblanks, hphrase, hapart⟩
    rw [List.append_assoc, ← htext]
    exact hsql
  · rintro ⟨blanks, phrase, h⟩
    exact ⟨⟨phrase, h.phrase, h.trimStart_eq hwords⟩, h.apart⟩

/-! ## How adapted statements end -/

/-- The text ends in a phrase of the words of the conflict clause, into which no word runs, and
something behind it. -/
structure Closes (front phrase ending sql : List Char) : Prop where
  sql_eq : sql = front ++ phrase ++ ending
  phrase : Phrase conflictWords phrase
  apart : ∀ c ∈ front.getLast?, isWordChar c = false

structure IsEnding (ending : List Char) : Prop where
  separators : ∀ c ∈ ending, isSeparator c = true
  count : ending.count ';' ≤ 1

def EndsWithClause (sql : List Char) : Prop :=
  ∃ front phrase ending, Closes front phrase ending sql ∧ IsEnding ending

theorem isSeparator_of_isBlank {c : Char} (h : isBlank c = true) : isSeparator c = true :=
  isSeparator_iff.mpr (.inl h)

theorem allBlank_iff_count {text : List Char} (h : ∀ c ∈ text, isSeparator c = true) :
    AllBlank text ↔ text.count ';' = 0 := by
  rw [List.count_eq_zero]
  constructor
  · intro hblank hmem
    exact absurd (hblank ';' hmem) (by decide)
  · intro hmem c hc
    rcases isSeparator_iff.mp (h c hc) with hblank | rfl
    · exact hblank
    · exact absurd hc hmem

theorem count_of_allBlank {text : List Char} (h : AllBlank text) : text.count ';' = 0 :=
  (allBlank_iff_count fun c hc => isSeparator_of_isBlank (h c hc)).mp h

theorem isEnding_of_allBlank {text : List Char} (h : AllBlank text) : IsEnding text := by
  refine ⟨fun c hc => isSeparator_of_isBlank (h c hc), ?_⟩
  rw [count_of_allBlank h]
  exact Nat.zero_le 1

theorem isEnding_append_iff {c : Char} (hblanks : AllBlank blanks) (hc : isBlank c = false) :
    IsEnding (blanks ++ c :: rest) ↔ c = ';' ∧ AllBlank rest := by
  have hcount : (blanks ++ ';' :: rest).count ';' = rest.count ';' + 1 := by
    rw [List.count_append, count_of_allBlank hblanks, List.count_cons_self, Nat.zero_add]
  constructor
  · rintro ⟨hall, hmany⟩
    obtain ⟨-, hbehind⟩ := List.forall_mem_append.mp hall
    obtain ⟨hown, hrest⟩ := List.forall_mem_cons.mp hbehind
    obtain rfl : c = ';' := by
      rcases isSeparator_iff.mp hown with hblank | rfl
      · rw [hc] at hblank
        cases hblank
      · rfl
    rw [hcount] at hmany
    exact ⟨rfl, (allBlank_iff_count hrest).mpr (by omega)⟩
  · rintro ⟨rfl, hrest⟩
    refine ⟨List.forall_mem_append.mpr ⟨?_, List.forall_mem_cons.mpr ⟨by decide, ?_⟩⟩, ?_⟩
    · exact fun c hc => isSeparator_of_isBlank (hblanks c hc)
    · exact fun c hc => isSeparator_of_isBlank (hrest c hc)
    · rw [hcount, count_of_allBlank hrest]

theorem isTerminator_iff {text : List Char} : isTerminator text = true ↔ IsEnding text := by
  obtain ⟨blanks, hblanks, hsplit⟩ := exists_blanks text
  unfold isTerminator
  split
  · rename_i hnil
    rw [hnil, List.append_nil] at hsplit
    exact iff_of_true rfl (isEnding_of_allBlank (hsplit ▸ hblanks))
  · rename_i c rest hcons
    rw [hcons] at hsplit
    rw [hsplit, isEnding_append_iff hblanks (not_isBlank_of_trimStart hcons), Bool.and_eq_true,
      beq_iff_eq, List.isEmpty_iff]
    exact and_congr_right fun _ => List.dropWhile_eq_nil_iff

theorem isConflictClause_iff {text : List Char} : isConflictClause text = true ↔
    ∃ phrase ending, Phrase conflictWords phrase ∧ IsEnding ending ∧ text = phrase ++ ending := by
  have hread {rest : List Char} : keywords? conflictWords text = some rest ↔
      ∃ phrase, Phrase conflictWords phrase ∧ text = phrase ++ rest :=
    keywords?_eq_some_iff (by decide) isWord_of_conflictWords
  unfold isConflictClause
  split
  · rename_i rest hrest
    rw [isTerminator_iff]
    constructor
    · intro hending
      obtain ⟨phrase, hphrase, htext⟩ := hread.mp hrest
      exact ⟨phrase, rest, hphrase, hending, htext⟩
    · rintro ⟨phrase, ending, hphrase, hending, htext⟩
      rw [Option.some.inj (hrest.symm.trans (hread.mpr ⟨phrase, hphrase, htext⟩))]
      exact hending
  · rename_i hnone
    refine iff_of_false Bool.false_ne_true ?_
    rintro ⟨phrase, ending, hphrase, -, htext⟩
    rw [hread.mpr ⟨phrase, hphrase, htext⟩] at hnone
    cases hnone

theorem endsWithClause_iff_of_inside {text : List Char} {insideWord : Bool} :
    endsWithClause insideWord text = true ↔ ∃ front phrase ending,
      text = front ++ phrase ++ ending ∧ Phrase conflictWords phrase ∧ IsEnding ending ∧
        (front.getLast?.map isWordChar).getD insideWord = false := by
  induction text generalizing insideWord with
  | nil =>
    refine iff_of_false Bool.false_ne_true ?_
    rintro ⟨front, phrase, ending, htext, hphrase, -⟩
    obtain ⟨c, more, rfl, -⟩ := hphrase.first isWord_of_conflictWords
    simp at htext
  | cons c text ih =>
    unfold endsWithClause
    rw [Bool.or_eq_true, Bool.and_eq_true, Bool.not_eq_true', isConflictClause_iff, ih]
    constructor
    · rintro (⟨hinside, phrase, ending, hphrase, hending, htext⟩ |
        ⟨front, phrase, ending, rfl, hphrase, hending, hlast⟩)
      · exact ⟨[], phrase, ending, htext, hphrase, hending, hinside⟩
      · refine ⟨c :: front, phrase, ending, rfl, hphrase, hending, ?_⟩
        rw [List.getLast?_cons, Option.map_some, Option.getD_some, ← Option.getD_map isWordChar]
        exact hlast
    · rintro ⟨front, phrase, ending, htext, hphrase, hending, hlast⟩
      cases front with
      | nil => exact .inl ⟨hlast, phrase, ending, hphrase, hending, htext⟩
      | cons d front =>
        obtain ⟨rfl, rfl⟩ := List.cons.inj htext
        rw [List.getLast?_cons, Option.map_some, Option.getD_some, ← Option.getD_map isWordChar]
          at hlast
        exact .inr ⟨front, phrase, ending, rfl, hphrase, hending, hlast⟩

theorem endsWithClause_iff : endsWithClause false sql = true ↔ EndsWithClause sql := by
  rw [endsWithClause_iff_of_inside]
  constructor
  · rintro ⟨front, phrase, ending, hsql, hphrase, hending, hlast⟩
    refine ⟨front, phrase, ending, ⟨hsql, hphrase, ?_⟩, hending⟩
    intro c hc
    rw [Option.mem_def.mp hc] at hlast
    exact hlast
  · rintro ⟨front, phrase, ending, ⟨hsql, hphrase, hapart⟩, hending⟩
    refine ⟨front, phrase, ending, hsql, hphrase, hending, ?_⟩
    cases hlast : front.getLast? with
    | none => rfl
    | some c => exact hapart c hlast

/-! ## What is made of a statement -/

theorem phrase_of_keywords? {text : List Char} (hne : words ≠ [])
    (hwords : ∀ word ∈ words, IsWord word) (h : keywords? words text = some []) :
    Phrase words text := by
  obtain ⟨own, hown, htext⟩ := (keywords?_eq_some_iff hne hwords).mp h
  rw [htext, List.append_nil]
  exact hown

theorem phrase_insertIgnoreClause : Phrase insertIgnoreInto insertIgnoreClause :=
  phrase_of_keywords? (by decide) isWord_of_insertIgnoreInto (by decide)

theorem phrase_conflictClause : Phrase conflictWords conflictClause.tail :=
  phrase_of_keywords? (by decide) isWord_of_conflictWords (by decide)

theorem endsWithClause_append (front : List Char) : EndsWithClause (front ++ conflictClause) := by
  have hclause : conflictClause = ' ' :: conflictClause.tail := by
    decide
  refine ⟨front ++ [' '], conflictClause.tail, [], ⟨?_, phrase_conflictClause, ?_⟩,
    isEnding_of_allBlank (List.forall_mem_nil _)⟩
  · rw [List.append_nil, List.append_assoc, List.singleton_append, ← hclause]
  · exact forall_mem_getLast? List.getLast?_concat (by decide)

/-- What an adapter makes of a statement: a statement that is adapted already stays as it is. -/
inductive Adapted : Adapter → List Char → List Char → Prop
  | closed {sql : List Char} (h : EndsWithClause sql) : Adapted .onConflict sql sql
  | appended {sql front ending : List Char} (h : ¬ EndsWithClause sql)
    (hsql : sql = front ++ ending) (hending : ∀ c ∈ ending, isSeparator c = true) :
    Adapted .onConflict sql (front ++ conflictClause)
  | ignoring {keyLength : Int} {blanks phrase rest sql : List Char}
    (h : Opens insertIgnoreInto blanks phrase rest sql) : Adapted (.insertIgnore keyLength) sql sql
  | replaced {keyLength : Int} {blanks phrase rest sql : List Char}
    (h : Opens insertInto blanks phrase rest sql) :
    Adapted (.insertIgnore keyLength) sql (blanks ++ insertIgnoreClause ++ rest)

variable {a : Adapter} {front ending adapted : List Char} {keyLength : Int}

theorem Opens.afterWords?_eq (hne : words ≠ []) (hwords : ∀ word ∈ words, IsWord word)
    (h : Opens words blanks phrase rest sql) : afterWords? words sql = some rest :=
  (afterWords?_eq_some_iff hne hwords).mpr ⟨blanks, phrase, h⟩

theorem adaptChars?_of_closed (h : Opens insertInto blanks phrase rest sql)
    (hclosed : EndsWithClause sql) : adaptChars? .onConflict sql = some sql := by
  show (afterWords? insertInto sql).map _ = some sql
  rw [h.afterWords?_eq (by decide) isWord_of_insertInto, Option.map_some, if_pos]
  exact endsWithClause_iff.mpr hclosed

theorem adaptChars?_of_not_closed (h : Opens insertInto blanks phrase rest sql)
    (hclosed : ¬ EndsWithClause sql) :
    adaptChars? .onConflict sql = some (appendClause sql) := by
  show (afterWords? insertInto sql).map _ = some (appendClause sql)
  rw [h.afterWords?_eq (by decide) isWord_of_insertInto, Option.map_some, if_neg]
  exact fun hends => hclosed (endsWithClause_iff.mp hends)

theorem adaptChars?_of_ignoring (h : Opens insertIgnoreInto blanks phrase rest sql) :
    adaptChars? (.insertIgnore keyLength) sql = some sql := by
  unfold adaptChars?
  rw [h.afterWords?_eq (by decide) isWord_of_insertIgnoreInto]

theorem adaptChars?_of_plain (h : Opens insertInto blanks phrase rest sql)
    (hplain : afterWords? insertIgnoreInto sql = none) :
    adaptChars? (.insertIgnore keyLength) sql = some (blanks ++ insertIgnoreClause ++ rest) := by
  unfold adaptChars?
  rw [hplain]
  dsimp only
  rw [h.afterWords?_eq (by decide) isWord_of_insertInto, Option.map_some,
    h.leadingBlanks_eq isWord_of_insertInto]

/-- A statement less its last blanks and then its last semicolons. -/
def lessTerminator (sql : List Char) : List Char := dropEndWhile (· == ';') (trimEnd sql)

theorem appendClause_eq (sql : List Char) :
    appendClause sql = lessTerminator sql ++ conflictClause := rfl

theorem exists_of_lessTerminator (sql : List Char) : ∃ semicolons blanks,
    sql = lessTerminator sql ++ semicolons ++ blanks ∧ (∀ c ∈ semicolons, c = ';') ∧
      AllBlank blanks := by
  obtain ⟨blanks, hsql, hblanks⟩ := dropEndWhile_append (p := isBlank) sql
  obtain ⟨semicolons, hfront, hsemicolons⟩ := dropEndWhile_append (p := (· == ';')) (trimEnd sql)
  refine ⟨semicolons, blanks, ?_, fun c hc => beq_iff_eq.mp (hsemicolons c hc), hblanks⟩
  rw [lessTerminator, ← hfront]
  exact hsql

theorem exists_adapted (h : IsInsert a sql) :
    ∃ adapted, adaptChars? a sql = some adapted ∧ Adapted a sql adapted := by
  obtain ⟨words, hwords, blanks, phrase, rest, hopens⟩ := h
  cases a with
  | onConflict =>
    obtain rfl := List.mem_singleton.mp hwords
    by_cases hclosed : EndsWithClause sql
    · exact ⟨sql, adaptChars?_of_closed hopens hclosed, .closed hclosed⟩
    · obtain ⟨semicolons, blanks, hsql, hsemicolons, hblanks⟩ := exists_of_lessTerminator sql
      rw [List.append_assoc] at hsql
      refine ⟨_, adaptChars?_of_not_closed hopens hclosed,
        .appended hclosed hsql (List.forall_mem_append.mpr ⟨?_, ?_⟩)⟩
      · exact fun c hc => isSeparator_iff.mpr (.inr (hsemicolons c hc))
      · exact fun c hc => isSeparator_of_isBlank (hblanks c hc)
  | insertIgnore keyLength =>
    cases hignore : afterWords? insertIgnoreInto sql with
    | some other =>
      obtain ⟨_, _, hignoring⟩ :=
        (afterWords?_eq_some_iff (by decide) isWord_of_insertIgnoreInto).mp hignore
      exact ⟨sql, adaptChars?_of_ignoring hignoring, .ignoring hignoring⟩
    | none =>
      rcases List.mem_cons.mp hwords with rfl | hplain
      · rw [hopens.afterWords?_eq (by decide) isWord_of_insertIgnoreInto] at hignore
        cases hignore
      · obtain rfl := List.mem_singleton.mp hplain
        exact ⟨_, adaptChars?_of_plain hopens hignore, .replaced hopens⟩

theorem isInsert_of_adaptChars? (h : adaptChars? a sql = some adapted) : IsInsert a sql := by
  have hread : ∀ {words rest}, words ∈ openings a → words ≠ [] →
      (∀ word ∈ words, IsWord word) → afterWords? words sql = some rest → IsInsert a sql := by
    intro words rest hmem hne hwords hafter
    obtain ⟨blanks, phrase, hopens⟩ := (afterWords?_eq_some_iff hne hwords).mp hafter
    exact ⟨words, hmem, blanks, phrase, rest, hopens⟩
  cases a with
  | onConflict =>
    obtain ⟨rest, hrest, -⟩ := Option.map_eq_some_iff.mp h
    exact hread (.head _) (by decide) isWord_of_insertInto hrest
  | insertIgnore keyLength =>
    cases hignore : afterWords? insertIgnoreInto sql with
    | some rest => exact hread (.head _) (by decide) isWord_of_insertIgnoreInto hignore
    | none =>
      unfold adaptChars? at h
      rw [hignore] at h
      obtain ⟨rest, hrest, -⟩ := Option.map_eq_some_iff.mp h
      exact hread (.tail _ (.head _)) (by decide) isWord_of_insertInto hrest

theorem isInsert_iff : IsInsert a sql ↔ (adaptChars? a sql).isSome = true := by
  rw [Option.isSome_iff_exists]
  constructor
  · intro h
    obtain ⟨adapted, hadapt, -⟩ := exists_adapted h
    exact ⟨adapted, hadapt⟩
  · rintro ⟨adapted, hadapt⟩
    exact isInsert_of_adaptChars? hadapt

instance (a : Adapter) (sql : List Char) : Decidable (IsInsert a sql) :=
  decidable_of_iff _ isInsert_iff.symm

/-! ## Adapting twice -/

theorem startsOutsideWord_of_append {kept : List Char}
    (h : startsOutsideWord (kept ++ ending) = true) :
    startsOutsideWord (kept ++ conflictClause) = true := by
  cases kept with
  | nil => decide
  | cons c kept => exact h

/-- Blanks and semicolons at the end of a statement are no part of its opening. -/
theorem Opens.replaceEnd (hwords : ∀ word ∈ words, IsWord word)
    (h : Opens words blanks phrase rest (front ++ ending))
    (hending : ∀ c ∈ ending, isSeparator c = true) :
    ∃ kept, Opens words blanks phrase kept (front ++ conflictClause) := by
  obtain ⟨kept, hfront, hrest⟩ :
      ∃ kept, front = blanks ++ phrase ++ kept ∧ rest = kept ++ ending := by
    rcases List.append_eq_append_iff.mp h.sql_eq with ⟨taken, hopening, htaken⟩ | hkept
    · obtain ⟨more, c, hphrase, hc⟩ := h.phrase.last hwords
      rcases List.eq_nil_or_concat taken with rfl | ⟨_, d, rfl⟩
      · exact ⟨[], by simpa using hopening.symm, by simpa using htaken.symm⟩
      · -- the last letter of the opening would be a blank or a semicolon
        have hlast := congrArg List.getLast? hopening
        obtain rfl : c = d := by simpa [hphrase, List.getLast?_append] using hlast
        rw [hending c (by simp [htaken])] at hc
        cases hc
    · exact hkept
  have hapart := h.apart
  rw [hrest] at hapart
  refine ⟨kept ++ conflictClause, ?_, h.blank, h.phrase, startsOutsideWord_of_append hapart⟩
  rw [hfront, List.append_assoc]

theorem adaptChars?_adapted (h : IsInsert a sql) (hadapted : Adapted a sql adapted) :
    adaptChars? a adapted = some adapted := by
  obtain ⟨words, hwords, blanks, phrase, rest, hopens⟩ := h
  cases hadapted with
  | closed hclosed =>
    obtain rfl := List.mem_singleton.mp hwords
    exact adaptChars?_of_closed hopens hclosed
  | @appended _ front _ _ hsql hending =>
    obtain rfl := List.mem_singleton.mp hwords
    rw [hsql] at hopens
    obtain ⟨kept, hkept⟩ := hopens.replaceEnd isWord_of_insertInto hending
    exact adaptChars?_of_closed hkept (endsWithClause_append front)
  | ignoring hignoring => exact adaptChars?_of_ignoring hignoring
  | @replaced keyLength blanks phrase rest _ hplain =>
    have hignoring : Opens insertIgnoreInto blanks insertIgnoreClause rest
        (blanks ++ insertIgnoreClause ++ rest) :=
      ⟨rfl, hplain.blank, phrase_insertIgnoreClause, hplain.apart⟩
    exact adaptChars?_of_ignoring hignoring

theorem adapt_of_adaptChars? {sql : String} (h : adaptChars? a sql.toList = some adapted) :
    adapt a sql = .ok (String.ofList adapted) := by
  rw [adapt, h]

/-- An adapter takes exactly the inserts. What it makes of one is adapted for good: adapting it
again changes nothing. -/
theorem adapts_inserts (d : Descriptor) (sql : String) :
    (IsInsert d.adapter sql.toList → ∃ adapted, adapt d.adapter sql = .ok adapted ∧
      Adapted d.adapter sql.toList adapted.toList ∧ adapt d.adapter adapted = .ok adapted) ∧
    (¬ IsInsert d.adapter sql.toList → adapt d.adapter sql = .error ⟨sql⟩) := by
  constructor
  · intro h
    obtain ⟨adapted, hadapt, hadapted⟩ := exists_adapted h
    refine ⟨String.ofList adapted, adapt_of_adaptChars? hadapt, ?_, adapt_of_adaptChars? ?_⟩
    · rw [String.toList_ofList]
      exact hadapted
    · rw [String.toList_ofList]
      exact adaptChars?_adapted h hadapted
  · intro h
    cases hadapt : adaptChars? d.adapter sql.toList with
    | some adapted => exact absurd (isInsert_of_adaptChars? hadapt) h
    | none => rw [adapt, hadapt]

theorem adapts_inserts_noted :
    let note := "  insert   into t (note) VALUES ('INSERT INTO x')"
    let adapted := "  INSERT IGNORE INTO t (note) VALUES ('INSERT INTO x')"
    (IsInsert Dialect.mysql.adapter note.toList ∧ adapt Dialect.mysql.adapter note = .ok adapted ∧
      adapt Dialect.mysql.adapter adapted = .ok adapted) ∧
    ¬ IsInsert Dialect.sqlite.adapter "INSERTINTO t".toList ∧
      adapt Dialect.sqlite.adapter "INSERTINTO t" = .error ⟨"INSERTINTO t"⟩ := by
  intro note adapted
  have hnote : IsInsert Dialect.mysql.adapter note.toList := by
    decide
  have hruntogether : ¬ IsInsert Dialect.sqlite.adapter "INSERTINTO t".toList := by
    decide
  have hchars : adaptChars? Dialect.mysql.adapter note.toList = some adapted.toList := by
    decide
  have hadapted : adapt Dialect.mysql.adapter note = .ok adapted := by
    rw [adapt_of_adaptChars? hchars, String.ofList_toList]
  obtain ⟨result, hresult, -, hagain⟩ := (adapts_inserts Dialect.mysql note).1 hnote
  obtain rfl : adapted = result := Except.ok.inj (hadapted.symm.trans hresult)
  exact ⟨⟨hnote, hadapted, hagain⟩, hruntogether,
    (adapts_inserts Dialect.sqlite "INSERTINTO t").2 hruntogether⟩

end ObjectCatalog.Insert
