import ObjectCatalog.Proofs.Dialect.Adaptation

/-! # Where the conflict clause lands

A statement may be followed by blanks and semicolons in any order. Adapting it cuts the last blanks
and then the last semicolons, once each, so that the clause lands behind a semicolon unless all
semicolons stand side by side; and it takes a statement for adapted up to one semicolon, so that a
second one brings the clause twice.
-/
namespace ObjectCatalog.Insert

open Text

def Together (text : List Char) : Prop :=
  ∃ before semicolons after, text = before ++ semicolons ++ after ∧ AllBlank before ∧
    (∀ c ∈ semicolons, c = ';') ∧ AllBlank after

def EndsWithWords (sql : List Char) : Prop := ∃ front phrase, Closes front phrase [] sql

def HasClauseBehind (lead text : List Char) : Prop := lead ++ conflictClause <+: text

variable {s w front phrase ending lead : List Char}

/-! ## Statements with separators behind them -/

variable {words : List (List Char)} {blanks rest : List Char}

theorem Opens.ne_nil (hwords : ∀ word ∈ words, IsWord word)
    (h : Opens words blanks phrase rest s) : s ≠ [] := by
  obtain ⟨c, letters, hphrase, -⟩ := h.phrase.first hwords
  rw [h.sql_eq, hphrase]
  simp

theorem Opens.append (h : Opens words blanks phrase rest s) (hw : ∀ c ∈ w, isSeparator c = true) :
    Opens words blanks phrase (rest ++ w) (s ++ w) := by
  refine ⟨by rw [h.sql_eq, List.append_assoc], h.blank, h.phrase, ?_⟩
  have hapart := h.apart
  cases rest with
  | cons c rest => exact hapart
  | nil =>
    cases w with
    | nil => rfl
    | cons c w =>
      show (!isWordChar c) = true
      rw [not_isWordChar_of_isSeparator (hw c List.mem_cons_self)]
      rfl

/-- What stands in front of the separators at the end of a text is settled by its last character. -/
theorem eq_of_append_eq {more others : List Char} {c d : Char} (hc : isSeparator c = false)
    (hd : isSeparator d = false) (hw : ∀ c ∈ w, isSeparator c = true)
    (hending : ∀ c ∈ ending, isSeparator c = true)
    (h : more ++ [c] ++ w = others ++ [d] ++ ending) :
    more ++ [c] = others ++ [d] ∧ w = ending := by
  have hcut := congrArg (dropEndWhile isSeparator) h
  rw [dropEndWhile_append_of_all hw, dropEndWhile_append_of_all hending, dropEndWhile_concat hc,
    dropEndWhile_concat hd] at hcut
  rw [hcut] at h
  exact ⟨hcut, List.append_cancel_left h⟩

/-- Separators behind a statement leave it adapted up to one semicolon among them. -/
theorem endsWithClause_append_iff {more : List Char} {c : Char} (hc : isSeparator c = false)
    (hw : ∀ c ∈ w, isSeparator c = true) : EndsWithClause (more ++ [c] ++ w) ↔
      EndsWithWords (more ++ [c]) ∧ w.count ';' ≤ 1 := by
  constructor
  · rintro ⟨front, phrase, ending, hcloses, hending⟩
    obtain ⟨letters, d, rfl, hd⟩ := hcloses.phrase.last isWord_of_conflictWords
    have hsql := hcloses.sql_eq
    rw [← List.append_assoc] at hsql
    obtain ⟨hstatement, rfl⟩ := eq_of_append_eq hc hd hw hending.separators hsql
    refine ⟨⟨front, letters ++ [d], ?_, hcloses.phrase, hcloses.apart⟩, hending.count⟩
    rw [hstatement, List.append_assoc, List.append_nil]
  · rintro ⟨⟨front, phrase, hcloses⟩, hcount⟩
    have hsql := hcloses.sql_eq
    rw [List.append_nil] at hsql
    exact ⟨front, phrase, w, ⟨by rw [hsql], hcloses.phrase, hcloses.apart⟩, hw, hcount⟩

theorem lessTerminator_append {more : List Char} {c : Char} (hc : isSeparator c = false)
    (w : List Char) : lessTerminator (more ++ [c] ++ w) = more ++ [c] ++ lessTerminator w := by
  obtain ⟨hblank, hsemicolon⟩ := Bool.or_eq_false_iff.mp hc
  unfold lessTerminator trimEnd
  rw [dropEndWhile_concat_append hblank, dropEndWhile_concat_append (p := (· == ';')) hsemicolon]

theorem mem_of_mem_lessTerminator {c : Char} (h : c ∈ lessTerminator w) : c ∈ w :=
  mem_of_mem_dropEndWhile (mem_of_mem_dropEndWhile h)

/-! ## What stands between a statement and its clause -/

theorem together_of_isEnding (h : IsEnding w) : Together w := by
  obtain ⟨blanks, hblanks, hsplit⟩ := exists_blanks w
  cases hrest : trimStart w with
  | nil =>
    rw [hrest] at hsplit
    exact ⟨blanks, [], [], by simpa using hsplit, hblanks, List.forall_mem_nil _,
      List.forall_mem_nil _⟩
  | cons c rest =>
    rw [hrest] at hsplit
    rw [hsplit] at h
    obtain ⟨rfl, hafter⟩ := (isEnding_append_iff hblanks (not_isBlank_of_trimStart hrest)).mp h
    exact ⟨blanks, [';'], rest, by simpa using hsplit, hblanks, by simp, hafter⟩

/-- What is cut off the end reaches to the first semicolon exactly if all stand side by side. -/
theorem not_mem_lessTerminator_iff (hw : ∀ c ∈ w, isSeparator c = true) :
    ';' ∉ lessTerminator w ↔ Together w := by
  constructor
  · intro hnone
    obtain ⟨semicolons, after, hsplit, hsemicolons, hafter⟩ := exists_of_lessTerminator w
    refine ⟨lessTerminator w, semicolons, after, hsplit, ?_, hsemicolons, hafter⟩
    intro c hc
    rcases isSeparator_iff.mp (hw c (mem_of_mem_lessTerminator hc)) with hblank | rfl
    · exact hblank
    · exact absurd hc hnone
  · rintro ⟨before, semicolons, after, rfl, hbefore, hsemicolons, hafter⟩ hmem
    have hall : ∀ c ∈ semicolons, (c == ';') = true :=
      fun c hc => beq_iff_eq.mpr (hsemicolons c hc)
    have hown : ';' ∈ before := by
      rw [lessTerminator, trimEnd, dropEndWhile_append_of_all hafter] at hmem
      rcases List.eq_nil_or_concat semicolons with rfl | ⟨others, c, rfl⟩
      · rw [List.append_nil] at hmem
        exact mem_of_mem_lessTerminator hmem
      · obtain rfl := hsemicolons c (by simp)
        rw [List.concat_eq_append] at hmem hall
        rw [← List.append_assoc, dropEndWhile_concat (p := isBlank) (by decide), List.append_assoc,
          dropEndWhile_append_of_all hall] at hmem
        exact mem_of_mem_dropEndWhile hmem
    exact absurd (hbefore ';' hown) (by decide)

theorem not_hasClauseBehind (hw : ∀ c ∈ w, isSeparator c = true) : ¬ HasClauseBehind lead w := by
  intro h
  have hmem : 'O' ∈ w := h.subset (List.mem_append_right lead (by decide))
  exact absurd (hw 'O' hmem) (by decide)

theorem prefix_of_hasClauseBehind (h : HasClauseBehind lead (w ++ conflictClause)) :
    lead <+: w := by
  have hlength : lead.length ≤ w.length := by
    have hle := h.length_le
    rw [List.length_append, List.length_append] at hle
    omega
  exact List.prefix_of_prefix_length_le ((List.prefix_append lead conflictClause).trans h)
    (List.prefix_append w conflictClause) hlength

theorem no_semicolon_in_front_iff (hw : ∀ c ∈ w, isSeparator c = true) :
    (∀ lead, HasClauseBehind lead (appendClause w) → ';' ∉ lead) ↔ Together w := by
  rw [← not_mem_lessTerminator_iff hw]
  constructor
  · exact fun h => h (lessTerminator w) List.prefix_rfl
  · exact fun h lead hlead hmem => h ((prefix_of_hasClauseBehind hlead).subset hmem)

/-! ## Texts -/

theorem adapt_of_endsWithClause {s w : String}
    (h : Opens insertInto blanks phrase rest (s.toList ++ w.toList))
    (hends : EndsWithClause (s.toList ++ w.toList)) : adapt .onConflict (s ++ w) = .ok (s ++ w) := by
  have hchars : adaptChars? .onConflict (s ++ w).toList = some (s ++ w).toList := by
    rw [String.toList_append]
    exact adaptChars?_of_closed h hends
  rw [adapt_of_adaptChars? hchars, String.ofList_toList]

theorem adapt_of_not_endsWithClause {s w : String} {more : List Char} {c : Char}
    (h : Opens insertInto blanks phrase rest (s.toList ++ w.toList))
    (hends : ¬ EndsWithClause (s.toList ++ w.toList)) (hsplit : s.toList = more ++ [c])
    (hc : isSeparator c = false) :
    adapt .onConflict (s ++ w) = .ok (s ++ String.ofList (appendClause w.toList)) := by
  have hchars : adaptChars? .onConflict (s ++ w).toList =
      some (s ++ String.ofList (appendClause w.toList)).toList := by
    rw [String.toList_append, String.toList_append, String.toList_ofList,
      adaptChars?_of_not_closed h hends, appendClause_eq, appendClause_eq, hsplit,
      lessTerminator_append hc, List.append_assoc]
  rw [adapt_of_adaptChars? hchars, String.ofList_toList]

/-- The clause lands behind no semicolon exactly if all semicolons behind the statement stand side
by side. None is appended exactly if the statement ends with its words and at most one semicolon is
behind it. -/
theorem clause_lands_iff (d : Descriptor) (hd : d.adapter = .onConflict) (s w : String)
    (hs : IsInsert d.adapter s.toList) (hlast : ∀ c ∈ s.toList.getLast?, isSeparator c = false)
    (hw : ∀ c ∈ w.toList, isSeparator c = true) :
    ∃ tail, adapt d.adapter (s ++ w) = .ok (s ++ tail) ∧
      ((∀ lead, HasClauseBehind lead tail.toList → ';' ∉ lead) ↔ Together w.toList) ∧
      ((∀ lead, ¬ HasClauseBehind lead tail.toList) ↔
        EndsWithWords s.toList ∧ w.toList.count ';' ≤ 1) := by
  rw [hd] at hs ⊢
  obtain ⟨words, hwords, blanks, phrase, rest, hopens⟩ := hs
  obtain rfl := List.mem_singleton.mp hwords
  obtain ⟨more, c, hsplit⟩ : ∃ more c, s.toList = more ++ [c] := by
    rcases List.eq_nil_or_concat s.toList with hnil | ⟨more, c, hconcat⟩
    · exact absurd hnil (hopens.ne_nil isWord_of_insertInto)
    · exact ⟨more, c, by rw [hconcat, List.concat_eq_append]⟩
  have hc : isSeparator c = false := hlast c (by simp [hsplit])
  have hlands := hopens.append hw
  have hclosed : EndsWithClause (s.toList ++ w.toList) ↔
      EndsWithWords s.toList ∧ w.toList.count ';' ≤ 1 := by
    rw [hsplit]
    exact endsWithClause_append_iff hc hw
  by_cases hends : EndsWithClause (s.toList ++ w.toList)
  · obtain ⟨hwords, hcount⟩ := hclosed.mp hends
    refine ⟨w, adapt_of_endsWithClause hlands hends,
      iff_of_true ?_ (together_of_isEnding ⟨hw, hcount⟩), iff_of_true ?_ ⟨hwords, hcount⟩⟩
    · exact fun lead hlead => absurd hlead (not_hasClauseBehind hw)
    · exact fun lead => not_hasClauseBehind hw
  · refine ⟨String.ofList (appendClause w.toList),
      adapt_of_not_endsWithClause hlands hends hsplit hc, ?_, iff_of_false ?_ ?_⟩
    · rw [String.toList_ofList]
      exact no_semicolon_in_front_iff hw
    · rw [String.toList_ofList]
      exact fun hnone => hnone (lessTerminator w.toList) List.prefix_rfl
    · exact fun hcut => hends (hclosed.mpr hcut)

theorem clause_lands_behind_values :
    let s := "INSERT INTO t VALUES (1)"
    let w := " ;;\n"
    IsInsert Dialect.postgresql.adapter s.toList ∧
      (∀ c ∈ s.toList.getLast?, isSeparator c = false) ∧ (∀ c ∈ w.toList, isSeparator c = true) ∧
      ∃ tail, adapt Dialect.postgresql.adapter (s ++ w) = .ok (s ++ tail) ∧
        (∀ lead, HasClauseBehind lead tail.toList → ';' ∉ lead) ∧
        ∃ lead, HasClauseBehind lead tail.toList := by
  intro s w
  have hs : IsInsert Dialect.postgresql.adapter s.toList := by
    decide
  have hend : s.toList.getLast? = some ')' := by
    decide
  have hlast := forall_mem_getLast? (p := isSeparator) hend (by decide)
  have hw : ∀ c ∈ w.toList, isSeparator c = true := List.all_eq_true.mp (by decide)
  have htogether : Together w.toList :=
    ⟨[' '], [';', ';'], ['\n'], by decide, List.all_eq_true.mp (by decide), by simp,
      List.all_eq_true.mp (by decide)⟩
  obtain ⟨tail, htail, hfront, hnone⟩ := clause_lands_iff Dialect.postgresql rfl s w hs hlast hw
  refine ⟨hs, hlast, hw, tail, htail, hfront.mpr htogether, ?_⟩
  by_contra hno
  have hcount := (hnone.mp fun lead hlead => hno ⟨lead, hlead⟩).2
  exact absurd hcount (by decide)

/-- Two semicolons with a blank between them: the clause lands behind the first, and for the second
time. -/
theorem clause_lands_twice :
    let s := "INSERT INTO t VALUES (1) ON CONFLICT DO NOTHING"
    let w := "; ;"
    let tail := ";  ON CONFLICT DO NOTHING"
    IsInsert Dialect.postgresql.adapter s.toList ∧
      (∀ c ∈ s.toList.getLast?, isSeparator c = false) ∧ (∀ c ∈ w.toList, isSeparator c = true) ∧
      EndsWithWords s.toList ∧ adapt Dialect.postgresql.adapter (s ++ w) = .ok (s ++ tail) ∧
      HasClauseBehind [';', ' '] tail.toList := by
  intro s w tail
  have hchars :
      adaptChars? Dialect.postgresql.adapter (s ++ w).toList = some (s ++ tail).toList := by
    decide
  have hend : s.toList.getLast? = some 'G' := by
    decide
  have hfront : "INSERT INTO t VALUES (1) ".toList.getLast? = some ' ' := by
    decide
  refine ⟨by decide, forall_mem_getLast? hend (by decide), List.all_eq_true.mp (by decide), ?_, ?_,
    ?_⟩
  · exact ⟨"INSERT INTO t VALUES (1) ".toList, conflictClause.tail, by decide,
      phrase_conflictClause, forall_mem_getLast? hfront (by decide)⟩
  · rw [adapt_of_adaptChars? hchars, String.ofList_toList]
  · exact ⟨[], by decide⟩

end ObjectCatalog.Insert
