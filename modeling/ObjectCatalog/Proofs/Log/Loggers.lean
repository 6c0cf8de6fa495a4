import Mathlib.Data.List.Infix
import ObjectCatalog.Log.Session

/-! # The way from a logger to the root

Which loggers stand above a name depends on which loggers there are. For a name without two dots
side by side they are those whose names it begins with, up to a dot. Below the root, records are
stopped by the one logger that keeps them to itself, if it is on their way.
-/
namespace ObjectCatalog

namespace LoggerTree

variable {t : LoggerTree} {l own : Logger} {name parent : String}

/-- The names of the loggers from a name up to the root. -/
def path (t : LoggerTree) (name : String) : List String := (t.below name).map (·.name) ++ [""]

theorem name_of_find? (h : t.find? name = some l) : l.name = name := by
  simpa using List.find?_some h

theorem find?_of_mem_above {letters : List Char} (h : l ∈ t.above letters) :
    t.find? l.name = some l ∧ l.name ≠ "" := by
  induction letters using LoggerTree.above.induct t with
  | case1 c rest found hfound ih =>
    rw [above, hfound] at h
    rcases List.mem_cons.mp h with rfl | h
    · have hname := name_of_find? hfound
      refine ⟨by rw [hname]; exact hfound, fun hempty => ?_⟩
      rw [hempty] at hname
      simpa using congrArg String.toList hname
    · exact ih h
  | case2 c rest hnone ih =>
    rw [above, hnone] at h
    exact ih h
  | case3 c rest hdot ih =>
    rw [above] at h
    · exact ih h
    · exact hdot
  | case4 => simp [above] at h

theorem find?_of_mem_below (h : l ∈ t.below name) : t.find? l.name = some l ∧ l.name ≠ "" := by
  unfold below at h
  split at h
  · cases h
  · rename_i hname
    rcases List.mem_append.mp h with h | h
    · have hfound : t.find? name = some l := by simpa using h
      rw [name_of_find? hfound]
      exact ⟨hfound, by simpa using hname⟩
    · exact find?_of_mem_above h

/-! ## Own levels -/

theorem ownLevel_of_mem_below (h : l ∈ t.below name) : t.ownLevel l.name = l.level := by
  obtain ⟨hfound, hname⟩ := find?_of_mem_below h
  simp [ownLevel, hname, hfound]

/-- The level of the nearest logger that has one, told by the names on the way. -/
theorem nearestLevel_eq (t : LoggerTree) (name : String) :
    (((t.chain name).find? fun l => l.level != 0).map (·.level)).getD 0 =
      (((t.path name).map t.ownLevel).find? (· != 0)).getD 0 := by
  have hlevels : (t.chain name).map (·.level) = (t.path name).map t.ownLevel := by
    unfold chain path
    rw [List.map_append, List.map_append, List.map_map]
    congr 1
    exact List.map_congr_left fun l hl => (ownLevel_of_mem_below hl).symm
  rw [← hlevels, List.find?_map]
  rfl

/-! ## New loggers -/

theorem find?_withLogger (t : LoggerTree) (new name : String) : (t.withLogger new).find? name =
    if new = name ∧ name ≠ "" then some ((t.find? name).getD (.unset name)) else t.find? name := by
  unfold withLogger
  by_cases hnew : new = ""
  · subst hnew
    simp only [BEq.rfl, Bool.true_or, if_true]
    rw [if_neg]
    rintro ⟨rfl, hname⟩
    exact hname rfl
  · cases hfound : t.find? new with
    | some l =>
      simp only [Option.isSome_some, Bool.or_true, if_true]
      split
      · rename_i hsame
        rw [← hsame.1, hfound]
        rfl
      · rfl
    | none =>
      have hfresh : (new == "" || (none : Option Logger).isSome) = false := by simpa using hnew
      rw [if_neg (by rw [hfresh]; exact Bool.false_ne_true)]
      by_cases hname : new = name
      · subst hname
        have hnone : t.loggers.find? (·.name == new) = none := hfound
        simp [hnew, hnone, find?, Logger.unset]
      · simp [hname, find?, Logger.unset]

@[simp] theorem root_withLogger (t : LoggerTree) (new : String) :
    (t.withLogger new).root = t.root := by
  unfold withLogger
  split <;> rfl

@[simp] theorem ownLevel_withLogger (t : LoggerTree) (new name : String) :
    (t.withLogger new).ownLevel name = t.ownLevel name := by
  unfold ownLevel
  rw [root_withLogger, find?_withLogger]
  split
  · rfl
  · split
    · rename_i hsame
      cases t.find? name <;> rfl
    · rfl

/-! ## Names with single dots -/

theorem above_dot {c : Char} (hc : c ≠ '.') (rest : List Char) : t.above ('.' :: c :: rest) =
    (t.find? (String.ofList (c :: rest).reverse)).toList ++ t.above (c :: rest) := by
  have hrest : t.above (c :: rest) = t.above rest := by
    rw [above]
    rintro d rest' ⟨⟩
    exact absurd rfl hc
  rw [above]
  cases t.find? (String.ofList (c :: rest).reverse) with
  | some l => rfl
  | none => simp [hrest]

theorem above_cons {c : Char} (hc : c ≠ '.') (rest : List Char) :
    t.above (c :: rest) = t.above rest := by
  rw [above]
  rintro d rest' rfl
  exact absurd rfl hc

theorem above_append {front : List Char} (hfront : '.' ∉ front) (rest : List Char) :
    t.above (front ++ rest) = t.above rest := by
  induction front with
  | nil => rfl
  | cons c front ih =>
    obtain ⟨hc, hfront⟩ : '.' ≠ c ∧ '.' ∉ front := by simpa using hfront
    rw [List.cons_append, above_cons (Ne.symm hc), ih hfront]

theorem mem_found_iff (hthere : (t.find? parent).isSome) :
    parent ∈ (t.find? name).toList.map (·.name) ↔ name = parent := by
  constructor
  · intro h
    obtain ⟨l, hl, rfl⟩ := List.mem_map.mp h
    exact (name_of_find? (by simpa using hl)).symm
  · rintro rfl
    obtain ⟨l, hl⟩ := Option.isSome_iff_exists.mp hthere
    simp [hl, name_of_find? hl]

theorem mem_above_iff {letters : List Char} (hparent : parent ≠ "")
    (hthere : (t.find? parent).isSome) (hdots : ¬ ['.', '.'] <:+: letters) :
    parent ∈ (t.above letters).map (·.name) ↔ '.' :: parent.toList.reverse <:+ letters := by
  induction letters with
  | nil => simp [above]
  | cons d letters ih =>
    have hdots' : ¬ ['.', '.'] <:+: letters := fun h => hdots (List.infix_cons h)
    by_cases hd : d = '.'
    · subst hd
      cases letters with
      | nil =>
        have hempty : parent.toList.reverse ≠ [] := by simpa using hparent
        simp [above, List.suffix_cons_iff, hempty]
      | cons c rest =>
        have hc : c ≠ '.' := by
          rintro rfl
          exact hdots ⟨[], rest, rfl⟩
        have hsame : String.ofList (c :: rest).reverse = parent ↔
            parent.toList.reverse = c :: rest := by
          rw [← String.toList_inj, String.toList_ofList, ← List.reverse_inj, List.reverse_reverse,
            eq_comm]
        have hnearest : '.' :: parent.toList.reverse <:+ '.' :: c :: rest ↔
            String.ofList (c :: rest).reverse = parent ∨
              '.' :: parent.toList.reverse <:+ c :: rest := by
          rw [List.suffix_cons_iff, List.cons.injEq, and_iff_right rfl, hsame]
        rw [above_dot hc, List.map_append, List.mem_append, ih hdots', hnearest,
          mem_found_iff hthere]
    · rw [above_cons hd, ih hdots', List.suffix_cons_iff, List.cons.injEq]
      simp [Ne.symm hd]

theorem suffix_reverse_iff :
    '.' :: parent.toList.reverse <:+ name.toList.reverse ↔ name.startsWith (parent ++ ".") := by
  rw [String.startsWith_string_iff, String.toList_append, ← List.reverse_suffix,
    List.reverse_append]
  rfl

theorem single_reverse (hdots : ¬ ['.', '.'] <:+: name.toList) :
    ¬ ['.', '.'] <:+: name.toList.reverse := by
  rw [← List.reverse_infix] at hdots
  exact hdots

/-- A logger stands above the names that begin with its own and a dot. -/
theorem mem_path_iff (hparent : parent ≠ "") (hthere : (t.find? parent).isSome)
    (hdots : ¬ ['.', '.'] <:+: name.toList) :
    parent ∈ t.path name ↔ name = parent ∨ name.startsWith (parent ++ ".") := by
  unfold path below
  by_cases hname : name = ""
  · subst hname
    have hlonger : ¬ "".startsWith (parent ++ ".") := by
      rw [← suffix_reverse_iff]
      simp
    simp [hparent, Ne.symm hparent, hlonger]
  · have hbeq : (name == "") = false := by simpa using hname
    rw [hbeq, if_neg Bool.false_ne_true, List.map_append, List.append_assoc, List.mem_append,
      List.mem_append, mem_found_iff hthere,
      mem_above_iff hparent hthere (single_reverse hdots), suffix_reverse_iff]
    simp [hparent]

/-! ## Entries -/

theorem entriesOf_cons {c : Char} (hc : c ≠ '.') (older : List Logger) (rest : List Char) :
    entriesOf older (c :: rest) = entriesOf older rest := by
  rw [entriesOf]
  rintro d rest' rfl
  exact absurd rfl hc

theorem entriesOf_dot {c : Char} (hc : c ≠ '.') (older : List Logger) (rest : List Char) :
    entriesOf older ('.' :: c :: rest) = String.ofList (c :: rest).reverse ::
      if older.any (·.name == String.ofList (c :: rest).reverse) then []
      else entriesOf older (c :: rest) := by
  rw [entriesOf, entriesOf_cons hc]

/-- With single dots alone, the search for loggers above a name comes to every name that stands
above it, unless it ends at a logger in between. -/
theorem mem_entriesOf (hparent : parent ≠ "") {older : List Logger} {letters : List Char}
    (hdots : ¬ ['.', '.'] <:+: letters) (hbelow : '.' :: parent.toList.reverse <:+ letters) :
    parent ∈ entriesOf older letters ∨ ∃ l ∈ older,
      '.' :: parent.toList.reverse <:+ l.name.toList.reverse ∧
        l.name.toList.reverse <:+ letters := by
  induction letters with
  | nil => simp at hbelow
  | cons d letters ih =>
    have hdots' : ¬ ['.', '.'] <:+: letters := fun h => hdots (List.infix_cons h)
    have hfurther (hbelow : '.' :: parent.toList.reverse <:+ letters) :
        parent ∈ entriesOf older letters ∨ ∃ l ∈ older,
          '.' :: parent.toList.reverse <:+ l.name.toList.reverse ∧
            l.name.toList.reverse <:+ d :: letters :=
      (ih hdots' hbelow).imp_right fun ⟨l, hl, habove, hname⟩ =>
        ⟨l, hl, habove, hname.trans (List.suffix_cons d letters)⟩
    by_cases hd : d = '.'
    · subst hd
      cases letters with
      | nil => simp [List.suffix_cons_iff, hparent] at hbelow
      | cons c rest =>
        have hc : c ≠ '.' := by
          rintro rfl
          exact hdots ⟨[], rest, rfl⟩
        rw [entriesOf_dot hc]
        rcases List.suffix_cons_iff.mp hbelow with hsame | hshorter
        · left
          rw [← (List.cons.inj hsame).2, List.reverse_reverse, String.ofList_toList]
          exact List.mem_cons_self
        · split
          · rename_i hmade
            obtain ⟨l, hl, hname⟩ := List.any_eq_true.mp hmade
            have hletters : l.name.toList.reverse = c :: rest := by simp [eq_of_beq hname]
            exact .inr ⟨l, hl, hletters ▸ hshorter, hletters ▸ List.suffix_cons '.' (c :: rest)⟩
          · exact (hfurther hshorter).imp_left (List.mem_cons_of_mem _)
    · rw [entriesOf_cons hd]
      rcases List.suffix_cons_iff.mp hbelow with hsame | hshorter
      · exact absurd (List.cons.inj hsame).1.symm hd
      · exact hfurther hshorter

/-- A logger with single dots in its name has left an entry for every name above it, or a logger
between them has. -/
theorem hasEntry_of_mem (hparent : parent ≠ "") {loggers : List Logger} (hl : l ∈ loggers)
    (hdots : ¬ ['.', '.'] <:+: l.name.toList.reverse)
    (hbelow : '.' :: parent.toList.reverse <:+ l.name.toList.reverse) :
    hasEntry parent loggers := by
  induction loggers generalizing l with
  | nil => cases hl
  | cons first older ih =>
    rw [hasEntry, Bool.or_eq_true]
    rcases List.mem_cons.mp hl with rfl | hl
    · rcases mem_entriesOf hparent hdots hbelow with hentry | ⟨m, hm, habove, hname⟩
      · exact .inl (Bool.or_eq_true_iff.mpr (.inr (List.contains_iff_mem.mpr hentry)))
      · exact .inr (ih hm (fun h => hdots (h.trans hname.isInfix)) habove)
    · exact .inr (ih hl hdots hbelow)

theorem resets_of_startsWith (hparent : parent ≠ "") (hthere : (t.find? name).isSome)
    (hdots : ¬ ['.', '.'] <:+: name.toList) (hbelow : name.startsWith (parent ++ ".")) :
    t.resets parent name := by
  obtain ⟨l, hl⟩ := Option.isSome_iff_exists.mp hthere
  obtain rfl := name_of_find? hl
  have hentry : hasEntry parent t.loggers :=
    hasEntry_of_mem hparent (List.mem_of_find?_eq_some hl) (single_reverse hdots)
      (suffix_reverse_iff.mpr hbelow)
  rw [resets, hentry, hbelow]
  rfl

/-! ## Handlers on the way -/

open LogSession in
/-- Records go to the handlers of the root, unless the one logger that may keep them to itself is
on the way and does so. -/
theorem handlersOf_chain (hown : t.find? LogSettings.statementLogger = some own)
    (hstops : own.propagate = false) (name : String) :
    handlersOf (t.chain name) =
      if LogSettings.statementLogger ∈ t.path name then own.handlers else t.root.handlers := by
  have hstatement : LogSettings.statementLogger ∈ t.path name ↔
      LogSettings.statementLogger ∈ (t.below name).map (·.name) := by
    have hne : LogSettings.statementLogger ≠ "" := by decide
    unfold path
    simp [hne]
  have hfound : ∀ l ∈ t.below name, t.find? l.name = some l :=
    fun l hl => (find?_of_mem_below hl).1
  unfold chain
  simp only [hstatement]
  clear hstatement
  generalize t.below name = way at hfound ⊢
  induction way with
  | nil =>
    simp [handlersOf]
  | cons l way ih =>
    have hrest := ih fun m hm => hfound m (List.mem_cons_of_mem l hm)
    have hl := hfound l List.mem_cons_self
    by_cases hname : l.name = LogSettings.statementLogger
    · rw [hname, hown] at hl
      obtain rfl : own = l := Option.some.inj hl
      simp [handlersOf, hstops, hname]
    · obtain ⟨hnone, hon⟩ := t.plain l (List.mem_of_find?_eq_some hl) hname
      simpa [handlersOf, hnone, hon, Ne.symm hname] using hrest

end LoggerTree

end ObjectCatalog
