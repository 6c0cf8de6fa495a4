import ObjectCatalog.Toml.Scalar

/-! # Numbers and dates at the front of a text

What is behind a number or a date is an end of the text. The digits of a whole number stand in a row
in front of it, with underscores among them.
-/
namespace ObjectCatalog.Toml

variable {text rest : List Char}

/-! ## Numbers and dates -/

theorem digitTail_suffix (isDigit : Char → Bool) (text : List Char) :
    (digitTail isDigit text).2 <:+ text := by
  fun_induction digitTail isDigit text with
  | case1 => exact List.suffix_rfl
  | case2 c text hdigit ih =>
    exact ih.trans ((List.suffix_cons c text).trans (List.suffix_cons '_' (c :: text)))
  | case3 c text hdigit => exact List.suffix_rfl
  | case4 c text _ hdigit ih => exact ih.trans (List.suffix_cons c text)
  | case5 c text _ hdigit => exact List.suffix_rfl

theorem digits?_suffix {isDigit : Char → Bool} {digits : List Char}
    (h : digits? isDigit text = some (digits, rest)) : rest <:+ text := by
  cases text with
  | nil => cases h
  | cons c text =>
    by_cases hdigit : isDigit c
    · simp only [digits?, hdigit, if_true, Option.some.injEq, Prod.mk.injEq] at h
      rw [← h.2]
      exact (digitTail_suffix isDigit text).trans (List.suffix_cons c text)
    · simp [digits?, hdigit] at h

theorem whole?_suffix {digits : List Char} (h : whole? text = some (digits, rest)) :
    rest <:+ text := by
  unfold whole? at h
  split at h
  · cases h
    exact List.suffix_cons _ _
  · exact digits?_suffix h

theorem fraction?_suffix {digits : List Char} (h : fraction? text = some (digits, rest)) :
    rest <:+ text := by
  unfold fraction? at h
  split at h
  · exact (digits?_suffix h).trans (List.suffix_cons _ _)
  · cases h

theorem splitSign_suffix (text : List Char) : (splitSign text).2 <:+ text := by
  unfold splitSign
  split
  · exact List.suffix_cons _ _
  · exact List.suffix_cons _ _
  · exact List.suffix_rfl

theorem power?_suffix {n : Int} (h : power? text = some (n, rest)) : rest <:+ text := by
  cases text with
  | nil => cases h
  | cons mark text =>
    simp only [power?] at h
    split at h
    · cases h
    · obtain ⟨⟨digits, after⟩, hdigits, hpair⟩ := Option.map_eq_some_iff.mp h
      obtain ⟨-, rfl⟩ := Prod.mk.inj hpair
      refine (digits?_suffix hdigits).trans (List.IsSuffix.trans ?_ (List.suffix_cons mark text))
      split
      · exact List.suffix_cons _ _
      · exact List.suffix_cons _ _
      · exact List.suffix_rfl

theorem getD_suffix {found : Option (List Char)} (h : ∀ rest, found = some rest → rest <:+ text) :
    found.getD text <:+ text := by
  cases hfound : found with
  | none => exact List.suffix_rfl
  | some rest => exact h rest hfound

theorem getD_snd_suffix {α : Type} {found : Option (α × List Char)} (a : α)
    (h : ∀ b rest, found = some (b, rest) → rest <:+ text) :
    (found.getD (a, text)).2 <:+ text := by
  cases hfound : found with
  | none => exact List.suffix_rfl
  | some b => exact h b.1 b.2 hfound

theorem decimal?_suffix {v : Value} (h : decimal? text = some (v, rest)) : rest <:+ text := by
  unfold decimal? at h
  obtain ⟨⟨whole, afterWhole⟩, hwhole, h⟩ := Option.bind_eq_some_iff.mp h
  dsimp only at h
  have hfraction : ((fraction? afterWhole).getD ([], afterWhole)).2 <:+ afterWhole :=
    getD_snd_suffix [] fun _ _ => fraction?_suffix
  generalize (fraction? afterWhole).getD ([], afterWhole) = behind at h hfraction
  have hpower : ((power? behind.2).getD (0, behind.2)).2 <:+ behind.2 :=
    getD_snd_suffix 0 fun _ _ => power?_suffix
  generalize (power? behind.2).getD (0, behind.2) = last at h hpower
  have hrest : last.2 = rest := by
    split at h
    · cases h
      rfl
    · cases h
      rfl
  rw [← hrest]
  exact (hpower.trans hfraction).trans ((whole?_suffix hwhole).trans (splitSign_suffix text))

theorem based?_suffix {v : Value} (h : based? text = some (v, rest)) : rest <:+ text := by
  unfold based? at h
  split at h
  · rename_i mark text
    obtain ⟨⟨base, isDigit⟩, -, h⟩ := Option.bind_eq_some_iff.mp h
    obtain ⟨⟨digits, after⟩, hdigits, h⟩ := Option.bind_eq_some_iff.mp h
    cases h
    exact (digits?_suffix hdigits).trans
      ((List.suffix_cons mark text).trans (List.suffix_cons '0' (mark :: text)))
  · cases h

theorem special?_suffix {v : Value} (h : special? text = some (v, rest)) : rest <:+ text := by
  have hdrop : (splitSign text).2.drop 3 <:+ text :=
    (List.drop_suffix 3 _).trans (splitSign_suffix text)
  unfold special? at h
  dsimp only at h
  split at h
  · cases h
    exact hdrop
  · split at h
    · cases h
      exact hdrop
    · cases h

theorem fixedDigits?_suffix {count n : Nat} (h : fixedDigits? count text = some (n, rest)) :
    rest <:+ text := by
  unfold fixedDigits? at h
  dsimp only at h
  split at h
  · cases h
    exact List.drop_suffix _ _
  · cases h

theorem skipChar?_suffix {c : Char} (h : skipChar? c text = some rest) : rest <:+ text := by
  unfold skipChar? at h
  split at h
  · cases h
  · split at h
    · cases h
      exact List.suffix_cons _ _
    · cases h

theorem pair?_suffix {low high n : Nat} (h : pair? low high text = some (n, rest)) :
    rest <:+ text :=
  fixedDigits?_suffix (Option.filter_eq_some_iff.mp h).1

/-- A sign, and then a number of two digits. -/
theorem markedPair?_suffix {c : Char} {low high n : Nat}
    (h : (skipChar? c text >>= pair? low high) = some (n, rest)) : rest <:+ text := by
  obtain ⟨after, hskip, hpair⟩ := Option.bind_eq_some_iff.mp h
  exact (pair?_suffix hpair).trans (skipChar?_suffix hskip)

theorem date?_suffix {date : Nat × Nat × Nat} (h : date? text = some (date, rest)) :
    rest <:+ text := by
  unfold date? at h
  obtain ⟨⟨year, afterYear⟩, hyear, h⟩ := Option.bind_eq_some_iff.mp h
  obtain ⟨⟨month, afterMonth⟩, hmonth, h⟩ := Option.bind_eq_some_iff.mp h
  obtain ⟨⟨day, afterDay⟩, hday, h⟩ := Option.bind_eq_some_iff.mp h
  cases h
  exact ((markedPair?_suffix hday).trans (markedPair?_suffix hmonth)).trans
    (fixedDigits?_suffix hyear)

theorem time?_suffix (h : time? text = some rest) : rest <:+ text := by
  unfold time? at h
  obtain ⟨⟨hour, afterHour⟩, hhour, h⟩ := Option.bind_eq_some_iff.mp h
  obtain ⟨⟨minute, afterMinute⟩, hminute, h⟩ := Option.bind_eq_some_iff.mp h
  obtain ⟨⟨second, afterSecond⟩, hsecond, h⟩ := Option.bind_eq_some_iff.mp h
  have hclock : afterSecond <:+ text :=
    ((markedPair?_suffix hsecond).trans (markedPair?_suffix hminute)).trans (pair?_suffix hhour)
  refine List.IsSuffix.trans ?_ hclock
  dsimp only at h
  split at h
  · rename_i fraction
    cases h
    split
    · exact List.suffix_rfl
    · exact (List.dropWhile_suffix _).trans (List.suffix_cons '.' fraction)
  · cases h
    exact List.suffix_rfl

theorem skipOffset_suffix (text : List Char) : skipOffset text <:+ text := by
  unfold skipOffset
  split
  · exact List.suffix_rfl
  · rename_i c after
    split
    · exact List.suffix_cons c after
    · split
      · refine getD_suffix fun rest hoffset => ?_
        obtain ⟨⟨hours, afterHours⟩, hhours, h⟩ := Option.bind_eq_some_iff.mp hoffset
        obtain ⟨⟨minutes, afterMinutes⟩, hminutes, h⟩ := Option.bind_eq_some_iff.mp h
        cases h
        exact ((markedPair?_suffix hminutes).trans (pair?_suffix hhours)).trans
          (List.suffix_cons c after)
      · exact List.suffix_rfl

theorem skipTime_suffix (text : List Char) : skipTime text <:+ text := by
  unfold skipTime
  split
  · exact List.suffix_rfl
  · rename_i c after
    split
    · refine getD_suffix fun rest hrest => ?_
      obtain ⟨clock, hclock, rfl⟩ := Option.map_eq_some_iff.mp hrest
      exact ((skipOffset_suffix clock).trans (time?_suffix hclock)).trans (List.suffix_cons c after)
    · exact List.suffix_rfl

/-! ## Long numbers -/

/-- A row of digits in a text, with underscores among them: this many digits, which are too many. -/
def HasLong (count : Nat) (text : List Char) : Prop :=
  digitLimit < count ∧ ∃ row, row <:+: text ∧ (∀ c ∈ row, c.isDigit ∨ c = '_') ∧
    row.countP Char.isDigit = count

theorem HasLong.mono {count : Nat} {inner : List Char} (h : HasLong count inner)
    (hinner : inner <:+: text) : HasLong count text := by
  obtain ⟨hlimit, row, hrow, hsigns, hcount⟩ := h
  exact ⟨hlimit, row, hrow.trans hinner, hsigns, hcount⟩

theorem exists_row_digitTail (text : List Char) :
    ∃ row, row ++ (digitTail Char.isDigit text).2 = text ∧ (∀ c ∈ row, c.isDigit ∨ c = '_') ∧
      row.countP Char.isDigit = (digitTail Char.isDigit text).1.length := by
  fun_induction digitTail Char.isDigit text with
  | case1 => exact ⟨[], rfl, by simp, rfl⟩
  | case2 c text hdigit ih =>
    obtain ⟨row, happend, hsigns, hcount⟩ := ih
    refine ⟨'_' :: c :: row, by simp [happend], ?_, ?_⟩
    · simpa [hdigit] using hsigns
    · rw [List.countP_cons_of_neg (by decide), List.countP_cons_of_pos hdigit, hcount]
      rfl
  | case3 c text hdigit => exact ⟨[], rfl, by simp, rfl⟩
  | case4 c text _ hdigit ih =>
    obtain ⟨row, happend, hsigns, hcount⟩ := ih
    refine ⟨c :: row, by simp [happend], ?_, ?_⟩
    · simpa [hdigit] using hsigns
    · rw [List.countP_cons_of_pos hdigit, hcount]
      rfl
  | case5 c text _ hdigit => exact ⟨[], rfl, by simp, rfl⟩

theorem exists_row_whole? {digits : List Char} (h : whole? text = some (digits, rest)) :
    ∃ row, row ++ rest = text ∧ (∀ c ∈ row, c.isDigit ∨ c = '_') ∧
      row.countP Char.isDigit = digits.length := by
  unfold whole? at h
  split at h
  · cases h
    exact ⟨['0'], rfl, by simp, rfl⟩
  · cases text with
    | nil => cases h
    | cons c text =>
      by_cases hdigit : c.isDigit
      · simp only [digits?, hdigit, if_true, Option.some.injEq, Prod.mk.injEq] at h
        obtain ⟨rfl, rfl⟩ := h
        obtain ⟨row, happend, hsigns, hcount⟩ := exists_row_digitTail text
        refine ⟨c :: row, by simp [happend], ?_, ?_⟩
        · simpa [hdigit] using hsigns
        · rw [List.countP_cons_of_pos hdigit, hcount]
          rfl
      · simp [digits?, hdigit] at h

theorem hasLong_of_wholeLength (h : digitLimit < wholeLength text) :
    HasLong (wholeLength text) text := by
  refine ⟨h, ?_⟩
  unfold wholeLength at h ⊢
  cases hwhole : whole? (splitSign text).2 with
  | none =>
    rw [hwhole] at h
    cases h
  | some found =>
    obtain ⟨row, happend, hsigns, hcount⟩ := exists_row_whole? hwhole
    have hrow : row <:+: (splitSign text).2 := ⟨[], found.2, happend⟩
    exact ⟨row, hrow.trans (splitSign_suffix text).isInfix, hsigns, hcount⟩

end ObjectCatalog.Toml
