import ObjectCatalog.Proofs.Log.Directives
import ObjectCatalog.Proofs.Results

/-! # Which arguments fit a template

A template can be filled in if each of its directives in turn finds what it needs among the
arguments, and a list of arguments is used up at the end. How many arguments that takes can be
read off the directives.
-/
namespace ObjectCatalog.Template

variable {s s' rest : Supply} {d : Directive} {ds es : List Directive} {v : Value}

/-- The directives can be carried out with these arguments, one after the other. -/
def Fits (s : Supply) : List Directive → Prop
  | [] => (s.entries.isNone && !s.waiting.isEmpty) = false
  | d :: ds => ∃ written rest, d.render s = .ok (written, rest) ∧ Fits rest ds

/-! ## Carrying out a directive -/

/-- A directive that is carried out: its key is there, its extents are numbers within their range,
and a value is left that its conversion accepts. -/
structure Directive.Use (d : Directive) (s rest : Supply) where
  selected : Supply
  width : Option Int
  afterWidth : Supply
  precision : Option Int
  afterPrecision : Supply
  letter : Char
  index : Nat
  value : Value
  written : Written
  select : s.select d.key = .ok selected
  measureWidth : selected.measure false d.width = .ok (width, afterWidth)
  measurePrecision : afterWidth.measure true d.precision = .ok (precision, afterPrecision)
  conversion : d.conversion = some (letter, index)
  next : afterPrecision.next = .ok (value, rest)
  convert : convert letter index (d.flags.contains '#') (precision.map Int.toNat) value = .ok written

theorem Directive.exists_render_iff :
    (∃ body, d.render s = .ok (body, rest)) ↔ Nonempty (d.Use s rest) := by
  unfold Directive.render
  constructor
  · rintro ⟨body, h⟩
    obtain ⟨selected, hselect, h⟩ := Except.bind_eq_ok_iff.mp h
    obtain ⟨⟨width, afterWidth⟩, hwidth, h⟩ := Except.bind_eq_ok_iff.mp h
    obtain ⟨⟨precision, afterPrecision⟩, hprecision, h⟩ := Except.bind_eq_ok_iff.mp h
    cases hconversion : d.conversion with
    | none =>
      simp only [hconversion] at h
      cases h
    | some found =>
      simp only [hconversion] at h
      obtain ⟨⟨value, left⟩, hnext, h⟩ := Except.bind_eq_ok_iff.mp h
      obtain ⟨written, hconvert, h⟩ := Except.bind_eq_ok_iff.mp h
      cases h
      exact ⟨selected, width, afterWidth, precision, afterPrecision, found.1, found.2, value,
        written, hselect, hwidth, hprecision, hconversion, hnext, hconvert⟩
  · rintro ⟨u⟩
    refine ⟨setWidth d.flags (u.width.getD 0).natAbs (u.width.getD 0 < 0 || d.flags.contains '-')
      u.written, ?_⟩
    simp only [u.select, u.measureWidth, u.measurePrecision, u.conversion, u.next, u.convert, bind,
      Except.bind, pure, Except.pure]

theorem Directive.use {body : List Char} (h : d.render s = .ok (body, rest)) :
    Nonempty (d.Use s rest) :=
  exists_render_iff.mp ⟨body, h⟩

def conversionLetters : List Char :=
  ['s', 'r', 'a', 'd', 'i', 'u', 'o', 'x', 'X', 'e', 'E', 'f', 'F', 'g', 'G', 'c']

variable {letter x : Char} {index : Nat} {alternate : Bool} {precision : Option Nat}
  {written : Written} {text : List Char}

theorem letter_mem_of_convert (h : convert letter index alternate precision v = .ok written) :
    letter ∈ conversionLetters := by
  unfold convert at h
  generalize (if alternate then ['0', letter] else []) = mark at h
  dsimp only at h
  split at h
  all_goals first | decide | cases h

/-- Only the report of an unknown conversion depends on its place. -/
theorem convert_elsewhere (h : convert letter index alternate precision v = .ok written)
    (other : Nat) : convert letter other alternate precision v = .ok written := by
  unfold convert at h ⊢
  generalize (if alternate then ['0', letter] else []) = mark at h ⊢
  dsimp only at h ⊢
  split at h
  all_goals first | exact h | cases h

theorem render_elsewhere {i : Nat} {body : List Char}
    (h : (readDirective i text).1.render s = .ok (body, rest)) (j : Nat) :
    ∃ body, (readDirective j text).1.render s = .ok (body, rest) := by
  rw [readDirective_eq] at h ⊢
  cases hc : (atConversion text).head? with
  | none =>
    rw [hc] at h
    exact ⟨body, h⟩
  | some c =>
    rw [hc] at h
    obtain ⟨u⟩ := Directive.use h
    obtain ⟨hletter, hindex⟩ := Prod.mk.inj (Option.some.inj u.conversion)
    have hconvert := u.convert
    rw [← hletter] at hconvert
    exact Directive.exists_render_iff.mpr ⟨{ u with
      letter := c
      index := j + text.length - (atConversion text).tail.length - 1
      conversion := rfl
      convert := convert_elsewhere hconvert _ }⟩

/-! ## Filling in a whole template -/

theorem pieces_percent (index : Nat) (text : List Char) :
    pieces index ('%' :: '%' :: text) = .verbatim '%' :: pieces (index + 2) text := by
  rw [pieces]

theorem pieces_verbatim {c : Char} (hc : c ≠ '%') (index : Nat) (text : List Char) :
    pieces index (c :: text) = .verbatim c :: pieces (index + 1) text := by
  rw [pieces]
  · simp [hc]
  · intro rest h
    exact absurd h hc

theorem pieces_directive (h : text.head? ≠ some '%') (index : Nat) :
    pieces index ('%' :: text) = .directive (readDirective (index + 1) text).1 ::
      pieces (index + 1 + text.length - (readDirective (index + 1) text).2.length)
        (readDirective (index + 1) text).2 := by
  rw [pieces]
  · simp
  · rintro rest - rfl
    exact h rfl

theorem renderPieces_verbatim (c : Char) (ps : List Piece) :
    (∃ out, renderPieces s (.verbatim c :: ps) = .ok out) ↔ ∃ out, renderPieces s ps = .ok out := by
  rw [renderPieces]
  cases renderPieces s ps <;> simp [bind, Except.bind, pure, Except.pure]

theorem renderPieces_directive (d : Directive) (ps : List Piece) :
    (∃ out, renderPieces s (.directive d :: ps) = .ok out) ↔
      ∃ body rest, d.render s = .ok (body, rest) ∧ ∃ out, renderPieces rest ps = .ok out := by
  rw [renderPieces]
  constructor
  · rintro ⟨out, h⟩
    obtain ⟨⟨body, rest⟩, hd, h⟩ := Except.bind_eq_ok_iff.mp h
    obtain ⟨tail, htail, -⟩ := Except.bind_eq_ok_iff.mp h
    exact ⟨body, rest, hd, tail, htail⟩
  · rintro ⟨body, rest, hd, tail, htail⟩
    exact ⟨body ++ tail, by simp [hd, htail, bind, Except.bind, pure, Except.pure]⟩

/-- A template can be filled in if the arguments fit its directives. -/
theorem renderPieces_iff_fits (s : Supply) (index : Nat) (text : List Char) :
    (∃ out, renderPieces s (pieces index text) = .ok out) ↔ Fits s (directives text) := by
  induction text using directives_induction generalizing s index with
  | nil =>
    rw [pieces, renderPieces, directives_nil, Fits]
    cases s.entries.isNone && !s.waiting.isEmpty <;> simp
  | percent text ih =>
    rw [pieces_percent, directives_percent, renderPieces_verbatim]
    exact ih s _
  | verbatim c text hc ih =>
    rw [pieces_verbatim hc, directives_verbatim hc, renderPieces_verbatim]
    exact ih s _
  | directive text hhead ih =>
    rw [pieces_directive hhead, directives_directive hhead, renderPieces_directive, Fits]
    have hrest : (readDirective (index + 1) text).2 = (readDirective 0 text).2 := by
      rw [readDirective_eq, readDirective_eq]
    rw [hrest]
    -- Where a directive stands decides neither what it takes nor what it leaves.
    constructor
    · rintro ⟨body, rest, hd, hfill⟩
      obtain ⟨body', hd'⟩ := render_elsewhere hd 0
      exact ⟨body', rest, hd', (ih rest _).mp hfill⟩
    · rintro ⟨body, rest, hd, hfits⟩
      obtain ⟨body', hd'⟩ := render_elsewhere hd (index + 1)
      exact ⟨body', rest, hd', (ih rest _).mpr hfits⟩

/-! ## How many arguments it takes -/

def Extent.need : Extent → Nat
  | .argument => 1
  | _ => 0

def Directive.need (d : Directive) : Nat := d.width.need + d.precision.need + 1

def demand : List Directive → Nat
  | [] => 0
  | d :: ds => d.need + demand ds

theorem demand_append (ds es : List Directive) : demand (ds ++ es) = demand ds + demand es := by
  induction ds with
  | nil => exact (Nat.zero_add _).symm
  | cons d ds ih => rw [List.cons_append, demand, demand, ih, Nat.add_assoc]

theorem demand_perm (h : ds.Perm es) : demand ds = demand es := by
  induction h with
  | nil => rfl
  | cons d _ ih => rw [demand, demand, ih]
  | swap d e ds => exact Nat.add_left_comm _ _ _
  | trans _ _ ih₁ ih₂ => exact ih₁.trans ih₂

theorem demand_eq_zero_iff : demand ds = 0 ↔ ds = [] := by
  cases ds with
  | nil => simp [demand]
  | cons d ds => simp [demand, Directive.need]

theorem waiting_of_next (h : s.next = .ok (v, rest)) :
    s.waiting = v :: rest.waiting ∧ rest.entries = s.entries := by
  unfold Supply.next at h
  split at h
  · cases h
  · rename_i w waiting hwaiting
    cases h
    exact ⟨hwaiting, rfl⟩

/-- An extent that the template spells out is the same for all arguments. -/
theorem measure_fixed {ofPrecision : Bool} {e : Extent} {n : Option Int} (he : e.need = 0)
    (h : s.measure ofPrecision e = .ok (n, rest)) :
    rest = s ∧ ∀ t : Supply, t.measure ofPrecision e = .ok (n, t) := by
  cases e with
  | unset =>
    cases h
    exact ⟨rfl, fun t => rfl⟩
  | fixed m =>
    unfold Supply.measure at h ⊢
    generalize (if ofPrecision then (largestPrecision : Int) else largestWidth) = limit
      at h ⊢
    dsimp only at h ⊢
    by_cases hm : limit < m
    · rw [if_pos hm] at h
      cases h
    · rw [if_neg hm] at h
      cases h
      exact ⟨rfl, fun t => if_neg hm⟩
  | argument => cases he

/-- An extent taken from the arguments is a number, and decided by it. -/
theorem measure_argument {ofPrecision : Bool} {n : Option Int}
    (h : s.measure ofPrecision .argument = .ok (n, rest)) :
    ∃ v, s.next = .ok (v, rest) ∧ v.asText? = none ∧
      ∀ t left : Supply, t.next = .ok (v, left) →
        t.measure ofPrecision .argument = .ok (n, left) := by
  unfold Supply.measure at h ⊢
  generalize (if ofPrecision then (largestPrecision : Int) else largestWidth) = limit
    at h ⊢
  obtain ⟨⟨v, left⟩, hnext, h⟩ := Except.bind_eq_ok_iff.mp h
  cases v with
  | int m =>
    dsimp only at h
    by_cases hm : (limit < m || m < -limit - 1) = true
    · rw [if_pos hm] at h
      cases h
    · rw [if_neg hm] at h
      cases h
      refine ⟨_, hnext, rfl, fun t left ht => Except.bind_eq_ok_iff.mpr ⟨_, ht, ?_⟩⟩
      dsimp only
      rw [if_neg hm]
      rfl
  | bool b =>
    cases h
    exact ⟨_, hnext, rfl, fun t left ht => Except.bind_eq_ok_iff.mpr ⟨_, ht, rfl⟩⟩
  | _ => cases h

theorem waiting_of_measure {ofPrecision : Bool} {e : Extent} {n : Option Int}
    (h : s.measure ofPrecision e = .ok (n, rest)) :
    s.waiting.length = e.need + rest.waiting.length ∧ rest.entries = s.entries := by
  by_cases he : e.need = 0
  · obtain ⟨rfl, -⟩ := measure_fixed he h
    rw [he, Nat.zero_add]
    exact ⟨rfl, rfl⟩
  · cases e with
    | argument =>
      obtain ⟨v, hnext, -⟩ := measure_argument h
      obtain ⟨hwaiting, hentries⟩ := waiting_of_next hnext
      rw [hwaiting, List.length_cons]
      exact ⟨Nat.add_comm _ _, hentries⟩
    | _ => exact absurd rfl he

theorem waiting_of_render {body : List Char} (h : d.render s = .ok (body, rest)) :
    ∃ selected, s.select d.key = .ok selected ∧
      selected.waiting.length = d.need + rest.waiting.length ∧
      rest.entries = selected.entries := by
  obtain ⟨u⟩ := Directive.use h
  obtain ⟨hlen₁, hentries₁⟩ := waiting_of_measure u.measureWidth
  obtain ⟨hlen₂, hentries₂⟩ := waiting_of_measure u.measurePrecision
  obtain ⟨hwaiting, hentries₃⟩ := waiting_of_next u.next
  have hlen₃ : u.afterPrecision.waiting.length = rest.waiting.length + 1 := by
    rw [hwaiting, List.length_cons]
  refine ⟨u.selected, u.select, ?_, hentries₃.trans (hentries₂.trans hentries₁)⟩
  unfold Directive.need
  omega

theorem select_eq_ok_cases {key : Key} {selected : Supply} (h : s.select key = .ok selected) :
    (key = .absent ∧ selected = s) ∨ ∃ name entries v, key = .name name ∧
      s.entries = some entries ∧ Value.entry? entries name = some v ∧
      selected = { s with waiting := [v] } := by
  cases key with
  | absent =>
    cases h
    exact .inl ⟨rfl, rfl⟩
  | unclosed =>
    unfold Supply.select at h
    cases hentries : s.entries <;> simp [hentries] at h
  | name name =>
    unfold Supply.select at h
    cases hentries : s.entries with
    | none => simp [hentries] at h
    | some entries =>
      cases hv : Value.entry? entries name with
      | none => simp [hentries, hv] at h
      | some v =>
        simp only [hentries, hv] at h
        cases h
        exact .inr ⟨name, entries, v, rfl, rfl, hv, rfl⟩

theorem entries_of_render {body : List Char} (h : d.render s = .ok (body, rest)) :
    rest.entries = s.entries := by
  obtain ⟨selected, hkey, -, hentries⟩ := waiting_of_render h
  rcases select_eq_ok_cases hkey with ⟨-, rfl⟩ | ⟨name, entries, v, -, -, -, rfl⟩ <;> exact hentries

/-- A list is used up by the directives that it fits. -/
theorem length_waiting_of_fits (he : s.entries = none) (h : Fits s ds) :
    s.waiting.length = demand ds := by
  induction ds generalizing s with
  | nil =>
    have hempty : s.waiting = [] := by simpa [Fits, he] using h
    rw [hempty]
    rfl
  | cons d ds ih =>
    obtain ⟨body, rest, hd, hrest⟩ := h
    obtain ⟨selected, hkey, hlen, -⟩ := waiting_of_render hd
    have hselected : selected = s := by
      rcases select_eq_ok_cases hkey with ⟨-, hs⟩ | ⟨name, entries, v, -, hentries, -⟩
      · exact hs
      · cases he.symm.trans hentries
    rw [← hselected, hlen, demand, ih ((entries_of_render hd).trans he) hrest]

/-- Directives that can be carried out avoid every sign that is in none of their keys. -/
theorem avoids_of_fits (hx : x ∉ conversionLetters) (h : Fits s ds)
    (hkeys : ∀ d ∈ ds, ∀ key, d.key = .name key → x ∉ key.toList) : ∀ d ∈ ds, d.Avoids x := by
  induction ds generalizing s with
  | nil => exact fun d hd => absurd hd List.not_mem_nil
  | cons d ds ih =>
    obtain ⟨body, rest, hd, hrest⟩ := h
    obtain ⟨u⟩ := Directive.use hd
    have hfirst : d.Avoids x := by
      refine ⟨?_, u.letter, u.index, u.conversion, ?_⟩
      · rcases select_eq_ok_cases u.select with ⟨habsent, -⟩ | ⟨name, entries, v, hname, -⟩
        · exact .inl habsent
        · exact .inr ⟨name, hname, hkeys d List.mem_cons_self name hname⟩
      · intro hletter
        exact hx (hletter ▸ letter_mem_of_convert u.convert)
    intro e he
    rcases List.mem_cons.mp he with rfl | he
    · exact hfirst
    · exact ih hrest (fun e he => hkeys e (List.mem_cons_of_mem d he)) e he

theorem key_ne_name_of_fits (he : s.entries = none) (h : Fits s ds) :
    ∀ d ∈ ds, ∀ key, d.key ≠ .name key := by
  induction ds generalizing s with
  | nil => exact fun d hd => absurd hd List.not_mem_nil
  | cons d ds ih =>
    obtain ⟨body, rest, hd, hrest⟩ := h
    obtain ⟨selected, hkey, -⟩ := waiting_of_render hd
    intro e hmem
    rcases List.mem_cons.mp hmem with rfl | hmem
    · rcases select_eq_ok_cases hkey with ⟨habsent, -⟩ | ⟨name, entries, v, -, hentries, -⟩
      · intro key hname
        cases habsent.symm.trans hname
      · cases he.symm.trans hentries
    · exact ih ((entries_of_render hd).trans he) hrest e hmem

/-! ## Leaving directives out -/

variable {entries : List (Value × Value)}

/-- With nothing waiting, a directive has a key, and then it does not matter what is waiting. -/
theorem Fits.of_nothing_waiting (h : Fits ⟨[], some entries⟩ ds) (waiting : List Value) :
    Fits ⟨waiting, some entries⟩ ds := by
  cases ds with
  | nil => rfl
  | cons d ds =>
    obtain ⟨body, rest, hd, hrest⟩ := h
    obtain ⟨u⟩ := Directive.use hd
    have hany : (⟨waiting, some entries⟩ : Supply).select d.key = .ok u.selected := by
      rcases select_eq_ok_cases u.select with ⟨-, hs⟩ | ⟨name, found, v, hname, hfound, hv, hs⟩
      · -- Without a key there would be nothing to take.
        obtain ⟨selected, hselect, hlen, -⟩ := waiting_of_render hd
        obtain rfl : selected = u.selected := Except.ok.inj (hselect.symm.trans u.select)
        rw [hs] at hlen
        unfold Directive.need at hlen
        simp only [List.length_nil] at hlen
        omega
      · cases hfound
        rw [hs, hname]
        simp only [Supply.select, hv]
    obtain ⟨body', hd'⟩ := Directive.exists_render_iff.mpr ⟨{ u with select := hany }⟩
    exact ⟨body', rest, hd', hrest⟩

/-- A directive on a mapping takes the one value there is. -/
theorem rest_of_render {waiting : List Value} {body : List Char} (hone : waiting.length ≤ 1)
    (h : d.render ⟨waiting, some entries⟩ = .ok (body, rest)) : rest = ⟨[], some entries⟩ := by
  have hentries := entries_of_render h
  obtain ⟨selected, hkey, hlen, -⟩ := waiting_of_render h
  have hselected : selected.waiting.length ≤ 1 := by
    rcases select_eq_ok_cases hkey with ⟨-, rfl⟩ | ⟨name, found, v, -, -, -, rfl⟩
    · exact hone
    · exact Nat.le_refl 1
  have hempty : rest.waiting = [] := by
    rw [← List.length_eq_zero_iff]
    unfold Directive.need at hlen
    omega
  cases rest
  simp_all

/-- A mapping that fits some directives fits them with any of them left out. -/
theorem Fits.sublist {waiting : List Value} (hone : waiting.length ≤ 1)
    (h : Fits ⟨waiting, some entries⟩ ds) (hsub : es.Sublist ds) :
    Fits ⟨waiting, some entries⟩ es := by
  induction hsub generalizing waiting with
  | slnil => exact h
  | cons d hsub ih =>
    obtain ⟨body, rest, hd, hrest⟩ := h
    obtain rfl := rest_of_render hone hd
    -- Without the first directive its value is still waiting, and the others do not mind.
    have hleft : Fits ⟨[], some entries⟩ _ := ih (Nat.zero_le 1) hrest
    exact hleft.of_nothing_waiting waiting
  | cons_cons d hsub ih =>
    obtain ⟨body, rest, hd, hrest⟩ := h
    obtain rfl := rest_of_render hone hd
    exact ⟨body, _, hd, ih (Nat.zero_le 1) hrest⟩

end ObjectCatalog.Template
