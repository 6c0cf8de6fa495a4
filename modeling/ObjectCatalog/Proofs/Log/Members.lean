import ObjectCatalog.Proofs.Log.Fits

/-! # Members of the closed sets in a message

Where a member of a closed set is an argument, the message shows the member's label, and its text
where the text stands in the member's place. So a message is the same with the texts for the
members exactly if it shows nothing of a member, and the failure to make one is the same exactly
if it does not name the set of a member.
-/
namespace ObjectCatalog

def Value.plain : Value → Value
  | .member m => .text m.value
  | v => v

theorem Value.plain_of_ne {v : Value} (h : ∀ m, v ≠ .member m) : v.plain = v := by
  cases v with
  | member m => exact absurd rfl (h m)
  | _ => rfl

def Value.memberKinds : List String := ["ErrorCategory", "DialectFamily", "LogicalColumnType"]

theorem Value.kindName_mem_memberKinds (m : Member) : (Value.member m).kindName ∈ memberKinds := by
  cases m <;> simp [kindName, memberKinds]

theorem Value.kindName_plain_eq_iff {v : Value} :
    v.plain.kindName = v.kindName ↔ ¬ ∃ m : Member, v.kindName = (Value.member m).kindName := by
  cases v with
  | member m =>
    refine iff_of_false ?_ fun h => h ⟨m, rfl⟩
    intro hm
    have hmem := kindName_mem_memberKinds m
    rw [← hm] at hmem
    simp [plain, kindName, memberKinds] at hmem
  | _ =>
    refine iff_of_true rfl ?_
    rintro ⟨m, hm⟩
    have hmem := kindName_mem_memberKinds m
    rw [← hm] at hmem
    simp [kindName, memberKinds] at hmem

/-! ## Failures -/

def MessageError.kind? : MessageError → Option String
  | .notANumber _ kind | .notAnInteger _ kind | .notReal kind => some kind
  | _ => none

def MessageError.NamesMember (e : MessageError) : Prop :=
  ∃ m : Member, e.kind? = some (Value.member m).kindName

namespace Template

/-- Both succeed and the results are related, or both fail and the failure is the same unless it
names the set of a member. -/
inductive Alike {α β : Type} (R : α → β → Prop) :
    Except MessageError α → Except MessageError β → Prop
  | ok {a : α} {b : β} (h : R a b) : Alike R (.ok a) (.ok b)
  | error {e f : MessageError} (h : f = e ↔ ¬ e.NamesMember) : Alike R (.error e) (.error f)

namespace Alike

variable {α β γ δ : Type} {R : α → β → Prop} {S : γ → δ → Prop} {x : Except MessageError α}
  {y : Except MessageError β}

theorem bind {f : α → Except MessageError γ} {g : β → Except MessageError δ} (h : Alike R x y)
    (hfg : ∀ a b, x = .ok a → R a b → Alike S (f a) (g b)) : Alike S (x >>= f) (y >>= g) := by
  cases h with
  | ok h => exact hfg _ _ rfl h
  | error h => exact .error h

theorem imp {T : α → β → Prop} (h : Alike R x y) (himp : ∀ a b, R a b → T a b) : Alike T x y := by
  cases h with
  | ok h => exact .ok (himp _ _ h)
  | error h => exact .error h

theorem kindless {e : MessageError} (h : e.kind? = none) : Alike R (.error e) (.error e) := by
  refine .error (iff_of_true rfl ?_)
  rintro ⟨m, hm⟩
  cases h.symm.trans hm

/-- A number is asked for, and the value is none. -/
theorem refusal (refuse : String → MessageError) (h : ∀ kind, (refuse kind).kind? = some kind)
    (v : Value) : Alike R (.error (refuse v.kindName)) (.error (refuse v.plain.kindName)) := by
  refine .error ?_
  have hinjective : refuse v.plain.kindName = refuse v.kindName ↔
      v.plain.kindName = v.kindName := by
    refine ⟨fun heq => ?_, congrArg refuse⟩
    have hkind := congrArg MessageError.kind? heq
    rw [h, h] at hkind
    exact Option.some.inj hkind
  rw [hinjective, Value.kindName_plain_eq_iff, MessageError.NamesMember, h]
  simp only [Option.some.injEq]

theorem eq_iff {x y : Except MessageError α} {P : Prop} (h : Alike (fun a b => b = a ↔ P) x y) :
    y = x ↔ (∀ e, x = .error e → ¬ e.NamesMember) ∧ ((∃ a, x = .ok a) → P) := by
  cases h with
  | ok h => simpa using h
  | error h => simpa using h

end Alike

/-! ## Conversions -/

def ChangedIf {α : Type} (condition : Prop) (Apart : α → α → Prop) (a b : α) : Prop :=
  (condition → Apart a b) ∧ (¬ condition → b = a)

def Kept {α : Type} (v : Value) (a b : α) : Prop := b = a ∧ ∀ m, v ≠ .member m

def Apart (xs ys : List Char) : Prop :=
  ∃ x ∈ xs.head?, ∃ y ∈ ys.head?, x ≠ y ∧ x ≠ ' ' ∧ y ≠ ' '

def Differ (xs ys : List Char) : Prop := ∀ more others, xs ++ more ≠ ys ++ others

def Written.Apart (w w' : Written) : Prop :=
  ∃ body body', w = .text body ∧ w' = .text body' ∧ Template.Apart body body'

variable {xs ys : List Char} {precision : Option Nat} {v : Value} {s rest : Supply} {d : Directive}

theorem Apart.take (h : Apart xs ys) {n : Nat} (hn : n ≠ 0) : Apart (xs.take n) (ys.take n) := by
  unfold Apart
  rw [List.head?_take, List.head?_take, if_neg hn, if_neg hn]
  exact h

theorem Apart.differ (h : Apart xs ys) : Differ xs ys := by
  obtain ⟨x, hx, y, hy, hxy, -⟩ := h
  obtain ⟨xs, rfl⟩ := List.head?_eq_some_iff.mp hx
  obtain ⟨ys, rfl⟩ := List.head?_eq_some_iff.mp hy
  intro more others heq
  exact hxy (List.cons.inj heq).1

theorem Apart.differ_append (h : Apart xs ys) (back back' : List Char) :
    Differ (xs ++ back) (ys ++ back') := by
  intro more others
  rw [List.append_assoc, List.append_assoc]
  exact h.differ _ _

/-- Texts that come apart also do behind blanks. -/
theorem Apart.differ_blanks (h : Apart xs ys) (i j : Nat) :
    Differ (List.replicate i ' ' ++ xs) (List.replicate j ' ' ++ ys) := by
  have hends := h
  obtain ⟨x, hx, y, hy, -, hx', hy'⟩ := hends
  obtain ⟨xs, rfl⟩ := List.head?_eq_some_iff.mp hx
  obtain ⟨ys, rfl⟩ := List.head?_eq_some_iff.mp hy
  intro more others
  induction i generalizing j with
  | zero =>
    cases j with
    | zero => exact h.differ more others
    | succ j => exact fun heq => hx' (List.cons.inj heq).1
  | succ i ih =>
    cases j with
    | zero => exact fun heq => hy' (List.cons.inj heq).1.symm
    | succ j => exact fun heq => ih j (List.cons.inj heq).2

theorem Written.Apart.differ {w w' : Written} (h : w.Apart w') (flags : List Char) (width : Nat)
    (left : Bool) : Differ (setWidth flags width left w) (setWidth flags width left w') := by
  obtain ⟨body, body', rfl, rfl, h⟩ := h
  cases left with
  | true => exact h.differ_append _ _
  | false => exact h.differ_blanks _ _

theorem apart_label (m : Member) : Apart m.label.toList m.value.toList := by
  cases m with
  | category c => cases c <;> exact ⟨_, rfl, _, rfl, by decide⟩
  | family f => cases f <;> exact ⟨_, rfl, _, rfl, by decide⟩
  | logicalType t => cases t <;> exact ⟨_, rfl, _, rfl, by decide⟩

theorem literal_member (m : Member) : ∃ xs, (Value.member m).literal.toList = '<' :: xs := by
  rw [Value.literal]
  simp

theorem literal_text (s : String) : ∃ mark ∈ [Text.singleQuote, Text.doubleQuote],
    ∃ xs, (Value.text s).literal.toList = mark :: xs := by
  refine ⟨_, ?_, _, by rw [Value.literal, Text.quote, String.toList_ofList]; rfl⟩
  unfold Text.quoteMark
  split <;> decide

/-- Angle brackets and quote marks differ, also where only ASCII is left unescaped. -/
theorem apart_literal (m : Member) (s : String) :
    Apart (Value.member m).literal.toList (Value.text s).literal.toList ∧
      Apart ((Value.member m).literal.toList.flatMap escapeWide)
        ((Value.text s).literal.toList.flatMap escapeWide) := by
  obtain ⟨xs, hxs⟩ := literal_member m
  obtain ⟨mark, hmark, ys, hys⟩ := literal_text s
  rw [hxs, hys, List.flatMap_cons, List.flatMap_cons]
  simp only [List.mem_cons, List.not_mem_nil, or_false] at hmark
  rcases hmark with rfl | rfl <;> exact ⟨⟨_, rfl, _, rfl, by decide⟩, _, rfl, _, rfl, by decide⟩

theorem Apart.cut (h : Apart xs ys) (precision : Option Nat) : precision ≠ some 0 → Written.Apart
    (.text (match precision with | some n => xs.take n | none => xs))
    (.text (match precision with | some n => ys.take n | none => ys)) := by
  intro hp
  refine ⟨_, _, rfl, rfl, ?_⟩
  cases precision with
  | none => exact h
  | some n => exact h.take fun hn => hp (congrArg some hn)

/-- A member is shown where its conversion leaves something of it. -/
def ShowsMember (precision : Option Nat) (v : Value) : Prop :=
  (∃ m, v = .member m) ∧ precision ≠ some 0

theorem apart_writeText (letter : Char) (m : Member) (h : precision ≠ some 0) :
    (writeText letter (.member m) precision).Apart (writeText letter (.text m.value) precision) := by
  obtain ⟨hliteral, hescaped⟩ := apart_literal m m.value
  unfold writeText
  split
  · exact (apart_label m).cut precision h
  · exact hliteral.cut precision h
  · exact hescaped.cut precision h

theorem writeText_cut (letter : Char) (v : Value) : writeText letter v (some 0) = .text [] := by
  unfold writeText
  simp

theorem changedIf_writeText (letter : Char) (precision : Option Nat) (v : Value) :
    ChangedIf (ShowsMember precision v) Written.Apart (writeText letter v precision)
      (writeText letter v.plain precision) := by
  constructor
  · rintro ⟨⟨m, rfl⟩, hp⟩
    exact apart_writeText letter m hp
  · intro hshow
    by_cases hp : precision = some 0
    · rw [hp, writeText_cut, writeText_cut]
    · have hv : v.plain = v := v.plain_of_ne fun m hm => hshow ⟨⟨m, hm⟩, hp⟩
      rw [hv]

theorem alike_wholeNumber (letter : Char) (v : Value) :
    Alike (Kept v) (wholeNumber letter v) (wholeNumber letter v.plain) := by
  cases v with
  | int n => exact .ok ⟨rfl, nofun⟩
  | bool b => exact .ok ⟨rfl, nofun⟩
  | float x =>
    simp only [Value.plain, wholeNumber]
    split
    · exact .ok ⟨rfl, nofun⟩
    · exact .kindless rfl
  | _ => exact .refusal (.notANumber letter) (fun _ => rfl) _

theorem alike_exactInteger (letter : Char) (v : Value) :
    Alike (Kept v) (exactInteger letter v) (exactInteger letter v.plain) := by
  cases v with
  | int n => exact .ok ⟨rfl, nofun⟩
  | bool b => exact .ok ⟨rfl, nofun⟩
  | _ => exact .refusal (.notAnInteger letter) (fun _ => rfl) _

theorem alike_realNumber (v : Value) : Alike (Kept v) (realNumber v) (realNumber v.plain) := by
  cases v with
  | float x => exact .ok ⟨rfl, nofun⟩
  | bool b => exact .ok ⟨rfl, nofun⟩
  | int n =>
    simp only [Value.plain, realNumber]
    split
    · exact .ok ⟨rfl, nofun⟩
    · exact .kindless rfl
  | _ => exact .refusal .notReal (fun _ => rfl) _

theorem alike_writeCharacter (v : Value) :
    Alike (Kept v) (writeCharacter v) (writeCharacter v.plain) := by
  cases v with
  | int n =>
    simp only [Value.plain, writeCharacter]
    split
    · exact .ok ⟨rfl, nofun⟩
    · exact .kindless rfl
  | bool b => exact .ok ⟨rfl, nofun⟩
  | text s =>
    simp only [Value.plain, writeCharacter]
    split
    · exact .ok ⟨rfl, nofun⟩
    · exact .kindless rfl
  | member m =>
    -- No member stands for a single sign.
    cases m with
    | category c => cases c <;> exact .kindless rfl
    | family f => cases f <;> exact .kindless rfl
    | logicalType t => cases t <;> exact .kindless rfl
  | _ => exact .kindless rfl

theorem ChangedIf.of_kept {α : Type} {R : α → α → Prop} {a b : α} (h : Kept v a b) :
    ChangedIf (ShowsMember precision v) R a b :=
  ⟨fun ⟨⟨m, hm⟩, _⟩ => absurd hm (h.2 m), fun _ => h.1⟩

theorem alike_convert (letter : Char) (index : Nat) (alternate : Bool) (precision : Option Nat)
    (v : Value) : Alike (ChangedIf (ShowsMember precision v) Written.Apart)
      (convert letter index alternate precision v)
      (convert letter index alternate precision v.plain) := by
  unfold convert
  generalize (if alternate then ['0', letter] else []) = mark
  dsimp only
  split
  case h_1 | h_2 | h_3 => exact .ok (changedIf_writeText _ precision v)
  case h_4 | h_5 | h_6 =>
    refine (alike_wholeNumber _ v).bind ?_
    rintro n _ - ⟨rfl, hv⟩
    exact .ok (.of_kept ⟨rfl, hv⟩)
  case h_7 | h_8 | h_9 =>
    refine (alike_exactInteger _ v).bind ?_
    rintro n _ - ⟨rfl, hv⟩
    exact .ok (.of_kept ⟨rfl, hv⟩)
  case h_16 => exact (alike_writeCharacter v).imp fun _ _ => .of_kept
  case h_17 => exact .kindless rfl
  all_goals
    refine (alike_realNumber v).bind ?_
    rintro x _ - ⟨rfl, hv⟩
    exact .ok (.of_kept ⟨rfl, hv⟩)

/-! ## Directives -/

def Supply.plain (s : Supply) : Supply := { s with waiting := s.waiting.map Value.plain }

theorem alike_next (s : Supply) :
    Alike (fun a b => b = (a.1.plain, a.2.plain)) s.next s.plain.next := by
  obtain ⟨waiting, entries⟩ := s
  cases waiting with
  | nil => exact .kindless rfl
  | cons v waiting => exact .ok rfl

theorem alike_select (h : s.entries = none) (key : Key) :
    Alike (fun a b => b = a.plain) (s.select key) (s.plain.select key) := by
  have hplain : s.plain.entries = none := h
  cases key with
  | absent => exact .ok rfl
  | _ =>
    unfold Supply.select
    rw [h, hplain]
    exact .kindless rfl

theorem alike_measure (s : Supply) (ofPrecision : Bool) (e : Extent) :
    Alike (fun a b => b = (a.1, a.2.plain)) (s.measure ofPrecision e)
      (s.plain.measure ofPrecision e) := by
  unfold Supply.measure
  generalize (if ofPrecision then (largestPrecision : Int) else largestWidth) = limit
  cases e with
  | unset => exact .ok rfl
  | fixed n =>
    dsimp only
    split
    · exact .kindless rfl
    · exact .ok rfl
  | argument =>
    refine (alike_next s).bind ?_
    rintro ⟨v, rest⟩ _ - rfl
    cases v with
    | int n =>
      dsimp only [Value.plain]
      split
      · exact .kindless rfl
      · exact .ok rfl
    | bool b => exact .ok rfl
    | _ => exact .kindless rfl

def Directive.Use.Shows (u : d.Use s rest) : Prop :=
  ShowsMember (u.precision.map Int.toNat) u.value

theorem Directive.Use.unique {rest' : Supply} (u : d.Use s rest) (u' : d.Use s rest') :
    rest' = rest ∧ (u'.Shows ↔ u.Shows) := by
  have hselected : u'.selected = u.selected := Except.ok.inj (u'.select.symm.trans u.select)
  have hwidth := u'.measureWidth
  rw [hselected, u.measureWidth] at hwidth
  obtain ⟨-, hafter⟩ := Prod.mk.inj (Except.ok.inj hwidth)
  have hprecision := u'.measurePrecision
  rw [← hafter, u.measurePrecision] at hprecision
  obtain ⟨hprecision, hafter⟩ := Prod.mk.inj (Except.ok.inj hprecision)
  have hnext := u'.next
  rw [← hafter, u.next] at hnext
  obtain ⟨hvalue, hrest⟩ := Prod.mk.inj (Except.ok.inj hnext)
  refine ⟨hrest.symm, ?_⟩
  unfold Shows
  rw [hprecision, hvalue]

theorem alike_render (h : s.entries = none) (d : Directive) :
    Alike (fun a b => b.2 = a.2.plain ∧ ∃ u : d.Use s a.2, ChangedIf u.Shows Differ a.1 b.1)
      (d.render s) (d.render s.plain) := by
  unfold Directive.render
  refine (alike_select h d.key).bind ?_
  rintro selected _ hselect rfl
  refine (alike_measure selected false d.width).bind ?_
  rintro ⟨width, afterWidth⟩ _ hwidth rfl
  refine (alike_measure afterWidth true d.precision).bind ?_
  rintro ⟨precision, afterPrecision⟩ _ hprecision rfl
  cases hconversion : d.conversion with
  | none => exact .kindless rfl
  | some found =>
    obtain ⟨letter, index⟩ := found
    refine (alike_next afterPrecision).bind ?_
    rintro ⟨v, rest⟩ _ hnext rfl
    refine (alike_convert letter index _ _ v).bind ?_
    intro written written' hconvert hchanged
    refine .ok ⟨rfl, ⟨selected, width, afterWidth, precision, afterPrecision, letter, index, v,
      written, hselect, hwidth, hprecision, hconversion, hnext, hconvert⟩, ?_, ?_⟩
    · exact fun hshow => (hchanged.1 hshow).differ _ _ _
    · intro hshow
      rw [hchanged.2 hshow]

/-! ## Whole templates -/

/-- A directive of the template shows the member that it takes. -/
def ShowsSome : Supply → List Piece → Prop
  | _, [] => False
  | s, .verbatim _ :: ps => ShowsSome s ps
  | s, .directive d :: ps => ∃ (rest : Supply) (u : d.Use s rest), u.Shows ∨ ShowsSome rest ps

theorem showsSome_directive (u : d.Use s rest) (ps : List Piece) :
    ShowsSome s (.directive d :: ps) ↔ u.Shows ∨ ShowsSome rest ps := by
  rw [ShowsSome]
  constructor
  · rintro ⟨rest', u', h⟩
    obtain ⟨rfl, hshows⟩ := u.unique u'
    rwa [hshows] at h
  · exact fun h => ⟨rest, u, h⟩

/-- The result with texts for the members is the same as with the members if none of these is shown,
and not if one is. -/
theorem alike_renderPieces (h : s.entries = none) (ps : List Piece) :
    Alike (fun out out' => out' = out ↔ ¬ ShowsSome s ps) (renderPieces s ps)
      (renderPieces s.plain ps) := by
  induction ps generalizing s with
  | nil =>
    have hplain : s.plain.entries = none := h
    rw [renderPieces, renderPieces, h, hplain, Supply.plain, List.isEmpty_map]
    split
    · exact .kindless rfl
    · exact .ok (iff_of_true rfl not_false)
  | cons p ps ih =>
    cases p with
    | verbatim c =>
      rw [renderPieces, renderPieces]
      refine (ih h).bind ?_
      intro out out' _ hsame
      refine .ok ?_
      rw [List.cons_inj_right]
      exact hsame
    | directive d =>
      rw [renderPieces, renderPieces]
      refine (alike_render h d).bind ?_
      rintro ⟨body, rest⟩ ⟨body', rest'⟩ hrender ⟨hrest, u, hchanged⟩
      dsimp only at hrest hchanged u
      subst hrest
      refine (ih ((entries_of_render hrender).trans h)).bind ?_
      intro out out' _ hsame
      refine .ok ?_
      rw [showsSome_directive u, not_or]
      by_cases hshow : u.Shows
      · exact iff_of_false (fun heq => hchanged.1 hshow _ _ heq.symm) fun hnone => hnone.1 hshow
      · rw [hchanged.2 hshow, List.append_cancel_left_eq, hsame]
        exact ⟨fun hrest => ⟨hshow, hrest⟩, And.right⟩

end Template

end ObjectCatalog
