import ObjectCatalog.Proofs.Json.Grammar
import ObjectCatalog.Proofs.Results
import ObjectCatalog.Value.Json

/-! # Values as JSON texts

A value has a text exactly if all keys in it are names, and none of its parts is without a form
unless something makes texts of these. The text stands for the value: arrays and objects for what
holds others, texts for texts, numerals for numbers, and words for the numbers without one. So it
is a text of the standard exactly if all numbers in the value are finite. No sign in it is a
control character.
-/
namespace ObjectCatalog

/-! ## Values inside of others -/

namespace Value

def parts : Value → List Value
  | .list items | .tuple items => items
  | .mapping entries => entries.map Prod.snd
  | _ => []

def keys : Value → List Value
  | .mapping entries => entries.map Prod.fst
  | _ => []

inductive Within : Value → Value → Prop
  | refl (v : Value) : Within v v
  | part {v part w : Value} (hpart : part ∈ w.parts) (h : Within v part) : Within v w

theorem within_iff {v w : Value} : Within v w ↔ v = w ∨ ∃ part ∈ w.parts, Within v part := by
  constructor
  · rintro (_ | ⟨hpart, h⟩)
    · exact .inl rfl
    · exact .inr ⟨_, hpart, h⟩
  · rintro (rfl | ⟨part, hpart, h⟩)
    · exact .refl v
    · exact .part hpart h

theorem forall_within_iff {P : Value → Prop} {w : Value} : (∀ v, Within v w → P v) ↔
    P w ∧ ∀ part ∈ w.parts, ∀ v, Within v part → P v := by
  constructor
  · intro h
    exact ⟨h w (.refl w), fun part hpart v hv => h v (.part hpart hv)⟩
  · rintro ⟨hself, hparts⟩ v hv
    rcases within_iff.mp hv with rfl | ⟨part, hpart, hv⟩
    · exact hself
    · exact hparts part hpart v hv

def isFormless : Value → Bool
  | .bytes _ | .set _ | .frozenset _ => true
  | _ => false

def isName : Value → Bool
  | .null | .bool _ | .int _ | .float _ | .text _ | .member _ => true
  | _ => false

def HasNames (v : Value) : Prop := ∀ w, Within w v → ∀ key ∈ w.keys, key.isName = true

def HasForm (v : Value) : Prop :=
  ∀ w, Within w v → w.isFormless = false ∧ ∀ key ∈ w.keys, key.isName = true

theorem hasNames_iff {v : Value} :
    v.HasNames ↔ (∀ key ∈ v.keys, key.isName = true) ∧ ∀ part ∈ v.parts, part.HasNames :=
  forall_within_iff

theorem hasNames_of_parts {v : Value} (hparts : v.parts = []) (hkeys : v.keys = []) : v.HasNames := by
  rw [hasNames_iff, hparts, hkeys]
  exact ⟨List.forall_mem_nil _, List.forall_mem_nil _⟩

theorem HasForm.hasNames {v : Value} (h : v.HasForm) : v.HasNames := fun w hw => (h w hw).2

def EachNumber (P : Binary64 → Prop) (v : Value) : Prop := ∀ x, Within (.float x) v → P x

abbrev InFormat (v : Value) : Prop := v.EachNumber Binary64.InFormat

abbrev IsFinite (v : Value) : Prop := v.EachNumber fun x => x.isFinite = true

theorem eachNumber_iff {P : Binary64 → Prop} {v : Value} : v.EachNumber P ↔
    (∀ x, v = .float x → P x) ∧ ∀ part ∈ v.parts, part.EachNumber P := by
  have hiff (u : Value) : u.EachNumber P ↔ ∀ w, Within w u → ∀ x, w = .float x → P x :=
    ⟨fun h w hw x hx => h x (hx ▸ hw), fun h x hx => h _ hx x rfl⟩
  simp only [hiff]
  exact forall_within_iff

theorem eachNumber_of_parts {P : Binary64 → Prop} {v : Value} (h : v.parts = [])
    (hv : ∀ x, v ≠ .float x) : v.EachNumber P := by
  rw [eachNumber_iff, h]
  exact ⟨fun x hx => absurd hx (hv x), List.forall_mem_nil _⟩

@[simp] theorem eachNumber_null (P : Binary64 → Prop) : null.EachNumber P :=
  eachNumber_of_parts rfl nofun

@[simp] theorem eachNumber_int (P : Binary64 → Prop) (n : Int) : (int n).EachNumber P :=
  eachNumber_of_parts rfl nofun

@[simp] theorem eachNumber_text (P : Binary64 → Prop) (s : String) : (text s).EachNumber P :=
  eachNumber_of_parts rfl nofun

@[simp] theorem eachNumber_float {P : Binary64 → Prop} {x : Binary64} :
    (float x).EachNumber P ↔ P x := by
  rw [eachNumber_iff]
  simp [parts]

@[simp] theorem eachNumber_list {P : Binary64 → Prop} {items : List Value} :
    (list items).EachNumber P ↔ ∀ item ∈ items, item.EachNumber P := by
  rw [eachNumber_iff]
  simp [parts]

@[simp] theorem parts_table (entries : List (String × Value)) :
    (table entries).parts = entries.map Prod.snd := by
  simp [table, parts]

@[simp] theorem keys_table (entries : List (String × Value)) :
    (table entries).keys = entries.map fun entry => .text entry.1 := by
  simp [table, keys]

theorem eachNumber_table {P : Binary64 → Prop} {entries : List (String × Value)} :
    (table entries).EachNumber P ↔ ∀ entry ∈ entries, entry.2.EachNumber P := by
  rw [eachNumber_iff, parts_table, List.forall_mem_map]
  exact and_iff_right nofun

theorem hasNames_table {entries : List (String × Value)} :
    (table entries).HasNames ↔ ∀ entry ∈ entries, entry.2.HasNames := by
  rw [hasNames_iff, parts_table, keys_table, List.forall_mem_map, List.forall_mem_map]
  exact and_iff_right fun _ _ => rfl

end Value

namespace Json

/-! ## What a value stands for -/

def dataOfFloat : Binary64 → Data
  | .nan => .word .nan
  | .infinite negative => .word (if negative then .minusInfinity else .infinity)
  | .finite negative mantissa exponent => .number (Binary64.finite negative mantissa exponent).textChars

def nameOf (key : Value) : String := (keyName key).toOption.getD key.display

mutual

/-- What the text of a value stands for. Values without a form are told by their display, and so
is a key that is no name. -/
def data : Value → Data
  | .null => .null
  | .bool b => .bool b
  | .int n => .number (toString n).toList
  | .float x => dataOfFloat x
  | .text s => .text s
  | .member m => .text m.value
  | .list items | .tuple items => .array (dataOfItems items)
  | .mapping entries => .object (dataOfEntries entries)
  | .bytes b => .text (Value.bytes b).display
  | .set items => .text (Value.set items).display
  | .frozenset items => .text (Value.frozenset items).display

def dataOfItems : List Value → List Data
  | [] => []
  | item :: items => data item :: dataOfItems items

def dataOfEntries : List (Value × Value) → List (String × Data)
  | [] => []
  | (key, item) :: entries => (nameOf key, data item) :: dataOfEntries entries

end

/-! ## Texts -/

@[simp] theorem character_toNat (c : Char) : character c.toNat = c := by
  have hvalid : c.toNat.isValidChar := c.valid
  unfold character
  rw [if_pos hvalid, Char.ofNat_toNat]

theorem isHighHalf_toNat (c : Char) : isHighHalf c.toNat = false := by
  have hvalid : c.toNat < 0xd800 ∨ 0xdfff < c.toNat ∧ c.toNat < 0x110000 := c.valid
  simp only [isHighHalf, Bool.and_eq_false_iff, decide_eq_false_iff_not]
  omega

@[simp] theorem characters_toNat (text : List Char) : characters (text.map Char.toNat) = text := by
  induction text with
  | nil => rfl
  | cons c text ih =>
    cases text with
    | nil => simp [characters]
    | cons d text => simpa [characters, isHighHalf_toNat] using ih

theorem hexNumber?_hexDigit : ∀ code < 0x20, hexNumber? [Text.hexDigit (code / 16 / 16 / 16 % 16),
    Text.hexDigit (code / 16 / 16 % 16), Text.hexDigit (code / 16 % 16), Text.hexDigit (code % 16)] =
      some code := by
  decide

theorem lookup_escapes_of_shortEscape {code : Nat} {letter : Char}
    (h : shortEscape code = some letter) : escapes.lookup letter = some code := by
  unfold shortEscape at h
  split_ifs at h <;> cases h <;> simp_all [escapes, List.lookup_cons]

theorem codes_escapeChar (c : Char) {s t : List Char} {codes : List Nat} (h : Codes s codes t) :
    Codes (escapeChar c ++ s) (c.toNat :: codes) t := by
  unfold escapeChar
  split
  next letter hletter => exact .escape (lookup_escapes_of_shortEscape hletter) h
  next hnone =>
    split
    next hcontrol => exact .number (hexNumber?_hexDigit c.toNat hcontrol) h
    next hcontrol =>
      refine .plain (by omega) ?_ ?_ h
      · rintro rfl
        revert hnone
        decide
      · rintro rfl
        revert hnone
        decide

/-- A text is read back from between its quotation marks. -/
theorem codes_escape (text t : List Char) :
    Codes (text.flatMap escapeChar ++ '"' :: t) (text.map Char.toNat) t := by
  induction text with
  | nil => exact .close t
  | cons c text ih =>
    rw [List.flatMap_cons, List.append_assoc]
    exact codes_escapeChar c ih

theorem toList_encodeText (s : String) :
    (encodeText s).toList = '"' :: (s.toList.flatMap escapeChar ++ ['"']) := by
  simp [encodeText]

variable {words : Bool}

theorem textOf_toNat (s : String) : textOf (s.toList.map Char.toNat) = s := by
  simp [textOf]

theorem reads_encodeText (s : String) (t : List Char) :
    Reads words ((encodeText s).toList ++ t) (.value (.text s)) t := by
  have h : Reads words ('"' :: (s.toList.flatMap escapeChar ++ '"' :: t))
      (.value (.text (textOf (s.toList.map Char.toNat)))) t := .text (codes_escape s.toList t)
  rw [textOf_toNat] at h
  simpa [toList_encodeText] using h

/-! ## Numbers -/

def EndsNumeral (t : List Char) : Prop := ∀ c ∈ t.head?, Decimal.isNumeralSign c = false

theorem takeWhile_numeral {numeral t : List Char} (h : Decimal.IsNumeral numeral)
    (ht : EndsNumeral t) : (numeral ++ t).takeWhile Decimal.isNumeralSign = numeral ∧
      (numeral ++ t).dropWhile Decimal.isNumeralSign = t := by
  have hsigns := h.isNumeralSign
  have hbehind : t.takeWhile Decimal.isNumeralSign = [] ∧ t.dropWhile Decimal.isNumeralSign = t := by
    cases t with
    | nil => exact ⟨rfl, rfl⟩
    | cons c t =>
      have hc : Decimal.isNumeralSign c = false := ht c rfl
      simp [hc]
  rw [List.takeWhile_append_of_pos hsigns, List.dropWhile_append_of_pos hsigns, hbehind.1, hbehind.2,
    List.append_nil]
  exact ⟨rfl, rfl⟩

theorem reads_numeral {numeral t : List Char} (h : Decimal.IsNumeral numeral) (ht : EndsNumeral t) :
    Reads words (numeral ++ t) (.value (.number numeral)) t := by
  obtain ⟨htake, hdrop⟩ := takeWhile_numeral h ht
  have hread : Reads words (numeral ++ t)
      (.value (.number ((numeral ++ t).takeWhile Decimal.isNumeralSign)))
      ((numeral ++ t).dropWhile Decimal.isNumeralSign) := .number (by rwa [htake])
  rwa [htake, hdrop] at hread

theorem reads_encodeFloat {x : Binary64} (hx : x.InFormat) {t : List Char} (ht : EndsNumeral t) :
    Reads true ((encodeFloat x).toList ++ t) (.value (dataOfFloat x)) t := by
  cases x with
  | nan => exact .name (.word rfl .nan)
  | infinite negative =>
    cases negative
    · exact .name (.word rfl .infinity)
    · exact .name (.word rfl .minusInfinity)
  | finite negative mantissa exponent =>
    have hnumeral := Binary64.isNumeral_textChars hx rfl
    have htext : (encodeFloat (.finite negative mantissa exponent)).toList =
        (Binary64.finite negative mantissa exponent).textChars := by
      simp [encodeFloat, Binary64.text]
    rw [htext]
    exact reads_numeral hnumeral ht

/-! ## Values -/

namespace Reads

variable {s t : List Char}

/-- No value begins with a blank. -/
theorem skip_eq {d : Data} (h : Reads words s (.value d) t) : skip s = s := by
  have hcons {c : Char} (hc : isBlank c = false) (rest : List Char) : skip (c :: rest) = c :: rest := by
    simp [skip, hc]
  rcases h.value_cases with ⟨name, hname, rfl⟩ | ⟨hnumeral, -, -⟩ | ⟨k, codes, rfl, -, -⟩ |
    ⟨k, rfl, -⟩ | ⟨k, rfl, -⟩
  · obtain ⟨c, rest, rfl, hc⟩ := hname.head
    have hletters : ∀ x ∈ ['n', 't', 'f', 'N', 'I', '-'], isBlank x = false := by simp [isBlank]
    exact hcons (hletters c hc) (rest ++ t)
  · obtain ⟨c, rest, heq, -⟩ := hnumeral.exists_cons
    cases s with
    | nil => simp at heq
    | cons first s =>
      refine hcons ?_ s
      by_contra hblank
      have hsign : Decimal.isNumeralSign first = false := by
        simp only [Bool.not_eq_false, isBlank, List.contains_iff_mem] at hblank
        have hblanks : ∀ x ∈ [' ', '\t', '\n', '\r'], Decimal.isNumeralSign x = false := by
          simp [Decimal.isNumeralSign]
        exact hblanks first hblank
      simp [hsign] at heq
  · rfl
  · rfl
  · rfl

theorem items_blank {ds : List Data} (h : Reads words s (.items ds) t) :
    Reads words (' ' :: s) (.items ds) t := by
  cases h with
  | lastItem hitem hclose => exact .lastItem hitem hclose
  | item hitem hcomma hitems => exact .item hitem hcomma hitems

theorem members_blank {ms : List (String × Data)} (h : Reads words s (.members ms) t) :
    Reads words (' ' :: s) (.members ms) t := by
  have hblank {m : String × Data} {u : List Char} (hm : Reads words s (.member m) u) :
      Reads words (' ' :: s) (.member m) u := by
    cases hm with
    | member hopen hkey hcolon hvalue => exact .member hopen hkey hcolon hvalue
  cases h with
  | lastMember hmember hclose => exact .lastMember (hblank hmember) hclose
  | members hmember hcomma hmembers => exact .members (hblank hmember) hcomma hmembers

/-- The key of a member, a colon and a blank in front of its value. -/
theorem member_encode {key value : String} {d : Data}
    (h : Reads words (value.toList ++ t) (.value d) t) :
    Reads words ((encodeMember key value).toList ++ t) (.member (key, d)) t := by
  have htext : (encodeMember key value).toList ++ t =
      '"' :: (key.toList.flatMap escapeChar ++ '"' :: ':' :: ' ' :: (value.toList ++ t)) := by
    simp [encodeMember, toList_encodeText]
  have hvalue : skip (' ' :: (value.toList ++ t)) = value.toList ++ t := h.skip_eq
  have hmember : Reads words
      ('"' :: (key.toList.flatMap escapeChar ++ '"' :: ':' :: ' ' :: (value.toList ++ t)))
      (.member (textOf (key.toList.map Char.toNat), d)) t :=
    .member rfl (codes_escape key.toList _) rfl (by rwa [hvalue])
  rwa [textOf_toNat, ← htext] at hmember

end Reads

theorem toList_commaSeparated_cons (first : String) {rest : List String} (h : rest ≠ []) :
    (Value.commaSeparated (first :: rest)).toList =
      first.toList ++ ',' :: ' ' :: (Value.commaSeparated rest).toList := by
  simp [Value.commaSeparated, String.intercalate_cons_of_ne_nil h]

theorem toList_encodeArray (items : List String) :
    (encodeArray items).toList = '[' :: ((Value.commaSeparated items).toList ++ [']']) := by
  simp [encodeArray]

theorem toList_encodeObject (members : List String) :
    (encodeObject members).toList = '\x7b' :: ((Value.commaSeparated members).toList ++ ['\x7d']) := by
  simp [encodeObject]

theorem endsNumeral_cons {c : Char} (h : Decimal.isNumeralSign c = false) (t : List Char) :
    EndsNumeral (c :: t) := by
  rintro x ⟨⟩
  exact h

theorem nameOf_eq {key : Value} {name : String} (h : keyName key = .ok name) : nameOf key = name := by
  rw [nameOf, h]
  rfl

theorem exists_keyName_iff {key : Value} : (∃ name, keyName key = .ok name) ↔ key.isName = true := by
  cases key <;> simp [keyName, Value.isName]

theorem keyName_eq_error {key : Value} {e : Unwritable} (h : keyName key = .error e) :
    key.isName = false ∧ e = .key key.kindName := by
  cases key <;> simp_all [keyName, Value.isName]

/-! ### What a text is put together from -/

variable {fallback : Option (Value → String)} {text : String} {texts : List String}

theorem encode_list_iff {items : List Value} : encode fallback (.list items) = .ok text ↔
    ∃ texts, encodeAll fallback items = .ok texts ∧ encodeArray texts = text := by
  rw [encode, Except.bind_eq_ok_iff]
  simp [pure, Except.pure]

theorem encode_tuple (items : List Value) :
    encode fallback (.tuple items) = encode fallback (.list items) := by
  rw [encode, encode]

theorem encode_mapping_iff {entries : List (Value × Value)} :
    encode fallback (.mapping entries) = .ok text ↔
      ∃ texts, encodeEntries fallback entries = .ok texts ∧ encodeObject texts = text := by
  rw [encode, Except.bind_eq_ok_iff]
  simp [pure, Except.pure]

theorem encode_list_eq_error_iff {items : List Value} {e : Unwritable} :
    encode fallback (.list items) = .error e ↔ encodeAll fallback items = .error e := by
  rw [encode, Except.bind_eq_error_iff]
  simp [pure, Except.pure]

theorem encode_mapping_eq_error_iff {entries : List (Value × Value)} {e : Unwritable} :
    encode fallback (.mapping entries) = .error e ↔ encodeEntries fallback entries = .error e := by
  rw [encode, Except.bind_eq_error_iff]
  simp [pure, Except.pure]

theorem encodeAll_cons_iff {item : Value} {items : List Value} :
    encodeAll fallback (item :: items) = .ok texts ↔ ∃ text, encode fallback item = .ok text ∧
      ∃ rest, encodeAll fallback items = .ok rest ∧ text :: rest = texts := by
  simp [encodeAll, Except.bind_eq_ok_iff, pure, Except.pure]

theorem encodeEntries_cons_iff {key item : Value} {entries : List (Value × Value)} :
    encodeEntries fallback ((key, item) :: entries) = .ok texts ↔
      ∃ name, keyName key = .ok name ∧ ∃ text, encode fallback item = .ok text ∧
        ∃ rest, encodeEntries fallback entries = .ok rest ∧ encodeMember name text :: rest = texts := by
  simp [encodeEntries, Except.bind_eq_ok_iff, pure, Except.pure]

/-! ### What a text is read as -/

mutual

/-- The text of a value is read as what the value stands for. -/
theorem reads_encode : ∀ (v : Value) {text : String}, encode (some Value.display) v = .ok text →
    v.InFormat → ∀ (t : List Char), EndsNumeral t → Reads true (text.toList ++ t) (.value (data v)) t
  | .null, _, h, _, t, _ => by
    cases h
    exact .name .null
  | .bool true, _, h, _, t, _ => by
    cases h
    exact .name .ofTrue
  | .bool false, _, h, _, t, _ => by
    cases h
    exact .name .ofFalse
  | .int n, _, h, _, t, ht => by
    cases h
    exact reads_numeral (Decimal.isNumeral_toString n) ht
  | .float x, _, h, hformat, t, ht => by
    cases h
    exact reads_encodeFloat (hformat x (.refl _)) ht
  | .text s, _, h, _, t, _ => by
    cases h
    exact reads_encodeText s t
  | .member m, _, h, _, t, _ => by
    cases h
    exact reads_encodeText m.value t
  | .bytes b, _, h, _, t, _ => by
    simp only [encode, encodeFormless, Except.ok.injEq] at h
    subst h
    exact reads_encodeText _ t
  | .set items, _, h, _, t, _ => by
    simp only [encode, encodeFormless, Except.ok.injEq] at h
    subst h
    exact reads_encodeText _ t
  | .frozenset items, _, h, _, t, _ => by
    simp only [encode, encodeFormless, Except.ok.injEq] at h
    subst h
    exact reads_encodeText _ t
  | .list items, _, h, hformat, t, _ => by
    obtain ⟨texts, hitems, rfl⟩ := encode_list_iff.mp h
    exact reads_array items hitems (fun w hw x hx => hformat x (.part hw hx)) t
  | .tuple items, _, h, hformat, t, _ => by
    rw [encode_tuple] at h
    obtain ⟨texts, hitems, rfl⟩ := encode_list_iff.mp h
    exact reads_array items hitems (fun w hw x hx => hformat x (.part hw hx)) t
  | .mapping [], _, h, _, t, _ => by
    cases h
    exact .noMembers rfl
  | .mapping (entry :: entries), _, h, hformat, t, _ => by
    obtain ⟨texts, hentries, rfl⟩ := encode_mapping_iff.mp h
    have hmembers := reads_members (entry :: entries) hentries (by simp)
      (fun k w hw x hx => hformat x (.part (List.mem_map_of_mem hw) hx)) t
    simpa [data, toList_encodeObject] using Reads.object hmembers

theorem reads_array : ∀ (items : List Value) {texts : List String},
    encodeAll (some Value.display) items = .ok texts → (∀ v ∈ items, v.InFormat) → ∀ (t : List Char),
      Reads true ((encodeArray texts).toList ++ t) (.value (.array (dataOfItems items))) t
  | [], _, h, _, t => by
    cases h
    exact .noItems rfl
  | v :: items, texts, h, hformat, t => by
    have hitems := reads_items (v :: items) h (by simp) hformat t
    simpa [toList_encodeArray] using Reads.array hitems

theorem reads_items : ∀ (items : List Value) {texts : List String},
    encodeAll (some Value.display) items = .ok texts → items ≠ [] → (∀ v ∈ items, v.InFormat) →
    ∀ (t : List Char), Reads true ((Value.commaSeparated texts).toList ++ ']' :: t)
      (.items (dataOfItems items)) t
  | [], _, _, hne, _, _ => absurd rfl hne
  | [v], _, h, _, hformat, t => by
    obtain ⟨text, htext, _, ⟨⟩, rfl⟩ := encodeAll_cons_iff.mp h
    have hitem := reads_encode v htext (hformat v (by simp)) (']' :: t)
      (endsNumeral_cons (by decide) t)
    exact .lastItem (hitem.skip_eq.symm ▸ hitem) rfl
  | v :: w :: items, _, h, _, hformat, t => by
    obtain ⟨text, htext, rest, hrest, rfl⟩ := encodeAll_cons_iff.mp h
    have hne : rest ≠ [] := by
      obtain ⟨_, _, _, _, rfl⟩ := encodeAll_cons_iff.mp hrest
      exact List.cons_ne_nil _ _
    have hitems := reads_items (w :: items) hrest (by simp) (fun x hx => hformat x (by simp [hx])) t
    have hitem := reads_encode v htext (hformat v (by simp)) _ (endsNumeral_cons (c := ',') (by decide)
      (' ' :: ((Value.commaSeparated rest).toList ++ ']' :: t)))
    rw [toList_commaSeparated_cons text hne, List.append_assoc]
    exact .item (hitem.skip_eq.symm ▸ hitem) rfl hitems.items_blank

theorem reads_members : ∀ (entries : List (Value × Value)) {texts : List String},
    encodeEntries (some Value.display) entries = .ok texts → entries ≠ [] →
    (∀ key v, (key, v) ∈ entries → v.InFormat) → ∀ (t : List Char),
      Reads true ((Value.commaSeparated texts).toList ++ '\x7d' :: t)
        (.members (dataOfEntries entries)) t
  | [], _, _, hne, _, _ => absurd rfl hne
  | [(key, v)], _, h, _, hformat, t => by
    obtain ⟨name, hname, text, htext, _, ⟨⟩, rfl⟩ := encodeEntries_cons_iff.mp h
    have hvalue := reads_encode v htext (hformat key v (by simp)) ('\x7d' :: t)
      (endsNumeral_cons (by decide) t)
    rw [dataOfEntries, nameOf_eq hname]
    exact .lastMember hvalue.member_encode rfl
  | (key, v) :: entry :: entries, _, h, _, hformat, t => by
    obtain ⟨name, hname, text, htext, rest, hrest, rfl⟩ := encodeEntries_cons_iff.mp h
    have hne : rest ≠ [] := by
      obtain ⟨_, _, _, _, _, _, rfl⟩ := encodeEntries_cons_iff.mp hrest
      exact List.cons_ne_nil _ _
    have hmembers := reads_members (entry :: entries) hrest (by simp)
      (fun k x hx => hformat k x (by simp [hx])) t
    have hvalue := reads_encode v htext (hformat key v (by simp)) _
      (endsNumeral_cons (c := ',') (by decide)
        (' ' :: ((Value.commaSeparated rest).toList ++ '\x7d' :: t)))
    rw [dataOfEntries, nameOf_eq hname, toList_commaSeparated_cons _ hne, List.append_assoc]
    exact .members hvalue.member_encode rfl hmembers.members_blank

end

theorem denotes_encode {v : Value} (h : encode (some Value.display) v = .ok text) (hv : v.InFormat) :
    Denotes true text (data v) := by
  have hread := reads_encode v h hv [] (by simp [EndsNumeral])
  rw [List.append_nil] at hread
  exact ⟨[], by rwa [hread.skip_eq], rfl⟩

/-! ## Values that have a text -/

/-- What encoding asks of a value: names, and forms where nothing makes texts of what has none. -/
def Encodable (fallback : Option (Value → String)) (v : Value) : Prop :=
  ∀ w, Value.Within w v →
    (fallback = none → w.isFormless = false) ∧ ∀ key ∈ w.keys, key.isName = true

theorem encodable_iff {v : Value} : Encodable fallback v ↔
    ((fallback = none → v.isFormless = false) ∧ ∀ key ∈ v.keys, key.isName = true) ∧
      ∀ part ∈ v.parts, Encodable fallback part :=
  Value.forall_within_iff

mutual

theorem exists_encode_iff : ∀ (v : Value), (∃ text, encode fallback v = .ok text) ↔ Encodable fallback v
  | .null | .bool _ | .int _ | .float _ | .text _ | .member _ => by
    rw [encodable_iff]
    simp [encode, Value.isFormless, Value.parts, Value.keys]
  | .bytes _ | .set _ | .frozenset _ => by
    rw [encodable_iff]
    cases fallback <;> simp [encode, encodeFormless, Value.isFormless, Value.parts, Value.keys]
  | .list items => by
    rw [encodable_iff]
    simpa [encode_list_iff, Value.isFormless, Value.parts, Value.keys] using exists_encodeAll_iff items
  | .tuple items => by
    rw [encodable_iff, encode_tuple]
    simpa [encode_list_iff, Value.isFormless, Value.parts, Value.keys] using exists_encodeAll_iff items
  | .mapping entries => by
    rw [encodable_iff]
    simpa [encode_mapping_iff, Value.isFormless, Value.parts, Value.keys] using
      exists_encodeEntries_iff entries

theorem exists_encodeAll_iff : ∀ (items : List Value),
    (∃ texts, encodeAll fallback items = .ok texts) ↔ ∀ item ∈ items, Encodable fallback item
  | [] => by simp [encodeAll]
  | item :: items => by
    rw [List.forall_mem_cons, ← exists_encode_iff item, ← exists_encodeAll_iff items]
    simp only [encodeAll_cons_iff]
    constructor
    · rintro ⟨_, text, htext, rest, hrest, rfl⟩
      exact ⟨⟨text, htext⟩, rest, hrest⟩
    · rintro ⟨⟨text, htext⟩, rest, hrest⟩
      exact ⟨_, text, htext, rest, hrest, rfl⟩

theorem exists_encodeEntries_iff : ∀ (entries : List (Value × Value)),
    (∃ texts, encodeEntries fallback entries = .ok texts) ↔
      (∀ key ∈ entries.map Prod.fst, key.isName = true) ∧
        ∀ item ∈ entries.map Prod.snd, Encodable fallback item
  | [] => by simp [encodeEntries]
  | (key, item) :: entries => by
    have hrest := exists_encodeEntries_iff entries
    rw [List.map_cons, List.map_cons, List.forall_mem_cons, List.forall_mem_cons,
      ← exists_encode_iff item, ← exists_keyName_iff, and_and_and_comm, ← hrest]
    simp only [encodeEntries_cons_iff]
    constructor
    · rintro ⟨_, name, hname, text, htext, rest, hrest, rfl⟩
      exact ⟨⟨⟨name, hname⟩, text, htext⟩, rest, hrest⟩
    · rintro ⟨⟨⟨name, hname⟩, text, htext⟩, rest, hrest⟩
      exact ⟨_, name, hname, text, htext, rest, hrest, rfl⟩

end

/-- What is accepted is what has a form all through. -/
theorem exists_encode_none_iff {v : Value} : (∃ text, encode none v = .ok text) ↔ v.HasForm := by
  rw [exists_encode_iff]
  simp [Encodable, Value.HasForm]

theorem exists_encode_some_iff {v : Value} {f : Value → String} :
    (∃ text, encode (some f) v = .ok text) ↔ v.HasNames := by
  rw [exists_encode_iff]
  simp [Encodable, Value.HasNames]

mutual

/-- Where every value is given a text, what is refused is a key that is no name. -/
theorem key_of_encode_eq_error {f : Value → String} {e : Unwritable} : ∀ (v : Value),
    encode (some f) v = .error e → ∃ w, Value.Within w v ∧ ∃ key ∈ w.keys,
      key.isName = false ∧ e = .key key.kindName
  | .null, h | .bool _, h | .int _, h | .float _, h | .text _, h | .member _, h | .bytes _, h |
    .set _, h | .frozenset _, h => by
    simp [encode, encodeFormless] at h
  | .list items, h => by
    obtain ⟨item, hitem, w, hw, hkey⟩ :=
      key_of_encodeAll_eq_error items (encode_list_eq_error_iff.mp h)
    exact ⟨w, .part hitem hw, hkey⟩
  | .tuple items, h => by
    rw [encode_tuple] at h
    obtain ⟨item, hitem, w, hw, hkey⟩ :=
      key_of_encodeAll_eq_error items (encode_list_eq_error_iff.mp h)
    exact ⟨w, .part hitem hw, hkey⟩
  | .mapping entries, h => by
    rcases key_of_encodeEntries_eq_error entries (encode_mapping_eq_error_iff.mp h) with
      hkey | ⟨item, hitem, w, hw, hkey⟩
    · exact ⟨_, .refl _, hkey⟩
    · exact ⟨w, .part hitem hw, hkey⟩

theorem key_of_encodeAll_eq_error {f : Value → String} {e : Unwritable} : ∀ (items : List Value),
    encodeAll (some f) items = .error e → ∃ item ∈ items, ∃ w, Value.Within w item ∧
      ∃ key ∈ w.keys, key.isName = false ∧ e = .key key.kindName
  | [], h => by simp [encodeAll] at h
  | item :: items, h => by
    simp only [encodeAll, Except.bind_eq_error_iff] at h
    rcases h with h | ⟨_, -, h | ⟨_, -, h⟩⟩
    · exact ⟨item, List.mem_cons_self, key_of_encode_eq_error item h⟩
    · obtain ⟨other, hother, hkey⟩ := key_of_encodeAll_eq_error items h
      exact ⟨other, List.mem_cons_of_mem _ hother, hkey⟩
    · cases h

theorem key_of_encodeEntries_eq_error {f : Value → String} {e : Unwritable} :
    ∀ (entries : List (Value × Value)), encodeEntries (some f) entries = .error e →
      (∃ key ∈ entries.map Prod.fst, key.isName = false ∧ e = .key key.kindName) ∨
        ∃ item ∈ entries.map Prod.snd, ∃ w, Value.Within w item ∧
          ∃ key ∈ w.keys, key.isName = false ∧ e = .key key.kindName
  | [], h => by simp [encodeEntries] at h
  | (key, item) :: entries, h => by
    simp only [encodeEntries, Except.bind_eq_error_iff] at h
    rcases h with h | ⟨_, -, h | ⟨_, -, h | ⟨_, -, h⟩⟩⟩
    · exact .inl ⟨key, List.mem_cons_self, keyName_eq_error h⟩
    · exact .inr ⟨item, List.mem_cons_self, key_of_encode_eq_error item h⟩
    · exact (key_of_encodeEntries_eq_error entries h).imp
        (fun ⟨k, hk, hkey⟩ => ⟨k, List.mem_cons_of_mem _ hk, hkey⟩)
        (fun ⟨other, hother, hkey⟩ => ⟨other, List.mem_cons_of_mem _ hother, hkey⟩)
    · cases h

end

/-! ## Finite numbers -/

theorem isPlain_dataOfFloat (x : Binary64) : (dataOfFloat x).isPlain = x.isFinite := by
  cases x <;> simp [dataOfFloat, Data.isPlain, Binary64.isFinite]

mutual

/-- A word for a number stands in the text of a value where a number in it is not finite. -/
theorem isPlain_data_iff : ∀ (v : Value), (data v).isPlain = true ↔ v.IsFinite
  | .null | .bool _ | .int _ | .text _ | .member _ | .bytes _ | .set _ | .frozenset _ => by
    rw [Value.IsFinite, Value.eachNumber_iff]
    simp [data, Data.isPlain, Value.parts]
  | .float x => by
    rw [Value.IsFinite, Value.eachNumber_iff]
    simp [data, isPlain_dataOfFloat, Value.parts]
  | .list items | .tuple items => by
    rw [Value.IsFinite, Value.eachNumber_iff]
    simpa [data, Data.isPlain, Value.parts] using allPlain_dataOfItems_iff items
  | .mapping entries => by
    rw [Value.IsFinite, Value.eachNumber_iff]
    simpa [data, Data.isPlain, Value.parts] using membersPlain_dataOfEntries_iff entries

theorem allPlain_dataOfItems_iff : ∀ (items : List Value),
    allPlain (dataOfItems items) = true ↔ ∀ item ∈ items, item.IsFinite
  | [] => by simp [dataOfItems, allPlain]
  | item :: items => by
    simp only [dataOfItems, allPlain, Bool.and_eq_true, List.forall_mem_cons]
    rw [isPlain_data_iff item, allPlain_dataOfItems_iff items]

theorem membersPlain_dataOfEntries_iff : ∀ (entries : List (Value × Value)),
    membersPlain (dataOfEntries entries) = true ↔ ∀ item ∈ entries.map Prod.snd, item.IsFinite
  | [] => by simp [dataOfEntries, membersPlain]
  | (_, item) :: entries => by
    simp only [dataOfEntries, membersPlain, Bool.and_eq_true, List.map_cons, List.forall_mem_cons]
    rw [isPlain_data_iff item, membersPlain_dataOfEntries_iff entries]

end

/-- The text of a value is one of the standard exactly if all numbers in the value are finite. -/
theorem isJson_encode_iff {v : Value} (h : encode (some Value.display) v = .ok text)
    (hv : v.InFormat) : IsJson text ↔ v.IsFinite := by
  rw [isJson_iff_isPlain (denotes_encode h hv), isPlain_data_iff]

/-! ## Control characters -/

def Uncontrolled (text : List Char) : Prop := ∀ c ∈ text, 0x20 ≤ c.toNat

namespace Uncontrolled

variable {front back : List Char}

theorem append (h : Uncontrolled front) (hback : Uncontrolled back) : Uncontrolled (front ++ back) :=
  List.forall_mem_append.mpr ⟨h, hback⟩

theorem commaSeparated {texts : List String} (h : ∀ text ∈ texts, Uncontrolled text.toList) :
    Uncontrolled (Value.commaSeparated texts).toList := by
  induction texts with
  | nil => simp [Value.commaSeparated, Uncontrolled]
  | cons first rest ih =>
    obtain ⟨hfirst, hrest⟩ := List.forall_mem_cons.mp h
    cases rest with
    | nil => simpa [Value.commaSeparated] using hfirst
    | cons second rest =>
      have hcomma : Uncontrolled [',', ' '] := by simp [Uncontrolled]
      rw [toList_commaSeparated_cons first (List.cons_ne_nil second rest)]
      exact hfirst.append (hcomma.append (ih hrest))

end Uncontrolled

theorem uncontrolled_of_isNumeralSign {text : List Char}
    (h : ∀ c ∈ text, Decimal.isNumeralSign c = true) : Uncontrolled text := by
  intro c hc
  have hsign := h c hc
  simp only [Decimal.isNumeralSign, Bool.or_eq_true, List.contains_iff_mem] at hsign
  rcases hsign with hdigit | hmark
  · exact le_trans (by decide) (Char.isDigit_iff_toNat.mp hdigit).1
  · have hmarks : ∀ x ∈ ['-', '+', '.', 'e', 'E'], 0x20 ≤ x.toNat := by simp
    exact hmarks c hmark

theorem uncontrolled_escapeChar (c : Char) : Uncontrolled (escapeChar c) := by
  unfold escapeChar
  split
  next letter hletter =>
    unfold shortEscape at hletter
    split_ifs at hletter <;> cases hletter <;> simp [Uncontrolled]
  next =>
    split
    · have hdigit : ∀ n < 16, 0x20 ≤ (Text.hexDigit n).toNat := by decide
      have hnumber : ∀ n, 0x20 ≤ (Text.hexDigit (n % 16)).toNat :=
        fun n => hdigit _ (Nat.mod_lt n (by decide))
      simp [Uncontrolled, Text.hexDigits, hnumber]
    next hcontrol => simpa [Uncontrolled] using hcontrol

theorem uncontrolled_encodeText (s : String) : Uncontrolled (encodeText s).toList := by
  have hquote : Uncontrolled ['"'] := by simp [Uncontrolled]
  have hinside : Uncontrolled (s.toList.flatMap escapeChar) := by
    intro c hc
    obtain ⟨x, -, hx⟩ := List.mem_flatMap.mp hc
    exact uncontrolled_escapeChar x c hx
  rw [toList_encodeText]
  exact hquote.append (hinside.append hquote)

theorem uncontrolled_encodeFloat (x : Binary64) : Uncontrolled (encodeFloat x).toList := by
  cases x with
  | nan => simp [Uncontrolled, encodeFloat]
  | infinite negative => cases negative <;> simp [Uncontrolled, encodeFloat]
  | finite negative mantissa exponent =>
    have hsigns := Binary64.isNumeralSign_textChars (x := .finite negative mantissa exponent) rfl
    simpa [encodeFloat, Binary64.text] using uncontrolled_of_isNumeralSign hsigns

theorem uncontrolled_encodeFormless {v : Value} (h : encodeFormless fallback v = .ok text) :
    Uncontrolled text.toList := by
  cases fallback with
  | none => cases h
  | some f =>
    cases h
    exact uncontrolled_encodeText _

mutual

/-- Neither keys nor values bring a control character into a text, at any depth. -/
theorem uncontrolled_encode : ∀ (v : Value) {text : String}, encode fallback v = .ok text →
    Uncontrolled text.toList
  | .null, _, h => by
    cases h
    simp [Uncontrolled]
  | .bool true, _, h => by
    cases h
    simp [Uncontrolled]
  | .bool false, _, h => by
    cases h
    simp [Uncontrolled]
  | .int n, _, h => by
    cases h
    exact uncontrolled_of_isNumeralSign (Decimal.isNumeral_toString n).isNumeralSign
  | .float x, _, h => by
    cases h
    exact uncontrolled_encodeFloat x
  | .text s, _, h => by
    cases h
    exact uncontrolled_encodeText s
  | .member m, _, h => by
    cases h
    exact uncontrolled_encodeText m.value
  | .bytes b, _, h => uncontrolled_encodeFormless h
  | .set items, _, h => uncontrolled_encodeFormless h
  | .frozenset items, _, h => uncontrolled_encodeFormless h
  | .list items, _, h => by
    obtain ⟨texts, hitems, rfl⟩ := encode_list_iff.mp h
    exact uncontrolled_encodeArray items hitems
  | .tuple items, _, h => by
    rw [encode_tuple] at h
    obtain ⟨texts, hitems, rfl⟩ := encode_list_iff.mp h
    exact uncontrolled_encodeArray items hitems
  | .mapping entries, _, h => by
    obtain ⟨texts, hentries, rfl⟩ := encode_mapping_iff.mp h
    have hmembers := Uncontrolled.commaSeparated (uncontrolled_encodeEntries entries hentries)
    have hbraces : Uncontrolled ['\x7b'] ∧ Uncontrolled ['\x7d'] := by simp [Uncontrolled]
    rw [toList_encodeObject]
    exact hbraces.1.append (hmembers.append hbraces.2)

theorem uncontrolled_encodeArray : ∀ (items : List Value) {texts : List String},
    encodeAll fallback items = .ok texts → Uncontrolled (encodeArray texts).toList
  | items, texts, h => by
    have hitems := Uncontrolled.commaSeparated (uncontrolled_encodeAll items h)
    have hbrackets : Uncontrolled ['['] ∧ Uncontrolled [']'] := by simp [Uncontrolled]
    rw [toList_encodeArray]
    exact hbrackets.1.append (hitems.append hbrackets.2)

theorem uncontrolled_encodeAll : ∀ (items : List Value) {texts : List String},
    encodeAll fallback items = .ok texts → ∀ text ∈ texts, Uncontrolled text.toList
  | [], _, h => by
    cases h
    exact List.forall_mem_nil _
  | item :: items, _, h => by
    obtain ⟨text, htext, rest, hrest, rfl⟩ := encodeAll_cons_iff.mp h
    exact List.forall_mem_cons.mpr
      ⟨uncontrolled_encode item htext, uncontrolled_encodeAll items hrest⟩

theorem uncontrolled_encodeEntries : ∀ (entries : List (Value × Value)) {texts : List String},
    encodeEntries fallback entries = .ok texts → ∀ text ∈ texts, Uncontrolled text.toList
  | [], _, h => by
    cases h
    exact List.forall_mem_nil _
  | (key, item) :: entries, _, h => by
    obtain ⟨name, -, text, htext, rest, hrest, rfl⟩ := encodeEntries_cons_iff.mp h
    have hcolon : Uncontrolled [':', ' '] := by simp [Uncontrolled]
    have hmember := (uncontrolled_encodeText name).append
      (hcolon.append (uncontrolled_encode item htext))
    have hmemberText : (encodeMember name text).toList =
        (encodeText name).toList ++ ([':', ' '] ++ text.toList) := by simp [encodeMember]
    exact List.forall_mem_cons.mpr ⟨hmemberText ▸ hmember, uncontrolled_encodeEntries entries hrest⟩

end

end Json

end ObjectCatalog
