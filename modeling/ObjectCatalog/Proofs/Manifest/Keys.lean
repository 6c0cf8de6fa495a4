import ObjectCatalog.Proofs.Manifest.Nearest
import ObjectCatalog.Proofs.Text.Pieces
import ObjectCatalog.Proofs.Text.Utf8
import ObjectCatalog.Proofs.Toml.Readers

/-! # What a manifest says

A key leads from the root table of a manifest through one table after another. A lookup gives what
the key leads to in the nearest manifest, and the fallback wherever that says nothing for the key:
where there is no manifest, where it cannot be opened or is no TOML, and where the key leads
nowhere. Only bytes that are no text and numbers that are too long are reported. Arrays and tables
are read however deep they lie inside one another, and dates and times are values by their texts.
-/
namespace ObjectCatalog.Manifest

variable {key : String} {parts : List String} {root v w : Value}

/-! ## Keys -/

structure KeyParts (key : String) (parts : List String) : Prop where
  ne_nil : parts ≠ []
  undotted : ∀ part ∈ parts, '.' ∉ part.toList
  joined : ".".intercalate parts = key

theorem splitString_eq_iff : Text.splitString '.' key = parts ↔ KeyParts key parts := by
  have hchars : Text.splitString '.' key = parts ↔
      Text.split '.' key.toList = parts.map String.toList := by
    unfold Text.splitString
    constructor
    · rintro rfl
      simp
    · intro h
      rw [h]
      simp
  rw [hchars, Text.split_eq_iff]
  constructor
  · rintro ⟨hnil, hpieces, hjoined⟩
    refine ⟨by simpa using hnil, fun part hpart => hpieces _ (List.mem_map_of_mem hpart), ?_⟩
    exact String.toList_injective (String.toList_intercalate.trans hjoined)
  · rintro ⟨hnil, hparts, hjoined⟩
    refine ⟨by simpa using hnil, ?_, ?_⟩
    · simpa using hparts
    · rw [← hjoined, String.toList_intercalate]
      rfl

inductive Leads : List String → Value → Value → Prop
  | here (v : Value) : Leads [] v v
  | into {part : String} {rest : List String} {entries : List (Value × Value)} {inner v : Value}
    (hentry : Value.entry? entries part = some inner) (h : Leads rest inner v) :
    Leads (part :: rest) (.mapping entries) v

theorem follow_eq_some_iff : follow parts root = some v ↔ Leads parts root v := by
  constructor
  · intro h
    induction parts generalizing root with
    | nil =>
      cases h
      exact .here _
    | cons part rest ih =>
      cases root with
      | mapping entries =>
        obtain ⟨inner, hentry, hrest⟩ := Option.bind_eq_some_iff.mp h
        exact .into hentry (ih hrest)
      | _ => cases h
  · intro h
    induction h with
    | here v => rfl
    | into hentry _ ih => exact Option.bind_eq_some_iff.mpr ⟨_, hentry, ih⟩

theorem lookUp?_eq_some_iff :
    lookUp? key root = some v ↔ key ≠ "" ∧ ∃ parts, KeyParts key parts ∧ Leads parts root v := by
  have hparts : (∃ parts, KeyParts key parts ∧ Leads parts root v) ↔
      follow (Text.splitString '.' key) root = some v := by
    simp only [← splitString_eq_iff, exists_eq_left', follow_eq_some_iff]
  rw [hparts]
  by_cases hkey : key = "" <;> simp [lookUp?, hkey]

/-! ## Reading -/

variable {tree : FileTree} {path : PathName} {bytes : List UInt8}

theorem readBytes_encoding_iff :
    (∃ e, Toml.readBytes bytes = .error (.encoding e)) ↔ ¬ Text.IsUtf8 bytes := by
  rw [Text.isUtf8_iff]
  cases hdecode : Text.decodeUtf8 bytes with
  | error e =>
    have hread : Toml.readBytes bytes = .error (.encoding e) := by
      rw [Toml.readBytes, hdecode]
      rfl
    simp [hread]
  | ok text =>
    have hread : Toml.readBytes bytes = Toml.readText text := by
      rw [Toml.readBytes, hdecode]
      rfl
    have hnot (e : Text.Utf8Error) : Toml.readText text ≠ .error (.encoding e) := by
      unfold Toml.readText
      simp only
      split
      · nofun
      · unfold Toml.ReadError.ofFault
        split <;> nofun
    simp [hread, hnot]

/-- Can these bytes be looked at? Then they are a text, in which no number is too long to be read.
-/
structure Legible (bytes : List UInt8) : Prop where
  isUtf8 : Text.IsUtf8 bytes
  inLimits : ∀ count, Toml.readBytes bytes ≠ .error (.tooManyDigits count)

theorem exists_tooManyDigits (hutf8 : Text.IsUtf8 bytes) (h : ¬ Legible bytes) :
    ∃ count, Toml.readBytes bytes = .error (.tooManyDigits count) := by
  by_contra hnone
  exact h ⟨hutf8, not_exists.mp hnone⟩

/-- Bytes that are not legible are no text, or a text with too many digits in a row. -/
theorem not_isUtf8_or_hasLong (h : ¬ Legible bytes) : ¬ Text.IsUtf8 bytes ∨
    ∃ text count, bytes = text.flatMap String.utf8EncodeChar ∧ Toml.HasLong count text := by
  by_cases hutf8 : Text.IsUtf8 bytes
  · obtain ⟨text, htext⟩ := hutf8
    have hread : Toml.readBytes bytes = Toml.readText text := by
      rw [Toml.readBytes, Text.decodeUtf8_eq_ok_iff.mpr htext]
      rfl
    obtain ⟨count, hcount⟩ := exists_tooManyDigits ⟨text, htext⟩ h
    exact .inr ⟨text, count, htext, Toml.hasLong_of_readText (hread.symm.trans hcount)⟩
  · exact .inl hutf8

theorem loadIfSound_of_file (hfile : tree path = some (.file bytes)) (hlegible : Legible bytes) :
    loadIfSound tree path = .ok (Toml.readBytes bytes).toOption := by
  have hload : load tree path = (Toml.readBytes bytes).mapError .content := by
    rw [load, hfile]
  unfold loadIfSound
  rw [hload]
  match hread : Toml.readBytes bytes with
  | .ok root => rfl
  | .error (.malformed message) => rfl
  | .error (.encoding e) => exact absurd hlegible.isUtf8 (readBytes_encoding_iff.mp ⟨e, hread⟩)
  | .error (.tooManyDigits count) => exact absurd hread (hlegible.inLimits count)

theorem loadIfSound_of_not_legible (hfile : tree path = some (.file bytes))
    (hlegible : ¬ Legible bytes) : ∃ e, loadIfSound tree path = .error e := by
  have hload : load tree path = (Toml.readBytes bytes).mapError .content := by
    rw [load, hfile]
  unfold loadIfSound
  rw [hload]
  by_cases hutf8 : Text.IsUtf8 bytes
  · obtain ⟨count, hread⟩ := exists_tooManyDigits hutf8 hlegible
    exact ⟨.tooManyDigits count, by rw [hread]; rfl⟩
  · obtain ⟨e, hread⟩ := readBytes_encoding_iff.mpr hutf8
    exact ⟨.encoding e, by rw [hread]; rfl⟩

theorem loadIfSound_of_no_file (hfile : ∀ bytes, tree path ≠ some (.file bytes)) :
    loadIfSound tree path = .ok none := by
  unfold loadIfSound load
  cases hentry : tree path with
  | none => rfl
  | some entry =>
    cases entry with
    | file bytes => exact absurd hentry (hfile bytes)
    | locked => rfl
    | directory => rfl

/-! ## Lookups -/

namespace Search

variable {s : Search} {fallback : Value}

/-- The nearest manifest within the limit is a file with these bytes. -/
def Finds (s : Search) (bytes : List UInt8) : Prop :=
  ∃ d p, s.Reaches d p ∧ s.tree (p.child fileName) = some (.file bytes)

theorem finds_iff :
    s.Finds bytes ↔ ∃ path, s.find = some path ∧ s.tree path = some (.file bytes) := by
  constructor
  · rintro ⟨d, p, hreaches, hfile⟩
    have hp : s.HasManifest p := by
      unfold HasManifest
      rw [hfile]
      rfl
    exact ⟨_, (s.find_eq_some_iff _).mpr ⟨d, p, hreaches, hp, rfl⟩, hfile⟩
  · rintro ⟨path, hfind, hfile⟩
    obtain ⟨d, p, hreaches, -, rfl⟩ := (s.find_eq_some_iff path).mp hfind
    exact ⟨d, p, hreaches, hfile⟩

/-- The manifest that is found has this value for a key. The empty key has none. -/
def States (s : Search) (key : String) (v : Value) : Prop :=
  key ≠ "" ∧ ∃ bytes root parts, s.Finds bytes ∧ Toml.readBytes bytes = .ok root ∧
    KeyParts key parts ∧ Leads parts root v

/-- The value of a key in the manifest that is found, or the fallback where it has none. -/
def Answers (s : Search) (key : String) (fallback v : Value) : Prop :=
  s.States key v ∨ (∀ w, ¬ s.States key w) ∧ v = fallback

def Readable (s : Search) : Prop := ∀ bytes, s.Finds bytes → Legible bytes

theorem states_iff_of_find {path : PathName} (hfind : s.find = some path) :
    s.States key v ↔ ∃ bytes root, s.tree path = some (.file bytes) ∧
      Toml.readBytes bytes = .ok root ∧ lookUp? key root = some v := by
  have hfinds (bytes : List UInt8) : s.Finds bytes ↔ s.tree path = some (.file bytes) := by
    simp [finds_iff, hfind]
  simp only [States, hfinds, lookUp?_eq_some_iff]
  constructor
  · rintro ⟨hkey, bytes, root, parts, hfile, hread, hparts, hleads⟩
    exact ⟨bytes, root, hfile, hread, hkey, parts, hparts, hleads⟩
  · rintro ⟨bytes, root, hfile, hread, hkey, parts, hparts, hleads⟩
    exact ⟨hkey, bytes, root, parts, hfile, hread, hparts, hleads⟩

theorem not_states_of_find_eq_none (hfind : s.find = none) : ¬ s.States key v := by
  rintro ⟨-, bytes, root, parts, hfinds, -⟩
  obtain ⟨path, hsome, -⟩ := finds_iff.mp hfinds
  rw [hfind] at hsome
  cases hsome

theorem value?_of_find {path : PathName} (hfind : s.find = some path) (hkey : key ≠ "") :
    s.value? key = (do return (← loadIfSound s.tree path).bind (lookUp? key)) := by
  rw [value?, hfind]
  exact if_neg (by simpa using hkey)

theorem value?_of_readable (hreadable : key ≠ "" → s.Readable) :
    ∃ found, s.value? key = .ok found ∧ ∀ v, found = some v ↔ s.States key v := by
  cases hfind : s.find with
  | none =>
    refine ⟨none, by rw [value?, hfind], fun v => ?_⟩
    simp [not_states_of_find_eq_none hfind]
  | some path =>
    by_cases hkey : key = ""
    · subst hkey
      refine ⟨none, by rw [value?, hfind]; rfl, fun v => ?_⟩
      simp [States]
    · rw [value?_of_find hfind hkey]
      by_cases hfile : ∃ bytes, s.tree path = some (.file bytes)
      · obtain ⟨bytes, hfile⟩ := hfile
        have hlegible := hreadable hkey bytes (finds_iff.mpr ⟨path, hfind, hfile⟩)
        refine ⟨_, by rw [loadIfSound_of_file hfile hlegible]; rfl, fun v => ?_⟩
        rw [states_iff_of_find hfind]
        cases hread : Toml.readBytes bytes <;> simp [Except.toOption, hfile, hread]
      · have hno := not_exists.mp hfile
        refine ⟨none, by rw [loadIfSound_of_no_file hno]; rfl, fun v => ?_⟩
        simp [states_iff_of_find hfind, hno]

theorem value?_of_not_readable (hkey : key ≠ "") (h : ¬ s.Readable) : ∃ e, s.value? key = .error e := by
  obtain ⟨bytes, hfinds, hlegible⟩ : ∃ bytes, s.Finds bytes ∧ ¬ Legible bytes := by
    simpa [Readable] using h
  obtain ⟨path, hfind, hfile⟩ := finds_iff.mp hfinds
  obtain ⟨e, hload⟩ := loadIfSound_of_not_legible hfile hlegible
  refine ⟨e, ?_⟩
  rw [value?_of_find hfind hkey, hload]
  rfl

theorem value_eq_ok_iff :
    s.value key fallback = .ok v ↔ (key ≠ "" → s.Readable) ∧ s.Answers key fallback v := by
  by_cases hreadable : key ≠ "" → s.Readable
  · obtain ⟨found, hvalue, hfound⟩ := value?_of_readable hreadable
    have hok : s.value key fallback = .ok (found.getD fallback) := by
      rw [value, hvalue]
      rfl
    rw [hok, Except.ok.injEq, and_iff_right hreadable, Answers]
    simp only [← hfound]
    cases found <;> simp [eq_comm]
  · obtain ⟨hkey, hnot⟩ := Classical.not_imp.mp hreadable
    obtain ⟨e, hvalue⟩ := value?_of_not_readable hkey hnot
    have herror : s.value key fallback = .error e := by
      rw [value, hvalue]
      rfl
    simp [herror, hreadable]

theorem eq_of_states (hvalue : s.value key fallback = .ok v) (hstates : s.States key w) : w = v := by
  have hanswer : s.value key fallback = .ok w :=
    value_eq_ok_iff.mpr ⟨(value_eq_ok_iff.mp hvalue).1, .inl hstates⟩
  rw [hvalue] at hanswer
  cases hanswer
  rfl

theorem states_of_value (hvalue : s.value key fallback = .ok v) (hv : v ≠ fallback) : s.States key v :=
  (value_eq_ok_iff.mp hvalue).2.resolve_right fun h => hv h.2

/-- Some value is always the answer. -/
theorem exists_answers (s : Search) (key : String) (fallback : Value) :
    ∃ v, s.Answers key fallback v := by
  by_cases hstates : ∃ v, s.States key v
  · obtain ⟨v, hv⟩ := hstates
    exact ⟨v, .inl hv⟩
  · exact ⟨fallback, .inr ⟨not_exists.mp hstates, rfl⟩⟩

theorem not_readable_of_error {e : Unreadable} (hvalue : s.value key fallback = .error e) :
    ¬ s.Readable := by
  intro hreadable
  obtain ⟨v, hv⟩ := exists_answers s key fallback
  have hok : s.value key fallback = .ok v := value_eq_ok_iff.mpr ⟨fun _ => hreadable, hv⟩
  rw [hvalue] at hok
  cases hok

/-- A lookup ends with the value of the key in the nearest manifest, or with the fallback, exactly
if the key is empty or what is found is legible. Otherwise it ends with an error, and what is
found is no text, or has too many digits in a row. Reading has no limit of depth, and a look at a
place does not fail. -/
theorem lookup_answers_iff (s : Search) (key : String) (fallback : Value) :
    ((∃ v, s.value key fallback = .ok v ∧ s.Answers key fallback v) ↔ (key ≠ "" → s.Readable)) ∧
      (∀ v, s.value key fallback = .ok v → s.Answers key fallback v) ∧
      ∀ e, s.value key fallback = .error e → ∃ bytes, s.Finds bytes ∧ (¬ Text.IsUtf8 bytes ∨
        ∃ text count, bytes = text.flatMap String.utf8EncodeChar ∧ Toml.HasLong count text) := by
  refine ⟨?_, fun v hvalue => (value_eq_ok_iff.mp hvalue).2, fun e hvalue => ?_⟩
  · constructor
    · rintro ⟨v, hvalue, -⟩
      exact (value_eq_ok_iff.mp hvalue).1
    · intro hreadable
      obtain ⟨v, hv⟩ := exists_answers s key fallback
      exact ⟨v, value_eq_ok_iff.mpr ⟨hreadable, hv⟩, hv⟩
  · obtain ⟨bytes, hfinds, hlegible⟩ : ∃ bytes, s.Finds bytes ∧ ¬ Legible bytes := by
      simpa [Readable] using not_readable_of_error hvalue
    exact ⟨bytes, hfinds, not_isUtf8_or_hasLong hlegible⟩

def holding (bytes : List UInt8) : Search :=
  ⟨.ofEntries [(⟨"/", [fileName]⟩, bytes)] [], ⟨"/", ["srv"]⟩, 5⟩

def versioned : List Char :=
  ['[', 'p', 'r', 'o', 'j', 'e', 'c', 't', ']', '\n', 'v', 'e', 'r', 's', 'i', 'o', 'n', ' ', '=', ' ',
    '"', '1', '.', '2', '"']

theorem lookup_answers_versioned :
    (holding (versioned.flatMap String.utf8EncodeChar)).value "project.version" .null =
        .ok (.text "1.2") ∧
      (holding (versioned.flatMap String.utf8EncodeChar)).Answers "project.version" .null
        (.text "1.2") := by
  have hvalue : (holding (versioned.flatMap String.utf8EncodeChar)).value "project.version" .null =
    .ok (.text "1.2") := rfl
  exact ⟨hvalue, (lookup_answers_iff _ _ _).2.1 _ hvalue⟩

/-- No text begins with the byte `0xff`. The answer would be the fallback, but there is an error. -/
theorem undecodable_manifest_reported :
    (holding [0xff]).value "project.name" .null = .error (.encoding ⟨.invalidStart, 0xff, 0, 1⟩) ∧
      (holding [0xff]).Answers "project.name" .null .null ∧
      ¬ ∃ v, (holding [0xff]).value "project.name" .null = .ok v ∧
        (holding [0xff]).Answers "project.name" .null v := by
  have hvalue : (holding [0xff]).value "project.name" .null =
    .error (.encoding ⟨.invalidStart, 0xff, 0, 1⟩) := rfl
  have hfind : (holding [0xff]).find = some ⟨"/", [fileName]⟩ := by decide
  have hfile : (holding [0xff]).tree ⟨"/", [fileName]⟩ = some (.file [0xff]) := by decide
  refine ⟨hvalue, .inr ⟨fun w hstates => ?_, rfl⟩, ?_⟩
  · obtain ⟨bytes, root, hbytes, hread, -⟩ := (states_iff_of_find hfind).mp hstates
    rw [hfile] at hbytes
    cases hbytes
    cases hread
  · rintro ⟨v, hok, -⟩
    rw [hvalue] at hok
    cases hok

end Search

end ObjectCatalog.Manifest
