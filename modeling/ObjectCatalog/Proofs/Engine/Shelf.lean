import Mathlib.Data.Finset.Card
import Mathlib.Data.Finset.Dedup
import Mathlib.Data.List.Infix
import ObjectCatalog.Engine.Pool

/-! # How long an engine stays on its shelf

The engine used last stands in front, and every engine used after another one stands ahead of it.
So an engine is dropped as soon as engines for as many other keys as the shelf has places have
been used since it was used last, and not before.
-/
namespace ObjectCatalog.EngineShelf

def keys (shelf : EngineShelf) : List EngineKey := shelf.map (·.key)

variable {shelf : EngineShelf} {e x : Engine} {others : Finset EngineKey}

@[simp] theorem keys_cons (e : Engine) (shelf : EngineShelf) :
    keys (e :: shelf) = e.key :: keys shelf := rfl

@[simp] theorem keys_append (front back : EngineShelf) :
    keys (front ++ back) = keys front ++ keys back := List.map_append

theorem mem_keys_of_mem (h : e ∈ shelf) : e.key ∈ shelf.keys := List.mem_map_of_mem h

theorem of_find? {key : EngineKey} (h : shelf.find? key = some e) : e ∈ shelf ∧ e.key = key := by
  unfold EngineShelf.find? at h
  exact ⟨List.mem_of_find?_eq_some h, by simpa using List.find?_some h⟩

theorem mem_use (h : x ∈ shelf.use e) : x = e ∨ x ∈ shelf := by
  rcases List.mem_cons.mp (List.mem_of_mem_take h) with rfl | h
  · exact .inl rfl
  · exact .inr (List.mem_of_mem_filter h)

theorem keys_filter_ne (shelf : EngineShelf) (key : EngineKey) :
    keys (List.filter (·.key != key) shelf) = shelf.keys.filter (· != key) := by
  rw [keys, keys, List.filter_map]
  rfl

theorem nodup_keys_front (h : shelf.keys.Nodup) (e : Engine) :
    (keys (e :: List.filter (·.key != e.key) shelf)).Nodup := by
  rw [keys_cons, keys_filter_ne, List.nodup_cons]
  exact ⟨by simp, h.filter _⟩

theorem nodup_keys_use (h : shelf.keys.Nodup) (e : Engine) : (shelf.use e).keys.Nodup :=
  (nodup_keys_front h e).sublist ((List.take_sublist _ _).map _)

/-- An engine stands on the shelf, behind engines for just these keys. -/
structure Behind (shelf : EngineShelf) (e : Engine) (others : Finset EngineKey) : Prop where
  nodup : shelf.keys.Nodup
  split : ∃ ahead behind, shelf = ahead ++ e :: behind ∧ (keys ahead).toFinset = others

namespace Behind

theorem mem (h : Behind shelf e others) : e ∈ shelf := by
  obtain ⟨ahead, behind, rfl, -⟩ := h.split
  simp

theorem use_self (h : shelf.keys.Nodup) (e : Engine) : Behind (shelf.use e) e ∅ :=
  ⟨nodup_keys_use h e, [], _, rfl, rfl⟩

theorem find?_key (h : Behind shelf e others) : shelf.find? e.key = some e := by
  obtain ⟨ahead, behind, rfl, -⟩ := h.split
  have hnodup := h.nodup
  rw [keys_append, keys_cons, List.nodup_append] at hnodup
  have hahead : ∀ x ∈ ahead, x.key ≠ e.key := fun x hx =>
    hnodup.2.2 x.key (mem_keys_of_mem hx) e.key (by simp)
  have hnone : List.find? (·.key == e.key) ahead = none := by
    simpa using hahead
  simp [EngineShelf.find?, List.find?_append, hnone]

/-- What stands ahead of an engine once one for another key has been used, before any is dropped. -/
theorem split_use (h : Behind shelf e others) (hkey : x.key ≠ e.key) : ∃ ahead behind,
    shelf.use x = List.take capacity (ahead ++ e :: behind) ∧ (keys (ahead ++ e :: behind)).Nodup ∧
      (keys ahead).toFinset = insert x.key others := by
  obtain ⟨ahead, behind, rfl, rfl⟩ := h.split
  have hstay : (e.key != x.key) = true := by simpa using hkey.symm
  have hfront : x :: List.filter (·.key != x.key) (ahead ++ e :: behind) =
      (x :: List.filter (·.key != x.key) ahead) ++ e :: List.filter (·.key != x.key) behind := by
    simp [List.filter_append, hstay]
  refine ⟨_, _, congrArg (List.take capacity) hfront, ?_, ?_⟩
  · rw [← hfront]
    exact nodup_keys_front h.nodup x
  · rw [keys_cons, keys_filter_ne, List.toFinset_cons, List.toFinset_filter]
    ext key
    simp only [Finset.mem_insert, Finset.mem_filter]
    by_cases hx : key = x.key <;> simp [hx]

theorem length_ahead {ahead behind : EngineShelf} (hnodup : (keys (ahead ++ e :: behind)).Nodup) :
    ahead.length = (keys ahead).toFinset.card := by
  rw [keys_append] at hnodup
  rw [List.toFinset_card_of_nodup hnodup.of_append_left, keys, List.length_map]

theorem use_other (h : Behind shelf e others) (hkey : x.key ≠ e.key)
    (hroom : (insert x.key others).card < capacity) :
    Behind (shelf.use x) e (insert x.key others) := by
  obtain ⟨ahead, behind, huse, hnodup, hahead⟩ := h.split_use hkey
  have hlength : ahead.length < capacity := by
    rw [length_ahead hnodup, hahead]
    exact hroom
  obtain ⟨room, hcapacity⟩ := Nat.exists_eq_add_of_lt hlength
  refine ⟨nodup_keys_use h.nodup x, ahead, behind.take room, ?_, hahead⟩
  rw [huse, hcapacity, Nat.add_assoc, List.take_length_add_append]
  rfl

theorem notMem_use (h : Behind shelf e others) (hkey : x.key ≠ e.key)
    (hfull : capacity ≤ (insert x.key others).card) : e ∉ shelf.use x := by
  obtain ⟨ahead, behind, huse, hnodup, hahead⟩ := h.split_use hkey
  have hlength : capacity ≤ ahead.length := by
    rw [length_ahead hnodup, hahead]
    exact hfull
  rw [huse, List.take_append_of_le_length hlength]
  intro he
  rw [keys_append, keys_cons, List.nodup_append] at hnodup
  exact hnodup.2.2 e.key (mem_keys_of_mem (List.mem_of_mem_take he)) e.key (by simp) rfl

end Behind

/-! ## Crowds -/

/-- Keys are used one after another while an engine for `key` is on the shelf, behind engines for
`others`. Does it stay there all the time? -/
def Stays (key : EngineKey) : Finset EngineKey → List EngineKey → Prop
  | _, [] => True
  | others, used :: rest =>
    if used = key then Stays key ∅ rest
    else (insert used others).card < capacity ∧ Stays key (insert used others) rest

/-- Between two uses of a key, fewer other keys are used than the shelf has places. -/
def Uncrowded (key : EngineKey) (used : List EngineKey) : Prop :=
  ∀ stretch, stretch <:+: used → key ∉ stretch → stretch.toFinset.card < capacity

theorem uncrowded_cons {key u : EngineKey} {used : List EngineKey} :
    Uncrowded key (u :: used) ↔
      (∀ stretch, stretch <+: u :: used → key ∉ stretch → stretch.toFinset.card < capacity) ∧
        Uncrowded key used := by
  constructor
  · exact fun h => ⟨fun stretch hstretch => h stretch hstretch.isInfix,
      fun stretch hstretch => h stretch (List.infix_cons hstretch)⟩
  · rintro ⟨hbegins, hrest⟩ stretch hstretch
    rcases List.infix_cons_iff.mp hstretch with h | h
    · exact hbegins stretch h
    · exact hrest stretch h

theorem eq_nil_of_begins {key : EngineKey} {stretch used : List EngineKey}
    (h : stretch <+: key :: used) (hkey : key ∉ stretch) : stretch = [] := by
  rcases List.prefix_cons_iff.mp h with rfl | ⟨rest, rfl, -⟩
  · rfl
  · exact absurd List.mem_cons_self hkey

/-- The engines that stand ahead already, with those that are used before `key` is used again,
leave it a place. -/
def LeavesRoom (key : EngineKey) (others : Finset EngineKey) (used : List EngineKey) : Prop :=
  ∀ stretch, stretch <+: used → key ∉ stretch → (others ∪ stretch.toFinset).card < capacity

theorem leavesRoom_cons_self {key : EngineKey} {used : List EngineKey}
    (hroom : others.card < capacity) : LeavesRoom key others (key :: used) := by
  intro stretch hstretch hkey
  rw [eq_nil_of_begins hstretch hkey]
  simpa using hroom

theorem leavesRoom_cons {key u : EngineKey} {used : List EngineKey} (hu : u ≠ key)
    (hroom : others.card < capacity) :
    LeavesRoom key others (u :: used) ↔ LeavesRoom key (insert u others) used := by
  constructor
  · intro h stretch hstretch hkey
    have hbegins := h (u :: stretch) ((List.prefix_cons_inj u).mpr hstretch)
      (by simp [hkey, hu.symm])
    simpa [Finset.insert_union, Finset.union_insert] using hbegins
  · intro h stretch hstretch hkey
    rcases List.prefix_cons_iff.mp hstretch with rfl | ⟨rest, rfl, hrest⟩
    · simpa using hroom
    · have hbegins := h rest hrest fun hmem => hkey (List.mem_cons_of_mem u hmem)
      simpa [Finset.insert_union, Finset.union_insert] using hbegins

theorem Uncrowded.leavesRoom {key : EngineKey} {used : List EngineKey} (h : Uncrowded key used) :
    LeavesRoom key ∅ used := by
  intro stretch hstretch hkey
  simpa using h stretch hstretch.isInfix hkey

/-- An engine stays if it is left room until its next use, and is not crowded out later. -/
theorem stays_iff (key : EngineKey) (used : List EngineKey) (hroom : others.card < capacity) :
    Stays key others used ↔ LeavesRoom key others used ∧ Uncrowded key used := by
  induction used generalizing others with
  | nil =>
    simp only [Stays, LeavesRoom, Uncrowded, List.prefix_nil, List.infix_nil, true_iff]
    constructor
    · rintro stretch rfl -
      simpa using hroom
    · rintro stretch rfl -
      decide
  | cons u used ih =>
    by_cases hu : u = key
    · subst hu
      have hnone : (∅ : Finset EngineKey).card < capacity := by decide
      simp only [Stays, if_pos, ih hnone, uncrowded_cons]
      constructor
      · rintro ⟨-, hrest⟩
        refine ⟨leavesRoom_cons_self hroom, fun stretch hstretch hkey => ?_, hrest⟩
        rw [eq_nil_of_begins hstretch hkey]
        exact hnone
      · rintro ⟨-, -, hrest⟩
        exact ⟨hrest.leavesRoom, hrest⟩
    · simp only [Stays, if_neg hu, leavesRoom_cons hu hroom, uncrowded_cons]
      constructor
      · rintro ⟨hcard, hstays⟩
        obtain ⟨hleaves, hrest⟩ := (ih hcard).mp hstays
        refine ⟨hleaves, fun stretch hstretch hkey => ?_, hrest⟩
        have hwider := (leavesRoom_cons hu hroom).mpr hleaves stretch hstretch hkey
        exact (Finset.card_le_card Finset.subset_union_right).trans_lt hwider
      · rintro ⟨hleaves, -, hrest⟩
        have hcard : (insert u others).card < capacity := by
          simpa using hleaves [] List.nil_prefix List.not_mem_nil
        exact ⟨hcard, (ih hcard).mpr ⟨hleaves, hrest⟩⟩

theorem stays_iff_uncrowded (key : EngineKey) (used : List EngineKey) :
    Stays key ∅ used ↔ Uncrowded key used :=
  (stays_iff key used (by decide)).trans (and_iff_right_of_imp Uncrowded.leavesRoom)

end ObjectCatalog.EngineShelf
