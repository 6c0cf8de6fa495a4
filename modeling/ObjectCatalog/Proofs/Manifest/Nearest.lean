import ObjectCatalog.Manifest.Lookup
import ObjectCatalog.Proofs.Path.Ancestors

/-! # The nearest manifest

A search looks into one directory after another on the way up, until it finds a manifest, has come
to the root, or has spent its limit. So what it finds is the nearest manifest within the limit, it
finds nothing only where there is none, and it looks nowhere twice. A tree answers for every path
whether something is there; looking does not fail.
-/
namespace ObjectCatalog.Manifest.Search

open PathName (Above)

variable {s : Search} {d : Nat} {p q : PathName}

def HasManifest (s : Search) (p : PathName) : Prop := (s.tree (p.child fileName)).isSome = true

def up (s : Search) : Search := { s with start := s.start.parent, limit := s.limit - 1 }

/-! ## One directory -/

theorem run_spent (hlimit : s.limit ≤ 0) : s.run = ([], none) := by
  have hnone : s.limit.toNat = 0 := Int.toNat_of_nonpos hlimit
  rw [run, candidates, hnone]
  rfl

theorem run_eq_of_pos (hlimit : 0 < s.limit) {above : List PathName}
    (hstart : s.start.ancestors = s.start :: above) :
    s.run = firstPresent s.tree (s.start.child fileName ::
      (above.take s.up.limit.toNat).map (·.child fileName)) := by
  have hsucc : s.limit.toNat = s.up.limit.toNat + 1 := by
    have hup : s.up.limit = s.limit - 1 := rfl
    omega
  rw [run, candidates, hstart, hsucc]
  rfl

theorem exists_ancestors (p : PathName) : ∃ above, p.ancestors = p :: above := by
  by_cases hroot : p.parent = p
  · exact ⟨[], PathName.ancestors_of_root hroot⟩
  · exact ⟨_, PathName.ancestors_of_up hroot⟩

theorem run_present (hlimit : 0 < s.limit) (h : s.HasManifest s.start) :
    s.run = ([s.start.child fileName], some (s.start.child fileName)) := by
  obtain ⟨above, hstart⟩ := exists_ancestors s.start
  rw [run_eq_of_pos hlimit hstart]
  exact if_pos h

theorem run_root (hlimit : 0 < s.limit) (h : ¬ s.HasManifest s.start)
    (hroot : s.start.parent = s.start) : s.run = ([s.start.child fileName], none) := by
  rw [run_eq_of_pos hlimit (PathName.ancestors_of_root hroot), List.take_nil]
  exact if_neg h

theorem run_up (hlimit : 0 < s.limit) (h : ¬ s.HasManifest s.start)
    (hroot : s.start.parent ≠ s.start) :
    s.run = (s.start.child fileName :: s.up.run.1, s.up.run.2) := by
  rw [run_eq_of_pos hlimit (PathName.ancestors_of_up hroot)]
  exact if_neg h

/-- The ways a search goes on at its start. -/
theorem climb_induction {motive : Search → Prop} (spent : ∀ s, s.limit ≤ 0 → motive s)
    (present : ∀ s, 0 < s.limit → s.HasManifest s.start → motive s)
    (root : ∀ s, 0 < s.limit → ¬ s.HasManifest s.start → s.start.parent = s.start → motive s)
    (further : ∀ s, 0 < s.limit → ¬ s.HasManifest s.start → s.start.parent ≠ s.start →
      motive s.up → motive s) (s : Search) : motive s := by
  induction hsteps : s.limit.toNat generalizing s with
  | zero => exact spent s (Int.toNat_eq_zero.mp hsteps)
  | succ n ih =>
    have hlimit : 0 < s.limit := by omega
    have hrest : s.up.limit.toNat = n := by
      have hup : s.up.limit = s.limit - 1 := rfl
      omega
    by_cases h : s.HasManifest s.start
    · exact present s hlimit h
    · by_cases hroot : s.start.parent = s.start
      · exact root s hlimit h hroot
      · exact further s hlimit h hroot (ih s.up hrest)

/-! ## The directories that are reached -/

/-- The search comes as far as `p`: that is within the limit, and nothing nearer has a manifest. -/
structure Reaches (s : Search) (d : Nat) (p : PathName) : Prop where
  above : Above d s.start p
  within : (d : Int) < s.limit
  clear : ∀ e q, e < d → Above e s.start q → ¬ s.HasManifest q

theorem reaches_zero_iff : s.Reaches 0 p ↔ 0 < s.limit ∧ p = s.start := by
  constructor
  · intro h
    exact ⟨h.within, Above.zero_iff.mp h.above⟩
  · rintro ⟨hlimit, rfl⟩
    exact ⟨.here _, hlimit, fun e _ he => absurd he (Nat.not_lt_zero e)⟩

theorem reaches_succ_iff : s.Reaches (d + 1) p ↔
    ¬ s.HasManifest s.start ∧ s.start.parent ≠ s.start ∧ s.up.Reaches d p := by
  have hup : s.up.limit = s.limit - 1 := rfl
  constructor
  · intro h
    obtain ⟨hroot, habove⟩ := Above.succ_iff.mp h.above
    have hwithin := h.within
    refine ⟨h.clear 0 _ (Nat.succ_pos d) (.here _), hroot, habove, by omega, ?_⟩
    intro e q he hq
    exact h.clear (e + 1) q (Nat.succ_lt_succ he) (.up hroot hq)
  · rintro ⟨hstart, hroot, h⟩
    have hwithin := h.within
    refine ⟨.up hroot h.above, by omega, ?_⟩
    intro e q he hq
    cases e with
    | zero => rwa [Above.zero_iff.mp hq]
    | succ e => exact h.clear e q (Nat.lt_of_succ_lt_succ he) (Above.succ_iff.mp hq).2

theorem Reaches.pos (h : s.Reaches d p) : 0 < s.limit := by
  have hwithin := h.within
  omega

/-- Where the search ends at its start, it comes no farther. -/
theorem exists_reaches_of_end {P : PathName → Prop} (hlimit : 0 < s.limit)
    (hend : s.HasManifest s.start ∨ s.start.parent = s.start) :
    (∃ d p, s.Reaches d p ∧ P p) ↔ P s.start := by
  constructor
  · rintro ⟨_ | d, p, h, hp⟩
    · exact (reaches_zero_iff.mp h).2 ▸ hp
    · obtain ⟨hstart, hroot, -⟩ := reaches_succ_iff.mp h
      exact (hend.elim hstart hroot).elim
  · intro hp
    exact ⟨0, s.start, reaches_zero_iff.mpr ⟨hlimit, rfl⟩, hp⟩

theorem exists_reaches_of_up {P : PathName → Prop} (hlimit : 0 < s.limit)
    (hstart : ¬ s.HasManifest s.start) (hroot : s.start.parent ≠ s.start) :
    (∃ d p, s.Reaches d p ∧ P p) ↔ P s.start ∨ ∃ d p, s.up.Reaches d p ∧ P p := by
  constructor
  · rintro ⟨_ | d, p, h, hp⟩
    · exact .inl ((reaches_zero_iff.mp h).2 ▸ hp)
    · exact .inr ⟨d, p, (reaches_succ_iff.mp h).2.2, hp⟩
  · rintro (hp | ⟨d, p, h, hp⟩)
    · exact ⟨0, s.start, reaches_zero_iff.mpr ⟨hlimit, rfl⟩, hp⟩
    · exact ⟨d + 1, p, reaches_succ_iff.mpr ⟨hstart, hroot, h⟩, hp⟩

theorem not_exists_reaches {P : PathName → Prop} (hlimit : s.limit ≤ 0) :
    ¬ ∃ d p, s.Reaches d p ∧ P p := by
  rintro ⟨d, p, h, -⟩
  have hpos := h.pos
  omega

/-! ## What is looked at and what is found -/

theorem mem_examined_iff (s : Search) (path : PathName) :
    path ∈ s.examined ↔ ∃ d p, s.Reaches d p ∧ path = p.child fileName := by
  unfold examined
  induction s using climb_induction with
  | spent s hlimit => simp [run_spent hlimit, not_exists_reaches hlimit]
  | present s hlimit h =>
    rw [run_present hlimit h, exists_reaches_of_end hlimit (.inl h), List.mem_singleton]
  | root s hlimit h hroot =>
    rw [run_root hlimit h hroot, exists_reaches_of_end hlimit (.inr hroot), List.mem_singleton]
  | further s hlimit h hroot ih =>
    rw [run_up hlimit h hroot, exists_reaches_of_up hlimit h hroot, List.mem_cons, ih]

theorem find_eq_some_iff (s : Search) (path : PathName) :
    s.find = some path ↔ ∃ d p, s.Reaches d p ∧ s.HasManifest p ∧ path = p.child fileName := by
  unfold find
  induction s using climb_induction with
  | spent s hlimit => simp [run_spent hlimit, not_exists_reaches hlimit]
  | present s hlimit h =>
    rw [run_present hlimit h, exists_reaches_of_end hlimit (.inl h)]
    simp [h, eq_comm]
  | root s hlimit h hroot =>
    rw [run_root hlimit h hroot, exists_reaches_of_end hlimit (.inr hroot)]
    simp [h]
  | further s hlimit h hroot ih =>
    rw [run_up hlimit h hroot, exists_reaches_of_up hlimit h hroot]
    change s.up.run.2 = some path ↔ _
    rw [ih]
    -- The manifest is not at the start, so it has the same place in what is left of the search.
    have hsame (q : PathName) : s.up.HasManifest q ↔ s.HasManifest q := Iff.rfl
    simp [h, hsame]

/-- The paths are looked at in the order of their lengths. -/
theorem nodup_examined (s : Search) : s.examined.Nodup := by
  induction s using climb_induction with
  | spent s hlimit => simp [examined, run_spent hlimit]
  | present s hlimit h => simp [examined, run_present hlimit h]
  | root s hlimit h hroot => simp [examined, run_root hlimit h hroot]
  | further s hlimit h hroot ih =>
    have hexamined : s.examined = s.start.child fileName :: s.up.examined :=
      congrArg Prod.fst (run_up hlimit h hroot)
    rw [hexamined, List.nodup_cons]
    refine ⟨fun hmem => ?_, ih⟩
    obtain ⟨d, p, hreaches, hsame⟩ := (s.up.mem_examined_iff _).mp hmem
    have hlength := hreaches.above.length_eq
    have hparent := PathName.length_parent hroot
    rw [← PathName.child_inj.mp hsame] at hlength
    have hup : s.up.start = s.start.parent := rfl
    rw [hup] at hlength
    omega

theorem Reaches.clear_of_find (hreaches : s.Reaches d p) (hnone : s.find = none) :
    ¬ s.HasManifest p := by
  intro hp
  have hsome := (s.find_eq_some_iff _).mpr ⟨d, p, hreaches, hp, rfl⟩
  rw [hnone] at hsome
  cases hsome

/-- Where nothing is found, the search comes as far as its limit. -/
theorem not_hasManifest_of_find (hnone : s.find = none) (habove : Above d s.start p)
    (hwithin : (d : Int) < s.limit) : ¬ s.HasManifest p := by
  induction d using Nat.strongRecOn generalizing p with
  | ind d ih =>
    have hreaches : s.Reaches d p :=
      ⟨habove, hwithin, fun e q he hq => ih e he hq (by omega)⟩
    exact hreaches.clear_of_find hnone

/-- A manifest is found at a distance exactly if that is below the limit, there is one, and there
is none at any smaller distance. Nothing is found exactly if there is none at all below the limit.
What is looked at are the places up to the one that is found, the root at the most, and no place
is looked at twice. No look at a place fails, as it would where a directory above may not be
entered. -/
theorem nearest_found (s : Search) :
    (∀ d p, Above d s.start p → (s.find = some (p.child fileName) ↔
      (d : Int) < s.limit ∧ s.HasManifest p ∧
        ∀ e q, e < d → Above e s.start q → ¬ s.HasManifest q)) ∧
    (∀ path, s.find = some path → ∃ d p, Above d s.start p ∧ path = p.child fileName) ∧
    (∀ d, (∃ p, Above d s.start p) ↔ d ≤ s.start.names.length) ∧
    (s.find = none ↔
      ∀ d p, Above d s.start p → (d : Int) < s.limit → ¬ s.HasManifest p) ∧
    (∀ path, path ∈ s.examined ↔ ∃ d p, Above d s.start p ∧ path = p.child fileName ∧
      (d : Int) < s.limit ∧ ∀ e q, e < d → Above e s.start q → ¬ s.HasManifest q) ∧
    s.examined.Nodup := by
  refine ⟨fun d p habove => ?_, fun path hfind => ?_, fun d => ?_, ?_, fun path => ?_,
    s.nodup_examined⟩
  · rw [find_eq_some_iff]
    constructor
    · rintro ⟨e, q, hreaches, hq, hsame⟩
      obtain rfl := PathName.child_inj.mp hsame
      have hdistance : d = e := by
        have hd := habove.length_eq
        have he := hreaches.above.length_eq
        omega
      subst hdistance
      exact ⟨hreaches.within, hq, hreaches.clear⟩
    · rintro ⟨hwithin, hp, hclear⟩
      exact ⟨d, p, ⟨habove, hwithin, hclear⟩, hp, rfl⟩
  · obtain ⟨d, p, hreaches, -, rfl⟩ := (s.find_eq_some_iff path).mp hfind
    exact ⟨d, p, hreaches.above, rfl⟩
  · constructor
    · rintro ⟨p, habove⟩
      have hlength := habove.length_eq
      omega
    · exact Above.exists_of_le s.start
  · constructor
    · intro hnone d p habove hwithin
      exact not_hasManifest_of_find hnone habove hwithin
    · intro hclear
      refine Option.eq_none_iff_forall_ne_some.mpr fun path hfind => ?_
      obtain ⟨d, p, hreaches, hp, -⟩ := (s.find_eq_some_iff path).mp hfind
      exact hclear d p hreaches.above hreaches.within hp
  · rw [mem_examined_iff]
    constructor
    · rintro ⟨d, p, hreaches, rfl⟩
      exact ⟨d, p, hreaches.above, rfl, hreaches.within, hreaches.clear⟩
    · rintro ⟨d, p, habove, rfl, hwithin, hclear⟩
      exact ⟨d, p, ⟨habove, hwithin, hclear⟩, rfl⟩

def nested : Search :=
  ⟨.ofEntries [(⟨"/", [fileName]⟩, []), (⟨"/", ["srv", fileName]⟩, [])] [],
    ⟨"/", ["srv", "store", "src"]⟩, 3⟩

theorem nearest_found_nested :
    Above 2 nested.start ⟨"/", ["srv"]⟩ ∧ nested.find = some ⟨"/", ["srv", fileName]⟩ ∧
      ∀ e q, e < 2 → Above e nested.start q → ¬ nested.HasManifest q := by
  have habove : Above 2 nested.start ⟨"/", ["srv"]⟩ := .up (by decide) (.up (by decide) (.here _))
  have hfind : nested.find = some ⟨"/", ["srv", fileName]⟩ := by decide
  exact ⟨habove, hfind, (((nearest_found nested).1 2 _ habove).mp hfind).2.2⟩

end ObjectCatalog.Manifest.Search
