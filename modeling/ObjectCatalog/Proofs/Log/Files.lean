import ObjectCatalog.Log.Rotation

/-! # What is in a log file

A line that is written to a file stands at its end, behind what was there before or, if the file
had to roll over for it, alone. Other files are not touched, but for those with a number behind
the name.
-/
namespace ObjectCatalog.LogFiles

variable {fs : LogFiles} {path other : String}

theorem content?_erase (fs : LogFiles) (path other : String) :
    (fs.erase path).content? other = if other = path then none else fs.content? other := by
  obtain ⟨entries⟩ := fs
  unfold erase content?
  induction entries with
  | nil => simp
  | cons entry entries ih =>
    obtain ⟨name, text⟩ := entry
    rw [List.lookup_cons]
    by_cases hname : name = path
    · subst hname
      rw [List.filter_cons_of_neg (by simp), ih]
      cases hother : other == name with
      | true => simp [eq_of_beq hother]
      | false => rfl
    · rw [List.filter_cons_of_pos (by simpa using hname), List.lookup_cons, ih]
      cases hother : other == name with
      | true => simp [eq_of_beq hother, hname]
      | false => rfl

theorem content?_push (entries : List (String × String)) (path text other : String) :
    content? ⟨entries ++ [(path, text)]⟩ other =
      (content? ⟨entries⟩ other).or (if other = path then some text else none) := by
  unfold content?
  rw [List.lookup_append]
  by_cases hother : other = path <;> simp [hother]

theorem content?_touch (fs : LogFiles) (path other : String) : (fs.touch path).content? other =
    if other = path then some ((fs.content? path).getD "") else fs.content? other := by
  unfold touch
  cases hpath : fs.content? path with
  | some text =>
    by_cases hother : other = path
    · simp [hother, hpath]
    · simp [hother]
  | none =>
    dsimp only
    rw [content?_push]
    by_cases hother : other = path
    · rw [show content? ⟨fs.entries⟩ other = none from hother ▸ hpath]
      simp [hother]
    · rw [if_neg hother, if_neg hother, Option.or_none]

theorem content?_append (fs : LogFiles) (path text other : String) :
    (fs.append path text).content? other =
      if other = path then some ((fs.content? path).getD "" ++ text) else fs.content? other := by
  have hmap (gs : LogFiles) : content? ⟨gs.entries.map fun entry =>
      (entry.1, if entry.1 == path then entry.2 ++ text else entry.2)⟩ other =
        (gs.content? other).map fun content => if other = path then content ++ text else content := by
    obtain ⟨entries⟩ := gs
    unfold content?
    induction entries with
    | nil => rfl
    | cons entry entries ih =>
      rw [List.map_cons, List.lookup_cons, List.lookup_cons]
      cases hother : other == entry.1 with
      | true => simp [eq_of_beq hother]
      | false => exact ih
  have happend : (fs.append path text).content? other = ((fs.touch path).content? other).map
      fun content => if other = path then content ++ text else content := hmap (fs.touch path)
  rw [happend, content?_touch]
  by_cases hother : other = path
  · simp [hother]
  · simp [hother]

theorem content?_move_of_ne {source target : String} (hsource : other ≠ source)
    (htarget : other ≠ target) : (fs.move source target).content? other = fs.content? other := by
  unfold move
  cases fs.content? source with
  | none => rfl
  | some text =>
    dsimp only
    rw [content?_push, if_neg htarget, Option.or_none, content?_erase, if_neg hsource,
      content?_erase, if_neg htarget]

theorem content?_move_source {source target : String} (hne : source ≠ target) :
    (fs.move source target).content? source = none := by
  unfold move
  cases hsource : fs.content? source with
  | none => exact hsource
  | some text =>
    dsimp only
    rw [content?_push, if_neg hne, Option.or_none, content?_erase, if_pos rfl]

def IsSeries (path other : String) : Prop := other = path ∨ ∃ n, other = numbered path n

theorem path_ne_numbered (path : String) (n : Nat) : path ≠ numbered path n := by
  intro h
  have hlength := congrArg String.length h
  simp only [numbered, String.length_append] at hlength
  have hdot : ".".length = 1 := rfl
  omega

theorem content?_shift (hother : ∀ n, other ≠ numbered path n) (n : Nat) (fs : LogFiles) :
    (shift path n fs).content? other = fs.content? other := by
  induction n generalizing fs with
  | zero => rfl
  | succ n ih => rw [shift, ih, content?_move_of_ne (hother _) (hother _)]

theorem content?_rotate_of_not_isSeries (hother : ¬ IsSeries path other) (backups : Nat) :
    (fs.rotate path backups).content? other = fs.content? other := by
  have hpath : other ≠ path := fun h => hother (.inl h)
  have hnumbered (n : Nat) : other ≠ numbered path n := fun h => hother (.inr ⟨n, h⟩)
  unfold rotate
  split
  · rfl
  · rw [content?_touch, if_neg hpath, content?_move_of_ne hpath (hnumbered 1),
      content?_shift hnumbered]

theorem content?_rotate_self (backups : Nat) : ((fs.rotate path backups).content? path).getD "" =
    if backups = 0 then (fs.content? path).getD "" else "" := by
  unfold rotate
  by_cases hbackups : backups = 0
  · simp [hbackups]
  · simp only [hbackups, beq_iff_eq, if_false]
    rw [content?_touch, if_pos rfl, content?_move_source (path_ne_numbered path 1)]
    rfl

/-- What stays in a file in front of a line that is written to it. -/
def kept (fs : LogFiles) (path : String) (maxBytes backups : Int) (line : String) : String :=
  if fs.reachesLimit path maxBytes line = true ∧ backups.toNat ≠ 0 then ""
  else (fs.content? path).getD ""

theorem content?_writeLine_self (fs : LogFiles) (path : String) (maxBytes backups : Int)
    (line : String) : (fs.writeLine path maxBytes backups line).content? path =
      some (fs.kept path maxBytes backups line ++ (line ++ "\n")) := by
  unfold writeLine kept
  dsimp only
  rw [content?_append, if_pos rfl]
  by_cases hlimit : fs.reachesLimit path maxBytes line = true
  · rw [if_pos hlimit, content?_rotate_self]
    by_cases hbackups : backups.toNat = 0 <;> simp [hlimit, hbackups]
  · simp [hlimit]

theorem content?_writeLine_of_not_isSeries (hother : ¬ IsSeries path other) (maxBytes backups : Int)
    (line : String) :
    (fs.writeLine path maxBytes backups line).content? other = fs.content? other := by
  have hpath : other ≠ path := fun h => hother (.inl h)
  unfold writeLine
  dsimp only
  rw [content?_append, if_neg hpath]
  split
  · exact content?_rotate_of_not_isSeries hother _
  · rfl

theorem kept_congr {gs : LogFiles} (h : fs.content? path = gs.content? path) (maxBytes backups : Int)
    (line : String) : fs.kept path maxBytes backups line = gs.kept path maxBytes backups line := by
  unfold kept reachesLimit
  rw [h]

end ObjectCatalog.LogFiles
