import ObjectCatalog.Manifest.Version
import ObjectCatalog.Proofs.Manifest.Keys

/-! # Which version a project has

The version is the one installed under the name of the project if that is preferred, else the one in
the manifest, else the fallback. A project goes by the name in its manifest, or by the name of the
store. A name that is empty cannot be asked for, and the search for a version ends there. A version
that is a date is given by its text.
-/
namespace ObjectCatalog.Manifest.Search

variable {s : Search} {installed : String → Option String} {preferInstalled : Bool}
  {fallback v : Value} {name other : String}

/-- The project has this name: the one that the manifest has, or that of the store if it has none.
-/
def GoesBy (s : Search) (name : String) : Prop :=
  s.Answers "project.name" (.text ownName) (.text name)

def NamedByText (s : Search) : Prop := ∀ w, s.States "project.name" w → ∃ name, w = .text name

/-- Versions that are installed are preferred, and this one is installed for the project. -/
def Prefers (s : Search) (installed : String → Option String) (preferInstalled : Bool)
    (version : String) : Prop :=
  preferInstalled = true ∧ ∃ name, s.GoesBy name ∧ installed name = some version

/-- The version of a project, by the first of three sources that has one. -/
inductive Resolves (s : Search) (installed : String → Option String) (preferInstalled : Bool)
    (fallback : Value) : Value → Prop
  | installed {version : String} (h : s.Prefers installed preferInstalled version) :
    Resolves s installed preferInstalled fallback (.text version)
  | declared {v : Value} (hinstalled : ∀ version, ¬ s.Prefers installed preferInstalled version)
    (h : s.States "project.version" v) : Resolves s installed preferInstalled fallback v
  | fallback (hinstalled : ∀ version, ¬ s.Prefers installed preferInstalled version)
    (hdeclared : ∀ w, ¬ s.States "project.version" w) :
    Resolves s installed preferInstalled fallback fallback

/-! ## The name -/

theorem name_eq_iff : s.name (.text ownName) = .ok (.text name) ↔ s.Readable ∧ s.GoesBy name := by
  have hkey : "project.name" ≠ "" := by decide
  rw [Search.name, value_eq_ok_iff, imp_iff_right hkey, GoesBy]

theorem exists_name (hreadable : s.Readable) (hname : s.NamedByText) :
    ∃ name, s.GoesBy name ∧ s.name (.text ownName) = .ok (.text name) := by
  obtain ⟨w, hw⟩ := s.exists_answers "project.name" (.text ownName)
  obtain ⟨name, rfl⟩ : ∃ name, w = .text name := by
    rcases hw with hstates | ⟨-, rfl⟩
    · exact hname w hstates
    · exact ⟨ownName, rfl⟩
  exact ⟨name, hw, name_eq_iff.mpr ⟨hreadable, hw⟩⟩

theorem goesBy_unique (hreadable : s.Readable) (h : s.GoesBy name) (h' : s.GoesBy other) :
    other = name := by
  have hname := name_eq_iff.mpr ⟨hreadable, h⟩
  rw [name_eq_iff.mpr ⟨hreadable, h'⟩] at hname
  cases hname
  rfl

/-- The name of the store is not empty, so an empty name is in the manifest. -/
theorem goesBy_empty_iff : s.GoesBy "" ↔ s.States "project.name" (.text "") := by
  constructor
  · rintro (hstates | ⟨-, hown⟩)
    · exact hstates
    · exact absurd (Value.text.inj hown) (by decide)
  · exact .inl

/-! ## The version -/

theorem installedVersion_text (installed : String → Option String) (name : String) :
    installedVersion installed (.text name) =
      if name = "" then .error .nameRequired else .ok (installed name) := by
  by_cases hname : name = "" <;> simp [installedVersion, Value.isGiven, Value.asText?, hname]

theorem declaredVersion_eq_ok_iff :
    s.declaredVersion fallback = .ok v ↔ s.Readable ∧ s.Answers "project.version" fallback v := by
  have hkey : "project.version" ≠ "" := by decide
  have hvalue : s.declaredVersion fallback = .ok v ↔
      s.value "project.version" fallback = .ok v := by
    unfold declaredVersion
    cases s.value "project.version" fallback with
    | error e => exact ⟨nofun, nofun⟩
    | ok w =>
      constructor <;> intro h <;> cases h <;> rfl
  rw [hvalue, value_eq_ok_iff, imp_iff_right hkey]

theorem version_of_name (hname : s.name (.text ownName) = .ok (.text name)) :
    s.version installed preferInstalled fallback =
      if preferInstalled = true then
        if name = "" then .error .nameRequired
        else ((installed name).map fun version => .ok (.text version)).getD
          (s.declaredVersion fallback)
      else s.declaredVersion fallback := by
  have hmapped : (s.name (.text ownName)).mapError VersionError.unreadable = .ok (.text name) := by
    rw [hname]
    rfl
  rw [version, hmapped]
  cases preferInstalled with
  | false => rfl
  | true =>
    by_cases hempty : name = ""
    · subst hempty
      rfl
    · have hversion := installedVersion_text installed name
      rw [if_neg hempty] at hversion
      simp only [bind, Except.bind, hversion, if_neg hempty, if_true]
      cases installed name <;> rfl

theorem resolves_iff_of_not_prefers
    (hinstalled : ∀ version, ¬ s.Prefers installed preferInstalled version) :
    s.Resolves installed preferInstalled fallback v ↔ s.Answers "project.version" fallback v := by
  constructor
  · rintro (h | ⟨-, h⟩ | ⟨-, h⟩)
    · exact absurd h (hinstalled _)
    · exact .inl h
    · exact .inr ⟨h, rfl⟩
  · rintro (h | ⟨h, rfl⟩)
    · exact .declared hinstalled h
    · exact .fallback hinstalled h

theorem resolves_iff_of_installed {version : String} (hreadable : s.Readable) (hname : s.GoesBy name)
    (hversion : installed name = some version) :
    s.Resolves installed true fallback v ↔ v = .text version := by
  have hprefers : s.Prefers installed true version := ⟨rfl, name, hname, hversion⟩
  constructor
  · rintro (⟨-, other, hother, hsome⟩ | ⟨hnot, -⟩ | ⟨hnot, -⟩)
    · rw [goesBy_unique hreadable hname hother, hversion] at hsome
      cases hsome
      rfl
    · exact absurd hprefers (hnot version)
    · exact absurd hprefers (hnot version)
  · rintro rfl
    exact .installed hprefers

theorem version_of_not_readable (hreadable : ¬ s.Readable) :
    s.version installed preferInstalled fallback ≠ .ok v := by
  cases hname : s.name (.text ownName) with
  | error e =>
    rw [version, hname]
    nofun
  | ok w =>
    have hanswer := (value_eq_ok_iff.mp hname).1
    exact absurd (hanswer (by decide)) hreadable

theorem version_eq_ok_iff (hname : s.NamedByText) :
    s.version installed preferInstalled fallback = .ok v ↔
      (s.Readable ∧ ¬ (preferInstalled = true ∧ s.States "project.name" (.text ""))) ∧
        s.Resolves installed preferInstalled fallback v := by
  by_cases hreadable : s.Readable
  · obtain ⟨name, hgoes, hfound⟩ := exists_name hreadable hname
    rw [version_of_name hfound, and_iff_right hreadable]
    cases preferInstalled with
    | false =>
      have hnot (version : String) : ¬ s.Prefers installed false version := fun h => nomatch h.1
      rw [if_neg Bool.false_ne_true, declaredVersion_eq_ok_iff, resolves_iff_of_not_prefers hnot]
      simp [hreadable]
    | true =>
      rw [if_pos rfl]
      by_cases hempty : name = ""
      · subst hempty
        simp [goesBy_empty_iff.mp hgoes]
      · have hstates : ¬ s.States "project.name" (.text "") := fun h =>
          hempty (goesBy_unique hreadable (goesBy_empty_iff.mpr h) hgoes)
        rw [if_neg hempty]
        cases hversion : installed name with
        | some version =>
          rw [resolves_iff_of_installed hreadable hgoes hversion]
          simp [hstates, eq_comm]
        | none =>
          have hnot (version : String) : ¬ s.Prefers installed true version := by
            rintro ⟨-, other, hother, hsome⟩
            rw [goesBy_unique hreadable hgoes hother, hversion] at hsome
            cases hsome
          rw [resolves_iff_of_not_prefers hnot]
          simp [hstates, declaredVersion_eq_ok_iff, hreadable]
  · simp [version_of_not_readable hreadable, hreadable]

theorem exists_resolves (s : Search) (installed : String → Option String) (preferInstalled : Bool)
    (fallback : Value) : ∃ v, s.Resolves installed preferInstalled fallback v := by
  by_cases hprefers : ∃ version, s.Prefers installed preferInstalled version
  · obtain ⟨version, h⟩ := hprefers
    exact ⟨_, .installed h⟩
  · obtain ⟨v, hv⟩ := s.exists_answers "project.version" fallback
    exact ⟨v, (resolves_iff_of_not_prefers (not_exists.mp hprefers)).mpr hv⟩

/-- The version is that of the first source that has one, exactly if the manifest is legible and no
empty name is asked for; otherwise there is an error and no version. -/
theorem version_resolves_iff (hname : s.NamedByText) :
    ((∃ v, s.version installed preferInstalled fallback = .ok v ∧
        s.Resolves installed preferInstalled fallback v) ↔
      s.Readable ∧ ¬ (preferInstalled = true ∧ s.States "project.name" (.text ""))) ∧
    ∀ v, s.version installed preferInstalled fallback = .ok v →
      s.Resolves installed preferInstalled fallback v := by
  refine ⟨?_, fun v hversion => ((version_eq_ok_iff hname).mp hversion).2⟩
  constructor
  · rintro ⟨v, hversion, -⟩
    exact ((version_eq_ok_iff hname).mp hversion).1
  · intro h
    obtain ⟨v, hv⟩ := s.exists_resolves installed preferInstalled fallback
    exact ⟨v, (version_eq_ok_iff hname).mpr ⟨h, hv⟩, hv⟩

def projectTable (name version : List Char) : List Char :=
  ['[', 'p', 'r', 'o', 'j', 'e', 'c', 't', ']', '\n', 'n', 'a', 'm', 'e', '=', '"'] ++ name ++
    ['"', '\n', 'v', 'e', 'r', 's', 'i', 'o', 'n', '=', '"'] ++ version ++ ['"']

def project (name version : List Char) : Search :=
  holding ((projectTable name version).flatMap String.utf8EncodeChar)

theorem namedByText_of_value (h : s.name .null = .ok (.text name)) : s.NamedByText :=
  fun _ hstates => ⟨name, eq_of_states h hstates⟩

def onlyDb (name : String) : Option String := if name = "db" then some "3" else none

theorem version_resolves_installed :
    (project ['d', 'b'] ['2']).NamedByText ∧
      (project ['d', 'b'] ['2']).version onlyDb true (.text "unknown") = .ok (.text "3") ∧
      (project ['d', 'b'] ['2']).Resolves onlyDb true (.text "unknown") (.text "3") := by
  have hname : (project ['d', 'b'] ['2']).name .null = .ok (.text "db") := rfl
  have hversion : (project ['d', 'b'] ['2']).version onlyDb true (.text "unknown") =
    .ok (.text "3") := rfl
  have htext := namedByText_of_value hname
  exact ⟨htext, hversion, (version_resolves_iff htext).2 _ hversion⟩

/-- Nothing is installed under the empty name of the project, but its version is not that of the
manifest: there is an error. -/
theorem empty_name_refused :
    (project [] ['2']).NamedByText ∧
      (project [] ['2']).Resolves (fun _ => none) true (.text "unknown") (.text "2") ∧
      (project [] ['2']).version (fun _ => none) true (.text "unknown") = .error .nameRequired ∧
      ¬ ∃ v, (project [] ['2']).version (fun _ => none) true (.text "unknown") = .ok v ∧
        (project [] ['2']).Resolves (fun _ => none) true (.text "unknown") v := by
  have hname : (project [] ['2']).name .null = .ok (.text "") := rfl
  have hdeclared : (project [] ['2']).value "project.version" .null = .ok (.text "2") := rfl
  have hversion : (project [] ['2']).version (fun _ => none) true (.text "unknown") =
    .error .nameRequired := rfl
  refine ⟨namedByText_of_value hname, .declared ?_ (states_of_value hdeclared nofun), hversion, ?_⟩
  · rintro version ⟨-, name, -, hsome⟩
    cases hsome
  · rintro ⟨v, hok, -⟩
    rw [hversion] at hok
    cases hok

end ObjectCatalog.Manifest.Search
