import ObjectCatalog.Engine.Embedded
import ObjectCatalog.Proofs.Engine.Shelf

/-! # Which requests share an engine

Two requests that are met get one and the same engine exactly if they want the same kind of engine
for the same address and options, and engines for fewer other keys than a shelf has places are
used between any two uses of that engine on the way from one to the other. A request that fails
changes nothing. All of it holds for every way of making engines, and that way may change from one
request to the next.
-/
namespace ObjectCatalog

structure EngineRequest where
  settings : Settings
  forTasks : Bool
  maker : EngineMaker

def EngineRequest.key? (r : EngineRequest) : Option EngineKey :=
  let url := if r.forTasks then r.settings.asyncDatabaseUrl.filter (· != "")
    else some r.settings.databaseUrl
  url.map fun url => ⟨url, r.settings.echo, r.settings.prePing⟩

namespace EnginePool

def serve (p : EnginePool) (r : EngineRequest) : EnginePool × Except Failure Engine :=
  p.engineFor r.maker r.settings r.forTasks

def after (p : EnginePool) (requests : List EngineRequest) : EnginePool :=
  requests.foldl (fun p r => (p.serve r).1) p

def obtained (p : EnginePool) : List EngineRequest → List Engine
  | [] => []
  | r :: requests =>
    match (p.serve r).2 with
    | .ok e => e :: obtained (p.serve r).1 requests
    | .error _ => obtained (p.serve r).1 requests

def keysOf (forTasks : Bool) (engines : List Engine) : List EngineKey :=
  (engines.filter (·.forTasks == forTasks)).map (·.key)

theorem keysOf_cons_self {forTasks : Bool} {e : Engine} (h : e.forTasks = forTasks)
    (engines : List Engine) :
    keysOf forTasks (e :: engines) = e.key :: keysOf forTasks engines := by
  simp [keysOf, h]

theorem keysOf_cons_of_ne {forTasks : Bool} {e : Engine} (h : e.forTasks ≠ forTasks)
    (engines : List Engine) : keysOf forTasks (e :: engines) = keysOf forTasks engines := by
  simp [keysOf, h]

def engines (p : EnginePool) : List Engine := p.shelf false ++ p.shelf true

variable {p : EnginePool} {r : EngineRequest} {e : Engine} {b : Bool}

theorem after_cons (p : EnginePool) (r : EngineRequest) (requests : List EngineRequest) :
    p.after (r :: requests) = (p.serve r).1.after requests := rfl

theorem obtained_cons_ok (h : (p.serve r).2 = .ok e) (requests : List EngineRequest) :
    p.obtained (r :: requests) = e :: (p.serve r).1.obtained requests := by
  rw [obtained, h]

theorem obtained_cons_error {failure : Failure} (h : (p.serve r).2 = .error failure)
    (requests : List EngineRequest) :
    p.obtained (r :: requests) = (p.serve r).1.obtained requests := by
  rw [obtained, h]

theorem mem_engines : e ∈ p.engines ↔ ∃ b, e ∈ p.shelf b := by
  simp [engines]

@[simp] theorem shelf_withShelf_self (p : EnginePool) (b : Bool) (shelf : EngineShelf) :
    (p.withShelf b shelf).shelf b = shelf := by
  cases b <;> rfl

theorem shelf_withShelf_of_ne {c : Bool} (h : c ≠ b) (shelf : EngineShelf) :
    (p.withShelf b shelf).shelf c = p.shelf c := by
  cases b <;> cases c <;> first | rfl | exact absurd rfl h

@[simp] theorem made_withShelf (p : EnginePool) (b : Bool) (shelf : EngineShelf) :
    (p.withShelf b shelf).made = p.made := by
  cases b <;> rfl

/-- Every engine has a number of its own, and no two on one shelf have the same key. -/
structure Numbered (p : EnginePool) : Prop where
  below : ∀ e ∈ p.engines, e.number < p.made
  unique : ∀ e ∈ p.engines, ∀ x ∈ p.engines, x.number = e.number → x = e
  kind : ∀ b, ∀ e ∈ p.shelf b, e.forTasks = b
  nodup : ∀ b, (p.shelf b).keys.Nodup

/-- How a request is met: with an engine from the shelf, or with a new one; it is used either way.
-/
structure Met (p : EnginePool) (r : EngineRequest) (e : Engine) (q : EnginePool) : Prop where
  key : r.key? = some e.key
  kind : e.forTasks = r.forTasks
  source : (p.shelf r.forTasks).find? e.key = some e ∧ q.made = p.made ∨
    (p.shelf r.forTasks).find? e.key = none ∧ e.number = p.made ∧ q.made = p.made + 1
  used : q.shelf r.forTasks = (p.shelf r.forTasks).use e
  other : ∀ c, c ≠ r.forTasks → q.shelf c = p.shelf c

theorem used_obtain {maker : EngineMaker} {key : EngineKey} (h : (p.obtain maker key b).2 = .ok e) :
    e.key = key ∧
    ((p.shelf b).find? key = some e ∧
        (p.obtain maker key b).1 = p.withShelf b ((p.shelf b).use e) ∨
      (p.shelf b).find? key = none ∧ e.number = p.made ∧ e.forTasks = b ∧
        (p.obtain maker key b).1 =
          { p.withShelf b ((p.shelf b).use e) with made := p.made + 1 }) := by
  unfold obtain at h ⊢
  cases hfind : (p.shelf b).find? key with
  | some kept =>
    rw [hfind] at h
    cases h
    exact ⟨(EngineShelf.of_find? hfind).2, .inl ⟨rfl, rfl⟩⟩
  | none =>
    rw [hfind] at h
    cases hmake : maker.make p.made key b with
    | error failure =>
      simp only [hmake] at h
      cases h
    | ok made =>
      simp only [hmake] at h ⊢
      cases h
      obtain ⟨hnumber, hkey, hkind⟩ := maker.isNew hmake
      exact ⟨hkey, .inr ⟨trivial, hnumber, hkind, rfl⟩⟩

theorem serve_eq (p : EnginePool) (r : EngineRequest) : p.serve r =
    match r.key? with
    | some key => p.obtain r.maker key r.forTasks
    | none => (p, .error notConfigured) := by
  obtain ⟨settings, forTasks, maker⟩ := r
  cases forTasks with
  | false => rfl
  | true =>
    unfold serve engineFor EngineRequest.key?
    cases settings.asyncDatabaseUrl with
    | none => rfl
    | some url => by_cases hurl : url = "" <;> simp [Option.filter, hurl]

theorem unchanged_of_error {failure : Failure} (h : (p.serve r).2 = .error failure) :
    (p.serve r).1 = p := by
  rw [serve_eq] at h ⊢
  cases hkey : r.key? with
  | none => rfl
  | some key =>
    rw [hkey] at h
    dsimp only at h ⊢
    unfold obtain at h ⊢
    cases hfind : (p.shelf r.forTasks).find? key with
    | some kept =>
      rw [hfind] at h
      cases h
    | none =>
      rw [hfind] at h
      cases hmake : r.maker.make p.made key r.forTasks with
      | error failure => rfl
      | ok made =>
        simp only [hmake] at h
        cases h

/-- How a request is met that gets an engine. -/
theorem met_serve (hp : p.Numbered) (h : (p.serve r).2 = .ok e) : Met p r e (p.serve r).1 := by
  rw [serve_eq] at h ⊢
  cases hkey : r.key? with
  | none =>
    rw [hkey] at h
    cases h
  | some key =>
    rw [hkey] at h
    obtain ⟨rfl, ⟨hfind, hafter⟩ | ⟨hfind, hnumber, hkind, hafter⟩⟩ := used_obtain h
    · dsimp only
      rw [hafter]
      refine ⟨hkey, hp.kind _ e (EngineShelf.of_find? hfind).1, .inl ⟨hfind, ?_⟩, ?_, ?_⟩
      · simp
      · simp
      · exact fun c hc => shelf_withShelf_of_ne hc _
    · dsimp only
      rw [hafter]
      refine ⟨hkey, hkind, .inr ⟨hfind, hnumber, rfl⟩, ?_, ?_⟩
      · exact shelf_withShelf_self p _ _
      · exact fun c hc => shelf_withShelf_of_ne hc _

/-! ## Numbers -/

variable {x : Engine} {q : EnginePool} {others : Finset EngineKey}

namespace Met

theorem mem_engines (h : Met p r e q) (hx : x ∈ q.engines) : x = e ∨ x ∈ p.engines := by
  obtain ⟨c, hc⟩ := EnginePool.mem_engines.mp hx
  by_cases hkind : c = r.forTasks
  · subst hkind
    rw [h.used] at hc
    exact (EngineShelf.mem_use hc).imp_right fun hold => EnginePool.mem_engines.mpr ⟨_, hold⟩
  · rw [h.other c hkind] at hc
    exact .inr (EnginePool.mem_engines.mpr ⟨c, hc⟩)

open EngineShelf in
theorem eq_kept (h : Met p r x q) (hbehind : Behind (p.shelf e.forTasks) e others)
    (hkind : r.forTasks = e.forTasks) (hkey : x.key = e.key) : e = x := by
  have hfind := hbehind.find?_key
  rcases h.source with ⟨hkept, -⟩ | ⟨hnone, -⟩
  · rw [hkind, hkey, hfind] at hkept
    exact Option.some.inj hkept
  · rw [hkind, hkey, hfind] at hnone
    cases hnone

theorem kept_or_new (h : Met p r e q) :
    e ∈ p.engines ∧ q.made = p.made ∨ e.number = p.made ∧ q.made = p.made + 1 := by
  rcases h.source with ⟨hfind, hmade⟩ | ⟨-, hnumber, hmade⟩
  · exact .inl ⟨EnginePool.mem_engines.mpr ⟨_, (EngineShelf.of_find? hfind).1⟩, hmade⟩
  · exact .inr ⟨hnumber, hmade⟩

end Met

theorem Numbered.met (hp : p.Numbered) (h : Met p r e q) : q.Numbered where
  below := by
    intro x hx
    rcases h.kept_or_new with ⟨hold, hmade⟩ | ⟨hnumber, hmade⟩
    · rcases h.mem_engines hx with rfl | hx
      · have := hp.below x hold
        omega
      · have := hp.below x hx
        omega
    · rcases h.mem_engines hx with rfl | hx
      · omega
      · have := hp.below x hx
        omega
  unique := by
    intro x hx y hy hnumbers
    rcases h.kept_or_new with ⟨hold, -⟩ | ⟨hnumber, -⟩
    · have hmem : ∀ z ∈ q.engines, z ∈ p.engines := by
        intro z hz
        rcases h.mem_engines hz with rfl | hz
        · exact hold
        · exact hz
      exact hp.unique x (hmem x hx) y (hmem y hy) hnumbers
    · rcases h.mem_engines hx with rfl | hx <;> rcases h.mem_engines hy with rfl | hy
      · rfl
      · have := hp.below y hy
        omega
      · have := hp.below x hx
        omega
      · exact hp.unique x hx y hy hnumbers
  kind := by
    intro c x hx
    by_cases hc : c = r.forTasks
    · subst hc
      rw [h.used] at hx
      rcases EngineShelf.mem_use hx with rfl | hx
      · exact h.kind
      · exact hp.kind _ x hx
    · rw [h.other c hc] at hx
      exact hp.kind c x hx
  nodup := by
    intro c
    by_cases hc : c = r.forTasks
    · subst hc
      rw [h.used]
      exact EngineShelf.nodup_keys_use (hp.nodup _) e
    · rw [h.other c hc]
      exact hp.nodup c

theorem numbered_empty : empty.Numbered where
  below := by simp [engines, shelf, empty]
  unique := by simp [engines, shelf, empty]
  kind := by simp [shelf, empty]
  nodup := by simp [shelf, empty, EngineShelf.keys]

theorem Numbered.serve (hp : p.Numbered) (r : EngineRequest) : (p.serve r).1.Numbered := by
  cases hanswer : (p.serve r).2 with
  | error failure =>
    rw [unchanged_of_error hanswer]
    exact hp
  | ok e => exact hp.met (met_serve hp hanswer)

theorem Numbered.after (hp : p.Numbered) (requests : List EngineRequest) :
    (p.after requests).Numbered := by
  induction requests generalizing p with
  | nil => exact hp
  | cons r requests ih => exact ih (hp.serve r)

/-! ## One engine through a run -/

structure Gone (p : EnginePool) (e : Engine) : Prop where
  below : e.number < p.made
  missing : ∀ x ∈ p.engines, x.number ≠ e.number

theorem Gone.met (hgone : p.Gone e) (h : Met p r x q) : x.number ≠ e.number ∧ q.Gone e := by
  have hnew : x.number ≠ e.number := by
    have hbelow := hgone.below
    rcases h.kept_or_new with ⟨hold, -⟩ | ⟨hnumber, -⟩
    · exact hgone.missing x hold
    · omega
  refine ⟨hnew, ?_, fun y hy => ?_⟩
  · have hbelow := hgone.below
    rcases h.kept_or_new with ⟨-, hmade⟩ | ⟨-, hmade⟩ <;> omega
  · rcases h.mem_engines hy with rfl | hy
    · exact hnew
    · exact hgone.missing y hy

theorem Gone.after (hp : p.Numbered) (hgone : p.Gone e) (requests : List EngineRequest) :
    (p.after requests).Gone e := by
  induction requests generalizing p with
  | nil => exact hgone
  | cons r requests ih =>
    refine ih (hp.serve r) ?_
    dsimp only
    cases hanswer : (p.serve r).2 with
    | error failure =>
      rw [unchanged_of_error hanswer]
      exact hgone
    | ok x => exact (hgone.met (met_serve hp hanswer)).2

open EngineShelf in
/-- An engine that is crowded out is gone. -/
theorem gone_of_full (hp : p.Numbered) (hbehind : Behind (p.shelf e.forTasks) e others)
    (h : Met p r x q) (hkind : r.forTasks = e.forTasks) (hkey : x.key ≠ e.key)
    (hfull : capacity ≤ (insert x.key others).card) : q.Gone e := by
  have he : e ∈ p.engines := EnginePool.mem_engines.mpr ⟨_, hbehind.mem⟩
  have hbelow := hp.below e he
  have hdropped : e ∉ q.engines := by
    intro hmem
    obtain ⟨c, hc⟩ := EnginePool.mem_engines.mp hmem
    obtain rfl := (hp.met h).kind c e hc
    rw [← hkind, h.used, hkind] at hc
    exact hbehind.notMem_use hkey hfull hc
  refine ⟨?_, fun y hy hnumber => ?_⟩
  · rcases h.kept_or_new with ⟨-, hmade⟩ | ⟨-, hmade⟩ <;> omega
  · rcases h.mem_engines hy with rfl | hold
    · rcases h.kept_or_new with ⟨hold, -⟩ | ⟨hnew, -⟩
      · exact hkey (congrArg Engine.key (hp.unique e he y hold hnumber))
      · omega
    · obtain rfl := hp.unique e he y hold hnumber
      exact hdropped hy

open EngineShelf in
theorem stays_or_gone (hp : p.Numbered) (hbehind : Behind (p.shelf e.forTasks) e others)
    (requests : List EngineRequest) :
    (Stays e.key others (keysOf e.forTasks (p.obtained requests)) ∧
      ∃ last, Behind ((p.after requests).shelf e.forTasks) e last) ∨
    (¬ Stays e.key others (keysOf e.forTasks (p.obtained requests)) ∧
      (p.after requests).Gone e) := by
  induction requests generalizing p others with
  | nil => exact .inl ⟨trivial, others, hbehind⟩
  | cons r requests ih =>
    have hnext := hp.serve r
    cases hanswer : (p.serve r).2 with
    | error failure =>
      rw [after_cons, obtained_cons_error hanswer, unchanged_of_error hanswer]
      exact ih hp hbehind
    | ok x =>
      have hmet := met_serve hp hanswer
      rw [after_cons, obtained_cons_ok hanswer]
      by_cases hkind : r.forTasks = e.forTasks
      · rw [keysOf_cons_self (hmet.kind.trans hkind)]
        by_cases hkey : x.key = e.key
        · -- the engine itself is used again
          obtain rfl : e = x := hmet.eq_kept hbehind hkind hkey
          have hfront : Behind ((p.serve r).1.shelf e.forTasks) e ∅ := by
            rw [← hkind, hmet.used, hkind]
            exact Behind.use_self (hp.nodup _) e
          simpa only [Stays, hkey, if_pos] using ih hnext hfront
        · by_cases hroom : (insert x.key others).card < capacity
          · have hbehind' : Behind ((p.serve r).1.shelf e.forTasks) e (insert x.key others) := by
              rw [← hkind, hmet.used, hkind]
              exact hbehind.use_other hkey hroom
            simpa only [Stays, if_neg hkey, hroom, true_and] using ih hnext hbehind'
          · have hgone := gone_of_full hp hbehind hmet hkind hkey (Nat.le_of_not_lt hroom)
            refine .inr ⟨?_, hgone.after hnext requests⟩
            simp only [Stays, if_neg hkey, hroom, false_and, not_false_eq_true]
      · have hbehind' : Behind ((p.serve r).1.shelf e.forTasks) e others := by
          rw [hmet.other _ (Ne.symm hkind)]
          exact hbehind
        rw [keysOf_cons_of_ne (by rw [hmet.kind]; exact hkind)]
        exact ih hnext hbehind'

variable {first second : EngineRequest} {e' : Engine}

/-- A later engine is the same one if it is for the same kind and key, and the first one has not
been crowded out in between. -/
theorem number_eq_iff (hp : p.Numbered) (h : (p.serve first).2 = .ok e)
    (between : List EngineRequest)
    (h' : (((p.serve first).1.after between).serve second).2 = .ok e') :
    e.number = e'.number ↔
      first.forTasks = second.forTasks ∧ first.key? = second.key? ∧
        EngineShelf.Uncrowded e.key
          (keysOf first.forTasks ((p.serve first).1.obtained between)) := by
  have hmet := met_serve hp h
  have hstart := hp.serve first
  have hbehind : EngineShelf.Behind ((p.serve first).1.shelf e.forTasks) e ∅ := by
    rw [hmet.kind, hmet.used]
    exact EngineShelf.Behind.use_self (hp.nodup _) e
  have hmet' := met_serve (hstart.after between) h'
  rw [← EngineShelf.stays_iff_uncrowded, ← hmet.kind, hmet.key, hmet'.key]
  rcases stays_or_gone hstart hbehind between with ⟨hstays, last, hlast⟩ | ⟨hleft, hgone⟩
  · constructor
    · intro hnumber
      have hold := mem_engines.mpr ⟨_, hlast.mem⟩
      have hbelow := (hstart.after between).below e hold
      obtain rfl : e' = e := by
        rcases hmet'.kept_or_new with ⟨hkept, -⟩ | ⟨hnew, -⟩
        · exact (hstart.after between).unique e hold e' hkept hnumber.symm
        · omega
      exact ⟨hmet'.kind, rfl, hstays⟩
    · rintro ⟨hkind, hkey, -⟩
      rw [hmet'.eq_kept hlast hkind.symm (Option.some.inj hkey).symm]
  · constructor
    · intro hnumber
      exact absurd hnumber.symm (hgone.met hmet').1
    · rintro ⟨-, -, hstays⟩
      exact absurd hstays hleft

/-! ## Requests for many files -/

def sized (n : Nat) : String := "sqlite:///" ++ String.ofList (List.replicate n 'a')

theorem sized_injective : Function.Injective sized := by
  intro m n h
  have hlength := congrArg (fun text => text.toList.length) h
  simpa [sized] using hlength

def requestOfSize (n : Nat) : EngineRequest where
  settings := { Settings.defaults with databaseUrl := sized n }
  forTasks := false
  maker := .embedded

def keyOfSize (n : Nat) : EngineKey := ⟨sized n, false, true⟩

theorem keyOfSize_injective : Function.Injective keyOfSize :=
  fun _ _ h => sized_injective (congrArg EngineKey.url h)

theorem driver_of_sqlite {url : DatabaseUrl} (h : url.scheme = "sqlite") :
    url.driver = .ok ("pysqlite", false) := by
  unfold DatabaseUrl.driver
  rw [h]
  simp [installedDrivers]

theorem make_sized (number n : Nat) :
    ∃ e, EngineMaker.embedded.make number (keyOfSize n) false = .ok e := by
  have htext : (sized n).toList = "sqlite:///".toList ++ List.replicate n 'a' := by
    simp [sized]
  obtain ⟨url, hurl, hscheme, hserver⟩ : ∃ url, DatabaseUrl.ofText (sized n) = .ok url ∧
      url.scheme = "sqlite" ∧ url.namesServer = false := by
    unfold DatabaseUrl.ofText
    rw [htext]
    exact ⟨_, rfl, rfl, rfl⟩
  have hembedded : embeddedUrl (sized n) false = .ok url := by
    unfold embeddedUrl
    rw [hurl]
    simp [Except.mapError, driver_of_sqlite hscheme, hserver, bind, Except.bind, pure, Except.pure]
  refine ⟨⟨number, keyOfSize n, false, "sqlite", url.database⟩, ?_⟩
  simp only [EngineMaker.embedded, keyOfSize, hembedded]

theorem serve_sized (p : EnginePool) (n : Nat) :
    ∃ e, (p.serve (requestOfSize n)).2 = .ok e := by
  change ∃ e, (p.obtain .embedded (keyOfSize n) false).2 = .ok e
  unfold obtain
  cases (p.shelf false).find? (keyOfSize n) with
  | some kept => exact ⟨kept, rfl⟩
  | none =>
    obtain ⟨made, hmade⟩ := make_sized p.made n
    exact ⟨made, by simp only [hmade]⟩

theorem keysOf_obtained_sized (hp : p.Numbered) (sizes : List Nat) :
    keysOf false (p.obtained (sizes.map requestOfSize)) = sizes.map keyOfSize := by
  induction sizes generalizing p with
  | nil => rfl
  | cons n sizes ih =>
    obtain ⟨e, he⟩ := serve_sized p n
    have hmet := met_serve hp he
    have hkey : keyOfSize n = e.key := Option.some.inj hmet.key
    have hkind : e.forTasks = false := hmet.kind
    rw [List.map_cons, List.map_cons, obtained_cons_ok he, keysOf_cons_self hkind, hkey,
      ih (hp.serve _)]

theorem crowded_sized {room : Nat} (hroom : EngineShelf.capacity ≤ room) :
    ¬ EngineShelf.Uncrowded (keyOfSize 0) (((List.range room).map Nat.succ).map keyOfSize) := by
  intro h
  have hnodup : (((List.range room).map Nat.succ).map keyOfSize).Nodup :=
    (List.nodup_range.map Nat.succ_injective).map keyOfSize_injective
  have hother : keyOfSize 0 ∉ ((List.range room).map Nat.succ).map keyOfSize := by
    rw [List.mem_map_of_injective keyOfSize_injective]
    simp
  have hcard := h _ List.infix_rfl hother
  rw [List.toFinset_card_of_nodup hnodup, List.length_map, List.length_map,
    List.length_range] at hcard
  omega

/-! ## Which engines are shared -/

theorem after_append (p : EnginePool) (requests more : List EngineRequest) :
    p.after (requests ++ more) = (p.after requests).after more := List.foldl_append

/-- Which of two requests, anywhere in a run, get the same engine; and what a request that fails
changes. -/
theorem engine_shared_iff (before between : List EngineRequest) (first second : EngineRequest) :
    (∀ e e', ((empty.after before).serve first).2 = .ok e →
      ((empty.after (before ++ first :: between)).serve second).2 = .ok e' →
        (e.number = e'.number ↔
          first.forTasks = second.forTasks ∧ first.key? = second.key? ∧
            EngineShelf.Uncrowded e.key
              (keysOf first.forTasks ((empty.after (before ++ [first])).obtained between)))) ∧
    ∀ failure, ((empty.after before).serve first).2 = .error failure →
      empty.after (before ++ [first]) = empty.after before := by
  have hstart : (empty.after before).Numbered := numbered_empty.after before
  rw [after_append, after_append]
  constructor
  · intro e e' h h'
    exact number_eq_iff hstart h between h'
  · intro failure h
    exact unchanged_of_error h

theorem engine_shared_of_two_files :
    (∃ e e', (empty.serve (requestOfSize 0)).2 = .ok e ∧
      ((empty.after [requestOfSize 0, requestOfSize 1]).serve (requestOfSize 0)).2 = .ok e' ∧
      e.number = e'.number) ∧
    empty.after [{ requestOfSize 0 with forTasks := true }] = empty := by
  constructor
  · obtain ⟨e, he⟩ := serve_sized empty 0
    obtain ⟨e', he'⟩ := serve_sized (empty.after [requestOfSize 0, requestOfSize 1]) 0
    have hiff := (engine_shared_iff [] [requestOfSize 1] (requestOfSize 0) (requestOfSize 0)).1
      e e' he he'
    refine ⟨e, e', he, he', hiff.mpr ⟨rfl, rfl, fun stretch hstretch _ => ?_⟩⟩
    have hnumbered := numbered_empty.serve (requestOfSize 0)
    have hkeys : keysOf false ((empty.after [requestOfSize 0]).obtained [requestOfSize 1]) =
        [keyOfSize 1] := keysOf_obtained_sized hnumbered [1]
    change stretch <:+: keysOf false _ at hstretch
    rw [List.nil_append, hkeys] at hstretch
    calc stretch.toFinset.card ≤ stretch.length := List.toFinset_card_le stretch
      _ ≤ 1 := hstretch.length_le
      _ < EngineShelf.capacity := by decide
  · have hfails := (engine_shared_iff [] [] { requestOfSize 0 with forTasks := true }
      (requestOfSize 0)).2 notConfigured rfl
    exact hfails

/-- With one file more than there are places, the first file gets a second engine. -/
theorem engine_made_twice : ∃ e e',
    (empty.serve (requestOfSize 0)).2 = .ok e ∧
    ((empty.after ((List.range 129).map requestOfSize)).serve (requestOfSize 0)).2 = .ok e' ∧
    e.number ≠ e'.number := by
  obtain ⟨e, he⟩ := serve_sized empty 0
  obtain ⟨e', he'⟩ := serve_sized (empty.after ((List.range 129).map requestOfSize)) 0
  refine ⟨e, e', he, he', fun hnumber => ?_⟩
  have hmet := met_serve numbered_empty he
  have hkey : keyOfSize 0 = e.key := Option.some.inj hmet.key
  rw [List.range_succ_eq_map, List.map_cons, after_cons] at he'
  obtain ⟨-, -, huncrowded⟩ := (number_eq_iff numbered_empty he _ he').mp hnumber
  have hstart := numbered_empty.serve (requestOfSize 0)
  change EngineShelf.Uncrowded _ (keysOf false _) at huncrowded
  rw [keysOf_obtained_sized hstart, ← hkey] at huncrowded
  exact crowded_sized (Nat.le_refl _) huncrowded

end EnginePool

end ObjectCatalog
