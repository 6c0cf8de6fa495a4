import ObjectCatalog.Proofs.Detection.Plans

/-! # What a probe does to its source

The accesses of a whole visit, and how it ends. An ending is decided by the trace: what the last
failed access raised is what the probe raises, and if no access failed, the product decides. The
traces themselves are put together from those of the parts of a probe.
-/
namespace ObjectCatalog.Detection

namespace Plan

variable {α β : Type} {ends : Point → Except Raised Unit}

theorem visit_after (p : Plan α) (next : Except Raised α → Plan β) :
    ((p.after next).visit ends).trace =
        (p.visit ends).trace ++ ((next (p.visit ends).outcome).visit ends).trace ∧
      ((p.after next).visit ends).outcome =
        ((next (p.visit ends).outcome).visit ends).outcome := by
  induction p with
  | done outcome => exact ⟨rfl, rfl⟩
  | report event rest ih => exact ih
  | access point rest ih => exact ⟨congrArg (List.cons point) (ih _).1, (ih _).2⟩

theorem visit_andThen_ok {p : Plan α} {a : α} (h : (p.visit ends).outcome = .ok a)
    (next : α → Plan β) :
    ((p.andThen next).visit ends).trace =
        (p.visit ends).trace ++ ((next a).visit ends).trace ∧
      ((p.andThen next).visit ends).outcome = ((next a).visit ends).outcome := by
  unfold andThen
  rw [(p.visit_after _).1, (p.visit_after _).2, h]
  exact ⟨rfl, rfl⟩

theorem visit_andThen_error {p : Plan α} {r : Raised} (h : (p.visit ends).outcome = .error r)
    (next : α → Plan β) :
    ((p.andThen next).visit ends).trace = (p.visit ends).trace ∧
      ((p.andThen next).visit ends).outcome = .error r := by
  unfold andThen
  rw [(p.visit_after _).1, (p.visit_after _).2, h]
  exact ⟨List.append_nil _, rfl⟩

end Plan

namespace Source

open Plan

variable {α β : Type}

theorem visit_touch (s : Source) (mode : Mode) (point : Point) :
    (touch mode point).visit s.ends = ⟨[point], [], match s.fails point with
      | none => .ok ()
      | some r => .error (mode.passOn r)⟩ := by
  show (⟨[point], [], (s.ends point).mapError mode.passOn⟩ : Visit Unit) = _
  unfold ends
  cases s.fails point <;> rfl

/-! ## How a visit ends -/

def lastRaised? (s : Source) (trace : List Point) : Option Raised :=
  trace.reverse.findSome? s.fails

theorem lastRaised?_append (s : Source) (xs ys : List Point) :
    s.lastRaised? (xs ++ ys) = (s.lastRaised? ys).or (s.lastRaised? xs) := by
  unfold lastRaised?
  rw [List.reverse_append, List.findSome?_append]

theorem lastRaised?_eq_none_iff {s : Source} {trace : List Point} :
    s.lastRaised? trace = none ↔ ∀ point ∈ trace, s.fails point = none := by
  unfold lastRaised?
  simp [List.findSome?_eq_none_iff]

/-- The plan ends with what its last failed access raised, and like this if none failed. -/
def EndsWith (s : Source) (mode : Mode) (p : Plan α) (found : Except Raised α) : Prop :=
  (p.visit s.ends).outcome =
    match s.lastRaised? (p.visit s.ends).trace with
    | some r => .error (mode.passOn r)
    | none => found

namespace EndsWith

variable {s : Source} {mode : Mode} {p : Plan α} {a : α} {r : Raised} {found : Except Raised β}

theorem done (s : Source) (mode : Mode) (found : Except Raised α) :
    s.EndsWith mode (.done found) found := rfl

theorem touch (s : Source) (mode : Mode) (point : Point) :
    s.EndsWith mode (touch mode point) (.ok ()) := by
  unfold EndsWith lastRaised?
  rw [visit_touch]
  cases h : s.fails point <;> simp [h]

theorem andThen {next : α → Plan β} (hp : s.EndsWith mode p (.ok a))
    (hn : s.EndsWith mode (next a) found) : s.EndsWith mode (p.andThen next) found := by
  unfold EndsWith at hp
  cases h : s.lastRaised? (p.visit s.ends).trace with
  | some r =>
    rw [h] at hp
    obtain ⟨htrace, hout⟩ := visit_andThen_error hp next
    unfold EndsWith
    rw [htrace, hout, h]
  | none =>
    rw [h] at hp
    obtain ⟨htrace, hout⟩ := visit_andThen_ok hp next
    unfold EndsWith
    rw [htrace, hout, lastRaised?_append, h, Option.or_none]
    exact hn

theorem andFinally {found : Except Raised α} {last : Plan Unit} (hp : s.EndsWith mode p found)
    (hl : s.EndsWith mode last (.ok ())) : s.EndsWith mode (p.andFinally last) found := by
  unfold EndsWith Plan.andFinally
  rw [(p.visit_after _).1, (p.visit_after _).2, lastRaised?_append]
  unfold EndsWith at hl
  -- A failure of what is done last takes the place of the pending one.
  cases h : s.lastRaised? (last.visit s.ends).trace with
  | some r =>
    rw [h] at hl
    obtain ⟨htrace, hout⟩ := visit_andThen_error hl
      fun () => (Plan.done (p.visit s.ends).outcome : Plan α)
    rw [htrace, hout, h]
    rfl
  | none =>
    rw [h] at hl
    obtain ⟨htrace, hout⟩ := visit_andThen_ok hl
      fun () => (Plan.done (p.visit s.ends).outcome : Plan α)
    rw [htrace, hout]
    simp only [visit, List.append_nil, h, Option.none_or]
    exact hp

theorem report {event : Event} {rest : Plan β} (h : s.EndsWith mode rest found) :
    s.EndsWith mode (.report event rest) found := h

end EndsWith

/-! ## What the product decides -/

def productName? (s : Source) : Option String :=
  match s.product.asText? with
  | some text => some (Text.lower text)
  | none => if s.product.isGiven then none else some ""

theorem productName?_eq (s : Source) :
    s.productName? = match lowerProduct s.product with
      | .ok (.text name) => some name
      | _ => none := by
  unfold productName? lowerProduct
  cases hgiven : s.product.isGiven with
  | true => cases s.product <;> simp [Value.asText?]
  | false =>
    cases hp : s.product with
    | text t =>
      have ht : t = "" := by simpa [hp, Value.isGiven] using hgiven
      subst ht
      rfl
    | member m => simp [hp, Value.isGiven] at hgiven
    | _ => simp [Value.asText?]

def namedFamily? (name : String) (cockroach : Bool) : Option Family :=
  if name = "sqlite" then some .sqlite
  else if name = "mysql" ∨ name = "mariadb" then some .mysql
  else if name = "cockroachdb" then some .cockroachdb
  else if name = "postgresql" then some (if cockroach then .cockroachdb else .postgresql)
  else none

def family? (s : Source) : Option Family :=
  s.productName?.bind fun name => namedFamily? name s.cockroach

/-- How a probe ends if no access fails. -/
def verdict (s : Source) : Except Raised Family :=
  match lowerProduct s.product, s.family? with
  | .error r, _ => .error r
  | .ok _, some family => .ok family
  | .ok product, none => .error (.ofFailure (.store (.unsupported product)))

theorem verdict_eq_ok_iff {s : Source} {f : Family} : s.verdict = .ok f ↔ s.family? = some f := by
  unfold verdict
  cases hl : lowerProduct s.product with
  | error r => simp [family?, productName?_eq, hl]
  | ok product => cases s.family? <;> simp

/-- How a probe with this trace ends. -/
def found (s : Source) (mode : Mode) (trace : List Point) : Except Raised Family :=
  match s.lastRaised? trace with
  | some r => .error (mode.passOn r)
  | none => s.verdict

theorem found_eq_ok_iff {s : Source} {mode : Mode} {trace : List Point} {f : Family} :
    s.found mode trace = .ok f ↔
      (∀ point ∈ trace, s.fails point = none) ∧ s.family? = some f := by
  rw [← lastRaised?_eq_none_iff, ← verdict_eq_ok_iff]
  unfold found
  cases s.lastRaised? trace <;> simp

theorem namedFamily?_of_lookup {name : String} {f : Family}
    (h : familyOfProduct.lookup name = some f) (cockroach : Bool) :
    namedFamily? name cockroach = some f := by
  obtain ⟨before, after, heq, -⟩ := List.lookup_eq_some_iff.mp h
  have hmem : (name, f) ∈ familyOfProduct := heq ▸ List.mem_append_cons_self
  simp only [familyOfProduct, List.mem_cons, Prod.mk.injEq, List.not_mem_nil, or_false] at hmem
  rcases hmem with ⟨rfl, rfl⟩ | ⟨rfl, rfl⟩ | ⟨rfl, rfl⟩ | ⟨rfl, rfl⟩ <;> rfl

theorem namedFamily?_of_lookup_eq_none {name : String}
    (h : familyOfProduct.lookup name = none) (cockroach : Bool) :
    namedFamily? name cockroach =
      if name = "postgresql" then some (if cockroach then .cockroachdb else .postgresql)
      else none := by
  obtain ⟨h₁, h₂, h₃, h₄⟩ : name ≠ "sqlite" ∧ name ≠ "mysql" ∧ name ≠ "mariadb" ∧
      name ≠ "cockroachdb" := by
    simpa [familyOfProduct, List.lookup_eq_none_iff] using h
  unfold namedFamily?
  rw [if_neg h₁, if_neg (not_or.mpr ⟨h₂, h₃⟩), if_neg h₄]

theorem endsWith_inspectSchema (s : Source) (mode : Mode) :
    s.EndsWith mode (s.inspectSchema mode)
      (.ok (if s.cockroach then .cockroachdb else .postgresql)) := by
  have inspected : s.EndsWith mode
      ((Plan.touch mode .inspect).andThen fun () => Plan.touch mode .hasSchema) (.ok ()) :=
    (EndsWith.touch s mode _).andThen (EndsWith.touch s mode _)
  refine (EndsWith.touch s mode _).andThen ?_
  cases s.inTransaction with
  | true => exact inspected.andThen (EndsWith.done s mode _)
  | false =>
    exact (inspected.andFinally (EndsWith.touch s mode _)).andThen (EndsWith.done s mode _)

theorem endsWith_select {s : Source} (mode : Mode) {product : Value}
    (h : lowerProduct s.product = .ok product) :
    s.EndsWith mode (s.select mode product) s.verdict := by
  unfold verdict family?
  rw [s.productName?_eq, h]
  cases product with
  | text name =>
    cases hl : familyOfProduct.lookup name with
    | some f =>
      simp only [select, hl, Option.bind_some, namedFamily?_of_lookup hl]
      exact EndsWith.done s mode _
    | none =>
      simp only [select, hl, Option.bind_some, namedFamily?_of_lookup_eq_none hl]
      by_cases hn : name = "postgresql"
      · simp only [hn, if_true, beq_self_eq_true]
        exact s.endsWith_inspectSchema mode
      · simp only [hn, if_false, beq_iff_eq]
        exact EndsWith.done s mode _
  | _ => exact EndsWith.done s mode _

theorem endsWith_read (s : Source) (mode : Mode) : s.EndsWith mode (s.read mode) s.verdict := by
  refine (EndsWith.touch s mode _).andThen ?_
  cases h : lowerProduct s.product with
  | error r =>
    have hv : s.verdict = .error r := by
      unfold verdict
      rw [h]
    rw [hv]
    exact EndsWith.done s mode _
  | ok product => exact (endsWith_select mode h).report

theorem endsWith_readOpen (s : Source) (mode : Mode) :
    s.EndsWith mode (s.readOpen mode) s.verdict := by
  refine EndsWith.andThen (a := ()) ?_ (EndsWith.andThen (a := ()) ?_ (s.endsWith_read mode))
  · cases mode with
    | blocking => exact EndsWith.done s _ _
    | coroutine => exact EndsWith.touch s _ _
  · cases s.gated with
    | true => exact EndsWith.touch s mode _
    | false => exact EndsWith.done s mode _

/-- A probe ends with what its last failed access raised, or else as the product decides. -/
theorem endsWith_probe (s : Source) (mode : Mode) : s.EndsWith mode (s.probe mode) s.verdict := by
  unfold probe
  cases s.engine with
  | true =>
    exact (EndsWith.touch s mode _).andThen
      ((s.endsWith_readOpen mode).andFinally (EndsWith.touch s mode _))
  | false => exact s.endsWith_readOpen mode

/-! ## Which accesses a visit makes -/

/-- The trace of a plan that goes on after success: that of what follows may be missing. -/
theorem trace_andThen (p : Plan α) (next : α → Plan β) (ends : Point → Except Raised Unit) :
    ((p.andThen next).visit ends).trace = (p.visit ends).trace ++
      match (p.visit ends).outcome with
      | .ok a => ((next a).visit ends).trace
      | .error _ => [] := by
  cases h : (p.visit ends).outcome with
  | ok a => exact (visit_andThen_ok h next).1
  | error r => simpa using (visit_andThen_error h next).1

theorem trace_andThen_done {p : Plan α} {next : α → Plan β} {ends : Point → Except Raised Unit}
    (h : ∀ a, ((next a).visit ends).trace = []) :
    ((p.andThen next).visit ends).trace = (p.visit ends).trace := by
  rw [trace_andThen]
  cases (p.visit ends).outcome with
  | ok a => simp [h a]
  | error r => simp

theorem trace_andFinally (p : Plan α) (last : Plan Unit) (ends : Point → Except Raised Unit) :
    ((p.andFinally last).visit ends).trace = (p.visit ends).trace ++ (last.visit ends).trace := by
  unfold Plan.andFinally
  rw [(p.visit_after _).1, trace_andThen_done fun _ => rfl]

theorem trace_touch_andThen (s : Source) (mode : Mode) (point : Point) (next : Unit → Plan β) :
    (((touch mode point).andThen next).visit s.ends).trace =
      point :: if s.fails point = none then ((next ()).visit s.ends).trace else [] := by
  rw [trace_andThen, visit_touch]
  cases s.fails point <;> simp

def inspection (s : Source) : List Point :=
  .inspect :: if s.fails .inspect = none then [.hasSchema] else []

def inspecting (s : Source) : List Point :=
  .inTransaction :: if s.fails .inTransaction = none then
    s.inspection ++ if s.inTransaction then [] else [.rollback] else []

theorem trace_inspectSchema (s : Source) (mode : Mode) :
    ((s.inspectSchema mode).visit s.ends).trace = s.inspecting := by
  have inspected : (((Plan.touch mode .inspect).andThen fun () =>
      Plan.touch mode .hasSchema).visit s.ends).trace = s.inspection := trace_touch_andThen ..
  unfold inspectSchema inspecting
  rw [trace_touch_andThen, trace_andThen_done fun _ => rfl]
  cases s.inTransaction with
  | true =>
    simp only [if_true, List.append_nil]
    rw [inspected]
  | false =>
    simp only [Bool.false_eq_true, if_false]
    rw [trace_andFinally, inspected]
    rfl

theorem trace_select {s : Source} (mode : Mode) {product : Value}
    (h : lowerProduct s.product = .ok product) :
    ((s.select mode product).visit s.ends).trace =
      if s.productName? = some "postgresql" then s.inspecting else [] := by
  rw [s.productName?_eq, h]
  cases product with
  | text name =>
    simp only [select, Option.some.injEq]
    by_cases hn : name = "postgresql"
    · subst hn
      exact trace_inspectSchema s mode
    · rw [if_neg hn]
      cases familyOfProduct.lookup name with
      | some f => rfl
      | none =>
        simp only [beq_iff_eq, if_neg hn]
        rfl
  | _ => rfl

def distinguishing (s : Source) : List Point :=
  if s.productName? = some "postgresql" then s.inspecting else []

def Reading (s : Source) (trace : List Point) : Prop :=
  ∃ before rest, trace = before ++ rest ∧ before ⊆ [.runSync, .gate, .dialect] ∧
    (rest = [] ∨ rest = s.distinguishing)

namespace Reading

theorem nil (s : Source) : s.Reading [] := ⟨[], [], rfl, List.nil_subset _, .inl rfl⟩

theorem cons {s : Source} {trace : List Point} {point : Point}
    (hp : point ∈ [Point.runSync, .gate, .dialect]) (h : s.Reading trace) :
    s.Reading (point :: trace) := by
  obtain ⟨before, rest, rfl, hbefore, hrest⟩ := h
  exact ⟨point :: before, rest, rfl, List.cons_subset.mpr ⟨hp, hbefore⟩, hrest⟩

theorem touch_andThen {s : Source} {mode : Mode} {point : Point} {next : Unit → Plan β}
    (hp : point ∈ [Point.runSync, .gate, .dialect])
    (h : s.Reading ((next ()).visit s.ends).trace) :
    s.Reading (((touch mode point).andThen next).visit s.ends).trace := by
  rw [trace_touch_andThen]
  refine .cons hp ?_
  split
  · exact h
  · exact .nil s

theorem read (s : Source) (mode : Mode) : s.Reading ((s.read mode).visit s.ends).trace := by
  refine .touch_andThen (by decide) ?_
  cases h : lowerProduct s.product with
  | error r => exact .nil s
  | ok product =>
    exact ⟨[], s.distinguishing, trace_select mode h, List.nil_subset _, .inr rfl⟩

theorem readOpen (s : Source) (mode : Mode) :
    s.Reading ((s.readOpen mode).visit s.ends).trace := by
  unfold Source.readOpen
  have waited : s.Reading ((((if s.gated then Plan.touch mode .gate else .done (.ok ()) :
      Plan Unit)).andThen fun () => s.read mode).visit s.ends).trace := by
    cases s.gated with
    | true => exact .touch_andThen (by decide) (.read s mode)
    | false => exact .read s mode
  cases mode with
  | blocking => exact waited
  | coroutine => exact .touch_andThen (by decide) waited

end Reading

/-- An engine is connected to, and the connection closed whatever has happened on it. -/
theorem trace_probe (s : Source) (mode : Mode) :
    ∃ reading, s.Reading reading ∧ ((s.probe mode).visit s.ends).trace =
      if s.engine then .connect :: if s.fails .connect = none then reading ++ [.close] else []
      else reading := by
  refine ⟨_, .readOpen s mode, ?_⟩
  unfold probe
  cases s.engine with
  | true =>
    simp only [if_true]
    rw [trace_touch_andThen, trace_andFinally]
    rfl
  | false => rfl

end Source

end ObjectCatalog.Detection
