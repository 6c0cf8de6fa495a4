import ObjectCatalog.Log.Transaction
import ObjectCatalog.Proofs.Log.Handling
import ObjectCatalog.Proofs.Log.Passwords

/-! # Transactions inside of one another

What a program sees of its transaction is the identifier of the innermost block around it. When a
block ends there is again what was there before it, however it ends and however many blocks an
error passes through. That holds of blocks that are entered and left, and as well of blocks that
set the identifier and restore it with a token of their own. The identifier that a record is given
in a block stays with it when it comes to other handlers, and in other blocks.
-/
namespace ObjectCatalog

/-! ## Identifiers of records -/

namespace Record

variable {r : Record}

def IsStamped (r : Record) : Prop := ∃ v, r.attribute? transactionKey = some v ∧ v.isGiven = true

theorem isStamped_identify (current : Option String) (r : Record) : (r.identify current).IsStamped :=
  ⟨_, attribute?_identify current r, isGiven_chooseTransaction _ current⟩

theorem isGiven_redactText {v : Value} (h : v.isGiven = true) : (redactText v).isGiven = true := by
  cases v with
  | text s =>
    have hs : s ≠ "" := by simpa [Value.isGiven] using h
    have hredacted : Redaction.redactMarked s ≠ "" := by
      rw [Redaction.redactMarked_eq]
      exact Redaction.redact_ne_empty hs
    simpa [redactText, Value.isGiven] using hredacted
  | _ => exact h

theorem isStamped_redact (h : r.IsStamped) : r.redact.IsStamped := by
  obtain ⟨v, hv, hgiven⟩ := h
  exact ⟨redactText v, by rw [attribute?_transactionKey_redact, hv]; rfl, isGiven_redactText hgiven⟩

def passAll (r : Record) (uses : List (Option String × RecordFilter)) : Record :=
  uses.foldl (fun s use => RecordFilter.apply use.1 s use.2) r

/-- Identifiers are not given a second time, whatever else happens to the record. -/
theorem passAll_of_isStamped (h : r.IsStamped) (uses : List (Option String × RecordFilter)) :
    r.passAll uses = r.passAll (uses.filter fun use => use.2 = .redaction) := by
  induction uses generalizing r with
  | nil => rfl
  | cons use uses ih =>
    obtain ⟨current, filter⟩ := use
    cases filter with
    | transaction =>
      obtain ⟨v, hv, hgiven⟩ := h
      have hsame : r.identify current = r := identify_of_given hv hgiven current
      exact (congrArg (passAll · uses) hsame).trans (ih ⟨v, hv, hgiven⟩)
    | redaction => exact ih (isStamped_redact h)

end Record

namespace Transactions

variable {fresh : Nat → String} {t u : Transactions} {id : Option String}

/-! ## Blocks -/

def yielded (fresh : Nat → String) (t : Transactions) (id : Option String) : String :=
  match id with
  | some given => if given = "" then fresh t.made else given
  | none => fresh t.made

structure Keeps (t u : Transactions) : Prop where
  current : u.current = t.current
  blocks : u.blocks = t.blocks
  tokens : t.tokens <+: u.tokens

namespace Keeps

theorem refl (t : Transactions) : t.Keeps t := ⟨rfl, rfl, List.prefix_rfl⟩

theorem trans {v : Transactions} (h : t.Keeps u) (h' : u.Keeps v) : t.Keeps v :=
  ⟨h'.current.trans h.current, h'.blocks.trans h.blocks, h.tokens.trans h'.tokens⟩

end Keeps

/-- How blocks are opened, and how they are closed by the number that the next token had when they
were opened. -/
structure Bracket where
  opened : Transactions → Option String → Transactions
  closed : Nat → Transactions → Except TransactionError Transactions

def stacked (fresh : Nat → String) : Bracket where
  opened := enter fresh
  closed _ t := t.leave

def tokened (fresh : Nat → String) : Bracket where
  opened t id := { t.assign (some (t.yielded fresh id)) with made := (t.enter fresh id).made }
  closed token t := t.restore token

/-- Opening a block makes its identifier the current one. If what is inside keeps that, the block
can be closed, and then all is as it was before. -/
structure Bracket.Lawful (fresh : Nat → String) (how : Bracket) : Prop where
  current (t : Transactions) (id : Option String) :
    (how.opened t id).current = some (t.yielded fresh id)
  closing {t u : Transactions} {id : Option String} (h : (how.opened t id).Keeps u) :
    ∃ v, how.closed t.tokens.length u = .ok v ∧ t.Keeps v

theorem enter_spec (fresh : Nat → String) (t : Transactions) (id : Option String) :
    (t.enter fresh id).current = some (t.yielded fresh id) ∧
      (t.enter fresh id).blocks = t.current :: t.blocks ∧ (t.enter fresh id).tokens = t.tokens := by
  cases id with
  | none => exact ⟨rfl, rfl, rfl⟩
  | some given => by_cases h : given = "" <;> simp [enter, yielded, h, Option.filter]

theorem lawful_stacked (fresh : Nat → String) : (stacked fresh).Lawful fresh := by
  refine ⟨fun t id => (enter_spec fresh t id).1, fun {t u id} h => ?_⟩
  obtain ⟨-, hblocks, htokens⟩ := enter_spec fresh t id
  have hopen : u.blocks = t.current :: t.blocks := h.blocks.trans hblocks
  refine ⟨{ u with current := t.current, blocks := t.blocks }, ?_, rfl, rfl, ?_⟩
  · simp [stacked, leave, hopen]
  · exact htokens ▸ h.tokens

/-- Nobody but the block itself restores with its token, so that this can still be done in the
end. -/
theorem lawful_tokened (fresh : Nat → String) : (tokened fresh).Lawful fresh := by
  refine ⟨fun t id => rfl, fun {t u id} h => ?_⟩
  obtain ⟨later, htokens⟩ := h.tokens
  have hown : u.tokens[t.tokens.length]? = some ⟨t.current, false⟩ := by
    rw [← htokens]
    simp [tokened, assign]
  refine ⟨{ u with
    current := t.current
    tokens := u.tokens.set t.tokens.length ⟨t.current, true⟩ }, ?_, rfl, h.blocks, ?_⟩
  · simp [tokened, restore, hown]
  · rw [← htokens]
    simp [tokened, assign]

/-! ## Programs -/

/-- What a program does as far as identifiers are concerned: it sees the current one and can go by
it, logs a record, opens a block, which hands its identifier to what is inside, fails, or has
failures handled. -/
inductive Program
  | done
  | fail
  | look (next : Option String → Program)
  | log (r : Record) (next : Program)
  | block (id : Option String) (inside : String → Program) (next : Program)
  | guarded (inside handler next : Program)

inductive Event
  /-- The current identifier, and that of the innermost block. -/
  | seen (innermost current : Option String)
  | logged (innermost : Option String) (r stamped : Record)
  /-- The end of a block, with the current identifiers before and behind it. -/
  | ended (before behind : Option String)

inductive Ending
  | returned
  | raised
  | broken (e : TransactionError)

structure Course where
  events : List Event
  after : Transactions
  ending : Ending

namespace Course

def behind (events : List Event) (c : Course) : Course := { c with events := events ++ c.events }

def next (c : Course) (rest : Transactions → Course) : Course :=
  match c.ending with
  | .returned => (rest c.after).behind c.events
  | _ => c

def rescue (c : Course) (handler : Transactions → Course) : Course :=
  match c.ending with
  | .raised => (handler c.after).behind c.events
  | _ => c

def close (how : Bracket) (t : Transactions) (c : Course) : Course :=
  match how.closed t.tokens.length c.after with
  | .ok after => ⟨c.events ++ [.ended t.current after.current], after, c.ending⟩
  | .error e => { c with ending := .broken e }

end Course

def run (fresh : Nat → String) (how : Bracket) : Program → List String → Transactions → Course
  | .done, _, t => ⟨[], t, .returned⟩
  | .fail, _, t => ⟨[], t, .raised⟩
  | .look next, ids, t =>
    (run fresh how (next t.current) ids t).behind [.seen ids.head? t.current]
  | .log r next, ids, t =>
    (run fresh how next ids t).behind [.logged ids.head? r (r.identify t.current)]
  | .block id inside next, ids, t =>
    let own := t.yielded fresh id
    ((run fresh how (inside own) (own :: ids) (how.opened t id)).close how t).next
      (run fresh how next ids)
  | .guarded inside handler next, ids, t =>
    ((run fresh how inside ids t).rescue (run fresh how handler ids)).next (run fresh how next ids)

/-! ## What programs see -/

/-- What is seen and logged goes by the innermost block, and by what was there outside of all
blocks; a block leaves nothing behind. -/
def Event.Nests (outside : Option String) : Event → Prop
  | .seen innermost current => current = innermost.or outside
  | .logged innermost r stamped => stamped = r.identify (innermost.or outside) ∧
      ∀ id, innermost = some id → id ≠ "" →
        (r.attribute? Record.transactionKey).filter Value.isGiven = none →
          stamped.attribute? Record.transactionKey = some (.text id)
  | .ended before behind => behind = before

structure Course.Nests (outside : Option String) (t : Transactions) (c : Course) : Prop where
  events : ∀ e ∈ c.events, e.Nests outside
  keeps : t.Keeps c.after
  unbroken : ∀ e, c.ending ≠ .broken e

namespace Course.Nests

variable {outside : Option String} {c : Course} {rest : Transactions → Course}

theorem behind {events : List Event} (h : c.Nests outside t)
    (hevents : ∀ e ∈ events, e.Nests outside) : (c.behind events).Nests outside t :=
  ⟨List.forall_mem_append.mpr ⟨hevents, h.events⟩, h.keeps, h.unbroken⟩

theorem andThen (h : c.Nests outside t) (hrest : ∀ u, t.Keeps u → (rest u).Nests outside u) :
    ((rest c.after).behind c.events).Nests outside t := by
  have hafter := hrest c.after h.keeps
  exact ⟨(hafter.behind h.events).events, h.keeps.trans hafter.keeps, hafter.unbroken⟩

theorem next (h : c.Nests outside t) (hrest : ∀ u, t.Keeps u → (rest u).Nests outside u) :
    (c.next rest).Nests outside t := by
  unfold Course.next
  split
  · exact h.andThen hrest
  · exact h

theorem rescue (h : c.Nests outside t) (hrest : ∀ u, t.Keeps u → (rest u).Nests outside u) :
    (c.rescue rest).Nests outside t := by
  unfold Course.rescue
  split
  · exact h.andThen hrest
  · exact h

theorem close {how : Bracket} (hhow : how.Lawful fresh) (h : c.Nests outside (how.opened t id)) :
    (c.close how t).Nests outside t := by
  obtain ⟨v, hclosed, hkeeps⟩ := hhow.closing h.keeps
  unfold Course.close
  rw [hclosed]
  refine ⟨List.forall_mem_append.mpr ⟨h.events, ?_⟩, hkeeps, h.unbroken⟩
  simpa [Event.Nests] using hkeeps.current

end Course.Nests

/-- Inside of blocks, the innermost of them has set the current identifier. -/
theorem nests_run {how : Bracket} (hhow : how.Lawful fresh) {outside : Option String} (p : Program) :
    ∀ (ids : List String) (t : Transactions), t.current = ids.head?.or outside →
      (run fresh how p ids t).Nests outside t := by
  induction p with
  | done =>
    intro ids t _
    exact ⟨List.forall_mem_nil _, .refl t, nofun⟩
  | fail =>
    intro ids t _
    exact ⟨List.forall_mem_nil _, .refl t, nofun⟩
  | look next ih =>
    intro ids t hcurrent
    refine (ih t.current ids t hcurrent).behind ?_
    simpa [Event.Nests] using hcurrent
  | log r next ih =>
    intro ids t hcurrent
    refine (ih ids t hcurrent).behind (List.forall_mem_singleton.mpr ⟨by rw [hcurrent], ?_⟩)
    intro id hid hgiven hown
    rw [hcurrent, hid, Option.some_or, Record.attribute?_identify,
      Record.chooseTransaction_of_filter_eq_none hown hgiven]
  | block id inside next ihInside ihNext =>
    intro ids t hcurrent
    have hinside := ihInside (t.yielded fresh id) (t.yielded fresh id :: ids) (how.opened t id)
      (hhow.current t id)
    -- Behind the block the current identifier is that of the block around it again.
    exact (hinside.close hhow).next fun u hkeeps => ihNext ids u (hkeeps.current.trans hcurrent)
  | guarded inside handler next ihInside ihHandler ihNext =>
    intro ids t hcurrent
    have hinside := ihInside ids t hcurrent
    have hhandled := hinside.rescue fun u hkeeps => ihHandler ids u (hkeeps.current.trans hcurrent)
    exact hhandled.next fun u hkeeps => ihNext ids u (hkeeps.current.trans hcurrent)

/-- Whatever a program does, it sees the identifier of the innermost block, and its blocks leave the
current one as it was, in either form of blocks. A record that has been given an identifier keeps it
from then on. -/
theorem identifiers_nest (fresh : Nat → String) (p : Program) (t : Transactions) :
    (∀ how ∈ [stacked fresh, tokened fresh], (run fresh how p [] t).Nests t.current t) ∧
      ∀ (r : Record) (current : Option String),
        (∀ later : List (Option String),
          later.foldl (fun s c => s.identify c) (r.identify current) = r.identify current) ∧
        ∀ uses : List (Option String × RecordFilter), (r.identify current).passAll uses =
          (r.identify current).passAll (uses.filter fun use => use.2 = .redaction) := by
  refine ⟨fun how hhow => ?_, fun r current => ⟨fun later => ?_, fun uses => ?_⟩⟩
  · have hlawful : how.Lawful fresh := by
      simp only [List.mem_cons, List.not_mem_nil, or_false] at hhow
      rcases hhow with rfl | rfl
      · exact lawful_stacked fresh
      · exact lawful_tokened fresh
    exact nests_run hlawful p [] t rfl
  · induction later with
    | nil => rfl
    | cons c later ih => rw [List.foldl_cons, Record.identify_identify, ih]
  · exact Record.passAll_of_isStamped (Record.isStamped_identify current r) uses

/-- An error passes through two blocks with fresh identifiers, and is handled in the block around
them. -/
def retrying : Program :=
  .block (some "t1") (fun _ => .guarded
    (.block none (fun _ => .block (some "") (fun own =>
      .look fun current => if current = some own then .fail else .done) .done) .done)
    (.look fun _ => .done) .done) (.look fun _ => .done)

def numbered (n : Nat) : String := String.ofList ['f', Char.ofNat (48 + n)]

theorem identifiers_nest_retrying :
    (run numbered (tokened numbered) retrying [] empty).events =
      [.seen (some "f1") (some "f1"), .ended (some "f0") (some "f0"),
        .ended (some "t1") (some "t1"), .seen (some "t1") (some "t1"), .ended none none,
        .seen none none] ∧
    (run numbered (tokened numbered) retrying [] empty).Nests none empty :=
  ⟨rfl, (identifiers_nest numbered retrying empty).1 _ (by simp)⟩

end Transactions

end ObjectCatalog
