import PredictiveParsing.Proofs.Parsing.Acceptance
import PredictiveParsing.Proofs.Parsing.Soundness

/-!
A parse step by step. A point of it has the symbols to be visited next, with the states that
are being expanded around them, and its steps are those of the visits. A parse goes from point
to point up to the one where it ends, and what one step keeps holds at every point.
-/
namespace PredictiveParsing.Parsing

open Grammar (Symbol Terminal)
open Relation (ReflTransGen)

variable {V P : Type}

/-- A state that is being expanded by a rule, and what is to be done behind it: the symbols
that come next, and the values in front of it. -/
structure Frame (V P : Type) where
  state : String
  entered : Nat
  rule : Rule P
  symbols : List Symbol
  values : List V

/-- A point of a parse. The symbols and the values are those of the innermost state. -/
structure Point (V P : Type) where
  symbols : List Symbol
  values : List V
  frames : List (Frame V P)
  run : Run

namespace Point

/-- The states that are being expanded, with the positions at which they were entered. -/
def calls (p : Point V P) : List (String × Nat) :=
  p.frames.map fun f => (f.state, f.entered)

/-- The point at which a parse starts. -/
def start : Point V P :=
  ⟨[.state Grammar.startName], [], [], .initial⟩

end Point

namespace Compiled

variable {c : Compiled V P} {stream : Stream}

/-- One step of a parse. -/
inductive Goes (c : Compiled V P) (stream : Stream) : Point V P → Point V P → Prop
  | epsilon {symbols values frames r} :
      Goes c stream ⟨.epsilon :: symbols, values, frames, r⟩ ⟨symbols, values, frames, r⟩
  | token {name symbols values frames r v r'} :
      c.visitToken stream frames.length name r = (.ok v, r') →
      Goes c stream ⟨.token name :: symbols, values, frames, r⟩
        ⟨symbols, values ++ [v], frames, r'⟩
  | enter {name symbols values frames r index viaFollow rule} :
      frames.length ≤ c.options.maxDepth → (name, r.cursor) ∉ r.active →
      c.select? name (nextTerminal stream r) = some (index, viaFollow) →
      c.rule? name index = some rule →
      Goes c stream ⟨.state name :: symbols, values, frames, r⟩
        ⟨rule.alternative.symbols, [], ⟨name, r.cursor, rule, symbols, values⟩ :: frames,
          r.enter stream frames.length name rule.alternative viaFollow⟩
  | leave {f values frames r v} :
      c.evaluator.evaluate f.rule.program values = .ok v →
      Goes c stream ⟨[], values, f :: frames, r⟩
        ⟨f.symbols, f.values ++ [v], frames, r.leave f.state f.entered⟩

/-- The outcome of a parse that ends at a point. -/
inductive Stops (c : Compiled V P) (stream : Stream) : Point V P → Outcome V → Prop
  | token {name symbols values frames r e r'} :
      c.visitToken stream frames.length name r = (.error e, r') →
      Stops c stream ⟨.token name :: symbols, values, frames, r⟩ (.error e, r')
  | recursionLimit {name symbols values frames r} : c.options.maxDepth < frames.length →
      Stops c stream ⟨.state name :: symbols, values, frames, r⟩
        (.error (.recursionLimit r.cursor c.options.maxDepth),
          r.record stream frames.length name .recursionLimit)
  | noProgress {name symbols values frames r} : frames.length ≤ c.options.maxDepth →
      (name, r.cursor) ∈ r.active →
      Stops c stream ⟨.state name :: symbols, values, frames, r⟩
        (.error (.noProgress name r.cursor), r.record stream frames.length name .noProgress)
  | refused {name symbols values frames r} : frames.length ≤ c.options.maxDepth →
      (name, r.cursor) ∉ r.active → c.select? name (nextTerminal stream r) = none →
      Stops c stream ⟨.state name :: symbols, values, frames, r⟩
        (unexpected stream frames.length name (.names (c.expectedNames name))
          { r with active := (name, r.cursor) :: r.active })
  | undeclared {name symbols values frames r index viaFollow} :
      frames.length ≤ c.options.maxDepth → (name, r.cursor) ∉ r.active →
      c.select? name (nextTerminal stream r) = some (index, viaFollow) →
      c.rule? name index = none →
      Stops c stream ⟨.state name :: symbols, values, frames, r⟩
        (unexpected stream frames.length name .declaredState
          { r with active := (name, r.cursor) :: r.active })
  | action {f values frames r e} : c.evaluator.evaluate f.rule.program values = .error e →
      Stops c stream ⟨[], values, f :: frames, r⟩
        (.error (.action f.state e), r.leave f.state f.entered)
  | whole {v r} : ¬(c.options.requireEnd && (r.lookahead stream).isSome) = true →
      Stops c stream ⟨[], [v], [], r⟩ (.ok v, r)
  | leftOver {v r} : (c.options.requireEnd && (r.lookahead stream).isSome) = true →
      Stops c stream ⟨[], [v], [], r⟩ (unexpected stream 0 Grammar.startName .endOfInput r)

section Adequacy

/-- From the point on, the parse comes to the result of a visit, or ends with its failure. -/
def Leads {α : Type} (c : Compiled V P) (stream : Stream) (p : Point V P)
    (result : α → Run → Point V P) : Outcome α → Prop
  | (.ok a, r) => ReflTransGen (c.Goes stream) p (result a r)
  | (.error e, r) => ∃ q, ReflTransGen (c.Goes stream) p q ∧ c.Stops stream q (.error e, r)

theorem Leads.of_goes {α : Type} {p q : Point V P} {result : α → Run → Point V P} {o : Outcome α}
    (step : ReflTransGen (c.Goes stream) p q) (h : c.Leads stream q result o) :
    c.Leads stream p result o := by
  obtain ⟨_ | a, r⟩ := o
  · obtain ⟨last, path, stops⟩ := h
    exact ⟨last, step.trans path, stops⟩
  · exact step.trans h

theorem Leads.andThen {α β : Type} {p : Point V P} {result : α → Run → Point V P}
    {result' : β → Run → Point V P} {o : Outcome α} {f : α → Run → Outcome β}
    (h : c.Leads stream p result o)
    (next : ∀ a r, c.Leads stream (result a r) result' (f a r)) :
    c.Leads stream p result' (o.andThen f) := by
  obtain ⟨_ | a, r⟩ := o
  · exact h
  · exact (next a r).of_goes h

theorem visitToken_leads (name : String) (symbols : List Symbol) (values : List V)
    (frames : List (Frame V P)) (r : Run) :
    c.Leads stream ⟨.token name :: symbols, values, frames, r⟩
      (fun v r => ⟨symbols, values ++ [v], frames, r⟩)
      (c.visitToken stream frames.length name r) := by
  cases h : c.visitToken stream frames.length name r with
  | mk result r' =>
      cases result with
      | ok v => exact .single (.token h)
      | error e => exact ⟨_, .refl, .token h⟩

theorem visitSymbols_leads {frames : List (Frame V P)} {visit : String → Run → Outcome V}
    (inside : ∀ name symbols values r, c.Leads stream ⟨.state name :: symbols, values, frames, r⟩
      (fun v r => ⟨symbols, values ++ [v], frames, r⟩) (visit name r))
    (symbols : List Symbol) (values : List V) (r : Run) :
    c.Leads stream ⟨symbols, values, frames, r⟩
      (fun vs r => ⟨[], values ++ vs, frames, r⟩)
      (c.visitSymbols stream frames.length visit symbols r) := by
  induction symbols generalizing values r with
  | nil =>
      rw [visitSymbols, Leads, List.append_nil]
  | cons y more ih =>
      cases y with
      | epsilon => exact (ih values r).of_goes (.single .epsilon)
      | token name =>
          refine (visitToken_leads name more values frames r).andThen fun v r => ?_
          refine (ih (values ++ [v]) r).andThen fun vs r => ?_
          rw [Leads, List.append_assoc, List.singleton_append]
      | state name =>
          refine (inside name more values r).andThen fun v r => ?_
          refine (ih (values ++ [v]) r).andThen fun vs r => ?_
          rw [Leads, List.append_assoc, List.singleton_append]

theorem visitState_leads {levels : Nat} {frames : List (Frame V P)}
    (left : frames.length + levels = c.options.maxDepth + 1) (name : String)
    (symbols : List Symbol) (values : List V) (r : Run) :
    c.Leads stream ⟨.state name :: symbols, values, frames, r⟩
      (fun v r => ⟨symbols, values ++ [v], frames, r⟩)
      (c.visitState stream levels frames.length name r) := by
  induction levels generalizing frames name symbols values r with
  | zero => exact ⟨_, .refl, .recursionLimit (by omega)⟩
  | succ levels ih =>
      have within : frames.length ≤ c.options.maxDepth := by omega
      rw [visitState_succ]
      split
      · next busy => exact ⟨_, .refl, .noProgress within busy⟩
      · next free =>
          rw [expand]
          split
          · next none => exact ⟨_, .refl, .refused within free none⟩
          · next index viaFollow selected =>
              split
              · next none => exact ⟨_, .refl, .undeclared within free selected none⟩
              · next rule found =>
                  -- the rule of the state is visited one frame further in, with a level less
                  refine .of_goes (.single (.enter within free selected found)) ?_
                  refine (visitSymbols_leads (ih ?_) _ _ _).andThen fun vs after => ?_
                  · rw [List.length_cons]
                    omega
                  · rw [List.nil_append]
                    cases result : c.evaluator.evaluate rule.program vs with
                    | ok v => exact .single (.leave result)
                    | error e => exact ⟨_, .refl, .action result⟩

/-- The point is one that a parse comes to. -/
def Reached (c : Compiled V P) (stream : Stream) (p : Point V P) : Prop :=
  ReflTransGen (c.Goes stream) .start p

/-- A parse comes to a point at which it ends, with its outcome. -/
theorem exists_last (c : Compiled V P) (stream : Stream) :
    ∃ last, c.Reached stream last ∧ c.Stops stream last (c.parseStream stream) := by
  have leads : c.Leads stream .start (fun v r => ⟨[], [v], [], r⟩)
      (c.visitState stream (c.options.maxDepth + 1) 0 Grammar.startName .initial) :=
    visitState_leads (Nat.zero_add _) Grammar.startName [] [] .initial
  rw [parseStream]
  cases visited : c.visitState stream (c.options.maxDepth + 1) 0 Grammar.startName .initial with
  | mk result r =>
      rw [visited] at leads
      cases result with
      | error e => exact leads
      | ok v =>
          refine ⟨_, leads, ?_⟩
          simp only [Outcome.andThen]
          split
          · next more => exact .leftOver more
          · next atEnd => exact .whole atEnd

theorem Goes.unique {p q q' : Point V P} (h : c.Goes stream p q) (h' : c.Goes stream p q') :
    q = q' := by
  cases h with
  | epsilon =>
      cases h'
      rfl
  | token taken =>
      cases h' with
      | token taken' =>
          cases taken.symm.trans taken'
          rfl
  | enter _ _ selected found =>
      cases h' with
      | enter _ _ selected' found' =>
          cases selected.symm.trans selected'
          cases found.symm.trans found'
          rfl
  | leave result =>
      cases h' with
      | leave result' =>
          cases result.symm.trans result'
          rfl

/-- A parse does not go on from a point at which it ends. -/
theorem Stops.not_goes {p q : Point V P} {o : Outcome V} (h : c.Stops stream p o) :
    ¬c.Goes stream p q := by
  intro step
  cases step with
  | epsilon => cases h
  | token taken =>
      cases h with
      | token failed => cases taken.symm.trans failed
  | enter within free selected found =>
      cases h with
      | recursionLimit deep => exact absurd within (Nat.not_le.mpr deep)
      | noProgress _ busy => exact free busy
      | refused _ _ none => cases selected.symm.trans none
      | undeclared _ _ selected' none =>
          cases selected.symm.trans selected'
          cases found.symm.trans none
  | leave result =>
      cases h with
      | action failed => cases result.symm.trans failed

/-- Every point that a parse comes to is on the way to where it ends. -/
theorem Reached.leads {p last : Point V P} {o : Outcome V} (h : c.Reached stream p)
    (reached : c.Reached stream last) (stops : c.Stops stream last o) :
    ReflTransGen (c.Goes stream) p last := by
  have unique : Relator.RightUnique (c.Goes stream) := fun _ _ _ => Goes.unique
  rcases ReflTransGen.total_of_right_unique unique h reached with path | path
  · exact path
  · rcases ReflTransGen.cases_head path with rfl | ⟨_, step, -⟩
    · exact .refl
    · exact absurd step stops.not_goes

end Adequacy

section Safety

/-- The position is inside the stream, the active states are those that are being expanded,
none of them twice, and every state that is to be visited is declared. -/
structure Safe (c : Compiled V P) (stream : Stream) (p : Point V P) : Prop where
  cursor : p.run.cursor ≤ stream.tokens.size
  active : p.run.active = p.calls
  nodup : p.calls.Nodup
  declared : ∀ name, .state name ∈ p.symbols → name ∈ c.grammar.states
  outside : ∀ f ∈ p.frames, ∀ name, .state name ∈ f.symbols → name ∈ c.grammar.states

theorem safe_start (wf : c.WellFormed) (stream : Stream) : c.Safe stream .start :=
  { cursor := Nat.zero_le _
    active := rfl
    nodup := .nil
    declared := by
      rintro name named
      cases List.mem_singleton.mp named
      exact wf.grammar.start_declared
    outside := nofun }

theorem Safe.leave_active {f : Frame V P} {symbols : List Symbol} {values : List V}
    {frames : List (Frame V P)} {r : Run}
    (safe : c.Safe stream ⟨symbols, values, f :: frames, r⟩) :
    (r.leave f.state f.entered).active = frames.map fun f => (f.state, f.entered) := by
  have active : r.active = (f.state, f.entered) :: frames.map fun f => (f.state, f.entered) :=
    safe.active
  rw [Run.leave, active]
  exact List.erase_cons_head ..

theorem Goes.safe (wf : c.WellFormed) {p q : Point V P} (h : c.Goes stream p q)
    (safe : c.Safe stream p) : c.Safe stream q := by
  have ⟨cursor, active, nodup, declared, outside⟩ := safe
  cases h with
  | epsilon =>
      exact { safe with declared := fun name named => declared name (List.mem_cons_of_mem _ named) }
  | token taken =>
      obtain ⟨t, ahead, -, -, rfl⟩ := visitToken_eq_ok taken
      exact
        { safe with
          cursor := (Array.getElem?_eq_some_iff.mp ahead).1
          declared := fun name named => declared name (List.mem_cons_of_mem _ named) }
  | @enter name symbols values frames r index viaFollow rule within free selected found =>
      have rules := Grammar.hasRule_of_alternative? (rule?_ok wf found).1
      refine
        { cursor := cursor
          active := ?_
          nodup := ?_
          declared := fun _ named => wf.grammar.state_declared rules named
          outside := ?_ }
      · exact congrArg _ active
      · have same : r.active = frames.map fun f => (f.state, f.entered) := active
        exact List.nodup_cons.mpr ⟨same ▸ free, nodup⟩
      · intro f hf other named
        rcases List.mem_cons.mp hf with rfl | hf
        · exact declared other (List.mem_cons_of_mem _ named)
        · exact outside f hf other named
  | @leave f values frames r v result =>
      exact
        { cursor := cursor
          active := safe.leave_active
          nodup := (List.nodup_cons.mp nodup).2
          declared := outside f List.mem_cons_self
          outside := fun f' hf' => outside f' (List.mem_cons_of_mem _ hf') }

theorem Reached.safe (wf : c.WellFormed) {p : Point V P} (h : c.Reached stream p) :
    c.Safe stream p := by
  induction h with
  | refl => exact safe_start wf stream
  | tail _ step ih => exact step.safe wf ih

theorem Goes.cursor_le {p q : Point V P} (h : c.Goes stream p q) :
    p.run.cursor ≤ q.run.cursor := by
  cases h with
  | epsilon | enter _ _ _ _ | leave _ => exact Nat.le_refl _
  | token taken =>
      obtain ⟨t, -, -, -, rfl⟩ := visitToken_eq_ok taken
      exact Nat.le_succ _

/-- Where a parse ends the position is that of the last point. A state that is refused is active
as well then, and one whose action fails is not any more. -/
theorem Stops.run_of_safe {p : Point V P} {o : Outcome V} (h : c.Stops stream p o)
    (safe : c.Safe stream p) :
    o.2.cursor = p.run.cursor ∧
      (o.2.active = p.calls ∨
        (∃ name symbols, p.symbols = .state name :: symbols ∧
          o.2.active = (name, p.run.cursor) :: p.calls) ∨
        p.symbols = [] ∧ o.2.active = p.calls.tail) := by
  have active := safe.active
  cases h with
  | token failed =>
      cases visitToken_eq_error failed
      exact ⟨rfl, .inl active⟩
  | recursionLimit _ | noProgress _ _ | whole _ | leftOver _ => exact ⟨rfl, .inl active⟩
  | refused _ _ _ | undeclared _ _ _ _ =>
      exact ⟨rfl, .inr (.inl ⟨_, _, rfl, congrArg _ active⟩)⟩
  | action _ => exact ⟨rfl, .inr (.inr ⟨rfl, safe.leave_active⟩)⟩

end Safety

section Table

/-- The index of an entry is that of an alternative, and its program is prepared from the
action of that alternative. -/
theorem prepared_of_entry (wf : c.WellFormed) {state : String} {index : Nat}
    (entry : (∃ token, c.table.rule? state token = some index) ∨
      c.table.emptyRule? state = some index) :
    ∃ p rule, c.grammar.production? state = some p ∧
      p.alternatives[index]? = some rule.alternative ∧ c.rule? state index = some rule ∧
      c.evaluator.prepare rule.alternative.action = .ok rule.program := by
  obtain ⟨a, ha⟩ : ∃ a, c.grammar.alternative? state index = some a := by
    rw [wf.table_eq] at entry
    rcases entry with ⟨token, chosen⟩ | empty
    · obtain ⟨-, ⟨a, ha, -⟩, -⟩ := Grammar.rule?_eq_some.mp chosen
      exact ⟨a, ha⟩
    · obtain ⟨a, ha, -⟩ := Grammar.emptyRule?_nullable empty
      exact ⟨a, ha⟩
  obtain ⟨rule, found, rfl⟩ := exists_rule wf ha
  obtain ⟨p, declared, listed⟩ := Option.bind_eq_some_iff.mp ha
  exact ⟨p, rule, declared, listed, found, (rule?_ok wf found).2⟩

theorem entry_of_select? {state : String} {next : Terminal} {index : Nat} {viaFollow : Bool}
    (h : c.select? state next = some (index, viaFollow)) :
    (∃ token, c.table.rule? state token = some index) ∨
      c.table.emptyRule? state = some index := by
  cases viaFollow with
  | false =>
      obtain ⟨token, -, chosen⟩ := select?_eq_table.mp h
      exact .inl ⟨token, chosen⟩
  | true => exact .inr (select?_eq_follow.mp h).2.2

/-- A rule that is selected is there, so that no visit ends for want of a declared state. -/
theorem Stops.ne_declaredState (wf : c.WellFormed) {p : Point V P} {o : Outcome V}
    (h : c.Stops stream p o) (position offset : Nat) (found : Option Token) :
    o.1 ≠ .error (.unexpected position offset found .declaredState) := by
  cases h with
  | token failed =>
      cases visitToken_eq_error failed
      nofun
  | recursionLimit _ | noProgress _ _ | whole _ | leftOver _ | refused _ _ _ | action _ => nofun
  | undeclared _ _ selected none =>
      obtain ⟨_, _, -, -, there, -⟩ := prepared_of_entry wf (entry_of_select? selected)
      cases none.symm.trans there

theorem parse_ne_declaredState (wf : c.WellFormed) (input : String) (position offset : Nat)
    (found : Option Token) :
    c.parse input ≠ .error (.unexpected position offset found .declaredState) := by
  rw [parse]
  cases ht : c.tokenize input with
  | error e =>
      rintro ⟨⟩
      obtain ⟨_, _, he⟩ := tokenize_error ht
      cases he
  | ok stream =>
      obtain ⟨last, -, stops⟩ := exists_last c stream
      exact stops.ne_declaredState wf position offset found

theorem cellRule?_lt (wf : c.WellFormed) {p : Grammar.Production}
    (declared : p ∈ c.grammar.productions) {t : Terminal} {index : Nat}
    (shown : Report.cellRule? c.table c.follow p.lhs t = some index) :
    index < p.alternatives.length := by
  rw [cellRule?_eq] at shown
  obtain ⟨⟨_, viaFollow⟩, selected, rfl⟩ := Option.map_eq_some_iff.mp shown
  obtain ⟨q, rule, found, listed, -⟩ := prepared_of_entry wf (entry_of_select? selected)
  cases found.symm.trans ((Grammar.production?_eq_some wf.grammar).mpr ⟨declared, rfl⟩)
  exact (List.getElem?_eq_some_iff.mp listed).1

end Table

/-- Every parse goes from point to point up to the one where it ends with its outcome. At every
point the position is inside the stream, the active states are those that are being expanded,
each of them once, and the states to be visited have productions; no step goes back. A visit
with a value leaves the active states as they were. Every entry of the table is the index of an
alternative with the program of its action, so that no parse ends for want of a declared state,
and no cell of the printed table is without its alternative. -/
theorem course_safe {patterns : String → Option Text.Matcher}
    {evaluator : Action.Evaluator V P} {options : Options} {d : Grammar.Declarations}
    (h : ofDeclarations patterns evaluator options d = .ok c) :
    (∀ stream, ∃ last, c.Reached stream last ∧ c.Stops stream last (c.parseStream stream) ∧
      (∀ p, c.Reached stream p → ReflTransGen (c.Goes stream) p last) ∧
      (c.parseStream stream).2.cursor = last.run.cursor ∧
      ((c.parseStream stream).2.active = last.calls ∨
        (∃ name symbols, last.symbols = .state name :: symbols ∧
          (c.parseStream stream).2.active = (name, last.run.cursor) :: last.calls) ∨
        last.symbols = [] ∧ (c.parseStream stream).2.active = last.calls.tail)) ∧
    (∀ stream p, c.Reached stream p →
      p.run.cursor ≤ stream.tokens.size ∧ p.run.active = p.calls ∧ p.calls.Nodup ∧
      (∀ name, .state name ∈ p.symbols →
        ∃ production, c.grammar.production? name = some production) ∧
      ∀ q, c.Goes stream p q → p.run.cursor ≤ q.run.cursor) ∧
    (∀ stream levels depth state r v r',
      c.visitState stream levels depth state r = (.ok v, r') → r'.active = r.active) ∧
    (∀ state index, (∃ token, c.table.rule? state token = some index) ∨
        c.table.emptyRule? state = some index →
      ∃ p rule, c.grammar.production? state = some p ∧
        p.alternatives[index]? = some rule.alternative ∧ c.rule? state index = some rule ∧
        evaluator.prepare rule.alternative.action = .ok rule.program) ∧
    (∀ input position offset found,
      c.parse input ≠ .error (.unexpected position offset found .declaredState)) ∧
    (∀ p ∈ c.grammar.productions, ∀ t index,
      Report.cellRule? c.table c.follow p.lhs t = some index → index < p.alternatives.length) := by
  obtain ⟨wf, rfl, -⟩ := ofDeclarations_ok h
  refine ⟨fun stream => ?_, fun stream p reached => ?_, fun _ _ _ _ _ _ _ visited => ?_,
    fun _ _ => prepared_of_entry wf, parse_ne_declaredState wf, fun p hp _ _ => cellRule?_lt wf hp⟩
  · obtain ⟨last, reached, stops⟩ := exists_last c stream
    exact ⟨last, reached, stops, fun p at_p => at_p.leads reached stops,
      stops.run_of_safe (reached.safe wf)⟩
  · have safe := reached.safe wf
    refine ⟨safe.cursor, safe.active, safe.nodup, fun name named => ?_, fun q => Goes.cursor_le⟩
    obtain ⟨p, hp, same⟩ := List.mem_map.mp (safe.declared name named)
    exact ⟨p, (Grammar.production?_eq_some wf.grammar).mpr ⟨hp, same⟩⟩
  · obtain ⟨_, -, -, reads⟩ := visitState_sound wf visited
    exact reads.active

theorem course_safe_repetition :
    ∃ c stream, ofDeclarations Pattern.matcher? Action.outline .standard repetition = .ok c ∧
      c.tokenize "ab" = .ok stream ∧
      (∃ last v r, c.Reached stream last ∧ c.Stops stream last (.ok v, r) ∧
        r.cursor = 2 ∧ last.run.cursor = 2) ∧
      (∃ q, c.Goes stream .start q ∧ q.run.active = [("s", 0)] ∧
        ∃ production, c.grammar.production? "A" = some production) ∧
      c.table.emptyRule? "A" = some 1 ∧
      ∃ p rule, c.grammar.production? "A" = some p ∧
        p.alternatives[1]? = some rule.alternative ∧ c.rule? "A" 1 = some rule ∧
        Action.outline.prepare rule.alternative.action = .ok rule.program := by
  obtain ⟨c, stream, compiled, tokens, ⟨v, r, parsed, whole⟩, selected, opening, empty⟩ :
      ∃ c stream, ofDeclarations Pattern.matcher? Action.outline .standard repetition = .ok c ∧
        c.tokenize "ab" = .ok stream ∧
        (∃ v r, c.parseStream stream = (.ok v, r) ∧ r.cursor = 2) ∧
        c.select? "s" (nextTerminal stream .initial) = some (0, false) ∧
        c.grammar.alternative? "s" 0 = some ⟨[.state "A", .epsilon, .token "b"], "x"⟩ ∧
        c.table.emptyRule? "A" = some 1 :=
    ⟨_, ⟨#[⟨"a", "a", 0⟩, ⟨"b", "b", 1⟩], 2⟩, rfl, by with_unfolding_all rfl,
      ⟨_, _, by with_unfolding_all rfl, rfl⟩, by decide +kernel, by decide +kernel,
      by decide +kernel⟩
  obtain ⟨courses, safe, -, entries, -⟩ := course_safe compiled
  obtain ⟨last, reached, stops, -, same, -⟩ := courses stream
  obtain ⟨wf, -⟩ := ofDeclarations_ok compiled
  obtain ⟨rule, found, expanded⟩ := exists_rule wf opening
  have step : c.Goes stream .start ⟨rule.alternative.symbols, [], [⟨"s", 0, rule, [], []⟩],
      Run.initial.enter stream 0 "s" rule.alternative false⟩ :=
    .enter (Nat.zero_le _) List.not_mem_nil selected found
  obtain ⟨-, active, -, declared, -⟩ := safe stream _ (.single step)
  rw [parsed] at stops same
  refine ⟨c, stream, compiled, tokens, ⟨last, v, r, reached, stops, whole, same.symm.trans whole⟩,
    ⟨_, step, active, declared "A" ?_⟩, empty, entries "A" 1 (.inr empty)⟩
  simp [expanded]

end Compiled
end PredictiveParsing.Parsing
