import PredictiveParsing.Proofs.Grammar.First
import PredictiveParsing.Proofs.Grammar.LeftRecursion

/-!
What the check for left recursion says of derivations. A cycle of states that can start with
each other is a derivation of a state in front of itself. The converse needs that every state
that can vanish has an empty rule, since the check looks past no other state.
-/
namespace PredictiveParsing.Grammar

/-- The symbols can start with the state: it stands behind epsilons and behind states with an
empty rule, and behind nothing else. -/
inductive CanStartWith (g : Grammar) (name : String) : List Symbol → Prop where
  | here (rest : List Symbol) : CanStartWith g name (.state name :: rest)
  | epsilon {rest : List Symbol} (h : CanStartWith g name rest) :
      CanStartWith g name (.epsilon :: rest)
  | past {other : String} {a : Alternative} {rest : List Symbol} (rule : g.HasRule other a)
      (empty : a.symbols = [.epsilon]) (h : CanStartWith g name rest) :
      CanStartWith g name (.state other :: rest)

/-- Some rule of the first state can start with the second one. -/
def LeftCorner (g : Grammar) (state name : String) : Prop :=
  ∃ a, g.HasRule state a ∧ g.CanStartWith name a.symbols

variable {g : Grammar}

section Corners

theorem hasEpsilonRule_iff_symbols (wf : g.WellFormed) {name : String} :
    g.hasEpsilonRule name = true ↔ ∃ a, g.HasRule name a ∧ a.symbols = [.epsilon] := by
  simp only [hasEpsilonRule_iff wf, Alternative.isEpsilon, beq_iff_eq]

theorem mem_leadingStates_iff (wf : g.WellFormed) {symbols : List Symbol} {name : String} :
    name ∈ g.leadingStates symbols ↔ g.CanStartWith name symbols := by
  induction symbols with
  | nil => exact ⟨nofun, nofun⟩
  | cons y more ih =>
      cases y with
      | token _ => exact ⟨nofun, nofun⟩
      | epsilon =>
          refine ih.trans ⟨.epsilon, fun h => ?_⟩
          cases h with
          | epsilon h => exact h
      | state other =>
          rw [leadingStates]
          constructor
          · intro h
            split at h
            · next vanishes =>
                obtain ⟨a, rule, empty⟩ := (hasEpsilonRule_iff_symbols wf).mp vanishes
                rcases List.mem_cons.mp h with rfl | h
                · exact .here more
                · exact .past rule empty (ih.mp h)
            · obtain rfl := List.mem_singleton.mp h
              exact .here more
          · intro h
            cases h with
            | here => split <;> exact List.mem_cons_self
            | past rule empty h =>
                rw [if_pos ((hasEpsilonRule_iff_symbols wf).mpr ⟨_, rule, empty⟩)]
                exact List.mem_cons_of_mem other (ih.mpr h)

theorem mem_leftCorners_iff (wf : g.WellFormed) {state name : String} :
    name ∈ g.leftCorners state ↔ g.LeftCorner state name := by
  simp only [mem_leftCorners wf, mem_leadingStates_iff wf, LeftCorner]

theorem leftCorners_eq (wf : g.WellFormed) :
    (fun v w => w ∈ g.leftCorners v) = g.LeftCorner := by
  funext v w
  exact propext (mem_leftCorners_iff wf)

end Corners

section Derivation

theorem HasRule.derives_nil {name : String} {a : Alternative} (rule : g.HasRule name a)
    (empty : a.symbols = [.epsilon]) : g.Derives [.state name] [] :=
  (empty ▸ rule.derives).trans (derives_epsilon [])

/-- What stands in front of a state that the symbols can start with vanishes. -/
theorem CanStartWith.derives {name : String} {symbols : List Symbol}
    (h : g.CanStartWith name symbols) : ∃ rest, g.Derives symbols (.state name :: rest) := by
  induction h with
  | here rest => exact ⟨rest, .refl _⟩
  | @epsilon more _ ih =>
      obtain ⟨rest, front⟩ := ih
      exact ⟨rest, (derives_epsilon more).trans front⟩
  | @past other a more rule empty _ ih =>
      obtain ⟨rest, front⟩ := ih
      exact ⟨rest, ((rule.derives_nil empty).drop more).trans front⟩

theorem LeftCorner.derives {state name : String} (h : g.LeftCorner state name) :
    ∃ rest, Relation.TransGen g.Rewrites [.state state] (.state name :: rest) := by
  obtain ⟨a, rule, start⟩ := h
  obtain ⟨rest, front⟩ := start.derives
  have expand : g.Rewrites [.state state] a.symbols := by
    simpa only [List.append_nil] using Rewrites.expand rule []
  exact ⟨rest, .head' expand front⟩

/-- A path of left corners is a derivation that brings its end to the front. -/
theorem derives_of_leftCorners {state name : String}
    (h : Relation.TransGen g.LeftCorner state name) :
    ∃ rest, Relation.TransGen g.Rewrites [.state state] (.state name :: rest) := by
  induction h with
  | single corner => exact corner.derives
  | tail _ corner ih =>
      obtain ⟨rest, path⟩ := ih
      obtain ⟨more, step⟩ := corner.derives
      have behind := step.lift (· ++ rest) fun _ _ h => h.append_right rest
      exact ⟨more ++ rest, path.trans behind⟩

theorem CanStartWith.of_append {name : String} {u v : List Symbol}
    (h : g.CanStartWith name (u ++ v)) :
    g.CanStartWith name u ∨ (g.Derives u [] ∧ g.CanStartWith name v) := by
  induction u with
  | nil => exact .inr ⟨.refl [], h⟩
  | cons y u ih =>
      cases h with
      | here => exact .inl (.here u)
      | epsilon h =>
          rcases ih h with front | ⟨vanish, behind⟩
          · exact .inl (.epsilon front)
          · exact .inr ⟨(derives_epsilon u).trans vanish, behind⟩
      | past rule empty h =>
          rcases ih h with front | ⟨vanish, behind⟩
          · exact .inl (.past rule empty front)
          · exact .inr ⟨((rule.derives_nil empty).drop u).trans vanish, behind⟩

/-- Every state that can vanish has an empty rule. -/
def VanishesByRule (g : Grammar) : Prop :=
  ∀ state ∈ g.states, g.Derives [.state state] [] →
    ∃ a, g.HasRule state a ∧ a.symbols = [.epsilon]

/-- A step of a derivation brings no state to the front but those that a state at the front
can start with. -/
theorem CanStartWith.of_rewrites (vanishing : g.VanishesByRule) {name : String}
    {u v : List Symbol} (step : g.Rewrites u v) (h : g.CanStartWith name v) :
    g.CanStartWith name u ∨ ∃ other, g.CanStartWith other u ∧ g.LeftCorner other name := by
  induction step with
  | @expand state a rule rest =>
      rcases h.of_append with front | ⟨vanish, behind⟩
      · exact .inr ⟨state, .here rest, a, rule, front⟩
      · obtain ⟨b, rule', empty⟩ := vanishing state rule.state_mem (rule.derives.trans vanish)
        exact .inl (.past rule' empty behind)
  | vanish rest => exact .inl (.epsilon h)
  | cons y _ ih =>
      cases h with
      | here => exact .inl (.here _)
      | epsilon h =>
          exact (ih h).imp .epsilon fun ⟨other, front, edge⟩ => ⟨other, .epsilon front, edge⟩
      | past rule empty h =>
          exact (ih h).imp (.past rule empty)
            fun ⟨other, front, edge⟩ => ⟨other, .past rule empty front, edge⟩

theorem leftCorners_of_derives (vanishing : g.VanishesByRule) {name : String}
    {u v : List Symbol} (derives : g.Derives u v) (h : g.CanStartWith name v) :
    ∃ other, g.CanStartWith other u ∧ Relation.ReflTransGen g.LeftCorner other name := by
  -- the state in front is followed back through the steps, up to a state in front of the first form
  induction derives using Relation.ReflTransGen.head_induction_on with
  | refl => exact ⟨name, h, .refl⟩
  | head step _ ih =>
      obtain ⟨other, front, path⟩ := ih
      rcases front.of_rewrites vanishing step with front | ⟨first, front, corner⟩
      · exact ⟨other, front, path⟩
      · exact ⟨first, front, .head corner path⟩

/-- A state that derives itself in front comes back to itself by left corners. -/
theorem cycle_of_derives (vanishing : g.VanishesByRule) {state : String} {rest : List Symbol}
    (h : Relation.TransGen g.Rewrites [.state state] (.state state :: rest)) :
    Relation.TransGen g.LeftCorner state state := by
  obtain ⟨v, step, derives⟩ := Relation.TransGen.head'_iff.mp h
  cases step with
  | @expand _ a rule _ =>
      rw [List.append_nil] at derives
      obtain ⟨other, front, path⟩ := leftCorners_of_derives vanishing derives (.here rest)
      exact .head' ⟨a, rule, front⟩ path
  | cons _ bad => cases bad

end Derivation

/-- The check decides left recursion. A state that it names derives itself in front, and lies on
a cycle of left corners; it passes exactly if there is no such cycle, and then no state derives
itself in front, as long as those that vanish have an empty rule. -/
theorem checkLeftRecursion_exact {patterns : String → Option Text.Matcher} {d : Declarations}
    {g : Grammar} (h : ofDeclarations patterns d = .ok g) :
    (∀ e, g.checkLeftRecursion = .error e → ∃ state rest, e = .leftRecursion state ∧
      Relation.TransGen g.LeftCorner state state ∧
      Relation.TransGen g.Rewrites [.state state] (.state state :: rest)) ∧
    (g.checkLeftRecursion = .ok () → g.VanishesByRule → ∀ state rest,
      ¬Relation.TransGen g.Rewrites [.state state] (.state state :: rest)) ∧
    (g.checkLeftRecursion = .ok () ↔ ∀ state, ¬Relation.TransGen g.LeftCorner state state) := by
  have wf := wellFormed_of_ofDeclarations h
  have passes := checkLeftRecursion_iff wf
  rw [leftCorners_eq wf] at passes
  refine ⟨fun e failed => ?_, fun passed vanishing state rest derives => ?_, passes⟩
  · obtain ⟨state, named, cycle⟩ := cycle_of_checkLeftRecursion failed
    rw [leftCorners_eq wf] at cycle
    obtain ⟨rest, derives⟩ := derives_of_leftCorners cycle
    exact ⟨state, rest, named, cycle, derives⟩
  · exact passes.mp passed state (cycle_of_derives vanishing derives)

/-- A state that comes back to itself behind an optional word. -/
def optionalOpening : Declarations where
  tokens := [⟨"a", "a"⟩, ⟨"b", "b"⟩, ⟨"c", "c"⟩]
  rules := [.ofWords "s" "T" "", .ofWords "T" "c" "", .ofWords "T" "O EPS s b" "",
    .ofWords "O" "a" "", .ofWords "O" "EPS" ""]

/-- A state that comes back to itself behind a token only. -/
def optionalClosing : Declarations where
  tokens := [⟨"a", "a"⟩, ⟨"b", "b"⟩, ⟨"c", "c"⟩]
  rules := [.ofWords "s" "T" "", .ofWords "T" "c" "", .ofWords "T" "O b s" "",
    .ofWords "O" "a O" "", .ofWords "O" "EPS" ""]

theorem checkLeftRecursion_exact_optionalOpening :
    ∃ g g', ofDeclarations Pattern.matcher? optionalOpening = .ok g ∧
      ofDeclarations Pattern.matcher? optionalClosing = .ok g' ∧
      g.checkLeftRecursion = .error (.leftRecursion "s") ∧
      (∃ rest, Relation.TransGen g.Rewrites [.state "s"] (.state "s" :: rest)) ∧
      g'.checkLeftRecursion = .ok () ∧ g'.VanishesByRule ∧ g'.Derives [.state "O"] [] ∧
      ∀ state rest, ¬Relation.TransGen g'.Rewrites [.state state] (.state state :: rest) := by
  obtain ⟨g, resolved, failed⟩ : ∃ g, ofDeclarations Pattern.matcher? optionalOpening = .ok g ∧
      g.checkLeftRecursion = .error (.leftRecursion "s") :=
    ⟨_, rfl, by decide +kernel⟩
  obtain ⟨g', resolved', passed, nullable, empty⟩ :
      ∃ g', ofDeclarations Pattern.matcher? optionalClosing = .ok g' ∧
        g'.checkLeftRecursion = .ok () ∧ g'.firstSets.holds "O" .epsilon = true ∧
        ∀ state ∈ g'.states, g'.firstSets.holds state .epsilon = true →
          g'.hasEpsilonRule state = true :=
    ⟨_, rfl, by decide +kernel, by decide +kernel, by decide +kernel⟩
  have wf' := wellFormed_of_ofDeclarations resolved'
  have vanishing : g'.VanishesByRule := by
    intro state declared vanishes
    have inFirst : g'.firstSets.holds state .epsilon = true := (holds_first_iff wf').mpr vanishes
    exact (hasEpsilonRule_iff_symbols wf').mp (empty state declared inFirst)
  obtain ⟨state, rest, named, -, derives⟩ := (checkLeftRecursion_exact resolved).1 _ failed
  cases named
  exact ⟨g, g', resolved, resolved', failed, ⟨rest, derives⟩, passed, vanishing,
    (holds_first_iff wf').mp nullable, (checkLeftRecursion_exact resolved').2.1 passed vanishing⟩

end PredictiveParsing.Grammar
