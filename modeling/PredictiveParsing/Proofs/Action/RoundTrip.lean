import PredictiveParsing.Action.Evaluator
import PredictiveParsing.Proofs.Action.Reading
import PredictiveParsing.Proofs.Action.Scanning

/-!
The round trip of programs. What is written of a program is scanned as its tokens, and these
are read as the program.
-/
namespace PredictiveParsing.Action

theorem Token.InExpr.scannable {t : Token} (h : t.InExpr) : t.Scannable := by
  cases t with
  | int _ | float _ | child _ => exact h
  | name s => exact h.1
  | str _ | mark _ => trivial

theorem Token.Scannable.exists_spelling {t : Token} (h : t.Scannable) :
    ∃ piece, piece ∈ t.spellings := by
  cases t with
  | float x => exact h.elim
  | int _ | str _ | name _ | child _ | mark _ => exact ⟨_, List.mem_cons_self⟩

namespace Statement

variable {s : Statement}

theorem Printable.scannable (h : s.Printable) : ∀ t ∈ s.tokens, t.Scannable := by
  have inside : ∀ {e : Expr}, e.Printable → ∀ t ∈ e.tokens, t.Scannable :=
    fun h t ht => (h.inExpr t ht).scannable
  cases s with
  | assign name e =>
      exact List.forall_mem_cons.mpr ⟨h.1.1, List.forall_mem_cons.mpr ⟨trivial, inside h.2⟩⟩
  | result e => exact List.forall_mem_cons.mpr ⟨rfl, inside h⟩
  | value e => exact inside h

theorem Printable.exists_written (h : s.Printable) : ∃ cs, s.Written cs := by
  have spelled : ∀ ts : List Token, (∀ t ∈ ts, t.Scannable) →
      ∃ pieces, List.Forall₂ (fun t piece => piece ∈ t.spellings) ts pieces := by
    intro ts scannable
    induction ts with
    | nil => exact ⟨[], .nil⟩
    | cons t ts ih =>
        obtain ⟨here, later⟩ := List.forall_mem_cons.mp scannable
        obtain ⟨piece, first⟩ := here.exists_spelling
        obtain ⟨pieces, more⟩ := ih later
        exact ⟨piece :: pieces, .cons first more⟩
  obtain ⟨pieces, spelled⟩ := spelled s.tokens h.scannable
  exact ⟨_, pieces, spelled, rfl⟩

end Statement

namespace Program

variable {p : Program} {cs : List Char}

theorem Printable.exists_written (h : p.Printable) : ∃ cs, p.Written cs := by
  induction p with
  | nil => exact ⟨[], .empty⟩
  | cons s p ih =>
      obtain ⟨here, later⟩ := List.forall_mem_cons.mp h
      obtain ⟨cs, first⟩ := here.exists_written
      obtain ⟨ds, more⟩ := ih later
      exact ⟨_, .next 0 1 first (.inl rfl) more⟩

/-- What is written of a program is scanned as tokens that are read as the program. -/
theorem Written.lexes (written : p.Written cs) (h : p.Printable) :
    ∃ ts, Lexes cs ts ∧ readProgram ts = .ok p := by
  induction written with
  | empty => exact ⟨[], lexes_nil, by rw [readProgram]⟩
  | @last s cs written =>
      obtain ⟨pieces, spelled, rfl⟩ := written
      have here : s.Printable := h s List.mem_cons_self
      have lexed := lexes_nil.spelled spelled here.scannable trivial
      rw [List.append_nil] at lexed
      exact ⟨_, lexed, readProgram_last (here.accepts trivial)⟩
  | @next s p cs ds separator before behind written separates more ih =>
      obtain ⟨pieces, spelled, rfl⟩ := written
      obtain ⟨here, later⟩ := List.forall_mem_cons.mp h
      obtain ⟨ts, lexed, read⟩ := ih later
      have rest := ((lexed.spaces behind).separator separates).spaces before
      have breaks : Breaks (List.replicate before ' ' ++
          separator :: (List.replicate behind ' ' ++ ds)) := by
        cases before with
        | zero => exact .inr separates
        | succ n => exact .inl rfl
      have whole := rest.spelled spelled here.scannable breaks
      refine ⟨s.tokens ++ .mark .separator :: ts, ?_, readProgram_next (here.accepts rfl) read⟩
      simpa using whole

theorem ofText_of_lexes {text : String} {ts : List Token} (lexed : Lexes text.toList ts)
    (read : readProgram ts = .ok p) : ofText text = .ok p := by
  obtain ⟨ls, scanned, rfl⟩ := lexed (Text.byteLength text.toList)
  simp only [Program.ofText, tokenize, scanned, read]

theorem Written.ofText {text : String} (written : p.Written text.toList) (h : p.Printable) :
    ofText text = .ok p := by
  obtain ⟨ts, lexed, read⟩ := written.lexes h
  exact ofText_of_lexes lexed read

/-- A program that can be written is prepared from what is written of it, whichever quotes,
separators and spaces around separators are chosen. -/
theorem prepare_of_written (h : p.Printable) :
    (∃ text : String, p.Written text.toList) ∧
      ∀ text : String, p.Written text.toList → expressions.prepare text = .ok p := by
  constructor
  · obtain ⟨cs, written⟩ := h.exists_written
    exact ⟨String.ofList cs, by rwa [String.toList_ofList]⟩
  · intro text written
    exact written.ofText h

/-- An assignment and a conditional, with a string that holds a quote, the sign of a comment and
a line feed. -/
def scaled : Program :=
  [.assign "x" (.arith .mul (.arith .add (.child 0) (.literal (.int 1))) (.neg (.child 1))),
    .result (.cond (.and (.compare .lt (.var "x") (.literal (.int 2)))
      (.not (.literal (.bool false)))) (.call "len" [.literal (.str "a\"#\né"), .var "x"])
      (.var "y"))]

theorem prepare_of_written_scaled :
    scaled.Printable ∧ expressions.prepare
      "x = ( $0 + 1 ) * - $1;return x < 2 && ! false ? len ( \"a\\\"#\né\" , x ) : y" =
        .ok scaled := by
  have printable : scaled.Printable := by
    simp [scaled, Program.Printable, Statement.Printable, Expr.Printable, Expr.PrintableList,
      Value.Printable, IsName]
    decide
  refine ⟨printable, (prepare_of_written printable).2 _ ?_⟩
  refine @Written.next _ _ "x = ( $0 + 1 ) * - $1".toList _ _ 0 0 ?_ (.inl rfl) (.last ?_)
  · refine ⟨["x", "=", "(", "$0", "+", "1", ")", "*", "-", "$1"].map String.toList, ?_, ?_⟩
    · decide
    · decide
  · refine ⟨["return", "x", "<", "2", "&&", "!", "false", "?", "len", "(", "\"a\\\"#\né\"", ",",
      "x", ")", ":", "y"].map String.toList, ?_, ?_⟩
    · decide
    · decide

end Program
end PredictiveParsing.Action
