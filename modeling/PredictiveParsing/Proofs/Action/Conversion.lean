import PredictiveParsing.Proofs.Action.Integers
import PredictiveParsing.Proofs.Action.Scanning

/-!
The conversion of text to integers. A text is converted if, apart from the blanks at its ends,
it writes an integer of 64 bits in decimal digits; any other text is an error, which carries
the whole of it. What an integer is printed as is converted back to the integer.
-/
namespace PredictiveParsing.Action

section Blanks

open Text (isBlank trim)

/-- Nothing but blanks. -/
def Blank (cs : List Char) : Prop :=
  ∀ c ∈ cs, isBlank c = true

/-- The text between the blanks at the two ends of another one. -/
structure IsTrimmed (core cs : List Char) : Prop where
  around : ∃ before behind, Blank before ∧ Blank behind ∧ cs = before ++ core ++ behind
  begins : ∀ c ∈ core.head?, isBlank c = false
  ends : ∀ c ∈ core.getLast?, isBlank c = false

variable {core cs before behind : List Char}

theorem Blank.reverse (h : Blank cs) : Blank cs.reverse :=
  fun c hc => h c (List.mem_reverse.mp hc)

theorem Blank.dropWhile_append (h : Blank before) (begins : ∀ c ∈ cs.head?, isBlank c = false) :
    (before ++ cs).dropWhile isBlank = cs := by
  rw [List.dropWhile_append_of_pos h]
  cases cs with
  | nil => rfl
  | cons c cs => rw [List.dropWhile_cons_of_neg (by simp [begins c rfl])]

theorem Blank.dropWhile (h : Blank cs) : cs.dropWhile isBlank = [] := by
  have begins : ∀ c ∈ ([] : List Char).head?, isBlank c = false := by simp
  simpa using h.dropWhile_append begins

theorem head?_dropWhile_blank (cs : List Char) :
    ∀ c ∈ (cs.dropWhile isBlank).head?, isBlank c = false := by
  intro c head
  have stops := List.head?_dropWhile_not isBlank cs
  rw [Option.mem_def.mp head] at stops
  simpa using stops

theorem blank_takeWhile (cs : List Char) : Blank (cs.takeWhile isBlank) :=
  List.all_eq_true.mp List.all_takeWhile

theorem isTrimmed_trim (cs : List Char) : IsTrimmed (trim cs) cs := by
  have stops := head?_dropWhile_blank cs
  have split : cs.dropWhile isBlank =
      trim cs ++ ((cs.dropWhile isBlank).reverse.takeWhile isBlank).reverse := by
    rw [trim, ← List.reverse_append, List.takeWhile_append_dropWhile, List.reverse_reverse]
  constructor
  case around =>
    refine ⟨cs.takeWhile isBlank, ((cs.dropWhile isBlank).reverse.takeWhile isBlank).reverse,
      blank_takeWhile cs, (blank_takeWhile _).reverse, ?_⟩
    rw [List.append_assoc, ← split, List.takeWhile_append_dropWhile]
  case begins =>
    intro c head
    apply stops
    rw [split, List.head?_append, Option.mem_def.mp head]
    rfl
  case ends =>
    rw [trim, List.getLast?_reverse]
    exact head?_dropWhile_blank _

theorem IsTrimmed.eq_trim (h : IsTrimmed core cs) : trim cs = core := by
  obtain ⟨before, behind, first, last, rfl⟩ := h.around
  rw [trim, List.append_assoc]
  cases core with
  | nil =>
      have blank : Blank (before ++ ([] ++ behind)) := by
        simpa [Blank, or_imp, forall_and] using And.intro first last
      rw [blank.dropWhile]
      rfl
  | cons c core =>
      have ends : ∀ d ∈ (c :: core).reverse.head?, isBlank d = false := by
        rw [List.head?_reverse]
        exact h.ends
      have front : (before ++ (c :: core ++ behind)).dropWhile isBlank = c :: core ++ behind :=
        first.dropWhile_append h.begins
      rw [front, List.reverse_append, last.reverse.dropWhile_append ends, List.reverse_reverse]

/-- Trimming is the removal of all blanks at the two ends, and only of these. -/
theorem trim_eq_iff : trim cs = core ↔ IsTrimmed core cs := by
  constructor
  · rintro rfl
    exact isTrimmed_trim cs
  · exact IsTrimmed.eq_trim

end Blanks

section Writing

open Numeral

/-- One or more decimal digits. -/
structure IsNumeral (cs : List Char) : Prop where
  ne_nil : cs ≠ []
  digits : ∀ c ∈ cs, c.isDigit = true

/-- Decimal digits with an optional sign in front of them, and the integer that they denote. -/
inductive Writes : List Char → Int → Prop where
  | unsigned {cs : List Char} (digits : IsNumeral cs) : Writes cs (Nat.ofDigitChars 10 cs 0)
  | plus {cs : List Char} (digits : IsNumeral cs) :
      Writes ('+' :: cs) (Nat.ofDigitChars 10 cs 0)
  | minus {cs : List Char} (digits : IsNumeral cs) :
      Writes ('-' :: cs) (-(Nat.ofDigitChars 10 cs 0 : Int))

/-- Apart from the blanks at its ends, the text writes the integer. -/
def Denotes (text : String) (n : Int) : Prop :=
  ∃ core, IsTrimmed core text.toList ∧ Writes core n

variable {c : Char} {cs : List Char} {n : Int}

theorem isDigit_of_digit? {d : Nat} (h : digit? c = some d) : c.isDigit = true := by
  rw [digit?] at h
  split at h
  case isTrue bounds => simpa [Char.isDigit, Char.le_def] using bounds
  case isFalse => cases h

theorem isDigit_of_positional? {acc k : Nat} (h : positional? digit? 10 acc cs = some k) :
    ∀ c ∈ cs, c.isDigit = true := by
  induction cs generalizing acc with
  | nil => simp
  | cons c cs ih =>
      rw [positional?] at h
      cases digit : digit? c with
      | none => simp [digit] at h
      | some d =>
          rw [digit] at h
          exact List.forall_mem_cons.mpr ⟨isDigit_of_digit? digit, ih h⟩

theorem natural?_eq_some_iff {k : Nat} :
    natural? cs = some k ↔ IsNumeral cs ∧ Nat.ofDigitChars 10 cs 0 = k := by
  cases cs with
  | nil =>
      constructor
      · intro h
        cases h
      · rintro ⟨numeral, -⟩
        exact absurd rfl numeral.ne_nil
  | cons c cs =>
      change positional? digit? 10 0 (c :: cs) = some k ↔ _
      constructor
      · intro h
        have digits := isDigit_of_positional? h
        rw [positional?_of_isDigit digits, Option.some_inj] at h
        exact ⟨⟨List.cons_ne_nil c cs, digits⟩, h⟩
      · rintro ⟨numeral, rfl⟩
        exact positional?_of_isDigit numeral.digits 0

theorem IsNumeral.natural? (h : IsNumeral cs) :
    Numeral.natural? cs = some (Nat.ofDigitChars 10 cs 0) :=
  natural?_eq_some_iff.mpr ⟨h, rfl⟩

theorem signed_minus (cs : List Char) : signed ('-' :: cs) = (true, cs) := rfl

theorem signed_plus (cs : List Char) : signed ('+' :: cs) = (false, cs) := rfl

theorem integer?_eq (cs : List Char) :
    integer? cs = (natural? (signed cs).2).map
      fun k : Nat => if (signed cs).1 then -(k : Int) else (k : Int) := by
  cases read : natural? (signed cs).2 <;> simp [integer?, read]

theorem integer?_of_writes (h : Writes cs n) : integer? cs = some n := by
  cases h with
  | unsigned numeral =>
      rw [integer?_eq, signed_of_isDigit numeral.digits, numeral.natural?]
      rfl
  | plus numeral =>
      rw [integer?_eq, signed_plus, numeral.natural?]
      rfl
  | minus numeral =>
      rw [integer?_eq, signed_minus, numeral.natural?]
      rfl

theorem writes_of_integer? (h : integer? cs = some n) : Writes cs n := by
  rw [integer?_eq] at h
  obtain ⟨k, read, rfl⟩ := Option.map_eq_some_iff.mp h
  obtain ⟨numeral, rfl⟩ := natural?_eq_some_iff.mp read
  cases cs with
  | nil => exact absurd rfl numeral.ne_nil
  | cons c cs =>
      by_cases minus : c = '-'
      · subst minus
        exact .minus numeral
      by_cases plus : c = '+'
      · subst plus
        exact .plus numeral
      · have unsigned : signed (c :: cs) = (false, c :: cs) := by
          rw [signed, if_neg minus, if_neg plus]
        rw [unsigned] at numeral ⊢
        exact .unsigned numeral

theorem int64?_eq_some_iff {i : Int64} : int64? n = some i ↔ n = i.toInt := by
  constructor
  · intro h
    by_cases fits : Fits n
    · obtain ⟨v, found, same⟩ := int64?_of_fits fits
      rw [h, Option.some_inj] at found
      rw [found, same]
    · rw [int64?_eq_none fits] at h
      cases h
  · rintro rfl
    obtain ⟨v, found, same⟩ := int64?_of_fits (fits_toInt i)
    rw [found, Int64.toInt_inj.mp same]

/-- The texts that are read as an integer of 64 bits are those that write it. -/
theorem readInt64?_eq_some_iff {i : Int64} : readInt64? cs = some i ↔ Writes cs i.toInt := by
  simp only [readInt64?, Option.bind_eq_some_iff, int64?_eq_some_iff]
  constructor
  · rintro ⟨n, read, rfl⟩
    exact writes_of_integer? read
  · intro writes
    exact ⟨_, integer?_of_writes writes, rfl⟩

theorem isNumeral_toDigits (k : Nat) : IsNumeral (Nat.toDigits 10 k) :=
  ⟨by simp, fun _ => Nat.isDigit_of_mem_toDigits (by decide) (by decide)⟩

/-- What an integer is printed as writes it. -/
theorem writes_integerText (n : Int) : Writes (integerText n).toList n := by
  have numeral := isNumeral_toDigits n.natAbs
  by_cases negative : n < 0
  · have text : (integerText n).toList = '-' :: Nat.toDigits 10 n.natAbs := by
      simp [integerText, negative]
    have value : -(n.natAbs : Int) = n := by omega
    have minus := Writes.minus numeral
    rwa [Nat.ofDigitChars_ten_toDigits, value, ← text] at minus
  · have text : (integerText n).toList = Nat.toDigits 10 n.natAbs := by
      simp [integerText, negative]
    have value : (n.natAbs : Int) = n := by omega
    have unsigned := Writes.unsigned numeral
    rwa [Nat.ofDigitChars_ten_toDigits, value, ← text] at unsigned

theorem not_isBlank_of_isDigit (h : c.isDigit = true) : Text.isBlank c = false := by
  have bounds : 48 ≤ c.toNat ∧ c.toNat ≤ 57 := by
    simpa [Char.isDigit, UInt32.le_iff_toNat_le] using h
  rw [Bool.eq_false_iff]
  intro blank
  simp only [Text.isBlank, Bool.or_eq_true, Bool.and_eq_true, decide_eq_true_eq, Char.le_def,
    UInt32.le_iff_toNat_le, Char.ext_iff, ← UInt32.toNat_inj] at blank
  simp only [Char.isValue, Char.reduceVal, UInt32.reduceToNat, Char.toNat_val] at blank
  omega

theorem Writes.not_isBlank (h : Writes cs n) : ∀ c ∈ cs, Text.isBlank c = false := by
  have digits {cs : List Char} (numeral : IsNumeral cs) : ∀ c ∈ cs, Text.isBlank c = false :=
    fun c hc => not_isBlank_of_isDigit (numeral.digits c hc)
  cases h with
  | unsigned numeral => exact digits numeral
  | plus numeral => exact List.forall_mem_cons.mpr ⟨by decide, digits numeral⟩
  | minus numeral => exact List.forall_mem_cons.mpr ⟨by decide, digits numeral⟩

theorem Writes.isTrimmed (h : Writes cs n) {before behind : List Char} (first : Blank before)
    (last : Blank behind) : IsTrimmed cs (before ++ cs ++ behind) where
  around := ⟨before, behind, first, last, rfl⟩
  begins c head := h.not_isBlank c (List.mem_of_head? head)
  ends c last := h.not_isBlank c (List.mem_of_getLast? last)

end Writing

variable {text : String} {i : Int64}

theorem invoke_int (text : String) :
    invoke "int" [.str text] =
      match Numeral.readInt64? (Text.trim text.toList) with
      | some i => .ok (.int i)
      | none => .error (.invalidNumber text) :=
  rfl

theorem readInt64?_trim_iff :
    Numeral.readInt64? (Text.trim text.toList) = some i ↔ Denotes text i.toInt := by
  simp only [readInt64?_eq_some_iff, Denotes, ← trim_eq_iff, exists_eq_left']

theorem invoke_int_eq_ok_iff : invoke "int" [.str text] = .ok (.int i) ↔ Denotes text i.toInt := by
  rw [invoke_int, ← readInt64?_trim_iff]
  cases Numeral.readInt64? (Text.trim text.toList) <;> simp

theorem invoke_int_eq_error_iff :
    invoke "int" [.str text] = .error (.invalidNumber text) ↔
      ¬∃ i : Int64, Denotes text i.toInt := by
  simp only [invoke_int, ← readInt64?_trim_iff]
  cases Numeral.readInt64? (Text.trim text.toList) <;> simp

/-- An integer that is printed, with any blanks around it. -/
theorem denotes_text (i : Int64) {before behind : String} (first : Blank before.toList)
    (last : Blank behind.toList) : Denotes (before ++ (Value.int i).text ++ behind) i.toInt := by
  have writes : Writes (Value.int i).text.toList i.toInt := writes_integerText i.toInt
  refine ⟨(Value.int i).text.toList, ?_, writes⟩
  simpa using writes.isTrimmed first last

namespace Expr

/-- The text that a value is printed as, between two others. -/
def printedBetween (before behind : String) (e : Expr) : Expr :=
  .arith .add (.arith .add (.literal (.str before)) (.call "str" [e])) (.literal (.str behind))

variable {e : Expr} {children : List Value} {locals : Locals}

theorem eval_printed (value : e.eval children locals = .ok (.int i)) :
    (Expr.call "str" [e]).eval children locals = .ok (.str (Value.int i).text) := by
  simp only [eval, evalList, value]
  rfl

theorem eval_printedBetween (before behind : String)
    (value : e.eval children locals = .ok (.int i)) :
    (e.printedBetween before behind).eval children locals =
      .ok (.str (before ++ (Value.int i).text ++ behind)) := by
  have left : (arith .add (literal (.str before)) (call "str" [e])).eval children locals =
      .ok (.str (before ++ (Value.int i).text)) := by
    rw [eval, eval_printed value, eval]
    rfl
  rw [printedBetween, eval, left, eval]
  rfl

theorem eval_int (value : e.eval children locals = .ok (.str text)) :
    (Expr.call "int" [e]).eval children locals = invoke "int" [.str text] := by
  simp only [eval, evalList, value]
  rfl

/-- The conversion to an integer is exact and undoes the printing. It gives an integer if the
text denotes it, without a digit or a blank too many, and otherwise an error with the text as it
was. An integer that is printed is converted back, also from between blanks. -/
theorem eval_int_exact (children : List Value) (locals : Locals) (e : Expr) :
    (∀ text : String, e.eval children locals = .ok (.str text) →
      (∀ i : Int64, (call "int" [e]).eval children locals = .ok (.int i) ↔
        Denotes text i.toInt) ∧
      ((call "int" [e]).eval children locals = .error (.invalidNumber text) ↔
        ¬∃ i : Int64, Denotes text i.toInt)) ∧
    ∀ i : Int64, e.eval children locals = .ok (.int i) →
      (call "int" [call "str" [e]]).eval children locals = .ok (.int i) ∧
      ∀ before behind : String, Blank before.toList → Blank behind.toList →
        (call "int" [e.printedBetween before behind]).eval children locals = .ok (.int i) := by
  constructor
  · intro text value
    rw [eval_int value]
    exact ⟨fun i => invoke_int_eq_ok_iff, invoke_int_eq_error_iff⟩
  · intro i value
    constructor
    · rw [eval_int (eval_printed value), invoke_int_eq_ok_iff]
      have nothing : Blank "".toList := by simp [Blank]
      simpa using denotes_text i nothing nothing
    · intro before behind first last
      rw [eval_int (eval_printedBetween before behind value), invoke_int_eq_ok_iff]
      exact denotes_text i first last

/-- The least integer, between an em space with a tab and a no-break space, and a number with a
plus and zeros in front. -/
theorem eval_int_exact_least :
    (call "int" [(literal (.int Int64.minValue)).printedBetween "\u2003\t" "\u00a0"]).eval [] [] =
        .ok (.int Int64.minValue) ∧
      (call "int" [literal (.str " +007\n")]).eval [] [] = .ok (.int 7) := by
  have spaces : Blank "\u2003\t".toList := List.all_eq_true.mp (by decide)
  have space : Blank "\u00a0".toList := List.all_eq_true.mp (by decide)
  have seven : Writes "+007".toList 7 :=
    .plus ⟨by decide, List.all_eq_true.mp (by decide)⟩
  have first : Blank [' '] := List.all_eq_true.mp (by decide)
  have last : Blank ['\n'] := List.all_eq_true.mp (by decide)
  have denotes : Denotes " +007\n" (7 : Int64).toInt := ⟨_, seven.isTrimmed first last, seven⟩
  constructor
  · exact ((eval_int_exact [] [] (literal (.int Int64.minValue))).2 Int64.minValue
      (by rw [eval])).2 _ _ spaces space
  · exact (((eval_int_exact [] [] (literal (.str " +007\n"))).1 _ (by rw [eval])).1 7).mpr denotes

end Expr

end PredictiveParsing.Action
