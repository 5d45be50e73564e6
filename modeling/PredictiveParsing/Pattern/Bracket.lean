import PredictiveParsing.Pattern.Escape

/-!
Character classes in brackets: single characters, ranges, classes with a letter
or a name, nested brackets, and the three set operations, which have one
precedence and group to the left. Outside Unicode mode every class, also one
inside another, must stay within ASCII, so that none can be negated.
-/
namespace PredictiveParsing.Pattern

/-- The characters of the set or, if negated, those outside it. -/
def CharSet.negateIf? (flags : Flags) (negated : Bool) (s : CharSet) : Option CharSet :=
  if negated then if flags.unicode then some s.negate else none else some s

/-- The set with the case variants of its members, if case does not count. -/
def CharSet.foldIf (flags : Flags) (s : CharSet) : CharSet :=
  if flags.ignoreCase then s.fold flags.unicode else s

/-- The characters that an atom stands for in a class, if it stands for
characters. Outside Unicode mode there are no properties. -/
def Atom.set? (flags : Flags) : Atom → Option CharSet
  | .char c _ => if flags.unicode || c.toNat < 128 then some (.single c) else none
  | .lettered s negated => s.negateIf? flags negated
  | .property s negated =>
    if flags.unicode then (s.foldIf flags).negateIf? flags negated else none
  | .dot | .look _ => none

/-- A set that is read from a pattern, and how deep brackets and operations nest in
its text. -/
structure Class where
  members : CharSet
  depth : Nat

/-- A single character, a range or a class without brackets. -/
def Class.plain (s : CharSet) : Class := ⟨s, 0⟩

/-- The operand of a set operation as far as it is read: the union of its items,
their number and the depth of the deepest. -/
structure Operand where
  members : CharSet
  count : Nat
  deepest : Nat

namespace Operand

/-- The operand without items. -/
def none : Operand := ⟨.empty, 0, 0⟩

/-- Adds an item. -/
def add (o : Operand) (item : Class) : Operand :=
  ⟨o.members.union item.members, o.count + 1, max o.deepest item.depth⟩

/-- The operand as a class; more than one item nest one level deeper. -/
def toClass (o : Operand) : Class :=
  ⟨o.members, if o.count < 2 then o.deepest else o.deepest + 1⟩

end Operand

/-- The operations between the operands of a class. -/
inductive SetOperation where
  | intersection
  | difference
  | symmetricDifference

/-- The members that the operation leaves of two sets. -/
def SetOperation.apply (op : SetOperation) (s t : CharSet) : CharSet :=
  match op with
  | intersection => s.inter t
  | difference => s.diff t
  | symmetricDifference => s.symmDiff t

/-- A bracket that is still open: whether it began with a caret, the operand and
operation before the last operator, and the last operand as far as it is read. -/
structure OpenBracket where
  negated : Bool
  left : Option (Class × SetOperation)
  right : Operand

namespace OpenBracket

/-- Adds an item to the last operand. -/
def add (b : OpenBracket) (item : Class) : OpenBracket :=
  { b with right := b.right.add item }

/-- The class that the bracket holds so far. Case variants join the operands
before they are combined. -/
def combined (flags : Flags) (b : OpenBracket) : Class :=
  let right := b.right.toClass
  match b.left with
  | none => right
  | some (left, op) =>
    ⟨op.apply (left.members.foldIf flags) (right.members.foldIf flags),
      max left.depth right.depth + 1⟩

/-- Goes on with the right operand of an operator. -/
def operate (flags : Flags) (b : OpenBracket) (op : SetOperation) : OpenBracket :=
  ⟨b.negated, some (b.combined flags, op), .none⟩

/-- The class of the finished bracket. -/
def close? (flags : Flags) (b : OpenBracket) : Option Class :=
  let content := b.combined flags
  ((content.members.foldIf flags).negateIf? flags b.negated).map (⟨·, content.depth + 1⟩)

/-- Reads what opens a bracket: a caret, then hyphens or one closing bracket that
stand for themselves. -/
def begin (verbose : Bool) (cs : List Char) : OpenBracket × List Char :=
  let (carets, cs) :=
    match skipBlank verbose cs with
    | '^' :: rest => (true, rest)
    | rest => (false, rest)
  let opened : OpenBracket := ⟨carets, none, .none⟩
  match spanSpaced verbose (· = '-') false cs with
  | ([], ']' :: rest) => (opened.add (.plain (.single ']')), rest)
  | (hyphens, rest) => (hyphens.foldl (fun b c => b.add (.plain (.single c))) opened, rest)

end OpenBracket

/-- Reads a bracketed ASCII class after its opening bracket, such as `:alpha:]`
or `:^alpha:]`, with a flag for the caret. -/
def asciiClass? : List Char → Option (CharSet × Bool × List Char)
  | ':' :: cs =>
    let (negated, cs) :=
      match cs with
      | '^' :: rest => (true, rest)
      | _ => (false, cs)
    match cs.span (· ≠ ':') with
    | (name, ':' :: ']' :: rest) =>
      (CharSet.named? (String.ofList name)).map fun s => (s, negated, rest)
    | _ => none
  | _ => none

/-- Reads one character or class of a bracket. -/
def bracketAtom (flags : Flags) : List Char → Option (Atom × List Char)
  | [] => none
  | '\\' :: cs => escape flags cs
  | c :: cs => some (.char c false, cs)

/-- The character that decides whether a hyphen in front of the text makes a range.
If blanks do not count it is the first one behind blanks and at most one number
sign. -/
def afterHyphen (verbose : Bool) (cs : List Char) : Option Char :=
  if verbose then
    match cs.dropWhile Text.isBlank with
    | '#' :: rest => (rest.dropWhile Text.isBlank).head?
    | rest => rest.head?
  else cs.head?

/-- Reads a range, or a single item. A hyphen before a closing bracket or another
hyphen makes no range. -/
def bracketItem (flags : Flags) (cs : List Char) : Option (CharSet × List Char) := do
  let (first, rest) ← bracketAtom flags cs
  let s ← first.set? flags
  match skipBlank flags.verbose rest with
  | '-' :: more =>
    let next := afterHyphen flags.verbose more
    if next = some ']' ∨ next = some '-' then some (s, '-' :: more)
    else
      let (last, rest) ← bracketAtom flags (skipBlank flags.verbose more)
      let _ ← last.set? flags
      match first, last with
      | .char a _, .char b _ => if a ≤ b then some (.range a b, rest) else none
      | _, _ => none
  | rest => some (s, rest)

/-- Reads a bracket to its end. Brackets around the innermost one wait in
`outer`. Each of the at most `count` rounds takes a character. -/
def readBracket (flags : Flags) :
    Nat → OpenBracket → List OpenBracket → List Char → Option (Class × List Char)
  | 0, _, _, _ => none
  | count + 1, inner, outer, cs =>
    match skipBlank flags.verbose cs with
    | [] => none
    | '[' :: rest =>
      match asciiClass? rest with
      | some (s, negated, rest) =>
        ((s.foldIf flags).negateIf? flags negated).bind fun s =>
          readBracket flags count (inner.add (.plain s)) outer rest
      | none =>
        let (nested, rest) := OpenBracket.begin flags.verbose rest
        readBracket flags count nested (inner :: outer) rest
    | ']' :: rest =>
      (inner.close? flags).bind fun closed =>
        match outer with
        | [] => some (closed, rest)
        | around :: outer => readBracket flags count (around.add closed) outer rest
    | '&' :: '&' :: rest => readBracket flags count (inner.operate flags .intersection) outer rest
    | '-' :: '-' :: rest => readBracket flags count (inner.operate flags .difference) outer rest
    | '~' :: '~' :: rest =>
      readBracket flags count (inner.operate flags .symmetricDifference) outer rest
    | rest =>
      (bracketItem flags rest).bind fun (s, rest) =>
        readBracket flags count (inner.add (.plain s)) outer rest

/-- Reads a class after its opening bracket. -/
def bracket (flags : Flags) (cs : List Char) : Option (Class × List Char) :=
  let (opened, rest) := OpenBracket.begin flags.verbose cs
  readBracket flags (rest.length + 1) opened [] rest

end PredictiveParsing.Pattern
