import PredictiveParsing.Pattern.Bracket
import PredictiveParsing.Pattern.Footprint

/-!
Reading a pattern from its text. Groups that are still open wait on a stack, so
one pass over the text builds the tree. Flags given inside a group hold to its
end, across its alternatives. `none` stands for a malformed pattern.
-/
namespace PredictiveParsing.Pattern

/-- How deep a pattern may nest. -/
def nestLimit : Nat := 250

/-- A part of a sequence: what it matches, how deep it nests, and whether a
repetition may follow it, which it may not after a change of flags. -/
structure Item where
  node : Node
  depth : Nat
  repeatable : Bool

namespace Item

/-- The deepest nesting among the items. -/
def deepest (items : List Item) : Nat :=
  items.foldl (fun d item => max d item.depth) 0

/-- Items one after the other. -/
def sequence : List Item → Item
  | [] => ⟨.empty, 0, true⟩
  | [item] => { item with repeatable := true }
  | items => ⟨.inSequence (items.map (·.node)), deepest items + 1, true⟩

/-- A choice between items. -/
def choice : List Item → Item
  | [item] => item
  | items => ⟨.between (items.map (·.node)), deepest items + 1, true⟩

end Item

/-- A group that is still open: its finished alternatives and the items of the
last one, both newest first, whether its place in the text can be told, and the
flags to return to after it. -/
structure OpenGroup where
  branches : List Item
  items : List Item
  captures : Bool
  flagsAfter : Flags

namespace OpenGroup

/-- Adds an item to the last alternative. -/
def add (g : OpenGroup) (item : Item) : OpenGroup :=
  { g with items := item :: g.items }

/-- Begins one more alternative. -/
def branch (g : OpenGroup) : OpenGroup :=
  { g with branches := Item.sequence g.items.reverse :: g.branches, items := [] }

/-- A group without content. -/
def start (captures : Bool) (flagsAfter : Flags) : OpenGroup :=
  ⟨[], [], captures, flagsAfter⟩

/-- The content of the finished group. -/
def content (g : OpenGroup) : Item :=
  Item.choice g.branch.branches.reverse

/-- The finished group as an item of the one around it. -/
def close (g : OpenGroup) : Item :=
  let content := g.content
  ⟨if g.captures then .group content.node else content.node, content.depth + 1, true⟩

/-- Puts the last item under a repetition, if there is one that can be. -/
def repeatLast? (g : OpenGroup) (least : Nat) (most : Option Nat) (greedy : Bool) :
    Option OpenGroup :=
  match g.items with
  | item :: items =>
    if item.repeatable then
      let rounds := item.node.repeated least most greedy
      some { g with items := ⟨rounds, item.depth + 1, true⟩ :: items }
    else none
  | [] => none

end OpenGroup

/-- What begins after an opening parenthesis: a group of which the place can be
told, perhaps by its name, a group that only holds parts together, with the flags
inside it, or a change of flags and no group. -/
inductive GroupHead where
  | capture (name : Option String)
  | group (flags : Flags)
  | change (flags : Flags)

/-- The name of a group: a letter or underscore, then also digits, dots and
brackets. -/
def isGroupName : List Char → Bool
  | [] => false
  | c :: cs =>
    (c = '_' || Unicode.nameLetter.contains c) &&
      cs.all fun d =>
        d = '_' || d = '.' || d = '[' || d = ']' || Unicode.nameLetterOrNumber.contains d

/-- Reads the name of a group up to its closing bracket. -/
def groupName (cs : List Char) : Option (GroupHead × List Char) :=
  match cs.span (· ≠ '>') with
  | (name, _ :: rest) =>
    if isGroupName name then some (.capture (String.ofList name), rest) else none
  | (_, []) => none

/-- Reads what follows an opening parenthesis. Looking around is refused. -/
def groupHead (flags : Flags) (cs : List Char) : Option (GroupHead × List Char) :=
  match skipBlank flags.verbose cs with
  | '?' :: '=' :: _ | '?' :: '!' :: _ | '?' :: '<' :: '=' :: _ | '?' :: '<' :: '!' :: _ => none
  | '?' :: 'P' :: '<' :: rest => groupName rest
  | '?' :: '<' :: rest => groupName rest
  | '?' :: rest =>
    match rest.span (fun c => c ≠ ':' && c ≠ ')') with
    | (letters, ':' :: rest) =>
      (flags.assignAll? true [] letters).map fun inside => (.group inside, rest)
    | (letters, _ :: rest) =>
      if letters.isEmpty then none
      else (flags.assignAll? true [] letters).map fun inside => (.change inside, rest)
    | (_, []) => none
  | rest => some (.capture none, rest)

/-- Reads a decimal number below `2 ^ 32` with blanks around it. -/
def countNumber (verbose : Bool) (cs : List Char) : Option (Nat × List Char) :=
  let (digits, rest) := spanSpaced verbose Numeral.isDigit false (cs.dropWhile Text.isBlank)
  match Numeral.natural? digits with
  | some n => if n < 0x100000000 then some (n, rest.dropWhile Text.isBlank) else none
  | none => none

/-- Reads the bounds of a repetition after the opening brace. -/
def countBounds (verbose : Bool) (cs : List Char) : Option (Nat × Option Nat × List Char) := do
  let (least, rest) ← countNumber verbose cs
  match skipBlank verbose rest with
  | '\x7d' :: rest => some (least, some least, rest)
  | ',' :: rest =>
    match skipBlank verbose rest with
    | '\x7d' :: rest => some (least, none, rest)
    | rest =>
      let (most, rest) ← countNumber verbose rest
      match skipBlank verbose rest with
      | '\x7d' :: rest => if least ≤ most then some (least, some most, rest) else none
      | _ => none
  | _ => none

/-- Takes the question mark that makes a repetition lazy, and tells whether the
repetition is greedy. -/
def greed (flags : Flags) : List Char → Bool × List Char
  | '?' :: rest => (flags.swapGreed, rest)
  | rest => (!flags.swapGreed, rest)

/-- A character and, if case does not count, its variants. -/
def Node.letter (flags : Flags) (c : Char) : Node :=
  if !flags.ignoreCase then .text [c]
  else if flags.unicode then .oneOf (Unicode.caseVariants c)
  else .oneOf (CharSet.fold false (.single c))

/-- The pattern that an atom stands for. Outside Unicode mode the dot, which takes
characters beyond ASCII, and bytes beyond ASCII are refused. -/
def Atom.node? (flags : Flags) (atom : Atom) : Option Node :=
  match atom with
  | .look l => some (.look l)
  | .dot =>
    let excluded : CharSet :=
      if flags.dotAll then .empty
      else if flags.crlf then (Unicode.RangeSet.single '\n').union (.single '\r')
      else .single '\n'
    if flags.unicode then some (.oneOf excluded.compl) else none
  | .char c byte =>
    if flags.unicode || c.toNat < 128 || !byte then some (.letter flags c) else none
  | .lettered _ _ | .property _ _ => (atom.set? flags).map .oneOf

/-- Reads one part of a sequence that is no group, class or repetition. -/
def primitive (flags : Flags) : List Char → Option (Atom × List Char)
  | [] => none
  | c :: cs =>
    match c with
    | '\\' => escape flags cs
    | '.' => some (.dot, cs)
    | '^' => some (.look (if flags.multiLine then .lineStart flags.crlf else .textStart), cs)
    | '$' => some (.look (if flags.multiLine then .lineEnd flags.crlf else .textEnd), cs)
    | _ => some (.char c false, cs)

/-- Reads a pattern to its end. Groups around the innermost one wait in `outer`,
and `names` are those of the groups so far. Each of the at most `count` rounds
takes a character. -/
def readParts :
    Nat → Flags → List String → OpenGroup → List OpenGroup → List Char → Option Item
  | 0, _, _, _, _, _ => none
  | count + 1, flags, names, inner, outer, cs =>
    match skipBlank flags.verbose cs with
    | [] => if outer.isEmpty then some inner.content else none
    | '(' :: rest =>
      (groupHead flags rest).bind fun (head, rest) =>
        match head with
        | .change changed =>
          readParts count changed names (inner.add ⟨.empty, 0, false⟩) outer rest
        | .group inside =>
          readParts count inside names (.start false flags) (inner :: outer) rest
        | .capture none =>
          readParts count flags names (.start true flags) (inner :: outer) rest
        | .capture (some name) =>
          if name ∈ names then none
          else readParts count flags (name :: names) (.start true flags) (inner :: outer) rest
    | ')' :: rest =>
      match outer with
      | [] => none
      | around :: outer =>
        readParts count inner.flagsAfter names (around.add inner.close) outer rest
    | '|' :: rest => readParts count flags names inner.branch outer rest
    | '[' :: rest =>
      (bracket flags rest).bind fun (c, rest) =>
        readParts count flags names (inner.add ⟨.oneOf c.members, c.depth, true⟩) outer rest
    | '*' :: rest =>
      let (greedy, rest) := greed flags rest
      (inner.repeatLast? 0 none greedy).bind fun inner =>
        readParts count flags names inner outer rest
    | '+' :: rest =>
      let (greedy, rest) := greed flags rest
      (inner.repeatLast? 1 none greedy).bind fun inner =>
        readParts count flags names inner outer rest
    | '?' :: rest =>
      let (greedy, rest) := greed flags rest
      (inner.repeatLast? 0 (some 1) greedy).bind fun inner =>
        readParts count flags names inner outer rest
    | '\x7b' :: rest =>
      (countBounds flags.verbose (skipBlank flags.verbose rest)).bind fun (least, most, rest) =>
        let (greedy, rest) := greed flags (skipBlank flags.verbose rest)
        (inner.repeatLast? least most greedy).bind fun inner =>
          readParts count flags names inner outer rest
    | rest =>
      (primitive flags rest).bind fun (atom, rest) =>
        (atom.node? flags).bind fun node =>
          readParts count flags names (inner.add ⟨node, 0, true⟩) outer rest

/-- Reads a pattern; `none` if it is malformed, or too deep or too large. -/
def Node.ofText? (text : String) : Option Node :=
  let cs := text.toList
  match readParts (cs.length + 1) .initial [] (.start false .initial) [] cs with
  | some item => if item.depth ≤ nestLimit ∧ item.node.fits then some item.node else none
  | none => none

end PredictiveParsing.Pattern
