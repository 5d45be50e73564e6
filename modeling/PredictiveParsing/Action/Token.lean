import PredictiveParsing.Action.Error
import PredictiveParsing.Text.Bytes

/-!
Tokens of the action language, read from text. At each place the longest token
is taken. Blanks and comments are skipped; a line feed separates statements as
the semicolon does.
-/
namespace PredictiveParsing.Action

/-- The tokens that are punctuation. -/
inductive Mark where
  | or
  | and
  | eq
  | ne
  | le
  | ge
  | lt
  | gt
  | plus
  | minus
  | star
  | slash
  | percent
  | bang
  | assign
  | question
  | colon
  | openParen
  | closeParen
  | comma
  /-- A semicolon or a line feed. -/
  | separator
deriving DecidableEq, Repr

/-- A token. -/
inductive Token where
  | int (n : Int64)
  | float (x : Float)
  | str (s : String)
  | name (s : String)
  | child (index : Nat)
  | mark (m : Mark)
deriving Repr

/-- A token with the byte offset at which it starts. -/
structure Lexeme where
  token : Token
  offset : Nat
deriving Repr

/-- Blanks between tokens. -/
def isSpace (c : Char) : Bool :=
  c = ' ' || c = '\t' || c = '\r' || c = '\x0c'

/-- An ASCII letter or the underscore. -/
def isNameStart (c : Char) : Bool :=
  ('a' ≤ c && c ≤ 'z') || ('A' ≤ c && c ≤ 'Z') || c = '_'

/-- An ASCII letter or digit or the underscore. -/
def isNameChar (c : Char) : Bool :=
  isNameStart c || Numeral.isDigit c

/-- What an escaped character stands for. -/
def unescape (c : Char) : Char :=
  if c = 'n' then '\n' else if c = 't' then '\t' else c

/-- Reads a string after its opening quote. The result is the text it stands for
and what follows the closing quote. If the text ends first, or a backslash has
no character other than a line feed behind it, the error holds what was read. -/
def readString (quote : Char) : List Char → Except (List Char) (List Char × List Char)
  | [] => .error []
  | c :: cs =>
    if c = quote then .ok ([], cs)
    else if c = '\\' then
      match cs with
      | [] => .error []
      | d :: ds =>
        if d = '\n' then .error []
        else
          match readString quote ds with
          | .ok (text, rest) => .ok (unescape d :: text, rest)
          | .error read => .error (c :: d :: read)
    else
      match readString quote cs with
      | .ok (text, rest) => .ok (c :: text, rest)
      | .error read => .error (c :: read)

/-- What follows a string is the end of what was read. -/
theorem readString_suffix {quote : Char} {cs text rest : List Char}
    (h : readString quote cs = .ok (text, rest)) : rest <:+ cs := by
  fun_induction readString quote cs generalizing text rest <;>
    grind [List.suffix_cons_iff, List.suffix_refl]

/-- The mark that the character is together with the one behind it. -/
def doubleMark? (c : Char) : Option Char → Option Mark
  | some d =>
    match c, d with
    | '|', '|' => some .or
    | '&', '&' => some .and
    | '=', '=' => some .eq
    | '!', '=' => some .ne
    | '<', '=' => some .le
    | '>', '=' => some .ge
    | _, _ => none
  | none => none

/-- The mark that the character is by itself. -/
def singleMark? (c : Char) : Option Mark :=
  match c with
  | '<' => some .lt
  | '>' => some .gt
  | '+' => some .plus
  | '-' => some .minus
  | '*' => some .star
  | '/' => some .slash
  | '%' => some .percent
  | '!' => some .bang
  | '=' => some .assign
  | '?' => some .question
  | ':' => some .colon
  | '(' => some .openParen
  | ')' => some .closeParen
  | ',' => some .comma
  | ';' | '\n' => some .separator
  | _ => none

/-- What the text begins with: a token or something to skip, and the rest. -/
abbrev Scanned := Option Token × List Char

/-- Reads digits: an integer, or a floating-point number if a point and another
digit follow. An integer beyond 64 bits is refused. -/
def scanNumber (cs : List Char) : Except (List Char) Scanned :=
  let whole := cs.takeWhile Numeral.isDigit
  let integer :=
    match Numeral.readInt64? whole with
    | some n => .ok (some (.int n), cs.dropWhile Numeral.isDigit)
    | none => .error whole
  match cs.dropWhile Numeral.isDigit with
  | '.' :: d :: more =>
    if Numeral.isDigit d then
      let fraction := (d :: more).takeWhile Numeral.isDigit
      match Numeral.readFloat? (whole ++ '.' :: fraction) with
      | some x => .ok (some (.float x), (d :: more).dropWhile Numeral.isDigit)
      | none => .error (whole ++ '.' :: fraction)
    else integer
  | _ => integer

/-- Reads what the text `c :: cs` begins with. An error holds the refused text. -/
def scan (c : Char) (cs : List Char) : Except (List Char) Scanned :=
  if isSpace c then .ok (none, cs)
  else if c = '#' then .ok (none, cs.dropWhile (· ≠ '\n'))
  else if Numeral.isDigit c then scanNumber (c :: cs)
  else if isNameStart c then
    .ok (some (.name (String.ofList (c :: cs.takeWhile isNameChar))), cs.dropWhile isNameChar)
  else if c = '$' then
    let digits := cs.takeWhile Numeral.isDigit
    match Numeral.readWord? digits with
    | some index => .ok (some (.child index), cs.dropWhile Numeral.isDigit)
    | none => .error (c :: digits)
  else if c = '"' ∨ c = '\'' then
    match readString c cs with
    | .ok (text, rest) => .ok (some (.str (String.ofList text)), rest)
    | .error read => .error (c :: read)
  else
    match doubleMark? c cs.head? with
    | some m => .ok (some (.mark m), cs.tail)
    | none =>
      match singleMark? c with
      | some m => .ok (some (.mark m), cs)
      | none => .error [c]

private theorem scanNumber_suffix {c : Char} {cs rest : List Char} {token : Option Token}
    (hc : Numeral.isDigit c = true) (h : scanNumber (c :: cs) = .ok (token, rest)) :
    rest <:+ cs := by
  have hd : (c :: cs).dropWhile Numeral.isDigit = cs.dropWhile Numeral.isDigit := by
    simp [hc]
  have behind := List.dropWhile_suffix Numeral.isDigit (l := cs)
  simp only [scanNumber, hd] at h
  split at h
  · next d more heq =>
    rw [heq] at behind
    have fraction : (d :: more).dropWhile Numeral.isDigit <:+ d :: more :=
      List.dropWhile_suffix Numeral.isDigit
    split at h
    · split at h
      · cases h
        exact (fraction.trans (List.suffix_cons '.' (d :: more))).trans behind
      · cases h
    · split at h
      · cases h
        exact List.dropWhile_suffix Numeral.isDigit
      · cases h
  · split at h
    · cases h
      exact behind
    · cases h

/-- Scanning goes forward, past at least the first character, and leaves the end of the text. -/
theorem scan_suffix {c : Char} {cs rest : List Char} {token : Option Token}
    (h : scan c cs = .ok (token, rest)) : rest <:+ cs := by
  unfold scan at h
  split at h
  · cases h
    exact List.suffix_refl cs
  split at h
  · cases h
    exact List.dropWhile_suffix _
  split at h
  · next hc => exact scanNumber_suffix hc h
  split at h
  · cases h
    exact List.dropWhile_suffix _
  split at h
  · dsimp only at h
    split at h
    · cases h
      exact List.dropWhile_suffix _
    · cases h
  split at h
  · split at h
    · next hs =>
      cases h
      exact readString_suffix hs
    · cases h
  split at h
  · cases h
    exact List.tail_suffix cs
  split at h
  · cases h
    exact List.suffix_refl cs
  · cases h

/-- Reads all tokens of a text that is the end of one of `total` bytes, so that
each offset is what precedes the token. -/
def lexemes (total : Nat) : List Char → Except ActionError (List Lexeme)
  | [] => .ok []
  | c :: cs =>
    match _h : scan c cs with
    | .error slice =>
      .error (.malformed (total - Text.byteLength (c :: cs)) (.unexpectedText (String.ofList slice)))
    | .ok (token, rest) =>
      match lexemes total rest with
      | .error e => .error e
      | .ok more =>
        match token with
        | some t => .ok (⟨t, total - Text.byteLength (c :: cs)⟩ :: more)
        | none => .ok more
termination_by cs => cs.length
decreasing_by
  have := (scan_suffix _h).length_le
  simp only [List.length_cons]
  omega

/-- The tokens of action code. -/
def tokenize (code : List Char) : Except ActionError (List Lexeme) :=
  lexemes (Text.byteLength code) code

end PredictiveParsing.Action
