/-!
Input as a stream of tokens. The end of the input is not a token; it is where the
stream is exhausted.
-/
namespace PredictiveParsing.Parsing

/-- A piece of input that matched the pattern of a token. The offset counts
bytes. -/
structure Token where
  name : String
  text : String
  offset : Nat
deriving DecidableEq, Repr

/-- The tokens of an input and its length in bytes. -/
structure Stream where
  tokens : Array Token
  length : Nat
deriving DecidableEq, Repr

end PredictiveParsing.Parsing
