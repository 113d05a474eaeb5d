import TerminalAgent.Url.Parse

/-!
# Queries as pairs

A query is a list of pairs between ampersands, each a name and a value around the first equals sign.
A plus sign stands for a space, and escapes are undone.
-/

namespace TerminalAgent.Url

/-- The text of a name or a value. -/
def decodePart (part : Bytes) : String :=
  Utf8.decodeLossy (unescape (part.map fun b => if b = 0x2B then 0x20 else b))

/-- The bytes between separators, without the empty stretches. -/
def splitPairs (query : Bytes) : List Bytes :=
  (query.splitOn 0x26).filter fun part => !part.isEmpty

/-- One pair. -/
def decodePair (pair : Bytes) : String × String :=
  let name := pair.takeWhile (· ≠ 0x3D)
  (decodePart name, decodePart (pair.drop (name.length + 1)))

/-- The pairs of a query. -/
def pairs (query : String) : List (String × String) :=
  (splitPairs (Utf8.encode query)).map decodePair

/-- The pairs of the query of a URL. -/
def queryPairs (url : Url) : List (String × String) :=
  pairs (url.query.getD "")

end TerminalAgent.Url
