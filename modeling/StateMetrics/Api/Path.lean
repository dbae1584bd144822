/-!
# Request paths

A request names an object by a path, and what may stand in a path is limited: names are put into it
as they are, so a name with a character that a path cannot hold has no path. A part behind a number
sign is never sent.
-/

namespace StateMetrics.Api

/-- Whether a character may stand in a path. Characters beyond ASCII may, control characters may
not. -/
def isPathCharacter (c : Char) : Bool :=
  0x20 < c.toNat && c.toNat ≠ 0x7f && !"#<>?`".toList.contains c

/-- Whether a character may stand in a query, the part behind a question mark. -/
def isQueryCharacter (c : Char) : Bool :=
  0x20 < c.toNat && c.toNat ≠ 0x7f && !"\"#<>".toList.contains c

/-- The longest path, in bytes. -/
def maxPathLength : Nat := 65534

/-- The path and the query of a text, if it can be sent. -/
def path? (text : List Char) : Option (List Char) :=
  let sent := text.takeWhile (· ≠ '#')
  let path := sent.takeWhile (· ≠ '?')
  if (String.ofList text).utf8ByteSize ≤ maxPathLength && path.all isPathCharacter
      && (sent.drop (path.length + 1)).all isQueryCharacter then some sent
  else none

end StateMetrics.Api
