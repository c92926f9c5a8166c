/-!
White space of every script, and its removal at the ends of a text.
-/

namespace FlagDecision.Text

/-- White space: the controls from tab to carriage return, the blank, and the spaces and separators
beyond ASCII. -/
def isBlank (c : Char) : Bool :=
  let n := c.toNat
  (9 ≤ n && n ≤ 13) || n == 0x20 || n == 0x85 || n == 0xA0 || n == 0x1680 ||
    (0x2000 ≤ n && n ≤ 0x200A) || n == 0x2028 || n == 0x2029 || n == 0x202F || n == 0x205F ||
    n == 0x3000

/-- Without white space at the start. -/
def trimStart (s : List Char) : List Char := s.dropWhile isBlank

/-- Without white space at either end. -/
def trim (s : List Char) : List Char := (trimStart (trimStart s).reverse).reverse

/-- The part before the first `sep` and the part after it, if there is one. -/
def splitFirst? (sep : Char) (s : List Char) : Option (List Char × List Char) :=
  match s.dropWhile (· != sep) with
  | [] => none
  | _ :: rest => some (s.takeWhile (· != sep), rest)

/-- The pieces between all the `sep`, at least one. -/
def splitAll (sep : Char) : List Char → List (List Char)
  | [] => [[]]
  | c :: rest =>
    if c = sep then [] :: splitAll sep rest
    else
      match splitAll sep rest with
      | [] => [[c]]
      | piece :: pieces => (c :: piece) :: pieces

/-- `needle` stands somewhere in `s`. -/
def occursIn (needle : List Char) : List Char → Bool
  | [] => needle.isEmpty
  | c :: rest => needle.isPrefixOf (c :: rest) || occursIn needle rest

end FlagDecision.Text
