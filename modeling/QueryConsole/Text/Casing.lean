import QueryConsole.Text.Basic
import QueryConsole.Text.CasingTable

/-!
# Upper and lower case

Full case mappings of texts, and the comparison that ignores the case of the ASCII letters. A
mapping may lengthen a text: the sharp s becomes two letters. The capital sigma is the one
character whose lower-case form depends on its surroundings.
-/

namespace QueryConsole.Text

/-- A character's image under a table of single counterparts and a table of expansions. -/
def mapCase (runs : List CaseRun) (expansions : List (Nat × List Nat)) (c : Char) : Text :=
  match CaseRun.counterpart? c.toNat runs with
  | some n => [Char.ofNat n]
  | none =>
    match expansions.lookup c.toNat with
    | some ns => ns.map Char.ofNat
    | none => [c]

/-- The upper-case form of a text. -/
def toUpper (t : Text) : Text := t.flatMap (mapCase upperRuns upperExpansions)

/-- Whether the first character that is not case-ignorable is a cased letter. -/
def startsCased (t : Text) : Bool :=
  match t.dropWhile (CodeRange.covers ·.toNat caseIgnorableRanges) with
  | [] => false
  | c :: _ => CodeRange.covers c.toNat casedRanges

/-- The lower-case form of the text `t` that follows the text `before`, given reversed. A capital
sigma after a cased letter and before none is a final one. -/
def toLowerAfter (before : Text) : Text → Text
  | [] => []
  | 'Σ' :: t =>
    (if startsCased before && !startsCased t then 'ς' else 'σ') :: toLowerAfter ('Σ' :: before) t
  | c :: t => mapCase lowerRuns lowerExpansions c ++ toLowerAfter (c :: before) t

/-- The lower-case form of a text. -/
def toLower (t : Text) : Text := toLowerAfter [] t

/-- The text with its ASCII letters in upper case. -/
def asciiUpper (t : Text) : Text := t.map Char.toUpper

/-- The text with its ASCII letters in lower case. -/
def asciiLower (t : Text) : Text := t.map Char.toLower

/-- Whether two texts differ at most in the case of their ASCII letters. -/
def sameIgnoringCase (s t : Text) : Bool := asciiUpper s == asciiUpper t

end QueryConsole.Text
