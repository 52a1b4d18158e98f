import GeoConformance.CaseTables
import GeoConformance.WhiteSpace

/-! Lower case of characters and of texts. A whole text is lowered with the final form of sigma;
`uncapitalizeWords` lowers initials only and leaves symbols and acronyms alone. -/
namespace GeoConformance

def isUppercase (c : Char) : Bool :=
  CaseTables.uppercase.any (·.contains c.toNat)

def isCased (c : Char) : Bool :=
  CaseTables.cased.any (·.contains c.toNat)

def isCaseIgnorable (c : Char) : Bool :=
  CaseTables.caseIgnorable.any (·.contains c.toNat)

/-- Two characters for the capital I with a dot above, one for every other character. -/
def lowercase (c : Char) : List Char :=
  if c = '\u0130' then ['i', '\u0307']
  else
    match CaseTables.lowercase.find? (·.span.contains c.toNat) with
    | some shift => [Char.ofNat ((c.toNat : Int) + shift.offset).toNat]
    | none => [c]

/-- Whether the first character that case does not ignore is cased. -/
def meetsCased (cs : List Char) : Bool :=
  match cs.dropWhile isCaseIgnorable with
  | [] => false
  | c :: _ => isCased c

/-- Lowers the characters that follow those in `before`, which stand nearest first. A capital
sigma is final when a cased character comes before it and none after. -/
def lowercaseAfter (before : List Char) : List Char → List Char
  | [] => []
  | c :: cs =>
    let lowered :=
      if c = 'Σ' then if meetsCased before && !meetsCased cs then ['ς'] else ['σ']
      else lowercase c
    lowered ++ lowercaseAfter (c :: before) cs

def lowercaseText (text : String) : String :=
  String.ofList (lowercaseAfter [] text.toList)

/-- Lowers the initial of each word; `atStart` says whether the first character starts one. A word
of one character, or with an upper-case second one, stays. -/
def uncapitalize (atStart : Bool) : List Char → List Char
  | [] => []
  | [c] => [c]
  | c :: d :: cs =>
    (if atStart && !isWhiteSpace d && !isUppercase d then lowercase c else [c]) ++
      uncapitalize (isWhiteSpace c) (d :: cs)

def uncapitalizeWords (text : String) : String :=
  String.ofList (uncapitalize true text.toList)

end GeoConformance
