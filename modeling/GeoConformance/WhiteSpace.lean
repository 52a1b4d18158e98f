/-! The characters with the property White_Space, and the trimming that goes by them.
Zero-width and control separators outside the property are ordinary characters. -/
namespace GeoConformance

def isWhiteSpace (c : Char) : Bool :=
  let n := c.toNat
  (9 ≤ n && n ≤ 13) || n == 0x20 || n == 0x85 || n == 0xA0 || n == 0x1680 ||
    (0x2000 ≤ n && n ≤ 0x200A) || n == 0x2028 || n == 0x2029 || n == 0x202F || n == 0x205F ||
    n == 0x3000

/-- The text without the white space at either end. -/
def trim (text : String) : String :=
  String.ofList ((text.toList.dropWhile isWhiteSpace).reverse.dropWhile isWhiteSpace).reverse

/-- True of the empty text and of white space alone. -/
def isBlank (text : String) : Bool :=
  text.toList.all isWhiteSpace

theorem isBlank_eq_false_iff {text : String} :
    isBlank text = false ↔ ∃ c ∈ text.toList, isWhiteSpace c = false := by
  simp [isBlank]

end GeoConformance
