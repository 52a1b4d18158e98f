import Mathlib
import GeoConformance.AxisDirection
import GeoConformance.Value

/-! The texts that a direction is read from. They are its symbol with the ASCII letters in either
case, between any white space, and no others; what is refused is handed back as it was given. -/
namespace GeoConformance

/-- The word is what is left of the text without the white space at either end. -/
def StripsTo (text word : String) : Prop :=
  ∃ lead trail : String, text = lead ++ word ++ trail ∧
    isBlank lead = true ∧ isBlank trail = true ∧
    (∀ c ∈ word.toList.head?, isWhiteSpace c = false) ∧
    ∀ c ∈ word.toList.getLast?, isWhiteSpace c = false

theorem dropWhile_append_of_head {lead rest : List Char}
    (hlead : ∀ c ∈ lead, isWhiteSpace c = true) (hrest : ∀ c ∈ rest.head?, isWhiteSpace c = false) :
    (lead ++ rest).dropWhile isWhiteSpace = rest := by
  rw [List.dropWhile_append_of_pos hlead]
  cases rest with
  | nil => rfl
  | cons c cs =>
    have hc : isWhiteSpace c = false := hrest c rfl
    exact List.dropWhile_cons_of_neg (by simp [hc])

theorem head?_dropWhile_isWhiteSpace {cs : List Char} :
    ∀ c ∈ (cs.dropWhile isWhiteSpace).head?, isWhiteSpace c = false := by
  intro c hc
  have h := List.head?_dropWhile_not isWhiteSpace cs
  rw [Option.mem_def.mp hc] at h
  exact h

theorem stripsTo_trim (text : String) : StripsTo text (trim text) := by
  obtain ⟨rest, hrest⟩ : ∃ rest, rest = text.toList.dropWhile isWhiteSpace := ⟨_, rfl⟩
  have htext : text.toList.takeWhile isWhiteSpace ++ rest = text.toList := by
    rw [hrest, List.takeWhile_append_dropWhile]
  have hsplit : (rest.reverse.dropWhile isWhiteSpace).reverse ++
      (rest.reverse.takeWhile isWhiteSpace).reverse = rest := by
    rw [← List.reverse_append, List.takeWhile_append_dropWhile, List.reverse_reverse]
  refine ⟨.ofList (text.toList.takeWhile isWhiteSpace),
    .ofList (rest.reverse.takeWhile isWhiteSpace).reverse, ?_, ?_, ?_, ?_, ?_⟩
  · apply String.toList_inj.mp
    simp only [trim, ← hrest, String.toList_append, String.toList_ofList, List.append_assoc]
    rw [hsplit, htext]
  · simp [isBlank]
  · simp [isBlank]
  · intro c hc
    rw [trim, String.toList_ofList, ← hrest] at hc
    have hhead : rest.head? = some c := by
      rw [← hsplit, List.head?_append, Option.mem_def.mp hc, Option.some_or]
    rw [hrest] at hhead
    exact head?_dropWhile_isWhiteSpace c hhead
  · intro c hc
    rw [trim, String.toList_ofList, ← hrest, List.getLast?_reverse] at hc
    exact head?_dropWhile_isWhiteSpace c hc

theorem trim_eq_of_stripsTo {text word : String} (h : StripsTo text word) : trim text = word := by
  obtain ⟨lead, trail, rfl, hlead, htrail, hfirst, hlast⟩ := h
  have hlead' : ∀ c ∈ lead.toList, isWhiteSpace c = true := List.all_eq_true.mp hlead
  have htrail' : ∀ c ∈ trail.toList.reverse, isWhiteSpace c = true :=
    fun c hc => List.all_eq_true.mp htrail c (List.mem_reverse.mp hc)
  have hend : (trail.toList.reverse ++ word.toList.reverse).dropWhile isWhiteSpace =
      word.toList.reverse :=
    dropWhile_append_of_head htrail' (by rwa [List.head?_reverse])
  have hstart : ((lead ++ word ++ trail).toList.dropWhile isWhiteSpace).reverse.dropWhile
      isWhiteSpace = word.toList.reverse := by
    rw [String.toList_append, String.toList_append, List.append_assoc]
    by_cases hword : word.toList = []
    · -- Nothing but white space: the first pass takes it all.
      have hall : ∀ c ∈ lead.toList ++ (word.toList ++ trail.toList), isWhiteSpace c = true := by
        simp only [hword, List.nil_append, List.forall_mem_append]
        exact ⟨hlead', fun c hc => htrail' c (List.mem_reverse.mpr hc)⟩
      rw [List.dropWhile_eq_nil_iff.mpr hall, hword]
      rfl
    · have hhead : (word.toList ++ trail.toList).head? = word.toList.head? :=
        List.head?_append_of_ne_nil _ hword
      rw [dropWhile_append_of_head hlead' (by rwa [hhead]), List.reverse_append, hend]
  rw [trim, hstart, List.reverse_reverse, String.ofList_toList]

theorem trim_eq_iff {text word : String} : trim text = word ↔ StripsTo text word :=
  ⟨fun h => h ▸ stripsTo_trim text, trim_eq_of_stripsTo⟩

theorem stripsTo_of_forall {lead word trail : String} (hlead : isBlank lead = true)
    (htrail : isBlank trail = true) (hword : ∀ c ∈ word.toList, isWhiteSpace c = false) :
    StripsTo (lead ++ word ++ trail) word :=
  ⟨lead, trail, rfl, hlead, htrail, fun c hc => hword c (List.mem_of_head? hc),
    fun c hc => hword c (List.mem_of_getLast? hc)⟩

/-- The word has the letters of the symbol, each as it is or in lower case. -/
def CaseVariant (word symbol : String) : Prop :=
  List.Forall₂ (fun c s => c = s ∨ c = s.toLower) word.toList symbol.toList

theorem toUpper_eq_iff {c s : Char} (hs : ¬s.isLower = true) :
    c.toUpper = s ↔ c = s ∨ c = s.toLower := by
  constructor
  · rintro rfl
    by_cases hc : c.isLower = true
    · have hupper : ¬c.isUpper = true := Char.not_isUpper_of_isLower hc
      rw [Char.toLower_toUpper_eq_toLower, Char.toLower_eq_of_not_isUpper hupper]
      exact .inr rfl
    · exact .inl (Char.toUpper_eq_of_not_isLower hc).symm
  · rintro (rfl | rfl)
    · exact Char.toUpper_eq_of_not_isLower hs
    · rw [Char.toUpper_toLower_eq_toUpper, Char.toUpper_eq_of_not_isLower hs]

theorem map_toUpper_eq_iff {word symbol : String} (hs : ∀ s ∈ symbol.toList, ¬s.isLower = true) :
    word.map Char.toUpper = symbol ↔ CaseVariant word symbol := by
  rw [← String.toList_inj, String.toList_map, CaseVariant]
  generalize word.toList = cs at *
  generalize symbol.toList = ss at *
  induction cs generalizing ss with
  | nil => cases ss <;> simp
  | cons c cs ih =>
    cases ss with
    | nil => simp
    | cons s ss =>
      have hhead := toUpper_eq_iff (c := c) (hs s List.mem_cons_self)
      have htail := ih ss fun t ht => hs t (List.mem_cons_of_mem s ht)
      rw [List.map_cons, List.cons.injEq, List.forall₂_cons, hhead, htail]

namespace AxisDirection

/-- The text is the symbol of the direction in any ASCII case, between any white space. -/
def SpelledBy (d : AxisDirection) (text : String) : Prop :=
  ∃ word, StripsTo text word ∧ word.map Char.toUpper = d.symbol

theorem symbol_in_range (d : AxisDirection) :
    (d.symbol.toList.all fun s => 65 ≤ s.toNat ∧ s.toNat ≤ 95) = true := by
  cases d <;> rfl

theorem range_of_mem_symbol {d : AxisDirection} {s : Char} (hs : s ∈ d.symbol.toList) :
    65 ≤ s.toNat ∧ s.toNat ≤ 95 := by
  simpa using List.all_eq_true.mp d.symbol_in_range s hs

theorem map_toUpper_eq_symbol_iff {d : AxisDirection} {word : String} :
    word.map Char.toUpper = d.symbol ↔ CaseVariant word d.symbol := by
  refine map_toUpper_eq_iff fun s hs hlower => ?_
  have hrange := (range_of_mem_symbol hs).2
  simp only [Char.isLower, Bool.and_eq_true, decide_eq_true_eq, ge_iff_le,
    UInt32.le_iff_toNat_le] at hlower
  have hsmall : 97 ≤ s.toNat := hlower.1
  omega

theorem range_of_mem_word {d : AxisDirection} {word : String}
    (h : word.map Char.toUpper = d.symbol) {c : Char} (hc : c ∈ word.toList) :
    65 ≤ c.toNat ∧ c.toNat ≤ 122 := by
  have hmem : c.toUpper ∈ d.symbol.toList := by
    rw [← h, String.toList_map]
    exact List.mem_map_of_mem hc
  have hrange := range_of_mem_symbol hmem
  by_cases hlower : c.isLower = true
  · simp only [Char.isLower, Bool.and_eq_true, decide_eq_true_eq, ge_iff_le,
      UInt32.le_iff_toNat_le] at hlower
    have hsmall : 97 ≤ c.toNat ∧ c.toNat ≤ 122 := hlower
    omega
  · rw [Char.toUpper_eq_of_not_isLower hlower] at hrange
    omega

theorem isWhiteSpace_of_range {c : Char} (h : 65 ≤ c.toNat ∧ c.toNat ≤ 122) :
    isWhiteSpace c = false := by
  simp only [isWhiteSpace, Bool.or_eq_false_iff, Bool.and_eq_false_iff, decide_eq_false_iff_not,
    beq_eq_false_iff_ne]
  omega

def camelName : AxisDirection → String
  | other => "Other"
  | north => "North"
  | northNorthEast => "NorthNorthEast"
  | northEast => "NorthEast"
  | eastNorthEast => "EastNorthEast"
  | east => "East"
  | eastSouthEast => "EastSouthEast"
  | southEast => "SouthEast"
  | southSouthEast => "SouthSouthEast"
  | south => "South"
  | southSouthWest => "SouthSouthWest"
  | southWest => "SouthWest"
  | westSouthWest => "WestSouthWest"
  | west => "West"
  | westNorthWest => "WestNorthWest"
  | northWest => "NorthWest"
  | northNorthWest => "NorthNorthWest"
  | up => "Up"
  | down => "Down"
  | geocentricX => "GeocentricX"
  | geocentricY => "GeocentricY"
  | geocentricZ => "GeocentricZ"
  | future => "Future"
  | past => "Past"
  | columnPositive => "ColumnPositive"
  | columnNegative => "ColumnNegative"
  | rowPositive => "RowPositive"
  | rowNegative => "RowNegative"
  | displayRight => "DisplayRight"
  | displayLeft => "DisplayLeft"
  | displayUp => "DisplayUp"
  | displayDown => "DisplayDown"
  | forward => "Forward"
  | aft => "Aft"
  | port => "Port"
  | starboard => "Starboard"
  | clockwise => "Clockwise"
  | counterClockwise => "CounterClockwise"
  | towards => "Towards"
  | awayFrom => "AwayFrom"
  | unspecified => "Unspecified"

end AxisDirection

/-- A name with its words run together, in capitals with low lines between the words. -/
def screamingSnake (name : String) : String :=
  String.ofList (name.toList.zipIdx.flatMap fun (c, i) =>
    if 0 < i && c.isUpper then ['_', c] else [c.toUpper])

namespace AxisDirection

theorem screamingSnake_camelName (d : AxisDirection) : screamingSnake d.camelName = d.symbol := by
  cases d <;> decide

theorem parse_eq_ok_iff {text : String} {d : AxisDirection} :
    parse text = .ok d ↔ d.SpelledBy text := by
  have hread : parse text = .ok d ↔
      Vocabulary.named? ((trim text).map Char.toUpper) = some d := by
    rw [parse]
    cases (Vocabulary.named? ((trim text).map Char.toUpper) : Option AxisDirection) <;> simp
  rw [hread, Vocabulary.named?_eq_some]
  constructor
  · intro h
    exact ⟨trim text, stripsTo_trim text, h.symm⟩
  · rintro ⟨word, hword, h⟩
    rw [trim_eq_of_stripsTo hword, h]
    rfl

theorem given_of_parse_eq_error {text : String} {e : Unknown} (h : parse text = .error e) :
    e.given = text := by
  rw [parse] at h
  split at h
  · cases h
  · cases h
    rfl

theorem parse_eq_error_iff {text : String} {e : Unknown} :
    parse text = .error e ↔ e.given = text ∧ ∀ d : AxisDirection, ¬d.SpelledBy text := by
  constructor
  · intro h
    refine ⟨given_of_parse_eq_error h, fun d hd => ?_⟩
    rw [parse_eq_ok_iff.mpr hd] at h
    cases h
  · rintro ⟨rfl, hnone⟩
    cases h : parse e.given with
    | ok d => exact absurd (parse_eq_ok_iff.mp h) (hnone d)
    | error e' =>
      have hgiven : e'.given = e.given := given_of_parse_eq_error h
      cases e
      cases e'
      exact congrArg Except.error (congrArg Unknown.mk hgiven)

/-- White space around a symbol and the case of its letters make no difference, and nothing else
may be different. -/
theorem spelledBy_iff_exists_caseVariant {d : AxisDirection} {text : String} :
    d.SpelledBy text ↔ ∃ lead word trail, text = lead ++ word ++ trail ∧
      isBlank lead = true ∧ isBlank trail = true ∧ CaseVariant word d.symbol := by
  constructor
  · rintro ⟨word, ⟨lead, trail, htext, hlead, htrail, -, -⟩, hupper⟩
    exact ⟨lead, word, trail, htext, hlead, htrail, map_toUpper_eq_symbol_iff.mp hupper⟩
  · rintro ⟨lead, word, trail, rfl, hlead, htrail, hword⟩
    have hupper : word.map Char.toUpper = d.symbol := map_toUpper_eq_symbol_iff.mpr hword
    refine ⟨word, stripsTo_of_forall hlead htrail fun c hc => ?_, hupper⟩
    exact isWhiteSpace_of_range (range_of_mem_word hupper hc)

theorem not_spelledBy_of_not_ascii {d : AxisDirection} {text word : String}
    (hword : StripsTo text word) {c : Char} (hc : c ∈ word.toList) (hlarge : 128 ≤ c.toNat) :
    ¬d.SpelledBy text := by
  rintro ⟨word', hword', hupper⟩
  have hsame : word = word' := by
    rw [← trim_eq_of_stripsTo hword, trim_eq_of_stripsTo hword']
  have hrange := (range_of_mem_word hupper (hsame ▸ hc)).2
  omega

theorem spelledBy_symbol (d : AxisDirection) : d.SpelledBy d.symbol := by
  have hsame : CaseVariant d.symbol d.symbol := List.forall₂_same.mpr fun c _ => .inl rfl
  exact spelledBy_iff_exists_caseVariant.mpr ⟨"", d.symbol, "", by simp, rfl, rfl, hsame⟩

theorem decode?_text_eq_some_iff {text : String} {d : AxisDirection} :
    (decode? (.text text) : Option AxisDirection) = some d ↔ text = screamingSnake d.camelName := by
  rw [screamingSnake_camelName]
  exact Vocabulary.named?_eq_some.trans eq_comm

end AxisDirection

open AxisDirection in
/-- A direction is read from the texts whose capitals, without the white space at the ends, are its
symbol; no two directions are read from one text, and every other text is refused and handed back
as it was given. These are the symbol with its letters in either case between any white space, so
that a word with a character outside ASCII is refused. What a direction is decoded from, its name
in capitals, is read as the same direction. -/
theorem parse_reads_spelled_symbols :
    (∀ text d, parse text = .ok d ↔ d.SpelledBy text) ∧
    (∀ text e, parse text = .error e ↔ e.given = text ∧ ∀ d : AxisDirection, ¬d.SpelledBy text) ∧
    (∀ text (d d' : AxisDirection), d.SpelledBy text → d'.SpelledBy text → d = d') ∧
    (∀ text d, parse text = .ok d ↔ ∃ lead word trail, text = lead ++ word ++ trail ∧
      isBlank lead = true ∧ isBlank trail = true ∧ CaseVariant word d.symbol) ∧
    (∀ text word, StripsTo text word → (∃ c ∈ word.toList, 128 ≤ c.toNat) →
      parse text = .error ⟨text⟩) ∧
    ∀ text (d : AxisDirection),
      (decode? (.text text) = some d ↔ text = screamingSnake d.camelName) ∧
      (decode? (.text text) = some d → parse text = .ok d) := by
  refine ⟨fun text d => parse_eq_ok_iff, fun text e => parse_eq_error_iff, ?_, ?_, ?_, ?_⟩
  · intro text d d' h h'
    have hread : parse text = .ok d := parse_eq_ok_iff.mpr h
    rw [parse_eq_ok_iff.mpr h'] at hread
    exact (Except.ok.inj hread).symm
  · intro text d
    exact parse_eq_ok_iff.trans spelledBy_iff_exists_caseVariant
  · rintro text word hword ⟨c, hc, hlarge⟩
    exact parse_eq_error_iff.mpr ⟨rfl, fun d => not_spelledBy_of_not_ascii hword hc hlarge⟩
  · intro text d
    refine ⟨decode?_text_eq_some_iff, fun h => ?_⟩
    rw [decode?_text_eq_some_iff, screamingSnake_camelName] at h
    rw [h]
    exact parse_eq_ok_iff.mpr d.spelledBy_symbol

/-- A symbol in mixed case is read, also between an ideographic space and a line feed; with a long s
for a letter it is refused, though the capital of that is the letter. -/
theorem readings_of_southEast :
    (isBlank "\u3000" = true ∧ isBlank "\n" = true ∧
      CaseVariant "south_East" AxisDirection.southEast.symbol ∧
      AxisDirection.parse ("\u3000" ++ "south_East" ++ "\n") = .ok .southEast) ∧
    (StripsTo " ſOUTH_EAST" "ſOUTH_EAST" ∧ (∃ c ∈ "ſOUTH_EAST".toList, 128 ≤ c.toNat) ∧
      AxisDirection.parse " ſOUTH_EAST" = .error ⟨" ſOUTH_EAST"⟩) ∧
    (decode? (.text "SOUTH_EAST") = some AxisDirection.southEast ∧
      AxisDirection.parse "SOUTH_EAST" = .ok .southEast) := by
  have hword : CaseVariant "south_East" AxisDirection.southEast.symbol :=
    AxisDirection.map_toUpper_eq_symbol_iff.mp (by cbv)
  have hstrips : StripsTo " ſOUTH_EAST" "ſOUTH_EAST" := trim_eq_iff.mp (by decide)
  have hlarge : ∃ c ∈ "ſOUTH_EAST".toList, 128 ≤ c.toNat := ⟨'ſ', by simp, by decide⟩
  have hdecoded : decode? (.text "SOUTH_EAST") = some AxisDirection.southEast := by decide
  obtain ⟨-, -, -, hread, hrefused, hserial⟩ := parse_reads_spelled_symbols
  have hread' := (hread _ _).mpr ⟨"\u3000", _, "\n", rfl, rfl, rfl, hword⟩
  exact ⟨⟨rfl, rfl, hword, hread'⟩,
    ⟨hstrips, hlarge, hrefused _ _ hstrips hlarge⟩, hdecoded, (hserial _ _).2 hdecoded⟩

end GeoConformance
