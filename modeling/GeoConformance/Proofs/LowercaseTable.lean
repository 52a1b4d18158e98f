import GeoConformance.Casing

/-! What the table of lower case says of characters one by one. White space is its own lower case;
what a character becomes is its own lower case too and is no white space where the character is
none; and a character that becomes two leaves no capital behind. -/
namespace GeoConformance
namespace CaseTables

namespace Span

variable {s t : Span} {n : Nat}

def members (s : Span) : List Nat :=
  (List.range ((s.last - s.first) / s.stride + 1)).map fun i => s.first + i * s.stride

theorem mem_members_of_contains (h : s.contains n = true) : n ∈ s.members := by
  simp only [contains, Bool.and_eq_true, decide_eq_true_eq, beq_iff_eq] at h
  obtain ⟨⟨hfirst, hlast⟩, hstride⟩ := h
  have hmul : (n - s.first) / s.stride * s.stride = n - s.first :=
    Nat.div_mul_cancel (Nat.dvd_of_mod_eq_zero hstride)
  have hle : (n - s.first) / s.stride ≤ (s.last - s.first) / s.stride :=
    Nat.div_le_div_right (by omega)
  refine List.mem_map.mpr ⟨(n - s.first) / s.stride, List.mem_range.mpr (by omega), ?_⟩
  rw [hmul]
  omega

/-- Whether no code point is listed by both spans. Members are looked up only where the ranges
overlap. -/
def apart (s t : Span) : Bool :=
  s.last.blt t.first || t.last.blt s.first || s.members.all fun n => !t.contains n

theorem contains_eq_false_of_apart (h : s.apart t = true) (hs : s.contains n = true) :
    t.contains n = false := by
  have hrange : s.first ≤ n ∧ n ≤ s.last := by
    simp only [contains, Bool.and_eq_true, decide_eq_true_eq] at hs
    exact hs.1
  simp only [apart, Bool.or_eq_true, Nat.blt_eq] at h
  obtain (hlt | hlt) | hall := h
  · simp only [contains, Bool.and_eq_false_iff, decide_eq_false_iff_not]
    omega
  · simp only [contains, Bool.and_eq_false_iff, decide_eq_false_iff_not]
    omega
  · simpa using List.all_eq_true.mp hall n (mem_members_of_contains hs)

end Span

def Shift.image (s : Shift) : Span :=
  ⟨(s.span.first + s.offset).toNat, (s.span.last + s.offset).toNat, s.span.stride⟩

def whiteSpaces : List Span :=
  [⟨9, 13, 1⟩, ⟨0x20, 0x20, 1⟩, ⟨0x85, 0x85, 1⟩, ⟨0xA0, 0xA0, 1⟩, ⟨0x1680, 0x1680, 1⟩,
    ⟨0x2000, 0x200A, 1⟩, ⟨0x2028, 0x2029, 1⟩, ⟨0x202F, 0x202F, 1⟩, ⟨0x205F, 0x205F, 1⟩,
    ⟨0x3000, 0x3000, 1⟩]

/-! The table as a whole: images are code points of characters, and lie apart from the spans, from
the capital I with a dot and from the white space, from which the spans lie apart as well. -/

theorem images_valid : (lowercase.all fun s => 0 ≤ s.span.first + s.offset &&
    (s.image.last.blt 0xD800 || Nat.blt 0xDFFF s.image.first && s.image.last.blt 0x110000)) =
      true := by
  decide +kernel

theorem images_apart_spans :
    ((lowercase.map Shift.image).all fun s => lowercase.all fun t => s.apart t.span) = true := by
  decide +kernel

theorem images_apart_dotted : (lowercase.all fun s => !s.image.contains 0x130) = true := by
  decide +kernel

theorem images_apart_whiteSpaces :
    (lowercase.all fun s => whiteSpaces.all fun w => s.image.apart w) = true := by
  decide +kernel

theorem whiteSpaces_apart_spans :
    (whiteSpaces.all fun w => lowercase.all fun s => w.apart s.span) = true := by
  decide +kernel

variable {s : Shift}

theorem image_valid (hs : s ∈ lowercase) : 0 ≤ s.span.first + s.offset ∧
    (s.image.last < 0xD800 ∨ 0xDFFF < s.image.first ∧ s.image.last < 0x110000) := by
  simpa using List.all_eq_true.mp images_valid s hs

theorem not_contains_of_image_contains {m : Nat} (hs : s ∈ lowercase)
    (hm : s.image.contains m = true) : ∀ t ∈ lowercase, t.span.contains m = false := by
  intro t ht
  have hall := List.all_eq_true.mp images_apart_spans _ (List.mem_map_of_mem hs)
  exact Span.contains_eq_false_of_apart (List.all_eq_true.mp hall t ht) hm

theorem whiteSpaces_not_contains_of_image_contains {m : Nat} (hs : s ∈ lowercase)
    (hm : s.image.contains m = true) : ∀ w ∈ whiteSpaces, w.contains m = false := by
  intro w hw
  have hall := List.all_eq_true.mp images_apart_whiteSpaces s hs
  exact Span.contains_eq_false_of_apart (List.all_eq_true.mp hall w hw) hm

theorem not_contains_of_whiteSpaces_contains {w : Span} {n : Nat} (hw : w ∈ whiteSpaces)
    (hn : w.contains n = true) : ∀ t ∈ lowercase, t.span.contains n = false := by
  intro t ht
  have hall := List.all_eq_true.mp whiteSpaces_apart_spans w hw
  exact Span.contains_eq_false_of_apart (List.all_eq_true.mp hall t ht) hn

theorem image_contains (hs : s ∈ lowercase) {n m : Nat} (hn : s.span.contains n = true)
    (hm : (m : Int) = n + s.offset) : s.image.contains m = true := by
  have hfirst := (image_valid hs).1
  simp only [Span.contains, Bool.and_eq_true, decide_eq_true_eq, beq_iff_eq] at hn
  obtain ⟨⟨hlow, hhigh⟩, hstride⟩ := hn
  have hmod : m - (s.span.first + s.offset).toNat = n - s.span.first := by omega
  have hlow' : (s.span.first + s.offset).toNat ≤ m := by omega
  have hhigh' : m ≤ (s.span.last + s.offset).toNat := by omega
  simp [Span.contains, Shift.image, hmod, hlow', hhigh', hstride]

theorem exists_whiteSpaces_of_isWhiteSpace {c : Char} (h : isWhiteSpace c = true) :
    ∃ w ∈ whiteSpaces, w.contains c.toNat = true := by
  simp only [isWhiteSpace, Bool.or_eq_true, Bool.and_eq_true, decide_eq_true_eq, beq_iff_eq] at h
  simp [whiteSpaces, Span.contains, Nat.mod_one]
  omega

theorem isWhiteSpace_of_forall {c : Char} (h : ∀ w ∈ whiteSpaces, w.contains c.toNat = false) :
    isWhiteSpace c = false := by
  cases hc : isWhiteSpace c with
  | false => rfl
  | true =>
    obtain ⟨w, hw, hcontains⟩ := exists_whiteSpaces_of_isWhiteSpace hc
    rw [h w hw] at hcontains
    cases hcontains

end CaseTables

variable {c d : Char}

theorem lowercase_eq_self (hdotted : c.toNat ≠ 0x130)
    (h : ∀ s ∈ CaseTables.lowercase, s.span.contains c.toNat = false) : lowercase c = [c] := by
  have hc : c ≠ '\u0130' := by
    rintro rfl
    exact hdotted rfl
  have hfind : CaseTables.lowercase.find? (·.span.contains c.toNat) = none :=
    List.find?_eq_none.mpr fun s hs => by simp [h s hs]
  rw [lowercase, if_neg hc, hfind]

/-- A character becomes two, or the one that a shift of the table moves it to, or stays. -/
theorem lowercase_cases (c : Char) :
    (c = '\u0130' ∧ lowercase c = ['i', '\u0307']) ∨
    (∃ s ∈ CaseTables.lowercase, ∃ d, lowercase c = [d] ∧ (d.toNat : Int) = c.toNat + s.offset ∧
      s.image.contains d.toNat = true) ∨
    lowercase c = [c] := by
  by_cases hc : c = '\u0130'
  · exact .inl ⟨hc, by rw [lowercase, if_pos hc]⟩
  · refine .inr ?_
    cases hfind : CaseTables.lowercase.find? (·.span.contains c.toNat) with
    | none => exact .inr (by rw [lowercase, if_neg hc, hfind])
    | some s =>
      have hs : s ∈ CaseTables.lowercase := List.mem_of_find?_eq_some hfind
      have hcontains : s.span.contains c.toNat = true := by simpa using List.find?_some hfind
      obtain ⟨m, hm⟩ : ∃ m, m = ((c.toNat : Int) + s.offset).toNat := ⟨_, rfl⟩
      have hcast : (m : Int) = c.toNat + s.offset := by
        have hfirst := (CaseTables.image_valid hs).1
        simp only [CaseTables.Span.contains, Bool.and_eq_true, decide_eq_true_eq] at hcontains
        omega
      have himage : s.image.contains m = true := CaseTables.image_contains hs hcontains hcast
      have hvalid : m.isValidChar := by
        have hlast := (CaseTables.image_valid hs).2
        simp only [CaseTables.Span.contains, Bool.and_eq_true, decide_eq_true_eq] at himage
        simp only [Nat.isValidChar]
        omega
      have hnat : (Char.ofNat m).toNat = m := by
        rw [Char.ofNat, dif_pos hvalid]
        rfl
      refine .inl ⟨s, hs, .ofNat m, ?_, by rw [hnat, hcast], by rw [hnat, himage]⟩
      rw [lowercase, if_neg hc, hfind, hm]

theorem lowercase_of_isWhiteSpace (h : isWhiteSpace c = true) : lowercase c = [c] := by
  obtain ⟨w, hw, hcontains⟩ := CaseTables.exists_whiteSpaces_of_isWhiteSpace h
  have hdotted : c.toNat ≠ 0x130 := by
    intro hc
    rw [isWhiteSpace, hc] at h
    cases h
  exact lowercase_eq_self hdotted (CaseTables.not_contains_of_whiteSpaces_contains hw hcontains)

theorem lowercase_of_mem_lowercase (h : d ∈ lowercase c) : lowercase d = [d] := by
  obtain ⟨-, hc⟩ | ⟨s, hs, e, hc, -, himage⟩ | hc := lowercase_cases c
  · rw [hc] at h
    obtain rfl | rfl : d = 'i' ∨ d = '\u0307' := by simpa using h
    · decide +kernel
    · decide +kernel
  · rw [hc, List.mem_singleton] at h
    subst h
    refine lowercase_eq_self (fun hdotted => ?_)
      (CaseTables.not_contains_of_image_contains hs himage)
    have hapart := List.all_eq_true.mp CaseTables.images_apart_dotted s hs
    rw [← hdotted, himage] at hapart
    cases hapart
  · rw [hc, List.mem_singleton] at h
    rw [h, hc]

theorem isWhiteSpace_of_mem_lowercase (h : d ∈ lowercase c) : isWhiteSpace d = isWhiteSpace c := by
  cases hc : isWhiteSpace c with
  | true =>
    rw [lowercase_of_isWhiteSpace hc, List.mem_singleton] at h
    rw [h, hc]
  | false =>
    obtain ⟨-, hl⟩ | ⟨s, hs, e, hl, -, himage⟩ | hl := lowercase_cases c
    · rw [hl] at h
      obtain rfl | rfl : d = 'i' ∨ d = '\u0307' := by simpa using h
      · decide
      · decide
    · rw [hl, List.mem_singleton] at h
      subst h
      exact CaseTables.isWhiteSpace_of_forall
        (CaseTables.whiteSpaces_not_contains_of_image_contains hs himage)
    · rw [hl, List.mem_singleton] at h
      rw [h, hc]

/-- The small letters of ASCII, but for `k`, which the Kelvin sign becomes, and `i`, which the
capital I with a dot becomes in part. -/
def plainLetters : List Char :=
  ['a', 'b', 'c', 'd', 'e', 'f', 'g', 'h', 'j', 'l', 'm', 'n', 'o', 'p', 'q', 'r', 's', 't', 'u',
    'v', 'w', 'x', 'y', 'z']

theorem lowercase_plainLetters : (plainLetters.all fun d =>
    lowercase d == [d] && lowercase d.toUpper == [d] &&
      !isWhiteSpace d && !isWhiteSpace d.toUpper) = true := by
  decide +kernel

theorem shifts_to_plainLetters : (CaseTables.lowercase.all fun s => plainLetters.all fun d =>
    !s.image.contains d.toNat || (d.toNat : Int) == d.toUpper.toNat + s.offset) = true := by
  decide +kernel

theorem lowercase_of_mem_plainLetters (hd : d ∈ plainLetters) :
    lowercase d = [d] ∧ lowercase d.toUpper = [d] := by
  have h := List.all_eq_true.mp lowercase_plainLetters d hd
  simp only [Bool.and_eq_true, beq_iff_eq] at h
  exact ⟨h.1.1.1, h.1.1.2⟩

theorem isWhiteSpace_of_mem_plainLetters (hd : d ∈ plainLetters) :
    isWhiteSpace d = false ∧ isWhiteSpace d.toUpper = false := by
  have h := List.all_eq_true.mp lowercase_plainLetters d hd
  simp only [Bool.and_eq_true, Bool.not_eq_true'] at h
  exact ⟨h.1.2, h.2⟩

theorem lowercase_eq_cons_iff {ds : List Char} (hd : d ∈ plainLetters) :
    lowercase c = d :: ds ↔ ds = [] ∧ (c = d ∨ c = d.toUpper) := by
  constructor
  · intro h
    obtain ⟨-, hc⟩ | ⟨s, hs, e, hc, hoffset, himage⟩ | hc := lowercase_cases c
    · rw [hc] at h
      cases h
      exact absurd hd (by decide)
    · rw [hc] at h
      cases h
      have hshift := List.all_eq_true.mp (List.all_eq_true.mp shifts_to_plainLetters s hs) d hd
      simp only [himage, Bool.not_true, Bool.false_or, beq_iff_eq] at hshift
      exact ⟨rfl, .inr (Char.toNat_inj.mp (by omega))⟩
    · rw [hc] at h
      cases h
      exact ⟨rfl, .inl rfl⟩
  · rintro ⟨rfl, rfl | rfl⟩
    · exact (lowercase_of_mem_plainLetters hd).1
    · exact (lowercase_of_mem_plainLetters hd).2

theorem exists_lowercase_eq_cons (c : Char) :
    ∃ d ds, lowercase c = d :: ds ∧ ∀ e ∈ ds, isUppercase e = false := by
  obtain ⟨-, hc⟩ | ⟨s, -, d, hc, -⟩ | hc := lowercase_cases c
  · refine ⟨'i', ['\u0307'], hc, fun e he => ?_⟩
    obtain rfl := List.mem_singleton.mp he
    decide +kernel
  · exact ⟨d, [], hc, by simp⟩
  · exact ⟨c, [], hc, by simp⟩

end GeoConformance
