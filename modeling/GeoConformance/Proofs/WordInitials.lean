import Mathlib.Data.List.SplitBy
import GeoConformance.Proofs.LowercaseTable

/-! Lower case of initials, word by word. A text is split into its words and the white space between
them; each word is treated on its own and the white space is kept. -/
namespace GeoConformance

def runs (cs : List Char) : List (List Char) :=
  cs.splitBy fun c d => isWhiteSpace c == isWhiteSpace d

theorem flatten_runs (cs : List Char) : (runs cs).flatten = cs :=
  List.flatten_splitBy _ cs

theorem runs_inj {cs ds : List Char} : runs cs = runs ds ↔ cs = ds := by
  refine ⟨fun h => ?_, congrArg runs⟩
  rw [← flatten_runs cs, h, flatten_runs]

/-- A word with its initial in lower case, unless it is one character or its second is a capital. -/
def uncapitalizeWord : List Char → List Char
  | c :: d :: cs => if isUppercase d then c :: d :: cs else lowercase c ++ d :: cs
  | word => word

def uncapitalizeRun (run : List Char) : List Char :=
  if run.all isWhiteSpace then run else uncapitalizeWord run

structure IsRun (space : Bool) (run : List Char) : Prop where
  ne_nil : run ≠ []
  isWhiteSpace_eq : ∀ c ∈ run, isWhiteSpace c = space

/-- What a run of either kind is followed by: nothing, or a run of the other kind. -/
def Follows (space : Bool) (rest : List Char) : Prop :=
  ∀ c ∈ rest.head?, isWhiteSpace c = !space

variable {space : Bool} {run rest : List Char}

theorem runs_append (hrun : IsRun space run) (hrest : Follows space rest) :
    runs (run ++ rest) = run :: runs rest := by
  have hchain : run.IsChain fun c d => (isWhiteSpace c == isWhiteSpace d) = true := by
    apply List.Pairwise.isChain
    refine List.pairwise_of_forall_mem_list fun c hc d hd => ?_
    rw [hrun.isWhiteSpace_eq c hc, hrun.isWhiteSpace_eq d hd, beq_self_eq_true]
  have hends : ∀ c ∈ run.getLast?, ∀ d ∈ rest.head?,
      (isWhiteSpace c == isWhiteSpace d) = false := by
    intro c hc d hd
    rw [hrun.isWhiteSpace_eq c (List.mem_of_getLast? hc), hrest d hd]
    cases space <;> rfl
  rw [runs, List.splitBy_append hends, List.splitBy_of_isChain hrun.ne_nil hchain,
    List.singleton_append, runs]

/-- Every text is built up of runs from its end. -/
theorem runs_induction {P : List Char → Prop} (nil : P [])
    (append : ∀ space run rest, IsRun space run → Follows space rest → P rest → P (run ++ rest))
    (cs : List Char) : P cs := by
  match cs with
  | [] => exact nil
  | c :: cs =>
    obtain ⟨same, hsame⟩ : ∃ same : Char → Bool, same = fun d => isWhiteSpace d == isWhiteSpace c :=
      ⟨_, rfl⟩
    have hc : same c = true := by simp [hsame]
    have hsplit := List.takeWhile_append_dropWhile (p := same) (l := c :: cs)
    have hrun : IsRun (isWhiteSpace c) ((c :: cs).takeWhile same) := by
      refine ⟨by simp [hc], fun d hd => ?_⟩
      have hd' := List.all_eq_true.mp (List.all_takeWhile (p := same)) d hd
      simpa [hsame] using hd'
    have hrest : Follows (isWhiteSpace c) ((c :: cs).dropWhile same) := by
      intro d hd
      have h := List.head?_dropWhile_not same (c :: cs)
      rw [Option.mem_def.mp hd] at h
      exact Bool.eq_not.mpr (by simpa [hsame] using h)
    have hlt : ((c :: cs).dropWhile same).length < (c :: cs).length := by
      rw [List.dropWhile_cons_of_pos hc]
      exact Nat.lt_succ_of_le (List.dropWhile_sublist same).length_le
    rw [← hsplit]
    exact append _ _ _ hrun hrest (runs_induction nil append _)
termination_by cs.length
decreasing_by exact hlt

/-! The pass over the text, run by run. -/

theorem uncapitalize_cons_of_isWhiteSpace {w : Char} (hw : isWhiteSpace w = true) (atStart : Bool)
    (ds : List Char) : uncapitalize atStart (w :: ds) = w :: uncapitalize true ds := by
  cases ds with
  | nil => rfl
  | cons d ds => simp [uncapitalize, hw, lowercase_of_isWhiteSpace hw]

theorem uncapitalize_of_follows (hrest : Follows false rest) (atStart : Bool) :
    uncapitalize atStart rest = uncapitalize true rest := by
  cases rest with
  | nil => rfl
  | cons w ds =>
    have hw : isWhiteSpace w = true := hrest w rfl
    rw [uncapitalize_cons_of_isWhiteSpace hw, uncapitalize_cons_of_isWhiteSpace hw]

theorem uncapitalize_gap_append {gap : List Char} (hgap : ∀ c ∈ gap, isWhiteSpace c = true) :
    uncapitalize true (gap ++ rest) = gap ++ uncapitalize true rest := by
  induction gap with
  | nil => rfl
  | cons w gap ih =>
    rw [List.cons_append, uncapitalize_cons_of_isWhiteSpace (hgap w List.mem_cons_self),
      ih fun c hc => hgap c (List.mem_cons_of_mem w hc), List.cons_append]

theorem uncapitalize_false_append {word : List Char} (hword : ∀ c ∈ word, isWhiteSpace c = false)
    (hrest : Follows false rest) :
    uncapitalize false (word ++ rest) = word ++ uncapitalize true rest := by
  induction word with
  | nil => exact uncapitalize_of_follows hrest false
  | cons c word ih =>
    have hc : isWhiteSpace c = false := hword c List.mem_cons_self
    have ih := ih fun d hd => hword d (List.mem_cons_of_mem c hd)
    cases hcs : word ++ rest with
    | nil =>
      obtain ⟨rfl, rfl⟩ := List.append_eq_nil_iff.mp hcs
      rfl
    | cons d cs =>
      rw [List.cons_append, hcs, uncapitalize, ← hcs, hc, ih]
      rfl

theorem uncapitalize_word_append {word : List Char} (hword : IsRun false word)
    (hrest : Follows false rest) :
    uncapitalize true (word ++ rest) = uncapitalizeWord word ++ uncapitalize true rest := by
  match word with
  | [] => exact absurd rfl hword.ne_nil
  | [c] =>
    cases rest with
    | nil => rfl
    | cons w ds =>
      have hc : isWhiteSpace c = false := hword.isWhiteSpace_eq c (by simp)
      have hw : isWhiteSpace w = true := hrest w rfl
      rw [List.singleton_append, uncapitalize, hc, uncapitalize_of_follows hrest, hw]
      rfl
  | c :: d :: cs =>
    have hc : isWhiteSpace c = false := hword.isWhiteSpace_eq c (by simp)
    have hd : isWhiteSpace d = false := hword.isWhiteSpace_eq d (by simp)
    have htail : uncapitalize false (d :: cs ++ rest) = d :: cs ++ uncapitalize true rest :=
      uncapitalize_false_append
        (fun e he => hword.isWhiteSpace_eq e (List.mem_cons_of_mem c he)) hrest
    rw [List.cons_append] at htail
    rw [List.cons_append, List.cons_append, uncapitalize, hc, htail, hd, uncapitalizeWord]
    cases isUppercase d <;> simp

theorem uncapitalizeRun_of_isWhiteSpace (h : IsRun true run) : uncapitalizeRun run = run :=
  if_pos (List.all_eq_true.mpr h.isWhiteSpace_eq)

theorem uncapitalizeRun_of_not_isWhiteSpace (h : IsRun false run) :
    uncapitalizeRun run = uncapitalizeWord run := by
  refine if_neg fun hall => ?_
  obtain ⟨c, hc⟩ := List.exists_mem_of_ne_nil run h.ne_nil
  have hspace := List.all_eq_true.mp hall c hc
  rw [h.isWhiteSpace_eq c hc] at hspace
  cases hspace

theorem uncapitalize_append (hrun : IsRun space run) (hrest : Follows space rest) :
    uncapitalize true (run ++ rest) = uncapitalizeRun run ++ uncapitalize true rest := by
  cases space with
  | true =>
    rw [uncapitalizeRun_of_isWhiteSpace hrun, uncapitalize_gap_append hrun.isWhiteSpace_eq]
  | false =>
    rw [uncapitalizeRun_of_not_isWhiteSpace hrun, uncapitalize_word_append hrun hrest]

theorem uncapitalize_eq_flatMap (cs : List Char) :
    uncapitalize true cs = (runs cs).flatMap uncapitalizeRun := by
  induction cs using runs_induction with
  | nil => rfl
  | append space run rest hrun hrest ih =>
    rw [uncapitalize_append hrun hrest, runs_append hrun hrest, List.flatMap_cons, ih]

/-- White space cuts the pass in two, whatever stands before it. -/
theorem uncapitalize_append_cons {w : Char} (hw : isWhiteSpace w = true) (ds cs : List Char)
    (atStart : Bool) :
    uncapitalize atStart (cs ++ w :: ds) = uncapitalize atStart cs ++ w :: uncapitalize true ds := by
  induction cs generalizing atStart with
  | nil => exact uncapitalize_cons_of_isWhiteSpace hw atStart ds
  | cons c cs ih =>
    cases cs with
    | nil => simp [uncapitalize, uncapitalize_cons_of_isWhiteSpace hw, hw]
    | cons d cs =>
      rw [List.cons_append, List.cons_append, uncapitalize, ← List.cons_append, ih, uncapitalize,
        List.append_assoc]

/-! The runs of the result are those of the text, each in its new form. -/

theorem uncapitalizeWord_cases (word : List Char) :
    uncapitalizeWord word = word ∨ ∃ c d cs, word = c :: d :: cs ∧ isUppercase d = false ∧
      uncapitalizeWord word = lowercase c ++ d :: cs := by
  match word with
  | [] | [_] => exact .inl rfl
  | c :: d :: cs =>
    cases hd : isUppercase d with
    | true => exact .inl (by simp [uncapitalizeWord, hd])
    | false => exact .inr ⟨c, d, cs, rfl, hd, by simp [uncapitalizeWord, hd]⟩

theorem IsRun.uncapitalizeRun (h : IsRun space run) : IsRun space (uncapitalizeRun run) := by
  cases space with
  | true => rwa [uncapitalizeRun_of_isWhiteSpace h]
  | false =>
    rw [uncapitalizeRun_of_not_isWhiteSpace h]
    obtain hsame | ⟨c, d, cs, rfl, -, hword⟩ := uncapitalizeWord_cases run
    · rwa [hsame]
    · rw [hword]
      refine ⟨by simp, fun e he => ?_⟩
      obtain he | he := List.mem_append.mp he
      · rw [isWhiteSpace_of_mem_lowercase he, h.isWhiteSpace_eq c List.mem_cons_self]
      · exact h.isWhiteSpace_eq e (List.mem_cons_of_mem c he)

theorem head?_uncapitalize (c : Char) (cs : List Char) (atStart : Bool) :
    ∃ d ∈ (uncapitalize atStart (c :: cs)).head?, isWhiteSpace d = isWhiteSpace c := by
  cases cs with
  | nil => exact ⟨c, rfl, rfl⟩
  | cons d cs =>
    rw [uncapitalize]
    split
    · obtain ⟨e, es, hes, -⟩ := exists_lowercase_eq_cons c
      have he : e ∈ lowercase c := hes ▸ List.mem_cons_self
      exact ⟨e, by rw [hes]; rfl, isWhiteSpace_of_mem_lowercase he⟩
    · exact ⟨c, rfl, rfl⟩

theorem Follows.uncapitalize (h : Follows space rest) : Follows space (uncapitalize true rest) := by
  cases rest with
  | nil => exact h
  | cons c cs =>
    obtain ⟨d, hd, hspace⟩ := head?_uncapitalize c cs true
    intro e he
    obtain rfl := Option.mem_unique hd he
    rw [hspace, h c rfl]

theorem runs_uncapitalize (cs : List Char) :
    runs (uncapitalize true cs) = (runs cs).map uncapitalizeRun := by
  induction cs using runs_induction with
  | nil => rfl
  | append space run rest hrun hrest ih =>
    rw [uncapitalize_append hrun hrest, runs_append hrun.uncapitalizeRun hrest.uncapitalize,
      runs_append hrun hrest, List.map_cons, ih]

theorem uncapitalizeWord_uncapitalizeWord (word : List Char) :
    uncapitalizeWord (uncapitalizeWord word) = uncapitalizeWord word := by
  obtain hsame | ⟨c, d, cs, rfl, hd, hword⟩ := uncapitalizeWord_cases word
  · rw [hsame, hsame]
  · -- The initial has become `e`, which is in lower case; what follows it now is no capital.
    obtain ⟨e, es, hes, hlower⟩ := exists_lowercase_eq_cons c
    have he : lowercase e = [e] := lowercase_of_mem_lowercase (hes ▸ List.mem_cons_self)
    rw [hword, hes]
    cases es with
    | nil => simp [uncapitalizeWord, hd, he]
    | cons f fs => simp [uncapitalizeWord, hlower f List.mem_cons_self, he]

theorem uncapitalizeRun_uncapitalizeRun (run : List Char) :
    uncapitalizeRun (uncapitalizeRun run) = uncapitalizeRun run := by
  by_cases h : run.all isWhiteSpace = true
  · simp [uncapitalizeRun, h]
  · have hrun : uncapitalizeRun run = uncapitalizeWord run := if_neg h
    rw [hrun, uncapitalizeRun, uncapitalizeWord_uncapitalizeWord, ite_self]

theorem uncapitalize_uncapitalize (cs : List Char) :
    uncapitalize true (uncapitalize true cs) = uncapitalize true cs := by
  calc uncapitalize true (uncapitalize true cs)
      = ((runs cs).map uncapitalizeRun).flatMap uncapitalizeRun := by
        rw [uncapitalize_eq_flatMap, runs_uncapitalize]
    _ = (runs cs).flatMap uncapitalizeRun := by
        simp only [List.flatMap_map, uncapitalizeRun_uncapitalizeRun]
    _ = uncapitalize true cs := (uncapitalize_eq_flatMap cs).symm

/-- Initials are put in lower case word by word: the words of a text change each on its own and
white space stays, so a text may be cut at any white space; and doing it twice changes no more. -/
theorem uncapitalizeWords_word_by_word :
    (∀ text, (uncapitalizeWords text).toList = (runs text.toList).flatMap uncapitalizeRun) ∧
    (∀ s t w, isWhiteSpace w = true → uncapitalizeWords (s ++ String.singleton w ++ t) =
      uncapitalizeWords s ++ String.singleton w ++ uncapitalizeWords t) ∧
    ∀ text, uncapitalizeWords (uncapitalizeWords text) = uncapitalizeWords text := by
  refine ⟨fun text => ?_, fun s t w hw => ?_, fun text => ?_⟩
  · rw [uncapitalizeWords, String.toList_ofList, uncapitalize_eq_flatMap]
  · apply String.toList_inj.mp
    simp only [uncapitalizeWords, String.toList_append, String.toList_ofList,
      String.toList_singleton, List.append_assoc, List.singleton_append]
    exact uncapitalize_append_cons hw t.toList s.toList true
  · rw [uncapitalizeWords, uncapitalizeWords, String.toList_ofList, uncapitalize_uncapitalize]

theorem initials_of_geodeticX : isWhiteSpace ' ' = true ∧
    uncapitalizeWords ("Geodetic" ++ String.singleton ' ' ++ "X") = "geodetic X" := by
  have hspace : isWhiteSpace ' ' = true := by decide
  have hgeodetic : uncapitalizeWords "Geodetic" = "geodetic" := by decide +kernel
  have hx : uncapitalizeWords "X" = "X" := by decide +kernel
  refine ⟨hspace, ?_⟩
  rw [uncapitalizeWords_word_by_word.2.1 "Geodetic" "X" ' ' hspace, hgeodetic, hx]
  rfl

end GeoConformance
