import ContextLens.HeuristicEvaluation
import Mathlib.Data.Finset.Union

/-!
# Coverage of a set of texts

The two lexical scores of `compute_minimal_retrieval_evaluation`, which read the retrieved
bodies joined with a blank line.

* **Joining is union.**  The tokens are maximal runs of word characters and the separator
  has none, so no token is merged or cut at a chunk border
  (`significantTokens_intercalate`).
* **A score is a share of tokens.**  Both scores are the share of some tokens that the
  retrieved texts have (`tokenRecall_eq`), hence a function of the *set* of texts, and a
  monotone one (`CoverageLaw`).
-/

namespace ContextLens

open Foundations

/-! ## Tokens of joined texts -/

/-- The maximal runs of word characters, with empty ones between adjacent separators. -/
def wordRuns (text : List Char) : List (List Char) := text.splitOnP fun c => !isWordChar c

theorem mem_significantTokens {text token : String} :
    token ∈ significantTokens text ↔
      ∃ w ∈ wordRuns text.toList, 2 ≤ w.length ∧
        String.ofList (w.flatMap Python.lowerChar) = token := by
  rw [significantTokens, List.mem_toFinset, List.mem_map]
  constructor
  · rintro ⟨w, hw, rfl⟩
    rw [List.mem_filter, decide_eq_true_eq] at hw
    exact ⟨w, hw.1, hw.2, rfl⟩
  · rintro ⟨w, hw, hlength, rfl⟩
    exact ⟨w, List.mem_filter.mpr ⟨hw, decide_eq_true hlength⟩, rfl⟩

/-- Two texts with a character between them that is in no word. -/
theorem wordRuns_append_cons {c : Char} (hc : isWordChar c = false) (left right : List Char) :
    wordRuns (left ++ c :: right) = wordRuns left ++ wordRuns right :=
  List.splitOnP_append_cons left right (by rw [hc]; rfl)

/-- No token crosses the blank line. -/
theorem mem_significantTokens_append {left right token : String} :
    token ∈ significantTokens (left ++ "\n\n" ++ right) ↔
      token ∈ significantTokens left ∨ token ∈ significantTokens right := by
  have hruns : wordRuns (left ++ "\n\n" ++ right).toList =
      wordRuns left.toList ++ ([] :: wordRuns right.toList) := by
    have htext : (left ++ "\n\n" ++ right).toList =
        left.toList ++ '\n' :: ([] ++ '\n' :: right.toList) := by
      rw [String.toList_append, String.toList_append, List.append_assoc]
      rfl
    rw [htext, wordRuns_append_cons (by decide), wordRuns_append_cons (by decide)]
    rfl
  rw [mem_significantTokens, mem_significantTokens, mem_significantTokens, hruns]
  constructor
  · rintro ⟨w, hw, hlength, htoken⟩
    rcases List.mem_append.mp hw with hleft | hright
    · exact Or.inl ⟨w, hleft, hlength, htoken⟩
    · rcases List.mem_cons.mp hright with rfl | hright
      · exact absurd hlength (by decide)
      · exact Or.inr ⟨w, hright, hlength, htoken⟩
  · rintro (⟨w, hw, htoken⟩ | ⟨w, hw, htoken⟩)
    · exact ⟨w, List.mem_append_left _ hw, htoken⟩
    · exact ⟨w, List.mem_append_right _ (List.mem_cons_of_mem _ hw), htoken⟩

theorem significantTokens_empty : significantTokens "" = ∅ := by
  decide

/-- **Joining is union**: the tokens of the joined texts are those of the texts. -/
theorem significantTokens_intercalate (chunks : List String) :
    significantTokens ("\n\n".intercalate chunks) = chunks.toFinset.biUnion significantTokens := by
  ext token
  rw [Finset.mem_biUnion]
  induction chunks with
  | nil =>
      rw [String.intercalate_nil, significantTokens_empty]
      simp
  | cons chunk rest ih =>
      cases rest with
      | nil =>
          rw [String.intercalate_singleton]
          simp
      | cons next rest =>
          rw [String.intercalate_cons_cons, mem_significantTokens_append, ih]
          simp only [List.mem_toFinset, List.mem_cons, exists_eq_or_imp]

/-! ## The share of tokens -/

/-- A row of the retrieval with the body of its chunk. -/
abbrev RetrievedHit := RetrievalResult × String

/-- The tokens that some hits have. -/
def retrievedTokens (hits : List RetrievedHit) : Finset String :=
  (hits.map Prod.snd).toFinset.biUnion significantTokens

/-- What a lexical score of the hits satisfies, for the tokens it looks for. -/
structure CoverageLaw (tokens : Finset String) (score : List RetrievedHit → Option ℚ) : Prop where
  null_iff : ∀ hits, hits ≠ [] → (score hits = none ↔ tokens = ∅)
  mem_unit : ∀ hits q, hits ≠ [] → score hits = some q → 0 ≤ q ∧ q ≤ 1
  perm : ∀ hits hits', hits ≠ [] → hits'.Perm hits → score hits' = score hits
  duplicate : ∀ hits hit, hit ∈ hits → score (hit :: hits) = score hits
  grow : ∀ hits hit q, hits ≠ [] → score hits = some q →
    ∃ q', score (hit :: hits) = some q' ∧ q ≤ q'
  full_iff : ∀ hits, hits ≠ [] → tokens ≠ ∅ →
    (score hits = some 1 ↔
      ∀ token ∈ tokens, ∃ hit ∈ hits, token ∈ significantTokens hit.2)

section

variable {tokens : Finset String} {hits hits' : List RetrievedHit}

theorem mem_retrievedTokens {token : String} :
    token ∈ retrievedTokens hits ↔ ∃ hit ∈ hits, token ∈ significantTokens hit.2 := by
  rw [retrievedTokens, Finset.mem_biUnion]
  constructor
  · rintro ⟨text, htext, htoken⟩
    obtain ⟨hit, hhit, rfl⟩ := List.mem_map.mp (List.mem_toFinset.mp htext)
    exact ⟨hit, hhit, htoken⟩
  · rintro ⟨hit, hhit, htoken⟩
    exact ⟨hit.2, List.mem_toFinset.mpr (List.mem_map_of_mem hhit), htoken⟩

theorem retrievedTokens_mono (h : hits ⊆ hits') : retrievedTokens hits ⊆ retrievedTokens hits' := by
  intro token htoken
  obtain ⟨hit, hhit, hmem⟩ := mem_retrievedTokens.mp htoken
  exact mem_retrievedTokens.mpr ⟨hit, h hhit, hmem⟩

theorem retrievedTokens_congr (h : hits ⊆ hits') (h' : hits' ⊆ hits) :
    retrievedTokens hits = retrievedTokens hits' :=
  Finset.Subset.antisymm (retrievedTokens_mono h) (retrievedTokens_mono h')

/-- **A score is a share**: neither special case of `token_recall` is one of the share. -/
theorem tokenRecall_eq (tokens : Finset String) (hits : List RetrievedHit) :
    tokenRecall tokens (joinedChunkText hits) =
      if tokens = ∅ then none
      else some (((tokens ∩ retrievedTokens hits).card : ℚ) / tokens.card) := by
  rw [tokenRecall, joinedChunkText, significantTokens_intercalate, ← retrievedTokens]
  by_cases htokens : tokens = ∅
  · rw [if_pos htokens, if_pos htokens]
  · rw [if_neg htokens, if_neg htokens]
    by_cases hempty : retrievedTokens hits = ∅
    · rw [if_pos hempty, hempty, Finset.inter_empty, Finset.card_empty, Nat.cast_zero, zero_div]
    · rw [if_neg hempty]

theorem card_pos_of_ne_empty (h : tokens ≠ ∅) : (0 : ℚ) < tokens.card :=
  Nat.cast_pos.mpr (Finset.card_pos.mpr (Finset.nonempty_iff_ne_empty.mpr h))

/-- The share of more hits is not smaller. -/
theorem share_mono (h : hits ⊆ hits') :
    ((tokens ∩ retrievedTokens hits).card : ℚ) / tokens.card ≤
      (tokens ∩ retrievedTokens hits').card / tokens.card := by
  refine div_le_div_of_nonneg_right ?_ (Nat.cast_nonneg _)
  exact_mod_cast Finset.card_le_card
    (Finset.inter_subset_inter_left (retrievedTokens_mono h))

/-- The share is one when no token is missing. -/
theorem share_eq_one_iff (h : tokens ≠ ∅) :
    ((tokens ∩ retrievedTokens hits).card : ℚ) / tokens.card = 1 ↔
      tokens ⊆ retrievedTokens hits := by
  rw [div_eq_one_iff_eq (card_pos_of_ne_empty h).ne', Nat.cast_inj]
  constructor
  · intro hcard
    exact Finset.inter_eq_left.mp (Finset.eq_of_subset_of_card_le Finset.inter_subset_left hcard.ge)
  · intro hsubset
    rw [Finset.inter_eq_left.mpr hsubset]

/-- **The law of a share of tokens.** -/
theorem coverageLaw_tokenRecall (tokens : Finset String) :
    CoverageLaw tokens fun hits => tokenRecall tokens (joinedChunkText hits) where
  null_iff hits _ := by
    rw [tokenRecall_eq]
    by_cases h : tokens = ∅
    · rw [if_pos h]
      exact iff_of_true rfl h
    · rw [if_neg h]
      exact iff_of_false (Option.some_ne_none _) h
  mem_unit hits q _ h := tokenRecall_mem_unit h
  perm hits hits' _ h := by
    rw [tokenRecall_eq, tokenRecall_eq, retrievedTokens_congr h.subset h.symm.subset]
  duplicate hits hit h := by
    rw [tokenRecall_eq, tokenRecall_eq, retrievedTokens_congr
      (List.cons_subset.mpr ⟨h, List.Subset.refl hits⟩) (List.subset_cons_self hit hits)]
  grow hits hit q _ h := by
    rw [tokenRecall_eq] at h
    by_cases htokens : tokens = ∅
    · rw [if_pos htokens] at h
      cases h
    · rw [if_neg htokens] at h
      refine ⟨_, by rw [tokenRecall_eq, if_neg htokens], ?_⟩
      rw [← Option.some.inj h]
      exact share_mono (List.subset_cons_self hit hits)
  full_iff hits _ htokens := by
    rw [tokenRecall_eq, if_neg htokens, Option.some.injEq, share_eq_one_iff htokens]
    exact forall₂_congr fun token _ => mem_retrievedTokens

end

/-! ## The two scores -/

/-- The tokens that an expected answer asks for. -/
def expectedTokens (expectedAnswer : Option String) : Finset String :=
  expectedAnswer.elim ∅ significantTokens

section

variable {queryText : String} {expectedAnswer : Option String} {hits : List RetrievedHit}

theorem isWordChar_of_isSpace {c : Char} (h : Python.isSpace c = true) : isWordChar c = false := by
  have hval : c.val.toNat = c.toNat := rfl
  simp only [Python.isSpace, Bool.or_eq_true, Bool.and_eq_true, decide_eq_true_eq] at h
  have hword : isWordChar c = (decide ('A'.val ≤ c.val ∧ c.val ≤ 'Z'.val) ||
      (decide ('a'.val ≤ c.val) && decide (c.val ≤ 'z'.val)) ||
      (decide ('0'.val ≤ c.val) && decide (c.val ≤ '9'.val)) ||
      decide (c.toNat ∈ [304, 305, 383, 8490])) := rfl
  simp only [hword, Bool.or_eq_false_iff, Bool.and_eq_false_iff, decide_eq_false_iff_not,
    List.mem_cons, List.not_mem_nil, or_false, UInt32.le_iff_toNat_le, hval]
  simp
  omega

/-- A text without a word character has empty runs only. -/
theorem eq_nil_of_mem_wordRuns {text w : List Char} (htext : ∀ c ∈ text, isWordChar c = false)
    (hw : w ∈ wordRuns text) : w = [] := by
  induction text with
  | nil => exact List.mem_singleton.mp hw
  | cons c rest ih =>
      have hruns := wordRuns_append_cons (htext c List.mem_cons_self) [] rest
      rw [List.nil_append] at hruns
      rw [hruns] at hw
      rcases List.mem_append.mp hw with hfirst | hrest
      · exact List.mem_singleton.mp hfirst
      · exact ih (fun c' hc' => htext c' (List.mem_cons_of_mem c hc')) hrest

/-- A blank answer asks for nothing. -/
theorem significantTokens_of_blank {text : String} (h : Python.nonBlank text = false) :
    significantTokens text = ∅ := by
  rw [Finset.eq_empty_iff_forall_notMem]
  intro token htoken
  obtain ⟨w, hw, hlength, -⟩ := mem_significantTokens.mp htoken
  have hspaces : ∀ c ∈ text.toList, isWordChar c = false := by
    intro c hc
    have hspace := List.any_eq_false.mp h c hc
    rw [Bool.not_eq_true, Bool.not_eq_false'] at hspace
    exact isWordChar_of_isSpace hspace
  rw [eq_nil_of_mem_wordRuns hspaces hw] at hlength
  exact absurd hlength (by decide)

theorem contextCoverage_eq (h : hits ≠ []) :
    (computeMinimalRetrievalEvaluation queryText expectedAnswer hits).contextCoverage =
      tokenRecall (significantTokens queryText) (joinedChunkText hits) := by
  rw [computeMinimalRetrievalEvaluation, if_neg (mt List.isEmpty_iff.mp h)]

theorem completeness_eq (h : hits ≠ []) :
    (computeMinimalRetrievalEvaluation queryText expectedAnswer hits).completeness =
      tokenRecall (expectedTokens expectedAnswer) (joinedChunkText hits) := by
  rw [computeMinimalRetrievalEvaluation, if_neg (mt List.isEmpty_iff.mp h)]
  cases expectedAnswer with
  | none => rfl
  | some answer =>
      by_cases hblank : Python.nonBlank answer = true
      · simp only [hblank, if_true]
        rfl
      · rw [Bool.not_eq_true] at hblank
        simp only [hblank, Bool.false_eq_true, if_false]
        rw [expectedTokens, Option.elim_some, significantTokens_of_blank hblank]
        rfl

/-- A law of the lists of hits that are not empty. -/
theorem CoverageLaw.congr {tokens : Finset String} {score score' : List RetrievedHit → Option ℚ}
    (h : CoverageLaw tokens score) (heq : ∀ hits, hits ≠ [] → score' hits = score hits) :
    CoverageLaw tokens score' where
  null_iff hits hne := by
    rw [heq hits hne]
    exact h.null_iff hits hne
  mem_unit hits q hne hq := h.mem_unit hits q hne ((heq hits hne).symm.trans hq)
  perm hits hits' hne hperm := by
    have hne' : hits' ≠ [] := fun hnil => hne (List.nil_perm.mp (hnil ▸ hperm))
    rw [heq hits hne, heq hits' hne']
    exact h.perm hits hits' hne hperm
  duplicate hits hit hmem := by
    rw [heq hits (List.ne_nil_of_mem hmem), heq _ (List.cons_ne_nil hit hits)]
    exact h.duplicate hits hit hmem
  grow hits hit q hne hq := by
    rw [heq _ (List.cons_ne_nil hit hits)]
    exact h.grow hits hit q hne ((heq hits hne).symm.trans hq)
  full_iff hits hne htokens := by
    rw [heq hits hne]
    exact h.full_iff hits hne htokens

/-- **Coverage depends only on the set of retrieved texts and grows with it.** -/
theorem coverage_of_texts (queryText : String) (expectedAnswer : Option String) :
    (∀ chunks : List String, significantTokens ("\n\n".intercalate chunks) =
      chunks.toFinset.biUnion significantTokens) ∧
    CoverageLaw (significantTokens queryText)
      (fun hits =>
        (computeMinimalRetrievalEvaluation queryText expectedAnswer hits).contextCoverage) ∧
    CoverageLaw (expectedTokens expectedAnswer)
      (fun hits =>
        (computeMinimalRetrievalEvaluation queryText expectedAnswer hits).completeness) ∧
    (expectedTokens expectedAnswer = ∅ ↔ expectedAnswer = none ∨
      ∃ answer, expectedAnswer = some answer ∧
        (Python.nonBlank answer = true → significantTokens answer = ∅)) := by
  refine ⟨significantTokens_intercalate, ?_, ?_, ?_⟩
  · exact (coverageLaw_tokenRecall _).congr fun hits => contextCoverage_eq
  · exact (coverageLaw_tokenRecall _).congr fun hits => completeness_eq
  · cases expectedAnswer with
    | none => exact iff_of_true rfl (Or.inl rfl)
    | some answer =>
        rw [expectedTokens, Option.elim_some]
        constructor
        · intro hempty
          exact Or.inr ⟨answer, rfl, fun _ => hempty⟩
        · rintro (hnone | ⟨_, hsame, hempty⟩)
          · cases hnone
          · cases hsame
            by_cases hblank : Python.nonBlank answer = true
            · exact hempty hblank
            · exact significantTokens_of_blank (Bool.not_eq_true _ ▸ hblank)

end

end ContextLens
