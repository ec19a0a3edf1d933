import ContextLens.RunDiagnosis

/-!
# When neighbouring bodies repeat each other

The warning of `computeContextQuality` comes from three detectors: repeated bodies, a long
common prefix of the first two, and a body that ends as the next one begins.  The last one
tries lengths from its cap downwards.

A prefix that is longer than the scan is still found, since it is cut to the scan.  An overlap
is not: its last 240 code units need not begin the next body, and the overlap is missed unless
a shorter one stands inside it (`long_overlap_flagged_iff`).
-/

namespace ContextLens

open Foundations Javascript

/-! ## Borders -/

/-- A text of `k` code units ends one body and begins another. -/
def SharedBorder (a b : List ℕ) (k : ℕ) : Prop :=
  ∃ border : List ℕ, border <:+ a ∧ border <+: b ∧ border.length = k

section

variable {a b : List ℕ} {k : ℕ}

theorem sharedBorder_iff :
    SharedBorder a b k ↔ k ≤ min a.length b.length ∧ a.drop (a.length - k) = b.take k := by
  rw [le_min_iff]
  constructor
  · rintro ⟨border, hsuffix, hbegins, rfl⟩
    refine ⟨⟨hsuffix.length_le, hbegins.length_le⟩, ?_⟩
    rw [← List.suffix_iff_eq_drop.mp hsuffix, ← List.prefix_iff_eq_take.mp hbegins]
  · rintro ⟨⟨-, hb⟩, heq⟩
    refine ⟨b.take k, ?_, List.take_prefix k b, List.length_take_of_le hb⟩
    rw [← heq]
    exact List.drop_suffix _ a

/-- What the search for an overlap finds: nothing, or the longest one up to the cap. -/
theorem longestSuffixPrefixOverlapLen_spec (a b : List ℕ) :
    (longestSuffixPrefixOverlapLen a b = 0 ∧
        ∀ k, chunkOverlapMinChars ≤ k → k ≤ chunkOverlapScanCap → ¬SharedBorder a b k) ∨
      (chunkOverlapMinChars ≤ longestSuffixPrefixOverlapLen a b ∧
        longestSuffixPrefixOverlapLen a b ≤ chunkOverlapScanCap ∧
        SharedBorder a b (longestSuffixPrefixOverlapLen a b) ∧
        ∀ k ≤ chunkOverlapScanCap, SharedBorder a b k →
          k ≤ longestSuffixPrefixOverlapLen a b) := by
  set lim := min (min a.length b.length) chunkOverlapScanCap with hlim
  set lengths := List.range' chunkOverlapMinChars (lim + 1 - chunkOverlapMinChars) with hlengths
  have hmem : ∀ k, k ∈ lengths.reverse ↔ chunkOverlapMinChars ≤ k ∧ k ≤ lim := by
    intro k
    rw [List.mem_reverse, hlengths, List.mem_range'_1]
    omega
  have hlen : longestSuffixPrefixOverlapLen a b =
      (lengths.reverse.find? fun k => a.drop (a.length - k) = b.take k).getD 0 := rfl
  rw [hlen]
  cases hfind : lengths.reverse.find? fun k => a.drop (a.length - k) = b.take k with
  | none =>
      refine Or.inl ⟨rfl, fun k hmin hcap hborder => ?_⟩
      obtain ⟨hle, heq⟩ := sharedBorder_iff.mp hborder
      have hk := (hmem k).mpr ⟨hmin, le_min hle hcap⟩
      exact List.find?_eq_none.mp hfind k hk (decide_eq_true heq)
  | some longest =>
      obtain ⟨heq, longer, shorter, hsplit, hlonger⟩ := List.find?_eq_some_iff_append.mp hfind
      obtain ⟨hmin, hle⟩ := (hmem longest).mp (List.mem_of_find?_eq_some hfind)
      refine Or.inr ⟨hmin, hle.trans (min_le_right _ _),
        sharedBorder_iff.mpr ⟨hle.trans (min_le_left _ _), of_decide_eq_true heq⟩,
        fun k hcap hborder => ?_⟩
      rw [Option.getD_some]
      obtain ⟨hkle, hkeq⟩ := sharedBorder_iff.mp hborder
      -- the lengths fall, so what stands behind the find is shorter
      by_contra hlt
      have hfalling : lengths.reverse.Pairwise fun m n => n < m :=
        List.pairwise_reverse.mpr List.pairwise_lt_range'
      have hk : k ∈ lengths.reverse := (hmem k).mpr ⟨by omega, le_min hkle hcap⟩
      rw [hsplit] at hk hfalling
      rcases List.mem_append.mp hk with hk | hk
      · have hne := hlonger k hk
        rw [decide_eq_true hkeq] at hne
        cases hne
      · rcases List.mem_cons.mp hk with rfl | hk
        · exact hlt le_rfl
        · have hshorter := (List.pairwise_cons.mp (List.pairwise_append.mp hfalling).2.1).1 k hk
          omega

/-- The overlap is found when one lies within the cap. -/
theorem le_longestSuffixPrefixOverlapLen_iff :
    chunkOverlapMinChars ≤ longestSuffixPrefixOverlapLen a b ↔
      ∃ k, chunkOverlapMinChars ≤ k ∧ k ≤ chunkOverlapScanCap ∧ SharedBorder a b k := by
  rcases longestSuffixPrefixOverlapLen_spec a b with ⟨hzero, hnone⟩ | ⟨hmin, hcap, hborder, -⟩
  · rw [hzero]
    exact iff_of_false (by decide) fun ⟨k, hmin, hcap, hborder⟩ => hnone k hmin hcap hborder
  · exact iff_of_true hmin ⟨_, hmin, hcap, hborder⟩

end

/-! ## The three detectors -/

/-- Two neighbouring bodies overlap in 80 code units or more. -/
def LongOverlap (norms : List (List ℕ)) : Prop :=
  ∃ a b k, [a, b] <:+: norms ∧ chunkOverlapMinChars ≤ k ∧ SharedBorder a b k

/-- Two neighbouring bodies overlap in 80 to 240 code units. -/
def OverlapWithinCap (norms : List (List ℕ)) : Prop :=
  ∃ a b k, [a, b] <:+: norms ∧ chunkOverlapMinChars ≤ k ∧ k ≤ chunkOverlapScanCap ∧
    SharedBorder a b k

/-- The first two bodies begin with the same 80 code units. -/
def SharedPrefix (norms : List (List ℕ)) : Prop :=
  ∃ a b shared, [a, b] <+: norms ∧ shared <+: a ∧ shared <+: b ∧
    shared.length = chunkOverlapMinChars

/-- Two bodies are equal, or one is blank. -/
def Repeats (norms : List (List ℕ)) : Prop := ¬(norms.Nodup ∧ [] ∉ norms)

section

variable {norms : List (List ℕ)}

theorem repeats_iff :
    (norms.filter fun body => body ≠ []).dedup.length < norms.length ↔ Repeats norms := by
  have hsublist : (norms.filter fun body => body ≠ []).dedup.Sublist norms :=
    (List.dedup_sublist _).trans List.filter_sublist
  rw [Repeats, ← not_le, not_iff_not]
  constructor
  · intro hle
    have hall := hsublist.eq_of_length_le hle
    constructor
    · rw [← hall]
      exact List.nodup_dedup _
    · rw [← hall, List.mem_dedup, List.mem_filter]
      rintro ⟨-, hkept⟩
      exact of_decide_eq_true hkept rfl
  · rintro ⟨hnodup, hblank⟩
    have hkept : (norms.filter fun body => body ≠ []) = norms :=
      List.filter_eq_self.mpr fun body hbody =>
        decide_eq_true fun hnil => hblank (hnil ▸ hbody)
    rw [hkept, hnodup.dedup]

/-- The loop counts a common prefix up to its limit. -/
theorem le_commonPrefixLength_iff {n lim : ℕ} {xs ys : List ℕ} :
    n ≤ commonPrefixLength lim xs ys ↔
      n ≤ lim ∧ ∃ shared, shared <+: xs ∧ shared <+: ys ∧ shared.length = n := by
  fun_induction commonPrefixLength lim xs ys generalizing n with
  | case1 lim x xs ys ih =>
      cases n with
      | zero => simp
      | succ n =>
          rw [Nat.add_le_add_iff_right, Nat.add_le_add_iff_right, ih]
          refine and_congr_right fun _ => ⟨?_, ?_⟩
          · rintro ⟨shared, hxs, hys, hlen⟩
            exact ⟨_ :: shared, List.cons_prefix_cons.mpr ⟨rfl, hxs⟩,
              List.cons_prefix_cons.mpr ⟨rfl, hys⟩, by rw [List.length_cons, hlen]⟩
          · rintro ⟨shared, hxs, hys, hlen⟩
            cases shared with
            | nil => cases hlen
            | cons y shared =>
                exact ⟨shared, (List.cons_prefix_cons.mp hxs).2, (List.cons_prefix_cons.mp hys).2,
                  Nat.succ.inj hlen⟩
  | case2 lim x xs y ys hne =>
      rw [Nat.le_zero]
      constructor
      · rintro rfl
        exact ⟨Nat.zero_le _, [], List.nil_prefix, List.nil_prefix, rfl⟩
      · rintro ⟨-, shared, hxs, hys, rfl⟩
        cases shared with
        | nil => rfl
        | cons z shared =>
            have hx := (List.cons_prefix_cons.mp hxs).1
            exact absurd (hx.symm.trans (List.cons_prefix_cons.mp hys).1) hne
  | case3 lim xs ys hend =>
      rw [Nat.le_zero]
      constructor
      · rintro rfl
        exact ⟨Nat.zero_le _, [], List.nil_prefix, List.nil_prefix, rfl⟩
      · rintro ⟨hle, shared, hxs, hys, rfl⟩
        cases shared with
        | nil => rfl
        | cons z shared =>
            obtain ⟨xs, rfl⟩ := hxs
            obtain ⟨ys, rfl⟩ := hys
            cases lim with
            | zero => cases hle
            | succ lim => exact (hend lim _ _ _ _ rfl rfl rfl).elim

theorem pair_prefix_iff {a b a' b' : List ℕ} {rest : List (List ℕ)} :
    [a', b'] <+: a :: b :: rest ↔ a = a' ∧ b = b' := by
  rw [List.cons_prefix_cons, List.cons_prefix_cons, and_iff_left List.nil_prefix, eq_comm,
    eq_comm (a := b)]

theorem neighborsOverlap_iff : neighborsOverlap norms = true ↔ OverlapWithinCap norms := by
  fun_induction neighborsOverlap norms with
  | case1 a b rest ih =>
      rw [Bool.or_eq_true, decide_eq_true_eq, le_longestSuffixPrefixOverlapLen_iff, ih]
      constructor
      · rintro (⟨k, hmin, hcap, hborder⟩ | ⟨a', b', k, hinside, hrest⟩)
        · exact ⟨a, b, k, (List.prefix_append [a, b] rest).isInfix, hmin, hcap, hborder⟩
        · exact ⟨a', b', k, List.infix_cons hinside, hrest⟩
      · rintro ⟨a', b', k, hinside, hmin, hcap, hborder⟩
        rcases List.infix_cons_iff.mp hinside with hbegins | hinside
        · obtain ⟨rfl, rfl⟩ := pair_prefix_iff.mp hbegins
          exact Or.inl ⟨k, hmin, hcap, hborder⟩
        · exact Or.inr ⟨a', b', k, hinside, hmin, hcap, hborder⟩
  | case2 norms hshort =>
      refine iff_of_false Bool.false_ne_true fun ⟨a, b, k, hinside, _⟩ => ?_
      cases norms with
      | nil => cases hinside.length_le
      | cons x rest =>
          cases rest with
          | nil => exact absurd hinside.length_le (Nat.not_le_of_lt Nat.one_lt_two)
          | cons y rest => exact hshort x y rest rfl

theorem sharedPrefix_cons_iff {a b : List ℕ} {rest : List (List ℕ)} :
    SharedPrefix (a :: b :: rest) ↔ chunkOverlapMinChars ≤ commonPrefixLength 200 a b := by
  rw [le_commonPrefixLength_iff, and_iff_right (by decide)]
  constructor
  · rintro ⟨a', b', shared, hfirst, hshared⟩
    obtain ⟨rfl, rfl⟩ := pair_prefix_iff.mp hfirst
    exact ⟨shared, hshared⟩
  · rintro ⟨shared, hshared⟩
    exact ⟨a, b, shared, List.prefix_append [a, b] rest, hshared⟩

/-- Two bodies or more are flagged by one of the detectors. -/
theorem repetitiveWarning_ne_none_iff :
    repetitiveWarning norms ≠ none ↔
      2 ≤ norms.length ∧ (Repeats norms ∨ SharedPrefix norms ∨ OverlapWithinCap norms) := by
  unfold repetitiveWarning
  split
  · rename_i a b rest
    rw [and_iff_right (by simp), ← repeats_iff, sharedPrefix_cons_iff, ← neighborsOverlap_iff]
    split_ifs with hrepeats hbegins hoverlap
    · exact iff_of_true (Option.some_ne_none _) (Or.inl hrepeats)
    · exact iff_of_true (Option.some_ne_none _) (Or.inr (Or.inl hbegins))
    · exact iff_of_true (Option.some_ne_none _) (Or.inr (Or.inr hoverlap))
    · refine iff_of_false (fun h => h rfl) ?_
      rintro (h | h | h)
      · exact hrepeats h
      · exact hbegins h
      · exact hoverlap h
  · rename_i hshort
    refine iff_of_false (fun h => h rfl) fun h => ?_
    match norms, h.1 with
    | a :: b :: rest, _ => exact hshort a b rest rfl

theorem LongOverlap.two_le_length (h : LongOverlap norms) : 2 ≤ norms.length := by
  obtain ⟨a, b, k, hinside, -⟩ := h
  exact hinside.length_le

end

/-! ## What is flagged -/

/-- The normalised bodies of the hits by rank. -/
def bodies (builtins : Builtins) (hits : List RetrievalHit) : List (List ℕ) :=
  (byRank hits).map fun h => normalizeChunkBody builtins h.body

/-- **When a long overlap is flagged**: when some overlap has at most 240 code units, or
another detector fires. -/
theorem long_overlap_flagged_iff (builtins : Builtins) (hits : List RetrievalHit)
    (topK : Number) :
    (LongOverlap (bodies builtins hits) →
        (computeContextQuality builtins hits topK).repetitiveWarning ≠ none) ↔
      (LongOverlap (bodies builtins hits) →
        OverlapWithinCap (bodies builtins hits) ∨ SharedPrefix (bodies builtins hits) ∨
          Repeats (bodies builtins hits)) := by
  have hwarning : (computeContextQuality builtins hits topK).repetitiveWarning =
      repetitiveWarning (bodies builtins hits) := rfl
  rw [hwarning]
  refine imp_congr_right fun hlong => ?_
  rw [repetitiveWarning_ne_none_iff, and_iff_right hlong.two_le_length]
  tauto

/-- The text of one hit. -/
def hitWithText (rank : Number) (text : List Char) : RetrievalHit where
  rank := rank
  score := 1 - rank / 10
  documentId := 1
  content := some (String.ofList text)

/-- Plain lower-case text is normalised already. -/
theorem normalizeChunkBody_plain {builtins : Builtins} {text : List Char}
    (hplain : ∀ c ∈ text, isWhiteSpace c = false) (hsmall : ∀ c ∈ text, c.toNat < 0x10000)
    (hlower : builtins.toLowerCase (String.ofList text) = String.ofList text) :
    normalizeChunkBody builtins (String.ofList text) = text.map Char.toNat := by
  rw [normalizeChunkBody, String.toList_ofList, collapseWhiteSpace_of_plain hplain,
    trim_of_plain hplain, hlower, codeUnits_ofList_of_small hsmall]

/-- 120 letters `a` and 121 letters `b`: no shorter text both begins and ends it. -/
def longBridge : List Char := List.replicate 120 'a' ++ List.replicate 121 'b'

/-- Two bodies with the bridge between them. -/
def bridgedTexts : List (List Char) := ['c' :: longBridge, longBridge ++ ['c']]

/-- Two hits that overlap in 241 code units. -/
def bridgedHits : List RetrievalHit := bridgedTexts.mapIdx fun i text => hitWithText (i + 1) text

/-- What `toLowerCase` does with ASCII texts. -/
def asciiBuiltins : Builtins where
  numberText _ := ""
  toLowerCase := String.toLower

theorem letters_bridgedTexts {text : List Char} (htext : text ∈ bridgedTexts) :
    ∀ c ∈ text, isWhiteSpace c = false ∧ c.toNat < 0x10000 ∧ c.toLower = c := by
  have hbridge : ∀ c ∈ longBridge, c ∈ ['a', 'b', 'c'] := by
    intro c hc
    rcases List.mem_append.mp hc with hc | hc
    · rw [List.eq_of_mem_replicate hc]
      decide
    · rw [List.eq_of_mem_replicate hc]
      decide
  have hletters : ∀ c ∈ text, c ∈ ['a', 'b', 'c'] := by
    rcases List.mem_pair.mp htext with rfl | rfl
    · exact List.forall_mem_cons.mpr ⟨by decide, hbridge⟩
    · exact List.forall_mem_append.mpr ⟨hbridge, List.forall_mem_singleton.mpr (by decide)⟩
  have hall : ∀ c ∈ ['a', 'b', 'c'],
      isWhiteSpace c = false ∧ c.toNat < 0x10000 ∧ c.toLower = c :=
    List.forall_mem_cons.mpr ⟨by decide, List.forall_mem_cons.mpr
      ⟨by decide, List.forall_mem_singleton.mpr (by decide)⟩⟩
  exact fun c hc => hall c (hletters c hc)

theorem bodies_bridgedHits :
    bodies asciiBuiltins bridgedHits = bridgedTexts.map fun text => text.map Char.toNat := by
  have hsorted : byRank bridgedHits = bridgedHits := by
    refine List.Pairwise.insertionSort_eq (List.pairwise_pair.mpr ?_)
    norm_num [hitWithText]
  have hbody : ∀ text ∈ bridgedTexts, normalizeChunkBody asciiBuiltins (String.ofList text) =
      text.map Char.toNat := by
    intro text htext
    have hletters := letters_bridgedTexts htext
    refine normalizeChunkBody_plain (fun c hc => (hletters c hc).1)
      (fun c hc => (hletters c hc).2.1) ?_
    show (String.ofList text).map Char.toLower = _
    rw [String.map_eq_internal, String.toList_ofList,
      List.map_congr_left fun c hc => (hletters c hc).2.2, List.map_id']
  rw [bodies, hsorted, ← List.map_congr_left hbody]
  rfl

/-- The code units of the bridge. -/
def bridgeUnits : List ℕ := List.replicate 120 97 ++ List.replicate 121 98

theorem units_bridgedTexts : (bridgedTexts.map fun text => text.map Char.toNat) =
    [99 :: bridgeUnits, bridgeUnits ++ [99]] := by
  have hbridge : longBridge.map Char.toNat = bridgeUnits := by
    rw [longBridge, bridgeUnits, List.map_append, List.map_replicate, List.map_replicate]
    rfl
  rw [← hbridge, bridgedTexts, List.map_cons, List.map_singleton, List.map_append]
  rfl

theorem getElem?_bridgeUnits (i : ℕ) :
    bridgeUnits[i]? = if i < 120 then some 97 else if i < 241 then some 98 else none := by
  rw [bridgeUnits, List.getElem?_append, List.length_replicate, List.getElem?_replicate,
    List.getElem?_replicate]
  split_ifs
  · rfl
  · rfl
  · omega
  · omega
  · rfl

theorem length_bridgeUnits : bridgeUnits.length = 241 := by
  rw [bridgeUnits, List.length_append, List.length_replicate, List.length_replicate]

/-- Nothing shorter than the bridge stands at both ends of it: the 120th letter from the left
would be `a` and `b`. -/
theorem not_sharedBorder_bridge {k : ℕ} (hpos : 0 < k) (hshort : k ≤ 240) :
    ¬SharedBorder (99 :: bridgeUnits) (bridgeUnits ++ [99]) k := by
  intro hborder
  have heq := (sharedBorder_iff.mp hborder).2
  rw [List.length_cons, length_bridgeUnits] at heq
  -- the letter of the border that is compared: the last one, or the 120th
  obtain ⟨j, hjk, hj, hbehind⟩ : ∃ j < k, j < 120 ∧ 120 ≤ 241 - k + j := by
    rcases le_or_gt k 120 with hle | hgt
    · exact ⟨k - 1, by omega, by omega, by omega⟩
    · exact ⟨119, by omega, by omega, by omega⟩
  have hletter := congrArg (fun units : List ℕ => units[j]?) heq
  have hplace : 241 + 1 - k + j = 241 - k + j + 1 := by omega
  rw [List.getElem?_drop, hplace, List.getElem?_cons_succ, getElem?_bridgeUnits,
    if_neg (by omega), if_pos (by omega), List.getElem?_take_of_lt hjk,
    List.getElem?_append_left (by rw [length_bridgeUnits]; omega), getElem?_bridgeUnits,
    if_pos hj] at hletter
  cases hletter

theorem repetitiveWarning_bridge :
    repetitiveWarning [99 :: bridgeUnits, bridgeUnits ++ [99]] = none := by
  have hfirst : bridgeUnits ++ [99] = 97 :: (bridgeUnits ++ [99]).tail := rfl
  by_contra hwarning
  rcases (repetitiveWarning_ne_none_iff.mp hwarning).2 with hrepeats | hbegins | hoverlap
  · refine hrepeats ⟨List.nodup_cons.mpr ⟨?_, List.nodup_singleton _⟩, ?_⟩
    · rw [List.mem_singleton, hfirst]
      exact fun h => absurd (List.cons.inj h).1 (by decide)
    · rw [List.mem_pair, hfirst]
      exact not_or.mpr ⟨(List.cons_ne_nil _ _).symm, (List.cons_ne_nil _ _).symm⟩
  · obtain ⟨a, b, shared, hpair, ha, hb, hlength⟩ := hbegins
    obtain ⟨rfl, rfl⟩ := pair_prefix_iff.mp hpair
    rw [hfirst] at hb
    cases shared with
    | nil => cases hlength
    | cons c shared =>
        have hc := (List.cons_prefix_cons.mp ha).1
        rw [hc] at hb
        exact absurd (List.cons_prefix_cons.mp hb).1 (by decide)
  · obtain ⟨a, b, k, hinside, hmin, hcap, hborder⟩ := hoverlap
    have hpair : [a, b] <+: [99 :: bridgeUnits, bridgeUnits ++ [99]] := by
      rw [hinside.eq_of_length rfl]
    obtain ⟨rfl, rfl⟩ := pair_prefix_iff.mp hpair
    exact not_sharedBorder_bridge (lt_of_lt_of_le (by decide) hmin) hcap hborder

/-- An overlap beyond the cap is missed. -/
theorem overlap_beyond_cap_is_missed :
    ¬∀ (builtins : Builtins) (hits : List RetrievalHit) (topK : Number),
      (∀ hit ∈ hits, trim hit.body ≠ "") → LongOverlap (bodies builtins hits) →
        (computeContextQuality builtins hits topK).repetitiveWarning ≠ none := by
  intro h
  refine h asciiBuiltins bridgedHits 5 ?_ ?_ ?_
  · intro hit hhit
    obtain ⟨i, hi, rfl⟩ := List.mem_mapIdx.mp hhit
    have htext := List.getElem_mem hi
    show trim (String.ofList bridgedTexts[i]) ≠ ""
    rw [trim_of_plain fun c hc => (letters_bridgedTexts htext c hc).1]
    intro hblank
    have hnil : bridgedTexts[i] = [] := String.ofList_eq_empty_iff.mp hblank
    rw [hnil] at htext
    exact absurd htext (by decide)
  · rw [bodies_bridgedHits, units_bridgedTexts]
    exact ⟨_, _, 241, List.infix_rfl, by decide, bridgeUnits, List.suffix_cons _ _,
      List.prefix_append _ _, length_bridgeUnits⟩
  · show repetitiveWarning (bodies asciiBuiltins bridgedHits) = none
    rw [bodies_bridgedHits, units_bridgedTexts, repetitiveWarning_bridge]

end ContextLens
