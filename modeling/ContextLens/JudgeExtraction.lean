import ContextLens.Foundations.PythonJson

/-!
# The judge's JSON object

`extract_judge_json_object` of `app/services/llm_judge_parse.py`: the reply of a
judge model is searched for a JSON object in three ways, one after the other, and
the warnings say which of them failed.

1. the first fenced block whose contents start with a brace;
2. the text from the first brace to the brace that balances it, every `{` and `}`
   counted wherever it stands;
3. the whole reply.

The second way counts the braces inside strings too.  It finds the object that
`json.dumps` wrote exactly when that count first returns to zero at the end of the
object.
-/

namespace ContextLens

open Foundations Foundations.Python

/-! ## The fenced block -/

/-- Three backticks. -/
def fence : List Char := ['\x60', '\x60', '\x60']

/-- Does the character match a letter of the pattern, whatever its case?  The
long s is a case of `s`. -/
def matchesLetter (letter c : Char) : Bool :=
  c.toLower = letter || (letter = 's' && c.toNat = 383)

/-- The text behind the optional `json` of an opening fence. -/
def dropJsonTag : List Char → List Char
  | j :: s :: o :: n :: rest =>
      if matchesLetter 'j' j && matchesLetter 's' s && matchesLetter 'o' o && matchesLetter 'n' n
      then rest else j :: s :: o :: n :: rest
  | text => text

/-- Whitespace and a closing fence. -/
def closesFence (text : List Char) : Bool :=
  fence.isPrefixOf (text.dropWhile isSpace)

/-- The shortest front of the text that ends with a brace before a closing fence. -/
def fencedBody : List Char → Option (List Char)
  | [] => none
  | c :: rest =>
      if c = closeBrace ∧ closesFence rest = true then some [c]
      else (fencedBody rest).map (c :: ·)

/-- The group of the fence pattern, when the pattern matches at the front of the text. -/
def fencedObjectAt (text : List Char) : Option (List Char) :=
  if fence.isPrefixOf text then
    match (dropJsonTag (text.drop 3)).dropWhile isSpace with
    | [] => none
    | c :: rest => if c = openBrace then (fencedBody rest).map (c :: ·) else none
  else none

/-- The group of the leftmost match of the fence pattern. -/
def fencedObject : List Char → Option (List Char)
  | [] => none
  | c :: rest => (fencedObjectAt (c :: rest)).or (fencedObject rest)

/-! ## The balanced chunk -/

/-- The front of the text up to the brace that brings the depth back to zero. -/
def balancedChunk : ℤ → List Char → Option (List Char)
  | _, [] => none
  | depth, c :: rest =>
      if c = openBrace then (balancedChunk (depth + 1) rest).map (c :: ·)
      else if c = closeBrace then
        if depth - 1 = 0 then some [c] else (balancedChunk (depth - 1) rest).map (c :: ·)
      else (balancedChunk depth rest).map (c :: ·)

/-! ## The three ways -/

/-- The last way: the whole text. -/
def extractWhole (parser : JsonParser) (text : List Char) (warnings : List String) :
    JsonValue × List String :=
  match parser.loads text with
  | some (.dict members) => (.dict members, warnings)
  | some _ => (.dict [], warnings ++ ["json_root_not_object"])
  | none => (.dict [], warnings ++ ["json_decode_failed"])

/-- The text from its first brace on. -/
def fromBrace (text : List Char) : List Char :=
  text.dropWhile fun c => c ≠ openBrace

/-- The second way, and the last when it finds nothing. -/
def extractBalanced (parser : JsonParser) (text : List Char) (warnings : List String) :
    JsonValue × List String :=
  match balancedChunk 0 (fromBrace text) with
  | some chunk =>
      match parser.loads chunk with
      | some (.dict members) => (.dict members, warnings)
      | some _ => (.dict [], warnings ++ ["json_root_not_object"])
      | none => extractWhole parser text (warnings ++ ["balanced_brace_json_invalid"])
  | none => extractWhole parser text warnings

/-- `extract_judge_json_object`: the object and the warnings. -/
def extractJudgeJsonObject (parser : JsonParser) (raw : List Char) : JsonValue × List String :=
  let text := Text.strip isSpace raw
  if text = [] then (.dict [], ["empty_judge_response"])
  else
    match fencedObject text with
    | some group =>
        match parser.loads group with
        | some obj => (obj, [])
        | none => extractBalanced parser text ["fenced_json_invalid"]
    | none => extractBalanced parser text []

/-! ## What the fence pattern finds -/

section Fence

variable {text group : List Char}

theorem dropJsonTag_suffix (text : List Char) : dropJsonTag text <:+ text := by
  unfold dropJsonTag
  split
  · split
    · exact ⟨[_, _, _, _], rfl⟩
    · exact List.suffix_rfl
  · exact List.suffix_rfl

theorem fencedBody_prefix {body : List Char} (h : fencedBody text = some body) :
    body <+: text := by
  induction text generalizing body with
  | nil => simp [fencedBody] at h
  | cons c rest ih =>
      rw [fencedBody] at h
      split at h
      · rw [← Option.some.inj h]
        exact List.cons_prefix_cons.mpr ⟨rfl, List.nil_prefix⟩
      · obtain ⟨body', hbody', rfl⟩ := Option.map_eq_some_iff.mp h
        exact List.cons_prefix_cons.mpr ⟨rfl, ih hbody'⟩

theorem of_fencedObjectAt (h : fencedObjectAt text = some group) :
    fence <+: text ∧ group <:+: text ∧ ∃ rest, group = openBrace :: rest := by
  rw [fencedObjectAt] at h
  split at h
  · rename_i hfence
    split at h
    · simp at h
    · rename_i c rest hinner
      split at h
      · rename_i hc
        obtain ⟨body, hbody, rfl⟩ := Option.map_eq_some_iff.mp h
        refine ⟨List.isPrefixOf_iff_prefix.mp hfence, ?_, body, by rw [hc]⟩
        have hfront : c :: body <+: c :: rest :=
          List.cons_prefix_cons.mpr ⟨rfl, fencedBody_prefix hbody⟩
        have hback : c :: rest <:+ text := by
          rw [← hinner]
          exact ((List.dropWhile_suffix _).trans (dropJsonTag_suffix _)).trans
            (List.drop_suffix 3 text)
        exact hfront.isInfix.trans hback.isInfix
      · simp at h
  · simp at h

/-- A match lies inside the text, behind a fence, and starts with a brace. -/
theorem of_fencedObject (h : fencedObject text = some group) :
    fence <:+: text ∧ group <:+: text ∧ ∃ rest, group = openBrace :: rest := by
  induction text with
  | nil => simp [fencedObject] at h
  | cons c rest ih =>
      rw [fencedObject] at h
      cases hhere : fencedObjectAt (c :: rest) with
      | some found =>
          rw [hhere, Option.some_or] at h
          obtain ⟨hfence, hgroup⟩ := of_fencedObjectAt (hhere.trans h)
          exact ⟨hfence.isInfix, hgroup⟩
      | none =>
          rw [hhere, Option.none_or] at h
          obtain ⟨hfence, hgroup, hbrace⟩ := ih h
          exact ⟨hfence.trans (List.suffix_cons c rest).isInfix,
            hgroup.trans (List.suffix_cons c rest).isInfix, hbrace⟩

end Fence

/-! ## What the brace count finds -/

section Balance

variable {depth : ℤ} {text chunk : List Char}

/-- The nesting depth of braces. -/
abbrev Closes : ℤ → List Char → Prop := Nesting.Closes openBrace closeBrace

/-- The braces never close. -/
abbrev StaysOpen : ℤ → List Char → Prop := Nesting.StaysOpen openBrace closeBrace

theorem height_brace (c : Char) : Nesting.height openBrace closeBrace [c] =
    if c = openBrace then 1 else if c = closeBrace then -1 else 0 := by
  split_ifs with ho hc
  · rw [ho]
    exact Nesting.height_opening (by decide)
  · rw [hc]
    exact Nesting.height_closing (by decide)
  · exact Nesting.height_other ho hc

theorem balancedChunk_isPrefix (h : balancedChunk depth text = some chunk) : chunk <+: text := by
  induction text generalizing depth chunk with
  | nil => simp [balancedChunk] at h
  | cons c rest ih =>
      have hmore {d : ℤ} (hd : (balancedChunk d rest).map (c :: ·) = some chunk) :
          chunk <+: c :: rest := by
        obtain ⟨tail, htail, rfl⟩ := Option.map_eq_some_iff.mp hd
        exact List.cons_prefix_cons.mpr ⟨rfl, ih htail⟩
      rw [balancedChunk] at h
      split_ifs at h
      · exact hmore h
      · rw [← Option.some.inj h]
        exact List.cons_prefix_cons.mpr ⟨rfl, List.nil_prefix⟩
      · exact hmore h
      · exact hmore h

/-- One character: stop when it closes the depth, go on otherwise. -/
theorem balancedChunk_cons (hdepth : 0 < depth) (c : Char) (rest : List Char) :
    balancedChunk depth (c :: rest) =
      if depth + Nesting.height openBrace closeBrace [c] = 0 then some [c]
      else (balancedChunk (depth + Nesting.height openBrace closeBrace [c]) rest).map (c :: ·) := by
  rw [balancedChunk, height_brace]
  by_cases ho : c = openBrace
  · rw [if_pos ho, if_pos ho, if_neg (by omega)]
  · rw [if_neg ho, if_neg ho]
    by_cases hc : c = closeBrace
    · rw [if_pos hc, if_pos hc, sub_eq_add_neg]
    · rw [if_neg hc, if_neg hc, add_zero, if_neg (by omega)]

/-- **The loop finds the front that closes the depth it starts from.** -/
theorem balancedChunk_eq_some_iff (hdepth : 0 < depth) :
    balancedChunk depth text = some chunk ↔ chunk <+: text ∧ Closes depth chunk := by
  induction text generalizing depth chunk with
  | nil =>
      simp only [balancedChunk, reduceCtorEq, List.prefix_nil, false_iff, not_and]
      rintro rfl hcloses
      have := Nesting.closes_nil.mp hcloses
      omega
  | cons c rest ih =>
      -- A closing front is not empty, and goes on from the depth behind `c`.
      have hfront : (chunk <+: c :: rest ∧ Closes depth chunk) ↔
          ∃ tail, (tail <+: rest ∧
            Closes (depth + Nesting.height openBrace closeBrace [c]) tail) ∧ c :: tail = chunk := by
        constructor
        · rintro ⟨hfront, hcloses⟩
          rcases List.prefix_cons_iff.mp hfront with rfl | ⟨tail, rfl, htail⟩
          · have := Nesting.closes_nil.mp hcloses
            omega
          · exact ⟨tail, ⟨htail, (Nesting.closes_cons.mp hcloses).2⟩, rfl⟩
        · rintro ⟨tail, ⟨htail, hcloses⟩, rfl⟩
          exact ⟨List.cons_prefix_cons.mpr ⟨rfl, htail⟩, Nesting.closes_cons.mpr ⟨hdepth, hcloses⟩⟩
      have hstep : -1 ≤ Nesting.height openBrace closeBrace [c] := Nesting.neg_one_le_height c
      rw [hfront, balancedChunk_cons hdepth]
      by_cases hzero : depth + Nesting.height openBrace closeBrace [c] = 0
      · rw [if_pos hzero, hzero, Option.some.injEq]
        constructor
        · rintro rfl
          exact ⟨[], ⟨List.nil_prefix, Nesting.closes_zero_iff.mpr rfl⟩, rfl⟩
        · rintro ⟨tail, ⟨-, htail⟩, rfl⟩
          rw [Nesting.closes_zero_iff.mp htail]
      · rw [if_neg hzero, Option.map_eq_some_iff]
        exact exists_congr fun tail => and_congr_left fun _ => ih (by omega)

theorem balancedChunk_openBrace (rest : List Char) :
    balancedChunk 0 (openBrace :: rest) = (balancedChunk 1 rest).map (openBrace :: ·) := by
  rw [balancedChunk, if_pos rfl, zero_add]

end Balance

/-! ## Where the object comes from -/

/-- `critical` of `_compute_judge_parse_ok`. -/
def criticalWarnings : List String :=
  ["empty_judge_response", "json_decode_failed", "json_root_not_object",
    "balanced_brace_json_invalid", "fenced_json_invalid"]

/-- The result is an object that a part of `raw` parses to, or it is empty and
the warnings have a critical one. -/
def Accounted (parser : JsonParser) (raw : List Char) (result : JsonValue × List String) : Prop :=
  ∃ members, result.1 = .dict members ∧
    ((∃ chunk, chunk <:+: raw ∧ parser.loads chunk = some (.dict members)) ∨
      members = [] ∧ ∃ w ∈ result.2, w ∈ criticalWarnings)

section Accounted

variable {parser : JsonParser} {raw text : List Char} {w : String}

theorem accounted_of_loads {members : List (String × JsonValue)} (warnings : List String)
    (hpart : text <:+: raw) (hloads : parser.loads text = some (.dict members)) :
    Accounted parser raw (.dict members, warnings) :=
  ⟨members, rfl, Or.inl ⟨text, hpart, hloads⟩⟩

theorem accounted_of_critical (warnings : List String) (hw : w ∈ criticalWarnings) :
    Accounted parser raw (.dict [], warnings ++ [w]) :=
  ⟨[], rfl, Or.inr ⟨rfl, w, List.mem_append_right _ (List.mem_singleton_self w), hw⟩⟩

theorem accounted_extractWhole (hpart : text <:+: raw) (warnings : List String) :
    Accounted parser raw (extractWhole parser text warnings) := by
  unfold extractWhole
  split
  · rename_i members hloads
    exact accounted_of_loads warnings hpart hloads
  · exact accounted_of_critical warnings (by decide)
  · exact accounted_of_critical warnings (by decide)

theorem fromBrace_suffix (text : List Char) : fromBrace text <:+ text :=
  List.dropWhile_suffix _

theorem accounted_extractBalanced (hpart : text <:+: raw) (warnings : List String) :
    Accounted parser raw (extractBalanced parser text warnings) := by
  unfold extractBalanced
  split
  · rename_i chunk hchunk
    split
    · rename_i members hloads
      have hinside : chunk <:+: text :=
        (balancedChunk_isPrefix hchunk).isInfix.trans (fromBrace_suffix text).isInfix
      exact accounted_of_loads warnings (hinside.trans hpart) hloads
    · exact accounted_of_critical warnings (by decide)
    · exact accounted_extractWhole hpart _
  · exact accounted_extractWhole hpart warnings

/-- **Whatever the reply, an object is returned: one that a part of the reply
parses to, or the empty one with a critical warning.** -/
theorem accounted_extract (parser : JsonParser) (raw : List Char) :
    Accounted parser raw (extractJudgeJsonObject parser raw) := by
  have hpart : Text.strip isSpace raw <:+: raw := Text.strip_isInfix raw
  simp only [extractJudgeJsonObject]
  split
  · exact accounted_of_critical [] (by decide)
  · split
    · rename_i group hgroup
      obtain ⟨-, hgrouppart, rest, rfl⟩ := of_fencedObject hgroup
      split
      · rename_i obj hloads
        -- The group starts with a brace, so what it parses to is an object.
        obtain ⟨members, rfl⟩ := parser.dict_of_brace hloads
        exact accounted_of_loads [] (hgrouppart.trans hpart) hloads
      · exact accounted_extractBalanced hpart _
    · exact accounted_extractBalanced hpart []

end Accounted

/-! ## An object among prose -/

/-- Counted over every character, the braces balance at the end of the text and
in no shorter front of it. -/
structure BracesCloseAtEnd (text : List Char) : Prop where
  balanced : Nesting.height openBrace closeBrace text = 0
  before : ∀ front, front <+: text → front ≠ [] → front ≠ text →
    0 < Nesting.height openBrace closeBrace front

/-- The braces balance in no front of the text, nor at its end. -/
def BracesStayOpen (text : List Char) : Prop :=
  ∀ front, front <+: text → front ≠ [] → 0 < Nesting.height openBrace closeBrace front

theorem height_openBrace_cons (text : List Char) :
    Nesting.height openBrace closeBrace (openBrace :: text) =
      1 + Nesting.height openBrace closeBrace text := by
  rw [Nesting.height_cons, Nesting.height_opening (by decide)]

theorem bracesCloseAtEnd_iff {text : List Char} :
    BracesCloseAtEnd (openBrace :: text) ↔ Closes 1 text := by
  constructor
  · intro h
    refine ⟨(height_openBrace_cons text).symm.trans h.balanced, fun front hfront hne => ?_⟩
    rw [← height_openBrace_cons]
    exact h.before _ (List.cons_prefix_cons.mpr ⟨rfl, hfront⟩) (List.cons_ne_nil _ _)
      fun heq => hne (List.cons.inj heq).2
  · intro h
    refine ⟨(height_openBrace_cons text).trans h.closed, fun front hfront hnil hne => ?_⟩
    rcases List.prefix_cons_iff.mp hfront with rfl | ⟨tail, rfl, htail⟩
    · exact absurd rfl hnil
    · rw [height_openBrace_cons]
      exact h.before tail htail fun heq => hne (by rw [heq])

theorem bracesStayOpen_iff {text : List Char} :
    BracesStayOpen (openBrace :: text) ↔ StaysOpen 1 text := by
  constructor
  · intro h front hfront
    rw [← height_openBrace_cons]
    exact h _ (List.cons_prefix_cons.mpr ⟨rfl, hfront⟩) (List.cons_ne_nil _ _)
  · intro h front hfront hnil
    rcases List.prefix_cons_iff.mp hfront with rfl | ⟨tail, rfl, htail⟩
    · exact absurd rfl hnil
    · rw [height_openBrace_cons]
      exact h tail htail

theorem isSpace_of_isJsonSpace {c : Char} (h : isJsonSpace c = true) : isSpace c = true := by
  simp only [isJsonSpace, Bool.or_eq_true, decide_eq_true_eq] at h
  rcases h with ((rfl | rfl) | rfl) | rfl <;> decide

theorem fromBrace_append {s : List Char} (hs : openBrace ∉ s) (t : List Char) :
    fromBrace (s ++ openBrace :: t) = openBrace :: t := by
  rw [fromBrace, Text.dropWhile_append_cons (by simp), List.dropWhile_eq_nil_iff.mpr,
    List.nil_append]
  intro c hc
  exact decide_eq_true fun heq => hs (heq ▸ hc)

section Warnings

variable {parser : JsonParser} {text : List Char} {warnings : List String}

theorem extractWhole_warnings (parser : JsonParser) (text : List Char) (warnings : List String) :
    warnings <+: (extractWhole parser text warnings).2 := by
  unfold extractWhole
  split
  · exact List.prefix_rfl
  · exact List.prefix_append _ _
  · exact List.prefix_append _ _

theorem extractWhole_ne (hwarned : warnings ≠ []) (obj : JsonValue) :
    extractWhole parser text warnings ≠ (obj, []) := by
  intro h
  have hfront := extractWhole_warnings parser text warnings
  rw [h] at hfront
  exact hwarned (List.prefix_nil.mp hfront)

/-- A chunk that does not parse leaves its warning. -/
theorem extractBalanced_ne {chunk : List Char}
    (hchunk : balancedChunk 0 (fromBrace text) = some chunk)
    (hfails : parser.loads chunk = none) (warnings : List String) (obj : JsonValue) :
    extractBalanced parser text warnings ≠ (obj, []) := by
  rw [extractBalanced, hchunk]
  simp only [hfails]
  exact extractWhole_ne (List.append_ne_nil_of_right_ne_nil _ (List.cons_ne_nil _ _)) obj

end Warnings

section Dumped

variable {parser : JsonParser} {rules : TextRules} {members : List (String × JsonValue)}
variable {body before after : List Char} {obj : JsonValue}

theorem loads_append_eq_none {text rest : List Char} {c : Char}
    (hloads : parser.loads text = some (.dict members)) (hc : c ∈ rest)
    (hspace : isJsonSpace c = false) : parser.loads (text ++ rest) = none := by
  cases h : parser.loads (text ++ rest) with
  | none => rfl
  | some v =>
      have := parser.blank_of_dict hloads h c hc
      rw [hspace] at this
      exact Bool.noConfusion this

/-- A proper front of an object's text is not the text of an object. -/
theorem loads_front_eq_none {front rest : List Char}
    (hloads : parser.loads (openBrace :: (front ++ rest)) = some (.dict members))
    (hlast : closeBrace ∈ rest) : parser.loads (openBrace :: front) = none := by
  cases h : parser.loads (openBrace :: front) with
  | none => rfl
  | some v =>
      obtain ⟨found, rfl⟩ := parser.dict_of_brace h
      have := loads_append_eq_none h hlast (by decide)
      rw [List.cons_append, hloads] at this
      exact absurd this (Option.some_ne_none _)

theorem mem_of_append_eq_concat {front rest inner : List Char} {c : Char}
    (h : front ++ rest = inner ++ [c]) (hne : front ≠ inner ++ [c]) : c ∈ rest := by
  rcases List.eq_nil_or_concat rest with rfl | ⟨init, d, rfl⟩
  · exact absurd ((List.append_nil front).symm.trans h) hne
  · rw [List.concat_eq_append, ← List.append_assoc] at h
    rw [(List.cons.inj (List.append_inj' h rfl).2).1, List.concat_eq_append]
    exact List.mem_append_right _ (List.mem_singleton_self c)

theorem not_isJsonSpace {c : Char} (h : isSpace c = false) : isJsonSpace c = false := by
  by_contra hjson
  rw [isSpace_of_isJsonSpace (Bool.not_eq_false _ ▸ hjson)] at h
  exact Bool.noConfusion h

theorem loads_of_extractWhole {text : List Char}
    (h : extractWhole parser text [] = (.dict members, [])) :
    parser.loads text = some (.dict members) := by
  unfold extractWhole at h
  split at h
  · rename_i found hloads
    rw [hloads, (Prod.mk.inj h).1]
  · simp at h
  · simp at h

/-- An object behind prose that does not open one is not what the whole parses to. -/
theorem loads_behind_prose_ne {c : Char} {text : List Char} (hc : isSpace c = false)
    (hne : c ≠ openBrace) : parser.loads (c :: text) ≠ some (.dict members) := by
  intro h
  obtain ⟨rest, hrest⟩ := parser.brace_of_dict h
  rw [List.dropWhile_cons_of_neg (by simp [not_isJsonSpace hc])] at hrest
  exact hne (List.cons.inj hrest).1

theorem balancedChunk_among (hbrace : openBrace ∉ before) (text : List Char) :
    balancedChunk 0 (fromBrace (before ++ openBrace :: text)) =
      (balancedChunk 1 text).map (openBrace :: ·) := by
  rw [fromBrace_append hbrace, balancedChunk_openBrace]

/-- The count reaches zero inside the object. -/
theorem extractBalanced_of_inside {front inner : List Char} (hbrace : openBrace ∉ before)
    (hbody : body = inner ++ [closeBrace])
    (hloads : parser.loads (openBrace :: body) = some (.dict members))
    (hfront : front <+: body) (hne : front ≠ body) (hcloses : Closes 1 front) (obj : JsonValue) :
    extractBalanced parser (before ++ openBrace :: (body ++ after)) [] ≠ (obj, []) := by
  have hchunk : balancedChunk 1 (body ++ after) = some front :=
    (balancedChunk_eq_some_iff zero_lt_one).mpr
      ⟨hfront.trans (List.prefix_append body after), hcloses⟩
  have hfails : parser.loads (openBrace :: front) = none := by
    obtain ⟨rest, hrest⟩ := hfront
    rw [← hrest] at hloads
    exact loads_front_eq_none hloads (mem_of_append_eq_concat (hrest.trans hbody) (hbody ▸ hne))
  refine extractBalanced_ne ?_ hfails [] obj
  rw [balancedChunk_among hbrace, hchunk]
  rfl

/-- The count reaches zero behind the object, in what follows it. -/
theorem extractBalanced_of_beyond {beyond : List Char} (hbrace : openBrace ∉ before)
    (hloads : parser.loads (openBrace :: body) = some (.dict members))
    (hchunk : balancedChunk 1 (body ++ after) = some (body ++ beyond))
    (hclosing : closeBrace ∈ beyond) (obj : JsonValue) :
    extractBalanced parser (before ++ openBrace :: (body ++ after)) [] ≠ (obj, []) := by
  have hfails : parser.loads (openBrace :: (body ++ beyond)) = none := by
    rw [← List.cons_append]
    exact loads_append_eq_none hloads hclosing (by decide)
  refine extractBalanced_ne ?_ hfails [] obj
  rw [balancedChunk_among hbrace, hchunk]
  rfl

/-- The count never reaches zero: the whole text is parsed, and that is the object
alone only when nothing stands around it. -/
theorem extractBalanced_of_open (hbrace : openBrace ∉ before)
    (hfirst : ∀ c ∈ before.head?, isSpace c = false)
    (hlast : ∀ c ∈ after.getLast?, isSpace c = false)
    (hloads : parser.loads (openBrace :: body) = some (.dict members))
    (hchunk : balancedChunk 1 (body ++ after) = none) :
    extractBalanced parser (before ++ openBrace :: (body ++ after)) [] = (.dict members, []) ↔
      before = [] ∧ after = [] := by
  have hwhole : extractBalanced parser (before ++ openBrace :: (body ++ after)) [] =
      extractWhole parser (before ++ openBrace :: (body ++ after)) [] := by
    rw [extractBalanced, balancedChunk_among hbrace, hchunk]
    rfl
  rw [hwhole]
  constructor
  · intro h
    have hparsed := loads_of_extractWhole h
    cases before with
    | cons c rest =>
        have hne : c ≠ openBrace := fun heq => hbrace (heq ▸ List.mem_cons_self)
        exact absurd hparsed (loads_behind_prose_ne (hfirst c rfl) hne)
    | nil =>
        refine ⟨rfl, ?_⟩
        by_contra hafter
        have hc := hlast _ (List.getLast_mem_getLast? hafter)
        have hnone := loads_append_eq_none hloads (List.getLast_mem hafter) (not_isJsonSpace hc)
        rw [List.nil_append, ← List.cons_append, hnone] at hparsed
        exact Option.some_ne_none _ hparsed.symm
  · rintro ⟨rfl, rfl⟩
    rw [List.nil_append, List.append_nil, extractWhole, hloads]

/-- **What the brace count makes of an object among prose.**  The prose before it
has no opening brace, and none of the two has whitespace at its outer end. -/
theorem extractBalanced_eq_iff {inner : List Char} (hbrace : openBrace ∉ before)
    (hfirst : ∀ c ∈ before.head?, isSpace c = false)
    (hlast : ∀ c ∈ after.getLast?, isSpace c = false) (hbody : body = inner ++ [closeBrace])
    (hloads : parser.loads (openBrace :: body) = some (.dict members)) :
    extractBalanced parser (before ++ openBrace :: (body ++ after)) [] = (.dict members, []) ↔
      Closes 1 body ∨ StaysOpen 1 body ∧ before = [] ∧ after = [] := by
  have hcases : StaysOpen 1 body ∨ ∃ front, front <+: body ∧ Closes 1 front :=
    Nesting.staysOpen_or_closes zero_lt_one body
  rcases hcases with hopen | ⟨front, hfront, hcloses⟩
  · have hnot : ¬ Closes 1 body := fun h => h.not_staysOpen List.prefix_rfl hopen
    cases hchunk : balancedChunk 1 (body ++ after) with
    | some chunk =>
        obtain ⟨hfront, hcloses⟩ := (balancedChunk_eq_some_iff zero_lt_one).mp hchunk
        rcases Nesting.inside_or_beyond hfront with hinside | ⟨beyond, hbeyond, rfl⟩
        · exact absurd hopen (hcloses.not_staysOpen hinside)
        have hclosing : closeBrace ∈ beyond := by
          by_contra hno
          have hclosed := hcloses.closed
          have hheight := hopen body List.prefix_rfl
          have hmore : 0 ≤ Nesting.height openBrace closeBrace beyond :=
            Nesting.height_nonneg_of_not_mem hno
          rw [Nesting.height_append] at hclosed
          omega
        refine iff_of_false (extractBalanced_of_beyond hbrace hloads hchunk hclosing _) ?_
        rintro (h | ⟨-, -, rfl⟩)
        · exact hnot h
        · exact List.not_mem_nil (hbeyond.subset hclosing)
    | none =>
        rw [extractBalanced_of_open hbrace hfirst hlast hloads hchunk]
        exact ⟨fun h => Or.inr ⟨hopen, h⟩, fun h => (h.resolve_left hnot).2⟩
  · by_cases hwhole : front = body
    · refine iff_of_true ?_ (Or.inl (hwhole ▸ hcloses))
      rw [extractBalanced, balancedChunk_among hbrace, (balancedChunk_eq_some_iff zero_lt_one).mpr
        ⟨hfront.trans (List.prefix_append body after), hcloses⟩, hwhole]
      simp only [Option.map_some, hloads]
    · refine iff_of_false
        (extractBalanced_of_inside hbrace hbody hloads hfront hwhole hcloses _) ?_
      rintro (h | ⟨h, -⟩)
      · exact hwhole (hcloses.eq_of_prefix h hfront)
      · exact hcloses.not_staysOpen hfront h

/-- The reply without the whitespace around it. -/
theorem strip_reply (rules : TextRules) (members : List (String × JsonValue))
    (before after : List Char) :
    Text.strip isSpace (before ++ dumps rules (.dict members) ++ after) =
      before.dropWhile isSpace ++ openBrace ::
        ((dumpsMembers rules members ++ [closeBrace]) ++ after.rdropWhile isSpace) := by
  have hopen : isSpace openBrace = false := by decide
  have hclose : isSpace closeBrace = false := by decide
  simpa [dumps] using Text.strip_around hopen hclose before (dumpsMembers rules members) after

/-- A fence in the reply lies in the prose before the object, in the object or in
the prose after it: neither brace is a backtick. -/
theorem fence_infix_reply
    (h : fence <:+: before ++ dumps rules (.dict members) ++ after) :
    fence <:+: before ∨ fence <:+: dumps rules (.dict members) ∨ fence <:+: after := by
  rw [dumps, List.append_assoc, List.cons_append, List.append_assoc] at h
  rcases Text.infix_append_cons (by decide) h with hbefore | hrest
  · exact Or.inl hbefore
  rcases Text.infix_append_cons (by decide) hrest with hinside | hafter
  · refine Or.inr (Or.inl (hinside.trans ?_))
    rw [dumps]
    exact (List.prefix_append _ _).isInfix.trans (List.suffix_cons _ _).isInfix
  · exact Or.inr (Or.inr hafter)

/-- Without a fence the search counts braces. -/
theorem extract_reply (hbefore : ¬ fence <:+: before)
    (hobject : ¬ fence <:+: dumps rules (.dict members)) (hafter : ¬ fence <:+: after) :
    extractJudgeJsonObject parser (before ++ dumps rules (.dict members) ++ after) =
      extractBalanced parser (before.dropWhile isSpace ++ openBrace ::
        ((dumpsMembers rules members ++ [closeBrace]) ++ after.rdropWhile isSpace)) [] := by
  have hnone : fencedObject (Text.strip isSpace
      (before ++ dumps rules (.dict members) ++ after)) = none := by
    cases h : fencedObject (Text.strip isSpace
      (before ++ dumps rules (.dict members) ++ after)) with
    | none => rfl
    | some group =>
        have hfence := (of_fencedObject h).1.trans (Text.strip_isInfix _)
        rcases fence_infix_reply hfence with h1 | h1 | h1
        · exact absurd h1 hbefore
        · exact absurd h1 hobject
        · exact absurd h1 hafter
  have hne : Text.strip isSpace (before ++ dumps rules (.dict members) ++ after) ≠ [] := by
    rw [strip_reply]
    exact List.append_ne_nil_of_right_ne_nil _ (List.cons_ne_nil _ _)
  simp only [extractJudgeJsonObject, if_neg hne, hnone]
  rw [strip_reply]

/-- The reply as the search sees it, up to where the count first returns to zero. -/
theorem extract_reply_eq_iff (hbrace : openBrace ∉ before) (hbefore : ¬ fence <:+: before)
    (hobject : ¬ fence <:+: dumps rules (.dict members)) (hafter : ¬ fence <:+: after)
    (hloads : parser.loads (dumps rules (.dict members)) = some (.dict members)) :
    extractJudgeJsonObject parser (before ++ dumps rules (.dict members) ++ after) =
        (.dict members, []) ↔
      Closes 1 (dumpsMembers rules members ++ [closeBrace]) ∨
        StaysOpen 1 (dumpsMembers rules members ++ [closeBrace]) ∧
          before.dropWhile isSpace = [] ∧ after.rdropWhile isSpace = [] := by
  rw [extract_reply hbefore hobject hafter]
  refine extractBalanced_eq_iff (fun h => hbrace ((List.dropWhile_suffix _).subset h)) ?_ ?_ rfl
    (by rw [← hloads, dumps])
  · intro c hc
    have := List.head?_dropWhile_not isSpace before
    rw [Option.mem_def.mp hc] at this
    simpa using this
  · intro c hc
    obtain ⟨hne, rfl⟩ := List.mem_getLast?_eq_getLast hc
    simpa using List.rdropWhile_last_not isSpace after hne

/-- **When the judge's object is recovered from the prose around it.**  The braces
of its text, those inside its strings included, first balance at the end of the
object; or they balance nowhere in it and there is only whitespace around it. -/
theorem judge_object_recovered_iff (parser : JsonParser) (rules : TextRules)
    (members : List (String × JsonValue)) (before after : List Char)
    (hloads : parser.loads (dumps rules (.dict members)) = some (.dict members))
    (hbrace : openBrace ∉ before) (hbefore : ¬ fence <:+: before)
    (hobject : ¬ fence <:+: dumps rules (.dict members)) (hafter : ¬ fence <:+: after) :
    extractJudgeJsonObject parser (before ++ dumps rules (.dict members) ++ after) =
        (.dict members, []) ↔
      BracesCloseAtEnd (dumps rules (.dict members)) ∨
        BracesStayOpen (dumps rules (.dict members)) ∧
          (∀ c ∈ before, isSpace c = true) ∧ ∀ c ∈ after, isSpace c = true := by
  rw [extract_reply_eq_iff hbrace hbefore hobject hafter hloads, dumps, bracesCloseAtEnd_iff,
    bracesStayOpen_iff, List.dropWhile_eq_nil_iff, List.rdropWhile_eq_nil_iff]

/-- An object none of whose strings has a brace is always recovered. -/
theorem plain_object_recovered (hfloats : PlainFloats rules)
    (htexts : ∀ s ∈ texts (.dict members), Plain s.toList) (hbrace : openBrace ∉ before)
    (hbefore : ¬ fence <:+: before) (hobject : ¬ fence <:+: dumps rules (.dict members))
    (hafter : ¬ fence <:+: after)
    (hloads : parser.loads (dumps rules (.dict members)) = some (.dict members)) :
    extractJudgeJsonObject parser (before ++ dumps rules (.dict members) ++ after) =
      (.dict members, []) :=
  (extract_reply_eq_iff hbrace hbefore hobject hafter hloads).mpr
    (Or.inl ((level_dumpsMembers hfloats members htexts).closes_wrap (by decide)))

end Dumped

theorem judge_object_recovered_example :
    extractJudgeJsonObject (JsonParser.only noFloats [("faithfulness", .int 1)])
        ("Here: ".toList ++ dumps noFloats (.dict [("faithfulness", .int 1)]) ++ " Done.".toList) =
      (.dict [("faithfulness", .int 1)], []) :=
  (judge_object_recovered_iff (JsonParser.only noFloats [("faithfulness", .int 1)]) noFloats
    [("faithfulness", .int 1)] "Here: ".toList " Done.".toList rfl (by decide) (by decide)
    (by decide) (by decide)).mpr (Or.inl (bracesCloseAtEnd_iff.mpr
      ((level_dumpsMembers plainFloats_noFloats [("faithfulness", .int 1)] fun s hs =>
        List.eq_of_mem_singleton hs ▸ plain_of_all rfl).closes_wrap (by decide))))

/-- A closing brace in a string ends the count early; behind prose the object is lost. -/
theorem brace_in_string_not_recovered :
    (JsonParser.only noFloats [("a", .str "\x7d")]).loads
        (dumps noFloats (.dict [("a", .str "\x7d")])) = some (.dict [("a", .str "\x7d")]) ∧
      openBrace ∉ "Sure: ".toList ∧ ¬ fence <:+: "Sure: ".toList ∧
      ¬ fence <:+: dumps noFloats (.dict [("a", .str "\x7d")]) ∧ ¬ fence <:+: [] ∧
      extractJudgeJsonObject (JsonParser.only noFloats [("a", .str "\x7d")])
          ("Sure: ".toList ++ dumps noFloats (.dict [("a", .str "\x7d")]) ++ []) =
        (.dict [], ["balanced_brace_json_invalid", "json_decode_failed"]) :=
  ⟨rfl, by decide, by decide, by decide, by decide, rfl⟩

end ContextLens
