import Mathlib.Data.Int.Notation
import Mathlib.Data.List.Basic

/-!
# JSON values, dictionaries and the text of a member

A JSON value as a document store hands it to a program, with decimal numbers
kept exactly (`num m k` is `m · 10⁻ᵏ`), and a JSON object as the program sees
it: an ordered list of members, read by `get` and updated member by member.

`columnText` is what PostgreSQL's `->>` returns for a member: the contents of a
string, SQL `NULL` for a JSON `null`, and the JSON text of anything else.  A
comparison of that text with a string literal is therefore a comparison with
the *string* value, provided the literal is not itself the text of some other
value; `columnText_eq_some_iff` is that fact.
-/

namespace Foundations

/-- A JSON value.  `num m k` is the decimal `m · 10⁻ᵏ`. -/
inductive Json where
  | null
  | bool (value : Bool)
  | num (mantissa : ℤ) (scale : ℕ)
  | str (value : String)
  | arr (items : List Json)
  | obj (members : List (String × Json))

/-- A JSON object: its members in insertion order. -/
abbrev JsonObject := List (String × Json)

namespace JsonObject

/-- The member `key`, when the object has one. -/
def get (object : JsonObject) (key : String) : Option Json :=
  List.lookup key object

/-- Assign the member `key`: in place when it is there, at the end otherwise. -/
def set (key : String) (value : Json) : JsonObject → JsonObject
  | [] => [(key, value)]
  | (k, v) :: rest =>
      if k = key then (key, value) :: rest else (k, v) :: set key value rest

/-- Assign every member of `patch` in turn. -/
def update (object patch : JsonObject) : JsonObject :=
  patch.foldl (fun acc member => set member.1 member.2 acc) object

@[simp] theorem get_nil (key : String) : get [] key = none := rfl

end JsonObject

/-! ## The text of a member -/

/-- The digits of `|mantissa|`, with enough leading zeros that one digit is left
before the last `scale` of them. -/
def paddedDigits (mantissa : ℤ) (scale : ℕ) : List Char :=
  List.replicate (scale + 1 - (Nat.toDigits 10 mantissa.natAbs).length) '0' ++
    Nat.toDigits 10 mantissa.natAbs

/-- The decimal text of `mantissa · 10⁻ˢᶜᵃˡᵉ`, trailing zeros included. -/
def decimalText (mantissa : ℤ) (scale : ℕ) : List Char :=
  let digits := paddedDigits mantissa scale
  (if mantissa < 0 then ['-'] else []) ++ digits.take (digits.length - scale) ++
    (if scale = 0 then [] else '.' :: digits.drop (digits.length - scale))

theorem scale_lt_length_paddedDigits (mantissa : ℤ) (scale : ℕ) :
    scale < (paddedDigits mantissa scale).length := by
  have : 0 < (Nat.toDigits 10 mantissa.natAbs).length :=
    List.length_pos_iff.mpr Nat.toDigits_ne_nil
  rw [paddedDigits, List.length_append, List.length_replicate]
  omega

theorem isDigit_of_mem_paddedDigits (mantissa : ℤ) (scale : ℕ) {c : Char}
    (h : c ∈ paddedDigits mantissa scale) : c.isDigit = true := by
  rw [paddedDigits, List.mem_append] at h
  rcases h with h | h
  · rw [List.eq_of_mem_replicate h]
    rfl
  · exact Nat.isDigit_of_mem_toDigits (by omega) (by omega) h

/-- The text of a number starts with a sign or a digit. -/
theorem decimalText_start (mantissa : ℤ) (scale : ℕ) {c : Char} {rest : List Char}
    (h : decimalText mantissa scale = c :: rest) : c = '-' ∨ c.isDigit = true := by
  simp only [decimalText] at h
  by_cases hneg : mantissa < 0
  · rw [if_pos hneg] at h
    exact Or.inl (by simpa using (congrArg List.head? h).symm)
  · rw [if_neg hneg] at h
    have hlen := scale_lt_length_paddedDigits mantissa scale
    cases hdigits : paddedDigits mantissa scale with
    | nil => simp [hdigits] at hlen
    | cons d digits =>
        rw [hdigits, List.length_cons] at hlen
        rw [hdigits, List.length_cons,
          show digits.length + 1 - scale = digits.length - scale + 1 by omega] at h
        simp only [List.take_succ_cons, List.nil_append, List.cons_append,
          List.cons.injEq] at h
        right
        rw [← h.1]
        refine isDigit_of_mem_paddedDigits mantissa scale ?_
        rw [hdigits]
        exact List.mem_cons_self

/-- A string between double quotes, with the two characters that need it
escaped. -/
def quotedText (s : String) : String :=
  "\"" ++ String.ofList (s.toList.flatMap fun c =>
    if c = '"' ∨ c = '\\' then ['\\', c] else [c]) ++ "\""

namespace Json

mutual

/-- The JSON text of a value. -/
def text : Json → String
  | .null => "null"
  | .bool value => if value then "true" else "false"
  | .num mantissa scale => String.ofList (decimalText mantissa scale)
  | .str value => quotedText value
  | .arr items => "[" ++ itemsText items ++ "]"
  | .obj members => "\x7b" ++ membersText members ++ "\x7d"

/-- The comma-separated texts of an array's items. -/
def itemsText : List Json → String
  | [] => ""
  | [item] => text item
  | item :: rest => text item ++ ", " ++ itemsText rest

/-- The comma-separated texts of an object's members. -/
def membersText : List (String × Json) → String
  | [] => ""
  | [(key, value)] => quotedText key ++ ": " ++ text value
  | (key, value) :: rest =>
      quotedText key ++ ": " ++ text value ++ ", " ++ membersText rest

end

/-- What `->>` returns for a member holding this value; `none` is SQL `NULL`. -/
def columnText : Json → Option String
  | .null => none
  | .str value => some value
  | value => some value.text

/-- A text that no JSON value other than the string of that text has: it is
non-empty, starts like no number and no container, and is not a Boolean. -/
structure OnlyString (t : String) : Prop where
  start : ∃ c rest, t.toList = c :: rest ∧
    c ≠ '[' ∧ c ≠ '\x7b' ∧ c ≠ '-' ∧ c.isDigit = false
  not_true : t ≠ "true"
  not_false : t ≠ "false"

/-- **A text comparison is a comparison of string values.** -/
theorem columnText_eq_some_iff {t : String} (ht : OnlyString t) (value : Json) :
    value.columnText = some t ↔ value = .str t := by
  obtain ⟨c, rest, hstart, hbracket, hbrace, hminus, hdigit⟩ := ht.start
  cases value with
  | null => simp [columnText]
  | str s => simp [columnText]
  | bool b =>
      cases b with
      | false => simpa [columnText, text] using Ne.symm ht.not_false
      | true => simpa [columnText, text] using Ne.symm ht.not_true
  | num m k =>
      simp only [columnText, text, Option.some.injEq, reduceCtorEq, iff_false]
      intro h
      have htext : decimalText m k = c :: rest := by
        rw [← hstart, ← h, String.toList_ofList]
      -- The text of a number starts with a sign or a digit, `t` does not.
      rcases decimalText_start m k htext with h1 | h1
      · exact hminus h1
      · rw [hdigit] at h1
        exact Bool.noConfusion h1
  | arr items =>
      simp only [columnText, text, Option.some.injEq, reduceCtorEq, iff_false]
      intro h
      have hhead := congrArg (fun s => s.toList.head?) h
      simp only [String.toList_append, hstart] at hhead
      exact hbracket (by simpa using hhead.symm)
  | obj members =>
      simp only [columnText, text, Option.some.injEq, reduceCtorEq, iff_false]
      intro h
      have hhead := congrArg (fun s => s.toList.head?) h
      simp only [String.toList_append, hstart] at hhead
      exact hbrace (by simpa using hhead.symm)

end Json

/-! ## Truth of a JSON value -/

/-- Python's truth value of a decoded JSON value. -/
def Json.truthy : Json → Bool
  | .null => false
  | .bool value => value
  | .num mantissa _ => mantissa ≠ 0
  | .str value => value ≠ ""
  | .arr items => !items.isEmpty
  | .obj members => !members.isEmpty

end Foundations
