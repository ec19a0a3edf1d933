import ContextLens.Foundations.Json
import ContextLens.Foundations.Text
import Mathlib.Data.List.DropRight
import Mathlib.Data.Rat.Floor

/-!
# JavaScript's builtins

The builtins that the frontend uses where their exact behaviour matters: texts by code
units, `Number(s)`, `toFixed` and the currency format.  Numbers are exact rationals; a number
that a `double` cannot hold is not finite.

Two builtins need tables and stay open, as the fields of `Builtins`: the text of a number
and `toLowerCase`.
-/

namespace Foundations

namespace Javascript

/-- A number. -/
abbrev Number := ℚ

/-- `String(x)` of a number, and `s.toLowerCase()`. -/
structure Builtins where
  numberText : Number → String
  toLowerCase : String → String

/-! ## Texts -/

/-- `WhiteSpace` and `LineTerminator` of the language. -/
def isWhiteSpace (c : Char) : Bool :=
  let n := c.toNat
  (9 ≤ n && n ≤ 13) || n = 32 || n = 160 || n = 5760 || (8192 ≤ n && n ≤ 8202) ||
    n = 8232 || n = 8233 || n = 8239 || n = 8287 || n = 12288 || n = 65279

/-- `s.trim()`. -/
def trim (s : String) : String :=
  String.ofList ((s.toList.dropWhile isWhiteSpace).rdropWhile isWhiteSpace)

/-- `s.replace(/\s+/g, ' ')`; `inside` says that the last character was replaced. -/
def collapseWhiteSpace (inside : Bool) : List Char → List Char
  | [] => []
  | c :: rest =>
      if isWhiteSpace c then
        if inside then collapseWhiteSpace true rest else ' ' :: collapseWhiteSpace true rest
      else c :: collapseWhiteSpace false rest

/-- The UTF-16 code units of a text, which `length`, `slice` and indexing count. -/
def codeUnits (s : String) : List ℕ :=
  s.toList.flatMap fun c =>
    if c.toNat < 0x10000 then [c.toNat]
    else [0xd800 + (c.toNat - 0x10000) / 0x400, 0xdc00 + (c.toNat - 0x10000) % 0x400]

/-- What is trimmed has nothing to trim. -/
theorem trim_trim (s : String) : trim (trim s) = trim s := by
  have hstrip : Text.strip isWhiteSpace (Text.strip isWhiteSpace s.toList) =
      Text.strip isWhiteSpace s.toList := Text.strip_strip s.toList
  rw [trim, trim, String.toList_ofList]
  exact congrArg String.ofList hstrip

section

variable {text : List Char}

theorem collapseWhiteSpace_of_plain (hplain : ∀ c ∈ text, isWhiteSpace c = false) :
    collapseWhiteSpace false text = text := by
  induction text with
  | nil => rfl
  | cons c rest ih =>
      rw [collapseWhiteSpace, hplain c List.mem_cons_self,
        ih fun d hd => hplain d (List.mem_cons_of_mem c hd)]
      rfl

theorem trim_of_plain (hplain : ∀ c ∈ text, isWhiteSpace c = false) :
    trim (String.ofList text) = String.ofList text := by
  have hleft : text.dropWhile isWhiteSpace = text :=
    List.dropWhile_eq_self_iff.mpr fun hpos hblank => by
      rw [hplain _ (List.getElem_mem hpos)] at hblank
      cases hblank
  have hright : text.rdropWhile isWhiteSpace = text :=
    List.rdropWhile_eq_self_iff.mpr fun hne hblank => by
      rw [hplain _ (List.getLast_mem hne)] at hblank
      cases hblank
  rw [trim, String.toList_ofList, hleft, hright]

/-- Characters of the basic plane are their own code units. -/
theorem codeUnits_ofList_of_small (hsmall : ∀ c ∈ text, c.toNat < 0x10000) :
    codeUnits (String.ofList text) = text.map Char.toNat := by
  rw [codeUnits, String.toList_ofList, ← List.flatMap_pure_eq_map]
  exact List.flatMap_congr fun c hc => if_pos (hsmall c hc)

end

/-- `/word/i.test(s)`, for a word of lower-case ASCII letters. -/
def mentions (word s : String) : Bool :=
  (s.toList.map Char.toLower).tails.any fun rest => word.toList.isPrefixOf rest

/-! ## Objects -/

/-- What every object inherits from `Object.prototype`; none of it is falsy. -/
def inheritedProperties : List String :=
  ["constructor", "__defineGetter__", "__defineSetter__", "hasOwnProperty", "__lookupGetter__",
   "__lookupSetter__", "isPrototypeOf", "propertyIsEnumerable", "toString", "valueOf",
   "__proto__", "toLocaleString"]

/-- The members that a value of `typeof` `object` other than `null` has under names; an array
has none that is not an index or its length. -/
def namedMembers : Json → Option JsonObject
  | .obj members => some members
  | .arr _ => some []
  | _ => none

/-! ## Numbers -/

/-- The least number that is rounded to infinity. -/
def numberLimit : ℕ := 2 ^ 1024 - 2 ^ 970

/-- `Number.isFinite(x)`, and then `x`. -/
def finite (x : ℚ) : Option Number := if |x| < numberLimit then some x else none

/-- The value of a digit in the radices up to 36. -/
def digitValue (c : Char) : Option ℕ :=
  if '0' ≤ c ∧ c ≤ '9' then some (c.toNat - 48)
  else if 'a' ≤ c ∧ c ≤ 'z' then some (c.toNat - 87)
  else if 'A' ≤ c ∧ c ≤ 'Z' then some (c.toNat - 55)
  else none

/-- A number of one or more digits of a radix. -/
def digitsValue (radix : ℕ) (digits : List Char) : Option ℕ :=
  if digits = [] then none
  else digits.foldlM (fun n c => ((digitValue c).filter fun d => decide (d < radix)).map
    fun d => radix * n + d) 0

/-- The exponent of a decimal literal, with its letter. -/
def exponentValue : List Char → Option ℤ
  | [] => some 0
  | c :: rest =>
      if c = 'e' ∨ c = 'E' then
        match rest with
        | '-' :: digits => (digitsValue 10 digits).map fun n => -(n : ℤ)
        | '+' :: digits => (digitsValue 10 digits).map fun n => (n : ℤ)
        | digits => (digitsValue 10 digits).map fun n => (n : ℤ)
      else none

/-- A decimal literal without a sign. -/
def decimalLiteral (literal : List Char) : Option ℚ :=
  let whole := literal.takeWhile Char.isDigit
  let (fraction, rest) : List Char × List Char :=
    match literal.dropWhile Char.isDigit with
    | '.' :: rest => (rest.takeWhile Char.isDigit, rest.dropWhile Char.isDigit)
    | rest => ([], rest)
  (digitsValue 10 (whole ++ fraction)).bind fun n =>
    (exponentValue rest).map fun e => (n : ℚ) * (10 : ℚ) ^ (e - (fraction.length : ℤ))

/-- The value of `Number(s)` before it is rounded; `none` for `NaN` and the infinities. -/
def numericLiteral (s : String) : Option ℚ :=
  match (trim s).toList with
  | [] => some 0
  | '0' :: 'x' :: digits | '0' :: 'X' :: digits => (digitsValue 16 digits).map fun n => (n : ℚ)
  | '0' :: 'o' :: digits | '0' :: 'O' :: digits => (digitsValue 8 digits).map fun n => (n : ℚ)
  | '0' :: 'b' :: digits | '0' :: 'B' :: digits => (digitsValue 2 digits).map fun n => (n : ℚ)
  | '-' :: literal => (decimalLiteral literal).map fun x => -x
  | '+' :: literal => decimalLiteral literal
  | literal => decimalLiteral literal

/-- `Number(s)` when it is finite. -/
def numberOfText (s : String) : Option Number := (numericLiteral s).bind finite

/-- The nearest integer to a number that is not negative, the upper one of two. -/
def roundHalfUp (x : ℚ) : ℤ := ⌊x + 1 / 2⌋

/-- `x.toFixed(digits)`. -/
def toFixed (builtins : Builtins) (digits : ℕ) (x : Number) : String :=
  if 10 ^ 21 ≤ |x| then builtins.numberText x
  else (if x < 0 then "-" else "") ++
    String.ofList (decimalText (roundHalfUp (|x| * 10 ^ digits)) digits)

/-- Commas between groups of three digits, from the right. -/
def groupedDigits (digits : List Char) : List Char :=
  [','].intercalate ((digits.reverse.toChunks 3).map List.reverse).reverse

/-- The en-US currency format with 2 to `maxFraction` digits after the point. -/
def usdText (maxFraction : ℕ) (x : Number) : String :=
  let text := decimalText (roundHalfUp (|x| * 10 ^ maxFraction)) maxFraction
  let whole := text.takeWhile fun c => c ≠ '.'
  let fraction := (text.dropWhile fun c => c ≠ '.').drop 1
  let optional := (fraction.drop 2).rdropWhile fun c => c = '0'
  String.ofList ((if x < 0 then ['-'] else []) ++ '$' :: groupedDigits whole ++ '.' ::
    (fraction.take 2 ++ optional))

mutual

/-- `String(v)` of a decoded JSON value. -/
def stringOf (builtins : Builtins) : Json → String
  | .null => "null"
  | .bool value => if value then "true" else "false"
  | .num mantissa scale => builtins.numberText (mantissa / 10 ^ scale)
  | .str value => value
  | .arr items => ",".intercalate (itemTexts builtins items)
  | .obj _ => "[object Object]"

/-- The items as `join` writes them: nothing for a `null`. -/
def itemTexts (builtins : Builtins) : List Json → List String
  | [] => []
  | .null :: items => "" :: itemTexts builtins items
  | item :: items => stringOf builtins item :: itemTexts builtins items

end

end Javascript

end Foundations
