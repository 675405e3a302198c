import Mathlib.Tactic
import Pyronova.Uploads

/-!
# The headers of a part

The name and the filename of a part are written as quoted-strings, or the filename as an extended
value, and are read back from the lines of the part's headers as they were.
-/

namespace Pyronova

namespace Uploads

/-! ## Quoted-strings -/

/-- A character of a quoted-string. -/
def quoteChar (c : Char) : List Char := if c = '"' ∨ c = '\\' then ['\\', c] else [c]

/-- A text as a quoted-string. -/
def quoted (text : List Char) : List Char := '"' :: text.flatMap quoteChar ++ ['"']

theorem unescape_quoteChar (c : Char) (rest : List Char) :
    unescape false (quoteChar c ++ rest) = c :: unescape false rest := by
  unfold quoteChar
  split
  · rfl
  · rename_i plain
    rw [List.singleton_append, unescape, if_neg (not_or.mp plain).2]

theorem unescape_quoted (text : List Char) : unescape false (text.flatMap quoteChar) = text := by
  induction text with
  | nil => rfl
  | cons c text induction => rw [List.flatMap_cons, unescape_quoteChar, induction]

theorem strip_quoted (front text : List Char) (first : ∀ c ∈ front.head?, isSpace c = false) :
    strip (front ++ quoted text) = front ++ quoted text := by
  apply List.trimBlanks_eq_self
  · intro c head
    cases front with
    | nil =>
        obtain rfl : '"' = c := by simpa [quoted] using head
        decide
    | cons other front => exact first c (by simpa using head)
  · intro c last
    have whole : front ++ quoted text = (front ++ '"' :: text.flatMap quoteChar) ++ ['"'] := by
      simp [quoted]
    rw [whole, List.getLast?_concat] at last
    obtain rfl := Option.some.inj last
    decide

theorem unquoteParam_quoted (text : List Char) : unquoteParam (quoted text) = text := by
  have stripped : strip (quoted text) = quoted text := strip_quoted [] text (by simp)
  have ends : 2 ≤ (quoted text).length ∧ (quoted text).head? = some '"' ∧
      (quoted text).getLast? = some '"' := by
    refine ⟨by simp [quoted], rfl, ?_⟩
    rw [quoted, List.getLast?_concat]
  have inner : ((quoted text).drop 1).dropLast = text.flatMap quoteChar := by
    simp [quoted]
  simp only [unquoteParam, stripped, if_pos ends, inner, unescape_quoted]

/-- A value that starts with no quote is read as it is. -/
theorem unquoteParam_plain {value : List Char} (stripped : strip value = value)
    (noQuote : value.head? ≠ some '"') : unquoteParam value = value := by
  have ends : ¬ (2 ≤ value.length ∧ value.head? = some '"' ∧ value.getLast? = some '"') :=
    fun both => noQuote both.2.1
  simp only [unquoteParam, stripped, if_neg ends]

/-! ## Splitting at semicolons -/

theorem splitParams_plain {plain : List Char} (clear : ∀ c ∈ plain, c ≠ '"' ∧ c ≠ ';')
    (buf rest : List Char) :
    splitParams false false buf (plain ++ rest) = splitParams false false (buf ++ plain) rest := by
  induction plain generalizing buf with
  | nil => simp
  | cons c plain induction =>
      obtain ⟨⟨noQuote, noSemicolon⟩, later⟩ := List.forall_mem_cons.mp clear
      rw [List.cons_append, splitParams]
      simp only [Bool.false_eq_true, if_false, false_and, noQuote, noSemicolon]
      rw [induction later, List.append_assoc, List.singleton_append]

theorem splitParams_quoteChar (c : Char) (buf rest : List Char) :
    splitParams true false buf (quoteChar c ++ rest) =
      splitParams true false (buf ++ quoteChar c) rest := by
  unfold quoteChar
  split
  · simp [splitParams]
  · rename_i plain
    obtain ⟨noQuote, noBackslash⟩ := not_or.mp plain
    simp [splitParams, noQuote, noBackslash]

/-- A quoted-string is not split. -/
theorem splitParams_quoted (text buf rest : List Char) :
    splitParams false false buf (quoted text ++ rest) =
      splitParams false false (buf ++ quoted text) rest := by
  have inner (buf : List Char) :
      splitParams true false buf (text.flatMap quoteChar ++ '"' :: rest) =
      splitParams false false (buf ++ text.flatMap quoteChar ++ ['"']) rest := by
    induction text generalizing buf with
    | nil => simp [splitParams]
    | cons c text induction =>
        rw [List.flatMap_cons, List.append_assoc, splitParams_quoteChar, induction]
        simp
  have start : quoted text ++ rest = '"' :: (text.flatMap quoteChar ++ '"' :: rest) := by
    simp [quoted]
  rw [start, splitParams]
  simp only [Bool.false_eq_true, if_false, false_and, if_true, Bool.not_false]
  rw [inner]
  simp [quoted]

/-! ## Extended values -/

/-- `attr-char`. -/
def isAttrChar (c : Char) : Bool :=
  c.isAlphanum ||
    ['!', '#', '$', '&', '+', '-', '.', '^', '_', '\x60', '|', '~'].contains c

/-- `value-chars` and the bytes they stand for. -/
inductive PctEncoded : List Char → Bytes → Prop
  | nil : PctEncoded [] []
  | char {c : Char} {rest : List Char} {bytes : Bytes} (allowed : isAttrChar c = true)
      (encoded : PctEncoded rest bytes) : PctEncoded (c :: rest) (asciiByte c :: bytes)
  | percent {high low : Char} {rest : List Char} {bytes : Bytes}
      (highDigit : high.toNat < 128 ∧ isHexDigit (asciiByte high) = true)
      (lowDigit : low.toNat < 128 ∧ isHexDigit (asciiByte low) = true)
      (encoded : PctEncoded rest bytes) :
      PctEncoded ('%' :: high :: low :: rest)
        ((hexDigit (asciiByte high) * 16 + hexDigit (asciiByte low)) :: bytes)

/-- A spelling of the charset UTF-8. -/
def IsUtf8Charset (charset : List Char) : Prop :=
  ∃ u t f, (u = 'u' ∨ u = 'U') ∧ (t = 't' ∨ t = 'T') ∧ (f = 'f' ∨ f = 'F') ∧
    charset = [u, t, f, '-', '8']

/-- `charset'language'value-chars`: an extended value in UTF-8, with any language tag. -/
def IsExtValue (value : List Char) (filename : String) : Prop :=
  ∃ charset language encoded, IsUtf8Charset charset ∧
    (∀ c ∈ language, c.isAlphanum = true ∨ c = '-') ∧ PctEncoded encoded (utf8Encode filename) ∧
    value = charset ++ '\x27' :: (language ++ '\x27' :: encoded)

/-- A visible character of ASCII that no header gives a meaning. -/
def IsPlain (c : Char) : Prop :=
  33 ≤ c.toNat ∧ c.toNat < 127 ∧ c ≠ '"' ∧ c ≠ ';'

theorem isSpace_of_plain {c : Char} (plain : IsPlain c) : isSpace c = false := by
  obtain ⟨low, high, -, -⟩ := plain
  unfold isSpace
  simp only [List.contains_eq_mem, List.mem_cons, List.not_mem_nil, or_false, Bool.or_eq_false_iff,
    Bool.and_eq_false_iff, decide_eq_false_iff_not]
  omega

theorem isPlain_of_range {c : Char} {low high : Nat} (inside : low ≤ c.toNat ∧ c.toNat ≤ high)
    (visible : 33 ≤ low ∧ high < 127) (noQuote : high < 34 ∨ 34 < low)
    (noSemicolon : high < 59 ∨ 59 < low) : IsPlain c := by
  refine ⟨by omega, by omega, ?_, ?_⟩
  · rintro rfl
    have code : '"'.toNat = 34 := rfl
    omega
  · rintro rfl
    have code : ';'.toNat = 59 := rfl
    omega

theorem isPlain_of_alphanum {c : Char} (alphanum : c.isAlphanum = true) : IsPlain c := by
  rcases Bool.or_eq_true_iff.mp alphanum with letter | digit
  · rcases Bool.or_eq_true_iff.mp letter with upper | lower
    · have inside : 65 ≤ c.toNat ∧ c.toNat ≤ 90 := of_decide_eq_true upper
      exact isPlain_of_range inside (by decide) (by decide) (by decide)
    · obtain ⟨low, high⟩ := Bool.and_eq_true_iff.mp lower
      have inside : 97 ≤ c.toNat ∧ c.toNat ≤ 122 := ⟨of_decide_eq_true low, of_decide_eq_true high⟩
      exact isPlain_of_range inside (by decide) (by decide) (by decide)
  · have inside : 48 ≤ c.toNat ∧ c.toNat ≤ 57 := Char.isDigit_iff_toNat.mp digit
    exact isPlain_of_range inside (by decide) (by decide) (by decide)

theorem isPlain_of_attrChar {c : Char} (allowed : isAttrChar c = true) :
    IsPlain c ∧ c ≠ '\x27' ∧ c ≠ '%' := by
  have others : ∀ other, isAttrChar other = false → c ≠ other := by
    rintro other excluded rfl
    rw [excluded] at allowed
    cases allowed
  refine ⟨?_, others _ (by decide), others _ (by decide)⟩
  rcases Bool.or_eq_true_iff.mp allowed with alphanum | listed
  · exact isPlain_of_alphanum alphanum
  · simp only [List.contains_eq_mem, List.mem_cons, List.not_mem_nil, or_false,
      decide_eq_true_eq] at listed
    rcases listed with rfl | rfl | rfl | rfl | rfl | rfl | rfl | rfl | rfl | rfl | rfl | rfl <;>
      exact ⟨by decide, by decide, by decide, by decide⟩

theorem asciiByte_toNat {c : Char} (ascii : c.toNat < 128) : (asciiByte c).toNat = c.toNat := by
  rw [asciiByte, UInt8.toNat_ofNat', Nat.mod_eq_of_lt (by omega)]

theorem isPlain_of_hexDigit {c : Char} (ascii : c.toNat < 128)
    (digit : isHexDigit (asciiByte c) = true) : IsPlain c ∧ c ≠ '\x27' := by
  simp only [isHexDigit, Bool.or_eq_true, Bool.and_eq_true, decide_eq_true_eq,
    UInt8.le_iff_toNat_le, asciiByte_toNat ascii] at digit
  have noApostrophe : 39 < c.toNat → c ≠ '\x27' := by
    rintro above rfl
    exact absurd above (by decide)
  rcases digit with (decimal | upper) | lower
  · exact ⟨isPlain_of_range decimal (by decide) (by decide) (by decide),
      noApostrophe (Nat.lt_of_lt_of_le (by decide) decimal.1)⟩
  · exact ⟨isPlain_of_range upper (by decide) (by decide) (by decide),
      noApostrophe (Nat.lt_of_lt_of_le (by decide) upper.1)⟩
  · exact ⟨isPlain_of_range lower (by decide) (by decide) (by decide),
      noApostrophe (Nat.lt_of_lt_of_le (by decide) lower.1)⟩

theorem PctEncoded.plain {text : List Char} {bytes : Bytes} (encoded : PctEncoded text bytes) :
    ∀ c ∈ text, IsPlain c ∧ c ≠ '\x27' := by
  induction encoded with
  | nil => simp
  | char allowed encoded induction =>
      obtain ⟨plain, noApostrophe, -⟩ := isPlain_of_attrChar allowed
      exact List.forall_mem_cons.mpr ⟨⟨plain, noApostrophe⟩, induction⟩
  | percent highDigit lowDigit encoded induction =>
      exact List.forall_mem_cons.mpr ⟨⟨⟨by decide, by decide, by decide, by decide⟩, by decide⟩,
        List.forall_mem_cons.mpr ⟨isPlain_of_hexDigit highDigit.1 highDigit.2,
          List.forall_mem_cons.mpr ⟨isPlain_of_hexDigit lowDigit.1 lowDigit.2, induction⟩⟩⟩

theorem unquoteBytes_other {byte : UInt8} (other : byte ≠ 37) (rest : Bytes) :
    unquoteBytes (byte :: rest) = byte :: unquoteBytes rest := by
  rw [unquoteBytes]
  exact fun _ _ _ percent => absurd percent other

/-- Percent-encoding is undone. -/
theorem PctEncoded.unquoteBytes {text : List Char} {bytes : Bytes}
    (encoded : PctEncoded text bytes) : unquoteBytes (text.map asciiByte) = bytes := by
  induction encoded with
  | nil => rfl
  | @char c rest bytes allowed encoded induction =>
      obtain ⟨plain, -, noPercent⟩ := isPlain_of_attrChar allowed
      have other : asciiByte c ≠ 37 := by
        intro same
        apply noPercent
        apply Char.toNat_inj.mp
        rw [← asciiByte_toNat (Nat.lt_succ_of_lt plain.2.1), same]
        rfl
      rw [List.map_cons, unquoteBytes_other other, induction]
  | percent highDigit lowDigit encoded induction =>
      have digits := Bool.and_eq_true_iff.mpr ⟨highDigit.2, lowDigit.2⟩
      have sign : asciiByte '%' = 37 := rfl
      rw [List.map_cons, List.map_cons, List.map_cons, sign, Uploads.unquoteBytes, if_pos digits,
        induction]

theorem IsUtf8Charset.chars {charset : List Char} (known : IsUtf8Charset charset) :
    lower (strip charset) = "utf-8".toList ∧ charset.all isAttrChar = true := by
  obtain ⟨u, t, f, rfl | rfl, rfl | rfl, rfl | rfl, rfl⟩ := known <;> exact ⟨by decide, by decide⟩

/-- What stands before the text of an extended value. -/
theorem isPlain_of_language {c : Char} (allowed : c.isAlphanum = true ∨ c = '-') :
    IsPlain c ∧ c ≠ '\x27' := by
  have attrChar : isAttrChar c = true := by
    rcases allowed with alphanum | rfl
    · exact Bool.or_eq_true_iff.mpr (.inl alphanum)
    · decide
  exact ⟨(isPlain_of_attrChar attrChar).1, (isPlain_of_attrChar attrChar).2.1⟩

theorem IsUtf8Charset.plain {charset : List Char} (known : IsUtf8Charset charset) :
    ∀ c ∈ charset, IsPlain c ∧ c ≠ '\x27' := by
  intro c member
  have attrChar := isPlain_of_attrChar (List.all_eq_true.mp known.chars.2 c member)
  exact ⟨attrChar.1, attrChar.2.1⟩

/-- An extended value stands for its filename. -/
theorem extValue_of_isExtValue {value : List Char} {filename : String}
    (isExt : IsExtValue value filename) : extValue value = .ok filename := by
  obtain ⟨charset, language, encoded, known, tag, pct, rfl⟩ := isExt
  have first : List.cut ['\x27'] (charset ++ '\x27' :: (language ++ '\x27' :: encoded)) =
      some (charset, language ++ '\x27' :: encoded) :=
    List.cut_singleton (fun member => (known.plain _ member).2 rfl) _
  have second : List.cut ['\x27'] (language ++ '\x27' :: encoded) = some (language, encoded) :=
    List.cut_singleton (fun member => (isPlain_of_language (tag _ member)).2 rfl) _
  have decoder : extValueCharsets.lookup (lower (strip charset)) = some utf8Decode := by
    rw [known.chars.1, extValueCharsets, List.lookup_cons_self]
  have bytes : unquoteBytes (utf8Encode (String.ofList encoded)) = utf8Encode filename := by
    rw [utf8Encode_ascii fun c member => Nat.lt_succ_of_lt (pct.plain c member).1.2.1]
    exact pct.unquoteBytes
  simp only [extValue, first, second, decoder, bytes, utf8Decode_encode]

theorem IsExtValue.plain {value : List Char} {filename : String}
    (isExt : IsExtValue value filename) : ∀ c ∈ value, IsPlain c := by
  obtain ⟨charset, language, encoded, known, tag, pct, rfl⟩ := isExt
  have apostrophe : IsPlain '\x27' := ⟨by decide, by decide, by decide, by decide⟩
  intro c member
  simp only [List.mem_append, List.mem_cons] at member
  rcases member with inCharset | rfl | inLanguage | rfl | inEncoded
  · exact (known.plain c inCharset).1
  · exact apostrophe
  · exact (isPlain_of_language (tag c inLanguage)).1
  · exact apostrophe
  · exact (pct.plain c inEncoded).1

theorem unquoteParam_of_plain {value : List Char} (plain : ∀ c ∈ value, IsPlain c) :
    unquoteParam value = value := by
  have visible : ∀ c ∈ value, isSpace c = false := fun c member => isSpace_of_plain (plain c member)
  apply unquoteParam_plain
  · exact List.trimBlanks_eq_self (fun c head => visible c (List.mem_of_mem_head? head))
      (fun c last => visible c (List.mem_of_mem_getLast? last))
  · intro quote
    exact (plain _ (List.mem_of_mem_head? quote)).2.2.1 rfl

/-! ## Parameters -/

/-- A text that no semicolon splits, wherever it stands outside quotes. -/
def Unsplit (piece : List Char) : Prop :=
  ∀ buf rest, splitParams false false buf (piece ++ rest) =
    splitParams false false (buf ++ piece) rest

theorem unsplit_plain {plain : List Char} (clear : ∀ c ∈ plain, c ≠ '"' ∧ c ≠ ';') :
    Unsplit plain := splitParams_plain clear

theorem unsplit_of_all {plain : List Char}
    (clear : plain.all (fun c => c ≠ '"' ∧ c ≠ ';') = true) : Unsplit plain :=
  unsplit_plain fun c member => decide_eq_true_eq.mp (List.all_eq_true.mp clear c member)

theorem unsplit_quoted (text : List Char) : Unsplit (quoted text) := splitParams_quoted text

theorem Unsplit.append {front back : List Char} (first : Unsplit front) (second : Unsplit back) :
    Unsplit (front ++ back) := by
  intro buf rest
  rw [List.append_assoc, first, second, List.append_assoc]

/-- Pieces joined by semicolons. -/
def withParams (first : List Char) (params : List (List Char)) : List Char :=
  first ++ params.flatMap fun param => ';' :: param

theorem splitHeaderParams_withParams {first : List Char} {params : List (List Char)}
    (unsplitFirst : Unsplit first) (unsplit : ∀ param ∈ params, Unsplit param) :
    splitHeaderParams (withParams first params) = first :: params := by
  have whole (buf : List Char) :
      splitParams false false buf (withParams first params) = (buf ++ first) :: params := by
    induction params generalizing first buf with
    | nil => rw [withParams, List.flatMap_nil, unsplitFirst, splitParams]
    | cons param params induction =>
        obtain ⟨here, later⟩ := List.forall_mem_cons.mp unsplit
        have text : withParams first (param :: params) =
            first ++ ';' :: withParams param params := by simp [withParams]
        rw [text, unsplitFirst, splitParams_semicolon, induction here later, List.nil_append]
  exact whole []

/-- A parameter `key=value`, behind a blank. -/
def param (key : String) (value : List Char) : List Char := ' ' :: key.toList ++ '=' :: value

/-- A key that is read as it is written. -/
structure IsKey (key : String) : Prop where
  clear : (' ' :: key.toList).all (fun c => c ≠ '=' ∧ c ≠ '"' ∧ c ≠ ';') = true
  known : lower (strip (' ' :: key.toList)) = key.toList

theorem isKey_name : IsKey "name" := ⟨by decide, by decide⟩

theorem isKey_filename : IsKey "filename" := ⟨by decide, by decide⟩

theorem isKey_filenameExt : IsKey "filename*" := ⟨by decide, by decide⟩

theorem isKey_boundary : IsKey "boundary" := ⟨by decide, by decide⟩

theorem IsKey.unsplit_param {key : String} (isKey : IsKey key) {value : List Char}
    (unsplit : Unsplit value) : Unsplit (param key value) := by
  have whole : param key value = (' ' :: key.toList ++ ['=']) ++ value := by simp [param]
  rw [whole]
  refine (unsplit_plain fun c member => ?_).append unsplit
  rcases List.mem_append.mp member with inKey | equals
  · have clear := List.all_eq_true.mp isKey.clear c inKey
    simp only [decide_eq_true_eq] at clear
    exact clear.2
  · obtain rfl := List.mem_singleton.mp equals
    exact ⟨by decide, by decide⟩

theorem IsKey.headerParams_cons {key : String} (isKey : IsKey key) (value : List Char)
    (params : List (List Char)) :
    headerParams (param key value :: params) =
      (key.toList, unquoteParam value) :: headerParams params := by
  have noEquals : '=' ∉ ' ' :: key.toList := fun member => by
    simpa using List.all_eq_true.mp isKey.clear _ member
  have found : List.cut ['='] (param key value) = some (' ' :: key.toList, value) :=
    List.cut_singleton noEquals value
  simp only [headerParams, List.filterMap_cons, found, Option.map_some, isKey.known]

/-- A text on one line. -/
def OneLine (text : List Char) : Prop := '\r' ∉ text ∧ '\n' ∉ text

/-- How a part gives its filename. -/
inductive GivenFilename
  | absent
  | quotedString (filename : String)
  | extValue (filename : String) (value : List Char)
  deriving DecidableEq, Repr

namespace GivenFilename

def text : GivenFilename → Option String
  | absent => none
  | quotedString filename => some filename
  | extValue filename _ => some filename

/-- The parameter that gives the filename. -/
def params : GivenFilename → List (List Char)
  | absent => []
  | quotedString filename => [param "filename" (quoted filename.toList)]
  | extValue _ value => [param "filename*" value]

/-- A quoted filename is on one line; an extended value stands for its filename. -/
def Valid : GivenFilename → Prop
  | absent => True
  | quotedString filename => OneLine filename.toList
  | extValue filename value => IsExtValue value filename

/-- What the parameter is read as. -/
def entries : GivenFilename → Entries
  | absent => []
  | quotedString filename => [("filename".toList, filename.toList)]
  | extValue _ value => [("filename*".toList, value)]

theorem unsplit_params {filename : GivenFilename} (valid : filename.Valid) :
    ∀ piece ∈ filename.params, Unsplit piece := by
  cases filename with
  | absent => simp [params]
  | quotedString filename =>
      exact List.forall_mem_singleton.mpr (isKey_filename.unsplit_param (unsplit_quoted _))
  | extValue filename value =>
      refine List.forall_mem_singleton.mpr (isKey_filenameExt.unsplit_param ?_)
      exact unsplit_plain fun c member => (valid.plain c member).2.2

theorem headerParams_params {filename : GivenFilename} (valid : filename.Valid) :
    headerParams filename.params = filename.entries := by
  cases filename with
  | absent => rfl
  | quotedString filename =>
      rw [params, isKey_filename.headerParams_cons, unquoteParam_quoted]
      rfl
  | extValue filename value =>
      rw [params, isKey_filenameExt.headerParams_cons, unquoteParam_of_plain valid.plain]
      rfl

end GivenFilename

/-- The value of a `Content-Disposition`. -/
def dispositionValue (name : String) (filename : GivenFilename) : List Char :=
  withParams "form-data".toList (param "name" (quoted name.toList) :: filename.params)

theorem headerParams_disposition (name : String) {filename : GivenFilename}
    (valid : filename.Valid) :
    headerParams (splitHeaderParams (dispositionValue name filename)).tail =
      ("name".toList, name.toList) :: filename.entries := by
  have mediaType : Unsplit "form-data".toList := unsplit_of_all (by decide)
  have nameParam := isKey_name.unsplit_param (unsplit_quoted name.toList)
  have split := splitHeaderParams_withParams mediaType
    (List.forall_mem_cons.mpr ⟨nameParam, GivenFilename.unsplit_params valid⟩)
  rw [dispositionValue, split, List.tail_cons, isKey_name.headerParams_cons, unquoteParam_quoted,
    GivenFilename.headerParams_params valid]

theorem strip_dispositionValue (name : String) {filename : GivenFilename}
    (valid : filename.Valid) :
    strip (dispositionValue name filename) = dispositionValue name filename := by
  have visible (front : List Char) :
      ∀ c ∈ ("form-data".toList ++ front).head?, isSpace c = false := by
    intro c head
    obtain rfl : 'f' = c := by simpa using head
    decide
  cases filename with
  | absent =>
      have whole : dispositionValue name .absent =
          ("form-data".toList ++ ';' :: ' ' :: "name=".toList) ++ quoted name.toList := by
        simp [dispositionValue, withParams, GivenFilename.params, param]
      rw [whole]
      exact strip_quoted _ _ (visible _)
  | quotedString filename =>
      have whole : dispositionValue name (.quotedString filename) =
          ("form-data".toList ++ (';' :: param "name" (quoted name.toList) ++
            ';' :: ' ' :: "filename=".toList)) ++ quoted filename.toList := by
        simp [dispositionValue, withParams, GivenFilename.params, param]
      rw [whole]
      exact strip_quoted _ _ (visible _)
  | extValue filename value =>
      have whole : dispositionValue name (.extValue filename value) =
          ("form-data".toList ++ (';' :: param "name" (quoted name.toList) ++
            ';' :: ' ' :: "filename*=".toList)) ++ value := by
        simp [dispositionValue, withParams, GivenFilename.params, param]
      have nonempty : value ≠ [] := by
        obtain ⟨charset, language, encoded, -, -, -, rfl⟩ := valid
        simp
      rw [whole]
      apply List.trimBlanks_eq_self
      · rw [List.append_assoc]
        exact visible _
      · intro c last
        rw [List.getLast?_append_of_ne_nil _ nonempty] at last
        exact isSpace_of_plain (IsExtValue.plain valid c (List.mem_of_mem_getLast? last))

theorem lastValue_name (name : String) (filename : GivenFilename) :
    lastValue (("name".toList, name.toList) :: filename.entries) "name" = some name.toList := by
  cases filename <;> simp [GivenFilename.entries, lastValue, List.lookup_cons]

theorem filenameOf_given (name : String) {filename : GivenFilename} (valid : filename.Valid) :
    filenameOf (("name".toList, name.toList) :: filename.entries) = .ok filename.text := by
  cases filename with
  | absent => simp [GivenFilename.entries, filenameOf, lastValue, List.lookup_cons,
      GivenFilename.text]
  | quotedString filename =>
      simp [GivenFilename.entries, filenameOf, lastValue, List.lookup_cons, GivenFilename.text]
  | extValue filename value =>
      have given : lastValue (("name".toList, name.toList) ::
          GivenFilename.entries (.extValue filename value)) "filename*" = some value := by
        simp [GivenFilename.entries, lastValue]
      simp only [filenameOf, given, extValue_of_isExtValue valid]
      rfl

/-- How a boundary is given: as a quoted-string, or as it is where nothing in it has a meaning. -/
inductive IsBoundaryValue (boundary : String) : List Char → Prop
  | quotedString : IsBoundaryValue boundary (quoted boundary.toList)
  | token (plain : ∀ c ∈ boundary.toList, IsPlain c) : IsBoundaryValue boundary boundary.toList

theorem IsBoundaryValue.unsplit {boundary : String} {value : List Char}
    (isValue : IsBoundaryValue boundary value) : Unsplit value := by
  cases isValue with
  | quotedString => exact unsplit_quoted _
  | token plain => exact unsplit_plain fun c member => (plain c member).2.2

theorem IsBoundaryValue.unquoted {boundary : String} {value : List Char}
    (isValue : IsBoundaryValue boundary value) : unquoteParam value = boundary.toList := by
  cases isValue with
  | quotedString => exact unquoteParam_quoted _
  | token plain => exact unquoteParam_of_plain plain

/-- The `Content-Type` of a form. -/
def formContentType (value : List Char) : String :=
  String.ofList (withParams "multipart/form-data".toList [param "boundary" value])

theorem boundaryOf_formContentType {boundary : String} (nonempty : boundary ≠ "")
    {value : List Char} (isValue : IsBoundaryValue boundary value) :
    boundaryOf (formContentType value) = .ok boundary := by
  have mediaType : Unsplit "multipart/form-data".toList := unsplit_of_all (by decide)
  have split := splitHeaderParams_withParams mediaType
    (List.forall_mem_singleton.mpr (isKey_boundary.unsplit_param isValue.unsplit))
  have known : lower (strip "multipart/form-data".toList) = "multipart/form-data".toList := by
    decide
  have entries : headerParams [param "boundary" value] =
      [("boundary".toList, boundary.toList)] := by
    rw [isKey_boundary.headerParams_cons, isValue.unquoted]
    rfl
  have found : lastValue [("boundary".toList, boundary.toList)] "boundary" =
      some boundary.toList := by simp [lastValue]
  rw [boundaryOf, formContentType, String.toList_ofList, split]
  simp only [List.headD_cons, known, ne_eq, not_true_eq_false, if_false,
    List.tail_cons, entries, found, Option.getD_some]
  cases chars : boundary.toList with
  | nil => exact absurd (String.toList_eq_nil_iff.mp chars) nonempty
  | cons first rest => simp [← chars]

end Uploads

end Pyronova
