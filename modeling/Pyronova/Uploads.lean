import Mathlib.Tactic
import Pyronova.PyText
import Pyronova.RequestHeaders

/-!
# Uploads

`parse_multipart` reads a body of `multipart/form-data`: the boundary from the `Content-Type`, the
line break from the first delimiter line, then the parts between the delimiters, each with its
header lines and its data.
-/

namespace Pyronova

namespace Uploads

/-! ## Header values -/

/-- `_split_header_params`, within a value: whether in quotes, whether after a backslash, and what
is read of the current part. -/
def splitParams (inQuotes escaped : Bool) (buf : List Char) : List Char → List (List Char)
  | [] => [buf]
  | c :: rest =>
      if escaped then splitParams inQuotes false (buf ++ [c]) rest
      else if inQuotes ∧ c = '\\' then splitParams inQuotes true (buf ++ [c]) rest
      else if c = '"' then splitParams (!inQuotes) false (buf ++ [c]) rest
      else if c = ';' ∧ ¬inQuotes then buf :: splitParams inQuotes false [] rest
      else splitParams inQuotes false (buf ++ [c]) rest

theorem splitParams_semicolon (buf rest : List Char) :
    splitParams false false buf (';' :: rest) = buf :: splitParams false false [] rest := by
  simp [splitParams]

/-- `_split_header_params`. -/
def splitHeaderParams (value : List Char) : List (List Char) := splitParams false false [] value

/-- The text between the quotes, after a backslash or not; a backslash at the end is kept. -/
def unescape : Bool → List Char → List Char
  | escaped, [] => if escaped then ['\\'] else []
  | true, c :: rest => c :: unescape false rest
  | false, c :: rest => if c = '\\' then unescape true rest else c :: unescape false rest

/-- `_unquote_param`. -/
def unquoteParam (value : List Char) : List Char :=
  let value := strip value
  if 2 ≤ value.length ∧ value.head? = some '"' ∧ value.getLast? = some '"' then
    unescape false (value.drop 1).dropLast
  else value

/-- The entries of a `dict` in the order they are assigned. -/
abbrev Entries := List (List Char × List Char)

/-- `dict.get`: what was assigned last counts. -/
def lastValue (entries : Entries) (key : String) : Option (List Char) :=
  entries.reverse.lookup key.toList

/-- `_header_params`. -/
def headerParams (params : List (List Char)) : Entries :=
  params.filterMap fun param =>
    (List.cut ['='] param).map fun found => (lower (strip found.1), unquoteParam found.2)

/-! ## Errors -/

/-- `MultipartError`. -/
inductive MultipartError
  | emptyBody
  | notFormData (contentType : String)
  | missingBoundary (contentType : String)
  | extValueForm (value : List Char)
  | extValueDecode (value charset : List Char)
  | noDelimiter (boundary : String)
  | padding (boundary : String) (padding : Bytes)
  | noClosing (boundary : String)
  | noBlankLine (part : Bytes)
  | noFieldName (disposition : List Char)
  deriving DecidableEq, Repr

/-- The text of an error, given how values are quoted and the problem that decoding found. -/
def MultipartError.text (quoted : List Char → String) (quotedBytes : Bytes → String)
    (problem : String) : MultipartError → String
  | .emptyBody => "request body is empty"
  | .notFormData contentType => "Expected multipart/form-data, got: " ++ contentType
  | .missingBoundary contentType => "Missing boundary in Content-Type: " ++ contentType
  | .extValueForm value =>
      "filename*=" ++ quoted value ++
        " is not charset'language'value with charset UTF-8 or ISO-8859-1 (RFC 8187)"
  | .extValueDecode value charset =>
      "filename*=" ++ quoted value ++ " is not valid " ++ String.ofList charset ++ ": " ++ problem
  | .noDelimiter boundary => "no delimiter line --" ++ boundary ++ " in the body"
  | .padding boundary found =>
      "delimiter --" ++ boundary ++ " is followed by " ++ quotedBytes found ++ ", not a line break"
  | .noClosing boundary => "body ends without the closing delimiter --" ++ boundary ++ "--"
  | .noBlankLine part => "part has no blank line after its headers: " ++ quotedBytes part
  | .noFieldName disposition =>
      "part has no field name in its Content-Disposition: " ++ quoted disposition

/-! ## The extended value of a filename -/

def isHexDigit (byte : UInt8) : Bool :=
  (48 ≤ byte && byte ≤ 57) || (65 ≤ byte && byte ≤ 70) || (97 ≤ byte && byte ≤ 102)

def hexDigit (byte : UInt8) : UInt8 :=
  if byte ≤ 57 then byte - 48 else if byte ≤ 70 then byte - 55 else byte - 87

/-- `unquote_to_bytes`; a percent sign without two hexadecimal digits stays. -/
def unquoteBytes : Bytes → Bytes
  | [] => []
  | 37 :: high :: low :: rest =>
      if isHexDigit high && isHexDigit low then
        (hexDigit high * 16 + hexDigit low) :: unquoteBytes rest
      else 37 :: unquoteBytes (high :: low :: rest)
  | byte :: rest => byte :: unquoteBytes rest

def latin1 (bytes : Bytes) : Option String :=
  some (String.ofList (bytes.map fun byte => Char.ofNat byte.toNat))

/-- `_EXT_VALUE_CHARSETS`, each with its decoder. -/
def extValueCharsets : List (List Char × (Bytes → Option String)) :=
  [("utf-8".toList, utf8Decode), ("iso-8859-1".toList, latin1)]

/-- `_ext_value`. -/
def extValue (value : List Char) : Except MultipartError String :=
  match List.cut ['\x27'] value with
  | none => .error (.extValueForm value)
  | some (charset, rest) =>
      match List.cut ['\x27'] rest, extValueCharsets.lookup (lower (strip charset)) with
      | some (_, encoded), some decode =>
          match decode (unquoteBytes (utf8Encode (String.ofList encoded))) with
          | some text => .ok text
          | none => .error (.extValueDecode value charset)
      | _, _ => .error (.extValueForm value)

/-! ## The boundary and the line break -/

/-- `_boundary`. -/
def boundaryOf (contentType : String) : Except MultipartError String :=
  let params := splitHeaderParams contentType.toList
  if lower (strip (params.headD [])) ≠ "multipart/form-data".toList then
    .error (.notFormData contentType)
  else
    match (lastValue (headerParams params.tail) "boundary").getD [] with
    | [] => .error (.missingBoundary contentType)
    | boundary => .ok (String.ofList boundary)

def CR : UInt8 := 13

def LF : UInt8 := 10

def crlf : Bytes := [CR, LF]

def lf : Bytes := [LF]

/-- `b"--"`. -/
def dashes : Bytes := [45, 45]

/-- `--boundary`. -/
def dashBoundary (boundary : String) : Bytes := dashes ++ utf8Encode boundary

/-- A space or a tab. -/
def isPadding (byte : UInt8) : Bool := byte == 32 || byte == 9

/-- `_MAX_PADDING`. -/
def MAX_PADDING : Nat := 64

/-- `_line_break`. -/
def lineBreak (body : Bytes) (boundary : String) : Except MultipartError Bytes :=
  match List.cut (dashBoundary boundary) body with
  | none => .error (.noDelimiter boundary)
  | some (_, after) =>
      if crlf.isPrefixOf ((after.take MAX_PADDING).dropWhile isPadding) then .ok crlf else .ok lf

/-! ## Parts -/

/-- The contents of the segments up to the one that closes the body. -/
def takeParts (boundary : String) (nl : Bytes) :
    List Bytes → Except MultipartError (List Bytes)
  | [] => .error (.noClosing boundary)
  | segment :: segments =>
      if dashes.isPrefixOf segment then .ok []
      else
        match List.cut nl segment with
        | none => .error (.padding boundary (segment.take 40))
        | some (padding, part) =>
            if padding.all isPadding then
              (takeParts boundary nl segments).map fun parts => part :: parts
            else .error (.padding boundary (padding.take 40))

/-- `_split_parts`. -/
def splitParts (body : Bytes) (boundary : String) (nl : Bytes) :
    Except MultipartError (List Bytes) :=
  match List.split (nl ++ dashBoundary boundary) (nl ++ body) with
  | _ :: segment :: segments => takeParts boundary nl (segment :: segments)
  | _ => .error (.noDelimiter boundary)

/-- The ranges that the bytes after a first byte are in, for a sequence of UTF-8. -/
def continuations (first : UInt8) : Option (List (UInt8 × UInt8)) :=
  if first < 0x80 then some []
  else if 0xc2 ≤ first ∧ first ≤ 0xdf then some [(0x80, 0xbf)]
  else if first = 0xe0 then some [(0xa0, 0xbf), (0x80, 0xbf)]
  else if first = 0xed then some [(0x80, 0x9f), (0x80, 0xbf)]
  else if 0xe1 ≤ first ∧ first ≤ 0xef then some [(0x80, 0xbf), (0x80, 0xbf)]
  else if first = 0xf0 then some [(0x90, 0xbf), (0x80, 0xbf), (0x80, 0xbf)]
  else if 0xf1 ≤ first ∧ first ≤ 0xf3 then some [(0x80, 0xbf), (0x80, 0xbf), (0x80, 0xbf)]
  else if first = 0xf4 then some [(0x80, 0x8f), (0x80, 0xbf), (0x80, 0xbf)]
  else none

/-- How many of the bytes are in their ranges, from the first on. -/
def continued : List (UInt8 × UInt8) → Bytes → Nat
  | (low, high) :: ranges, byte :: bytes =>
      if low ≤ byte ∧ byte ≤ high then continued ranges bytes + 1 else 0
  | _, _ => 0

/-- The text of bytes, U+FFFD for each longest start of a sequence that is not completed. -/
def replaceWithin : Nat → Bytes → String
  | _, [] => ""
  | 0, _ => ""
  | fuel + 1, first :: bytes =>
      match continuations first with
      | none => "\ufffd" ++ replaceWithin fuel bytes
      | some ranges =>
          let length := continued ranges bytes
          (utf8Decode (first :: bytes.take length)).getD "\ufffd" ++
            replaceWithin fuel (bytes.drop length)

/-- `bytes.decode("utf-8", errors="replace")`. -/
def decodeReplace (bytes : Bytes) : String :=
  match utf8Decode bytes with
  | some text => text
  | none => replaceWithin bytes.length bytes

/-- `UploadFile`. -/
structure UploadFile where
  name : String
  filename : Option String
  contentType : String
  data : Bytes
  deriving DecidableEq, Repr

/-- The header section of a part and its data. -/
def headerAndData (part nl : Bytes) : Option (Bytes × Bytes) :=
  if nl.isPrefixOf part then some ([], part.drop nl.length) else List.cut (nl ++ nl) part

/-- The header lines of a part; a line without a colon is none. -/
def partHeaders (section_ : Bytes) : Entries :=
  ((decodeReplace section_).toList.splitOn '\n').filterMap fun line =>
    (List.cut [':'] (strip line)).map fun found => (lower (strip found.1), strip found.2)

/-- The filename that the parameters give: `filename*` wins. -/
def filenameOf (params : Entries) : Except MultipartError (Option String) :=
  match lastValue params "filename*" with
  | some value => (extValue value).map some
  | none => .ok ((lastValue params "filename").map String.ofList)

/-- The content type of a part that has none. -/
def defaultType (filename : Option String) : String :=
  if filename.getD "" ≠ "" then "application/octet-stream" else "text/plain"

/-- `_parse_part`. -/
def parsePart (part nl : Bytes) : Except MultipartError UploadFile :=
  match headerAndData part nl with
  | none => .error (.noBlankLine (part.take 80))
  | some (section_, data) =>
      let headers := partHeaders section_
      let disposition := (lastValue headers "content-disposition").getD []
      let params := headerParams (splitHeaderParams disposition).tail
      match filenameOf params with
      | .error error => .error error
      | .ok filename =>
          match (lastValue params "name").getD [] with
          | [] => .error (.noFieldName disposition)
          | name =>
              .ok { name := String.ofList name, filename
                    contentType := ((lastValue headers "content-type").map String.ofList).getD
                      (defaultType filename)
                    data }

/-! ## The form -/

/-- One upload under a name, or all of them in a list. -/
inductive FormEntry
  | one (upload : UploadFile)
  | many (uploads : List UploadFile)
  deriving DecidableEq, Repr

/-- The result as a `dict`, in insertion order. -/
abbrev Form := List (String × FormEntry)

def FormEntry.add (upload : UploadFile) : FormEntry → FormEntry
  | .one existing => .many [existing, upload]
  | .many existing => .many (existing ++ [upload])

def Form.add : Form → UploadFile → Form
  | [], upload => [(upload.name, .one upload)]
  | (name, entry) :: rest, upload =>
      if name = upload.name then (name, entry.add upload) :: rest
      else (name, entry) :: Form.add rest upload

/-- The parts in their order, up to the first that is none. -/
def addParts (nl : Bytes) : List Bytes → Form → Except MultipartError Form
  | [], form => .ok form
  | part :: parts, form =>
      match parsePart part nl with
      | .error error => .error error
      | .ok upload => addParts nl parts (form.add upload)

/-- A body as the request gives it. -/
inductive RawBody
  | bytes (bytes : Bytes)
  | text (text : String)
  deriving DecidableEq, Repr

def RawBody.encoded : RawBody → Bytes
  | .bytes raw => raw
  | .text string => utf8Encode string

structure Request where
  headers : RequestHeaders
  body : Option RawBody
  deriving DecidableEq, Repr

/-- The parts of a body of a known boundary, as a form. -/
def parseBody (boundary : String) (body : Bytes) : Except MultipartError Form := do
  let nl ← lineBreak body boundary
  let parts ← splitParts body boundary nl
  addParts nl parts []

/-- `parse_multipart`. -/
def parseMultipart (req : Request) : Except MultipartError Form := do
  let boundary ← boundaryOf ((joinedValue req.headers "content-type").getD "")
  match req.body with
  | none => .error .emptyBody
  | some raw => parseBody boundary raw.encoded

end Uploads

end Pyronova
