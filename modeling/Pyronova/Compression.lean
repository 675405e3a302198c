import Mathlib.Tactic
import Mathlib.Order.WithBot
import Pyronova.ElementList
import Pyronova.Headers

/-!
# Compressing a response

An app's settings and the client's `Accept-Encoding` decide whether a response is compressed, and
with which codec.  The codecs, and the reading of a weight, are not the server's own and enter as
functions.  A body that does not shrink, and one whose compression failed, goes out as it is.
-/

namespace Pyronova

/-! ## Text -/

/-- `char::is_whitespace`. -/
def isWhitespace (c : Char) : Bool :=
  (9 ≤ c.toNat && c.toNat ≤ 13) || c.toNat == 32 || c.toNat == 0x85 || c.toNat == 0xA0 ||
    c.toNat == 0x1680 || (0x2000 ≤ c.toNat && c.toNat ≤ 0x200A) || c.toNat == 0x2028 ||
    c.toNat == 0x2029 || c.toNat == 0x202F || c.toNat == 0x205F || c.toNat == 0x3000

/-- `str::trim`. -/
def trim (text : List Char) : List Char := text.trimBlanks isWhitespace

/-- `str::trim_end`. -/
def trimEnd (text : List Char) : List Char := text.rdropWhile isWhitespace

/-- `str::eq_ignore_ascii_case`. -/
def eqIgnoreAsciiCase (left right : List Char) : Bool :=
  left.map Char.toLower == right.map Char.toLower

/-- `text` without `front`, matched without regard to ASCII case. -/
def stripPrefixIgnoreAsciiCase (text front : List Char) : Option (List Char) :=
  if eqIgnoreAsciiCase (text.take front.length) front then some (text.drop front.length) else none

/-- `str::split_once`. -/
def splitOnce (separator : Char) (text : List Char) : Option (List Char × List Char) :=
  match text.span (· != separator) with
  | (_, []) => none
  | (front, _ :: back) => some (front, back)

/-! ## Settings -/

/-- The algorithms the server may use; never none. -/
inductive Algos
  | gzip
  | brotli
  | both
  deriving DecidableEq, Repr

inductive SettingsError
  | minSize (given : Int)
  | gzipLevel (given : Int)
  | brotliQuality (given : Int)
  | noAlgorithm
  deriving DecidableEq, Repr

def SettingsError.message : SettingsError → String
  | minSize given => "min_size must be 0..=4294967295 bytes, got " ++ toString given
  | gzipLevel given => "gzip_level must be 1..=9, got " ++ toString given
  | brotliQuality given => "brotli_quality must be 0..=11, got " ++ toString given
  | noAlgorithm =>
      "gzip=False and brotli=False enables no algorithm; use disable_compression() to turn " ++
      "compression off"

namespace Algos

def of (gzip brotli : Bool) : Except SettingsError Algos :=
  match gzip, brotli with
  | true, true => .ok both
  | true, false => .ok .gzip
  | false, true => .ok .brotli
  | false, false => .error .noAlgorithm

def hasGzip : Algos → Bool
  | gzip | both => true
  | brotli => false

def hasBrotli : Algos → Bool
  | brotli | both => true
  | gzip => false

end Algos

/-- A gzip compression level. -/
def GzipLevel := { level : Nat // 1 ≤ level ∧ level ≤ 9 }

/-- A brotli quality. -/
def BrotliQuality := { quality : Nat // quality ≤ 11 }

def GzipLevel.new (level : Int) : Except SettingsError GzipLevel :=
  if valid : 1 ≤ level ∧ level ≤ 9 then .ok ⟨level.toNat, by omega⟩ else .error (.gzipLevel level)

def BrotliQuality.new (quality : Int) : Except SettingsError BrotliQuality :=
  if valid : 0 ≤ quality ∧ quality ≤ 11 then .ok ⟨quality.toNat, by omega⟩
  else .error (.brotliQuality quality)

/-- At or above this quality even a small body is compressed off the worker. -/
def BrotliQuality.SLOW : Nat := 10

/-- An app's compression settings. -/
structure Settings where
  minSize : UInt32
  algos : Algos
  gzipLevel : GzipLevel
  brotliQuality : BrotliQuality

def Settings.parse (minSize : Int) (gzip brotli : Bool) (gzipLevel brotliQuality : Int) :
    Except SettingsError Settings := do
  let minSize ← if 0 ≤ minSize ∧ minSize < 2 ^ 32 then .ok (UInt32.ofNat minSize.toNat)
    else .error (.minSize minSize)
  let algos ← Algos.of gzip brotli
  let gzipLevel ← GzipLevel.new gzipLevel
  let brotliQuality ← BrotliQuality.new brotliQuality
  return { minSize, algos, gzipLevel, brotliQuality }

/-- A codec with the level it runs at. -/
inductive Algo
  | gzip (level : GzipLevel)
  | brotli (quality : BrotliQuality)

def Algo.headerValue : Algo → HeaderValue
  | gzip _ => "gzip"
  | brotli _ => "br"

/-- The codec that was negotiated. -/
inductive Coding
  | gzip
  | brotli
  deriving DecidableEq, Repr

/-- The coding at the app's level for it. -/
def Coding.at (coding : Coding) (settings : Settings) : Algo :=
  match coding with
  | gzip => .gzip settings.gzipLevel
  | brotli => .brotli settings.brotliQuality

def Algo.coding : Algo → Coding
  | gzip _ => .gzip
  | brotli _ => .brotli

@[simp] theorem Coding.coding_at (coding : Coding) (settings : Settings) :
    (coding.at settings).coding = coding := by
  cases coding <;> rfl

/-! ## Negotiation -/

/-- An `f32` as far as it is compared: a number, an infinity, or `none` for a NaN. -/
abbrev F32 := Option (WithBot (WithTop ℚ))

namespace F32

def ofRat (value : ℚ) : F32 := some ((value : WithTop ℚ) : WithBot (WithTop ℚ))

/-- `f32::max`, which leaves a NaN out. -/
def max : F32 → F32 → F32
  | none, right => right
  | left, none => left
  | some left, some right => some (Max.max left right)

/-- `<`, which a NaN has with nothing. -/
def lt : F32 → F32 → Bool
  | some left, some right => decide (left < right)
  | _, _ => false

@[simp] theorem none_max (right : F32) : max none right = right := rfl

@[simp] theorem some_max_none (left : WithBot (WithTop ℚ)) :
    max (some left) none = some left := rfl

@[simp] theorem some_max_some (left right : WithBot (WithTop ℚ)) :
    max (some left) (some right) = some (Max.max left right) := rfl

@[simp] theorem none_lt (right : F32) : lt none right = false := rfl

@[simp] theorem some_lt_none (left : WithBot (WithTop ℚ)) : lt (some left) none = false := rfl

@[simp] theorem some_lt_some (left right : WithBot (WithTop ℚ)) :
    lt (some left) (some right) = decide (left < right) := rfl

end F32

/-- The greatest weight seen for each coding and for `*`; -1 for one not listed. -/
structure Weights where
  br : F32
  gz : F32
  star : F32

section Negotiation

variable (parseF32 : List Char → Option F32)

/-- The first `q=` among the parameters; a malformed one is 0. -/
def weightOf (params : List (List Char)) : F32 :=
  match params.findSome? fun param => stripPrefixIgnoreAsciiCase (trim param) "q=".toList with
  | some value => (parseF32 (trim value)).getD (F32.ofRat 0)
  | none => F32.ofRat 1

/-- An element's name and weight. -/
def nameAndWeight (part : List Char) : List Char × F32 :=
  match splitOnce ';' part with
  | some (name, rest) => (trim name, weightOf parseF32 (rest.splitOn ';'))
  | none => (part, F32.ofRat 1)

/-- One element of `Accept-Encoding`. -/
def Weights.read (weights : Weights) (raw : List Char) : Weights :=
  let part := trim raw
  if part = [] then weights
  else
    let (name, q) := nameAndWeight parseF32 part
    if eqIgnoreAsciiCase name "br".toList then { weights with br := weights.br.max q }
    else if eqIgnoreAsciiCase name "gzip".toList || eqIgnoreAsciiCase name "x-gzip".toList then
      { weights with gz := weights.gz.max q }
    else if name = "*".toList then { weights with star := weights.star.max q }
    else weights

/-- The algorithm the server prefers of those the client accepts. -/
def negotiate (acceptEncoding : List Char) (allowed : Algos) : Option Coding :=
  let unlisted := F32.ofRat (-1)
  let zero := F32.ofRat 0
  let weights := (acceptEncoding.splitOn ',').foldl (Weights.read parseF32)
    { br := unlisted, gz := unlisted, star := unlisted }
  let br := if weights.br.lt zero then weights.star else weights.br
  let gz := if weights.gz.lt zero then weights.star else weights.gz
  if allowed.hasBrotli && zero.lt br then some .brotli
  else if allowed.hasGzip && zero.lt gz then some .gzip
  else none

end Negotiation

/-- The content types that are worth compressing. -/
def isCompressible (contentType : List Char) : Bool :=
  let ct := trim ((contentType.splitOn ';').headD contentType)
  match stripPrefixIgnoreAsciiCase ct "text/".toList with
  | some (_ :: _) => true
  | _ =>
      ["application/json", "application/javascript", "application/xml", "application/xhtml+xml",
        "application/rss+xml", "application/atom+xml", "application/x-javascript",
        "application/ld+json", "application/manifest+json", "image/svg+xml"].contains
          (String.ofList ct)

/-! ## Headers -/

def CONTENT_ENCODING : String := "content-encoding"
def CONTENT_LENGTH : String := "content-length"
def VARY : String := "vary"

def namesAcceptEncoding (vary : HeaderValue) : Bool :=
  match toStr vary with
  | none => false
  | some text =>
      (text.splitOn ',').any fun token => eqIgnoreAsciiCase (trim token) "accept-encoding".toList

/-- A lone `Vary` line, with `Accept-Encoding` merged into it. -/
def mergedVary : List HeaderValue → Option HeaderValue
  | [only] =>
      (toStr only).bind fun text =>
        fromStr (trimEnd ((trimEnd text).rdropWhile (· == ',')) ++ ", Accept-Encoding".toList)
  | _ => none

/-- Mark `headers` as carrying a body compressed with `encoding`. -/
def setCompressionHeaders (headers : ResponseHeaders) (encoding : HeaderValue) : ResponseHeaders :=
  let headers := (headers.insert CONTENT_ENCODING encoding).remove CONTENT_LENGTH
  let lines := headers.getAll VARY
  if lines.any namesAcceptEncoding then headers
  else
    match mergedVary lines with
    | some vary => headers.insert VARY vary
    | none => headers.append VARY "Accept-Encoding"

/-! ## Jobs -/

/-- A recycled buffer larger than this is dropped. -/
def POOL_MAX_BUF_BYTES : Nat := 4 * 2 ^ 20

/-- Buffers kept for reuse. -/
def POOL_SLOTS : Nat := 32

/-- A body at or above this size is compressed on the blocking pool. -/
def INLINE_MAX_BYTES : Nat := 16 * 1024

structure CompressBuf where
  bytes : Bytes
  capacity : Nat

/-- `COMPRESS_POOL`, last pushed first. -/
abbrev CompressPool := List CompressBuf

/-- What the server takes from the codecs and from `Vec`. -/
structure Codecs where
  /-- What the encoder writes, and whether it failed. -/
  encode : Algo → Bytes → Bytes × Except String Unit
  decode : Coding → Bytes → Option Bytes
  /-- The capacity of a buffer of some capacity after some length is written. -/
  grown : Nat → Nat → Nat

/-- Drop of a `PooledCompressBuf`. -/
def CompressPool.recycle (pool : CompressPool) (buf : CompressBuf) : CompressPool :=
  if buf.capacity ≤ POOL_MAX_BUF_BYTES ∧ pool.length < POOL_SLOTS then
    { buf with bytes := [] } :: pool
  else pool

/-- A recycled buffer, or a new one. -/
def CompressPool.pop (pool : CompressPool) (capacity : Nat) : CompressBuf × CompressPool :=
  match pool with
  | [] => ({ bytes := [], capacity }, [])
  | buf :: rest => (buf, rest)

/-- One body to compress with one codec. -/
structure Job where
  body : Bytes
  algo : Algo

namespace Job

def runsInline (job : Job) : Bool :=
  let slow :=
    match job.algo with
    | .brotli quality => decide (BrotliQuality.SLOW ≤ quality.val)
    | .gzip _ => false
  decide (job.body.length < INLINE_MAX_BYTES) && !slow

/-- `gzip_compress` or `brotli_compress`, which write to the end of `out`. -/
def compressInto (codecs : Codecs) (job : Job) (out : CompressBuf) :
    CompressBuf × Except String Unit :=
  let (written, outcome) := codecs.encode job.algo job.body
  ({ bytes := out.bytes ++ written
     capacity := codecs.grown out.capacity (out.bytes.length + written.length) }, outcome)

/-- The compressed body, or `none` when compression failed or did not shrink the body.  The buffer
of a compressed body is recycled once the body has gone out. -/
def run (codecs : Codecs) (job : Job) (pool : CompressPool) : Option Bytes × CompressPool :=
  let (buf, rest) := pool.pop (job.body.length / 2 + 64)
  match job.compressInto codecs { buf with bytes := [] } with
  | (buf, .ok ()) =>
      if buf.bytes.length < job.body.length then (some buf.bytes, rest)
      else (none, rest.recycle buf)
  | (buf, .error _) => (none, rest.recycle buf)

end Job

/-- How a task on the blocking pool ended: it returned, or it panicked or was cancelled. -/
inductive TaskEnd
  | returned
  | lost
  deriving DecidableEq, Repr

def offTheWorker (codecs : Codecs) (task : TaskEnd) (job : Job) (pool : CompressPool) :
    Option Bytes × CompressPool :=
  match task with
  | .returned => job.run codecs pool
  | .lost => (none, pool)

/-! ## Compressing -/

/-- What compressing `data` takes, or `none` when it goes out as it is. -/
def plan (parseF32 : List Char → Option F32) (data : ResponseData) (acceptEncoding : List Char)
    (settings : Settings) : Option Job :=
  if acceptEncoding = [] ∨ data.headers.containsKey "content-encoding" then none
  else if data.body.length < settings.minSize.toNat then none
  else
    match (data.headers.get "content-type").or (toStr data.contentType) with
    | none => none
    | some contentType =>
        if isCompressible contentType then
          (negotiate parseF32 acceptEncoding settings.algos).map fun coding =>
            { body := data.body, algo := coding.at settings }
        else none

/-- `apply`. -/
def applyCompressed (data : ResponseData) (compressed : Bytes) (algo : Algo) : ResponseData :=
  { data with
    body := compressed
    headers := setCompressionHeaders data.headers algo.headerValue }

/-- `compress`, with the choice of where a job runs left open. -/
def compressWhere (parseF32 : List Char → Option F32) (codecs : Codecs) (inline : Job → Bool)
    (data : ResponseData) (acceptEncoding : List Char) (settings : Option Settings)
    (task : TaskEnd) (pool : CompressPool) : ResponseData × CompressPool :=
  match settings.bind (plan parseF32 data acceptEncoding) with
  | none => (data, pool)
  | some job =>
      match if inline job then job.run codecs pool else offTheWorker codecs task job pool with
      | (some compressed, pool) => (applyCompressed data compressed job.algo, pool)
      | (none, pool) => (data, pool)

/-- `data` compressed for a client that sent `acceptEncoding`, as the settings allow. -/
def compress (parseF32 : List Char → Option F32) (codecs : Codecs) (data : ResponseData)
    (acceptEncoding : List Char) (settings : Option Settings) (task : TaskEnd)
    (pool : CompressPool) : ResponseData × CompressPool :=
  compressWhere parseF32 codecs Job.runsInline data acceptEncoding settings task pool

/-! ## What the headers say -/

/-- The field names of a `Vary` line. -/
def fieldNames (vary : HeaderValue) : List (List Char) :=
  (vary.toList.elements ',' isWhitespace).map fun name => name.map Char.toLower

/-- The field names over all `Vary` lines. -/
def varyNames (headers : ResponseHeaders) : List (List Char) :=
  (headers.getAll VARY).flatMap fieldNames

/-- The header surgery of a compressed body. -/
structure Marked (before after : ResponseHeaders) (encoding : HeaderValue) : Prop where
  contentEncoding : after.getAll CONTENT_ENCODING = [encoding]
  contentLength : after.getAll CONTENT_LENGTH = []
  vary : ∀ name, name ∈ varyNames after ↔
    name ∈ varyNames before ∨ name = "accept-encoding".toList
  others : ∀ name, headerName name ∉ [CONTENT_ENCODING, CONTENT_LENGTH, VARY].map headerName →
    after.getAll name = before.getAll name

theorem mem_fieldNames_of_namesAcceptEncoding {vary : HeaderValue}
    (names : namesAcceptEncoding vary = true) : "accept-encoding".toList ∈ fieldNames vary := by
  unfold namesAcceptEncoding at names
  split at names
  · cases names
  · rename_i text read
    obtain ⟨rfl, -⟩ := toStr_eq_some.mp read
    obtain ⟨token, member, same⟩ := List.any_eq_true.mp names
    have lowered : (trim token).map Char.toLower = "accept-encoding".toList :=
      (eq_of_beq same).trans (by decide)
    refine List.mem_map.mpr ⟨trim token, ?_, lowered⟩
    refine List.mem_filter.mpr ⟨List.mem_map_of_mem member, ?_⟩
    rw [decide_eq_true_eq]
    intro empty
    rw [empty] at lowered
    exact absurd lowered (by decide)

theorem mem_of_mem_rdropWhile {dropped : Char → Bool} {text : List Char} {c : Char}
    (member : c ∈ text.rdropWhile dropped) : c ∈ text :=
  (List.rdropWhile_prefix dropped text).subset member

/-- Merging keeps the line's names and adds one, which `names_accept_encoding` then finds. -/
theorem fieldNames_of_mergedVary {lines : List HeaderValue} {vary : HeaderValue}
    (merged : mergedVary lines = some vary) :
    namesAcceptEncoding vary = true ∧ ∃ only, lines = [only] ∧
      fieldNames vary = fieldNames only ++ ["accept-encoding".toList] := by
  unfold mergedVary at merged
  split at merged
  · rename_i only
    obtain ⟨text, read, made⟩ := Option.bind_eq_some_iff.mp merged
    obtain ⟨rfl, visible⟩ := toStr_eq_some.mp read
    have kept : List.elements ',' isWhitespace
        (trimEnd ((trimEnd only.toList).rdropWhile (· == ','))) =
          only.toList.elements ',' isWhitespace := by
      rw [trimEnd, trimEnd, List.elements_rdropWhile _ fun _ blank => .inr blank,
        List.elements_rdropWhile _ fun _ comma => .inl (eq_of_beq comma),
        List.elements_rdropWhile _ fun _ blank => .inr blank]
    have added : List.elements ',' isWhitespace " Accept-Encoding".toList =
        ["Accept-Encoding".toList] := by decide
    have written := fromStr_eq_some made
    refine ⟨?_, only, rfl, ?_⟩
    · have shown : toStr vary = some vary.toList := by
        refine toStr_eq_some.mpr ⟨rfl, fun c member => ?_⟩
        rw [written, List.mem_append] at member
        rcases member with member | member
        · apply visible
          exact mem_of_mem_rdropWhile (mem_of_mem_rdropWhile (mem_of_mem_rdropWhile member))
        · have every : ", Accept-Encoding".toList.all isVisibleAscii = true := by decide
          exact List.all_eq_true.mp every c member
      rw [namesAcceptEncoding, shown]
      change List.any (List.splitOn ',' vary.toList) _ = true
      rw [written]
      change List.any (List.splitOn ',' (_ ++ ',' :: " Accept-Encoding".toList)) _ = true
      rw [List.splitOn_append_cons_self, List.any_append]
      have own : (" Accept-Encoding".toList.splitOn ',').any (fun token =>
          eqIgnoreAsciiCase (trim token) "accept-encoding".toList) = true := by decide
      rw [own, Bool.or_true]
    rw [fieldNames, written]
    change List.map _ (List.elements ',' isWhitespace (_ ++ ',' :: " Accept-Encoding".toList)) = _
    rw [List.elements_append_cons, kept, added, List.map_append]
    rfl
  · cases merged

/-- The headers before `Vary` is looked at. -/
theorem marked_of_vary {headers after : ResponseHeaders} {encoding : HeaderValue}
    (same : ∀ name, headerName name ≠ headerName VARY → after.getAll name =
      ((headers.insert CONTENT_ENCODING encoding).remove CONTENT_LENGTH).getAll name)
    (vary : ∀ name, name ∈ varyNames after ↔
      name ∈ varyNames headers ∨ name = "accept-encoding".toList) :
    Marked headers after encoding := by
  refine ⟨?_, ?_, vary, ?_⟩
  · rw [same _ (by decide), ResponseHeaders.getAll_remove_of_ne (by decide),
      ResponseHeaders.getAll_insert_self]
  · rw [same _ (by decide), ResponseHeaders.getAll_remove_self]
  · intro name other
    simp only [List.map_cons, List.map_nil, List.mem_cons, List.not_mem_nil, or_false,
      not_or] at other
    obtain ⟨notEncoding, notLength, notVary⟩ := other
    rw [same _ notVary, ResponseHeaders.getAll_remove_of_ne notLength,
      ResponseHeaders.getAll_insert_of_ne notEncoding]

theorem marked_setCompressionHeaders (headers : ResponseHeaders) (encoding : HeaderValue) :
    Marked headers (setCompressionHeaders headers encoding) encoding := by
  have lines : ((headers.insert CONTENT_ENCODING encoding).remove CONTENT_LENGTH).getAll VARY =
      headers.getAll VARY := by
    rw [ResponseHeaders.getAll_remove_of_ne (by decide),
      ResponseHeaders.getAll_insert_of_ne (by decide)]
  unfold setCompressionHeaders
  simp only
  split
  · rename_i named
    rw [lines] at named
    apply marked_of_vary fun _ _ => rfl
    intro name
    rw [varyNames, lines, ← varyNames]
    -- a line names it, so it is among the old names
    obtain ⟨vary, member, names⟩ := List.any_eq_true.mp named
    have old : "accept-encoding".toList ∈ varyNames headers :=
      List.mem_flatMap.mpr ⟨vary, member, mem_fieldNames_of_namesAcceptEncoding names⟩
    constructor
    · exact .inl
    · rintro (before | rfl)
      · exact before
      · exact old
  · split
    · rename_i vary merged
      obtain ⟨-, only, single, names⟩ := fieldNames_of_mergedVary merged
      rw [lines] at single
      apply marked_of_vary fun name other => ResponseHeaders.getAll_insert_of_ne other
      intro name
      rw [varyNames, ResponseHeaders.getAll_insert_self, varyNames, single]
      simp [names]
    · apply marked_of_vary fun name other => ResponseHeaders.getAll_append_of_ne other
      intro name
      have own : fieldNames "Accept-Encoding" = ["accept-encoding".toList] := by decide
      rw [varyNames, ResponseHeaders.getAll_append_self, lines, varyNames]
      simp [own]

/-- A line that `set_compression_headers` leaves behind names `Accept-Encoding`. -/
theorem namesAcceptEncoding_setCompressionHeaders (headers : ResponseHeaders)
    (encoding : HeaderValue) :
    ((setCompressionHeaders headers encoding).getAll VARY).any namesAcceptEncoding = true := by
  unfold setCompressionHeaders
  simp only
  split
  · assumption
  · split
    · rename_i vary merged
      rw [ResponseHeaders.getAll_insert_self]
      simp [(fieldNames_of_mergedVary merged).1]
    · rw [ResponseHeaders.getAll_append_self, List.any_append]
      have own : namesAcceptEncoding "Accept-Encoding" = true := by decide
      simp [own]

theorem setCompressionHeaders_idempotent (headers : ResponseHeaders) (encoding : HeaderValue) :
    setCompressionHeaders (setCompressionHeaders headers encoding) encoding =
      setCompressionHeaders headers encoding := by
  have marked := marked_setCompressionHeaders headers encoding
  have named := namesAcceptEncoding_setCompressionHeaders headers encoding
  generalize setCompressionHeaders headers encoding = after at marked named
  rw [setCompressionHeaders, ResponseHeaders.insert_eq_self marked.contentEncoding,
    ResponseHeaders.remove_eq_self marked.contentLength]
  exact if_pos named

/-! ## What a job returns -/

/-- The decoder of each coding undoes its encoder at every level. -/
def Codecs.Inverse (codecs : Codecs) : Prop :=
  ∀ algo body written, codecs.encode algo body = (written, .ok ()) →
    codecs.decode algo.coding written = some body

/-- What a job returns, without the pool. -/
def Job.result (codecs : Codecs) (job : Job) : Option Bytes :=
  match codecs.encode job.algo job.body with
  | (written, .ok ()) => if written.length < job.body.length then some written else none
  | (_, .error _) => none

/-- The buffer is cleared before it is written to. -/
theorem Job.run_eq_result (codecs : Codecs) (job : Job) (pool : CompressPool) :
    (job.run codecs pool).1 = job.result codecs := by
  rcases encoded : codecs.encode job.algo job.body with ⟨written, outcome⟩
  cases outcome with
  | error error => simp only [Job.run, Job.compressInto, Job.result, encoded]
  | ok done =>
      simp only [Job.run, Job.compressInto, Job.result, encoded, List.nil_append]
      split <;> rfl

theorem Job.decode_result {codecs : Codecs} (inverse : codecs.Inverse) {job : Job}
    {compressed : Bytes} (result : job.result codecs = some compressed) :
    compressed.length < job.body.length ∧
      codecs.decode job.algo.coding compressed = some job.body := by
  unfold Job.result at result
  split at result
  · rename_i written encoded
    split at result
    · rename_i shorter
      obtain rfl := Option.some.inj result
      exact ⟨shorter, inverse _ _ _ encoded⟩
    · cases result
  · cases result

section Compressing

variable {parseF32 : List Char → Option F32} {codecs : Codecs} {data : ResponseData}
  {acceptEncoding : List Char} {settings : Settings}

theorem plan_eq_some {job : Job}
    (planned : plan parseF32 data acceptEncoding settings = some job) :
    data.headers.containsKey "content-encoding" = false ∧
      settings.minSize.toNat ≤ data.body.length ∧
      ∃ coding, negotiate parseF32 acceptEncoding settings.algos = some coding ∧
        job = { body := data.body, algo := coding.at settings } := by
  unfold plan at planned
  split at planned
  · cases planned
  rename_i proceed
  split at planned
  · cases planned
  rename_i large
  split at planned
  · cases planned
  split at planned
  · obtain ⟨coding, chosen, rfl⟩ := Option.map_eq_some_iff.mp planned
    refine ⟨?_, by omega, coding, chosen, rfl⟩
    simpa using (not_or.mp proceed).2
  · cases planned

/-- What `compress` returns, wherever the job ran. -/
theorem compressWhere_cases (inline : Job → Bool) (given : Option Settings) (task : TaskEnd)
    (pool : CompressPool) :
    (compressWhere parseF32 codecs inline data acceptEncoding given task pool).1 = data ∨
      ∃ settings job compressed, given = some settings ∧
        plan parseF32 data acceptEncoding settings = some job ∧
        job.result codecs = some compressed ∧
        (compressWhere parseF32 codecs inline data acceptEncoding given task pool).1 =
          applyCompressed data compressed job.algo := by
  unfold compressWhere
  split
  · exact .inl rfl
  rename_i job planned
  obtain ⟨settings, rfl, planned⟩ := Option.bind_eq_some_iff.mp planned
  split
  · rename_i compressed rest ran
    refine .inr ⟨settings, job, compressed, rfl, planned, ?_, rfl⟩
    rw [← Job.run_eq_result codecs job pool]
    by_cases here : inline job = true
    · rw [if_pos here] at ran
      rw [ran]
    · rw [if_neg here] at ran
      cases task with
      | returned =>
          rw [show job.run codecs pool = _ from ran]
      | lost => cases ran
  · exact .inl rfl

/-- The pool does not show in the result, and neither does where a job ran to its end. -/
theorem compressWhere_eq (inline other : Job → Bool) (given : Option Settings)
    (task : TaskEnd) (pool spare : CompressPool) (sameEnd : task = .returned ∨ inline = other) :
    (compressWhere parseF32 codecs inline data acceptEncoding given task pool).1 =
      (compressWhere parseF32 codecs other data acceptEncoding given task spare).1 := by
  unfold compressWhere
  split
  · rfl
  rename_i job planned
  have ran (here : Bool) (pool : CompressPool) :
      (if here then job.run codecs pool else offTheWorker codecs task job pool).1 =
        if here || task = .returned then job.result codecs else none := by
    cases here <;> cases task <;> simp [offTheWorker, Job.run_eq_result]
  have same : (if inline job then job.run codecs pool else offTheWorker codecs task job pool).1 =
      (if other job then job.run codecs spare else offTheWorker codecs task job spare).1 := by
    rw [ran, ran]
    rcases sameEnd with returned | rfl
    · simp [returned]
    · rfl
  revert same
  generalize (if inline job then job.run codecs pool else offTheWorker codecs task job pool) = left
  generalize (if other job then job.run codecs spare else offTheWorker codecs task job spare) =
    right
  rcases left with ⟨left, _⟩
  rcases right with ⟨right, _⟩
  rintro (rfl : left = right)
  cases left <;> rfl

end Compressing

/-- `after` is `before` compressed with `coding`. -/
structure CompressedWith (codecs : Codecs) (settings : Settings) (coding : Coding)
    (before after : ResponseData) : Prop where
  shorter : after.body.length < before.body.length
  decodes : codecs.decode coding after.body = some before.body
  headers : Marked before.headers after.headers (coding.at settings).headerValue
  status : after.status = before.status
  contentType : after.contentType = before.contentType

/-- A response goes out as it is, or compressed as the client and the app agreed. -/
theorem compress_correct (parseF32 : List Char → Option F32) (codecs : Codecs)
    (inverse : codecs.Inverse) (data : ResponseData) (acceptEncoding : List Char)
    (given : Option Settings) :
    (∀ task pool, (compress parseF32 codecs data acceptEncoding given task pool).1 = data ∨
      ∃ settings coding, given = some settings ∧
        negotiate parseF32 acceptEncoding settings.algos = some coding ∧
        CompressedWith codecs settings coding data
          (compress parseF32 codecs data acceptEncoding given task pool).1) ∧
      (data.headers.containsKey CONTENT_ENCODING = true ∨ given = none ∨
          (∃ settings, given = some settings ∧ data.body.length < settings.minSize.toNat) →
        ∀ task pool, (compress parseF32 codecs data acceptEncoding given task pool).1 = data) ∧
      (∀ inline pool spare,
        (compressWhere parseF32 codecs inline data acceptEncoding given .returned spare).1 =
          (compress parseF32 codecs data acceptEncoding given .returned pool).1) ∧
      (∀ task pool spare, (compress parseF32 codecs data acceptEncoding given task spare).1 =
        (compress parseF32 codecs data acceptEncoding given task pool).1) ∧
      ∀ headers encoding, setCompressionHeaders (setCompressionHeaders headers encoding) encoding =
        setCompressionHeaders headers encoding := by
  refine ⟨?_, ?_, ?_, ?_, setCompressionHeaders_idempotent⟩
  · intro task pool
    rcases @compressWhere_cases parseF32 codecs data acceptEncoding Job.runsInline given task pool
      with same | ⟨settings, job, compressed, rfl, planned, result, applied⟩
    · exact .inl same
    · obtain ⟨-, -, coding, chosen, rfl⟩ := plan_eq_some planned
      obtain ⟨shorter, decodes⟩ := Job.decode_result inverse result
      rw [Coding.coding_at] at decodes
      refine .inr ⟨settings, coding, rfl, chosen, ?_⟩
      rw [compress, applied]
      exact ⟨shorter, decodes, marked_setCompressionHeaders _ _, rfl, rfl⟩
  · intro refused task pool
    rcases @compressWhere_cases parseF32 codecs data acceptEncoding Job.runsInline given task pool
      with same | ⟨settings, job, compressed, rfl, planned, -, -⟩
    · exact same
    · obtain ⟨plain, large, -⟩ := plan_eq_some planned
      rcases refused with encoded | off | ⟨other, same, small⟩
      · rw [CONTENT_ENCODING, plain] at encoded
        cases encoded
      · cases off
      · obtain rfl := Option.some.inj same
        omega
  · intro inline pool spare
    exact compressWhere_eq inline Job.runsInline given .returned spare pool (.inl rfl)
  · intro task pool spare
    exact compressWhere_eq Job.runsInline Job.runsInline given task spare pool (.inr rfl)

/-- 64 times the letter `a`. -/
def sampleBody : Bytes := List.replicate 64 97

/-- Codecs that know the sample only: `gzip` writes 23 bytes for it. -/
def sampleCodecs : Codecs where
  encode algo body :=
    match algo with
    | .gzip _ =>
        if body = sampleBody then
          ([31, 139, 8, 0, 0, 0, 0, 0, 0, 255, 75, 164, 16, 0, 0, 85, 101, 180, 137, 64, 0, 0, 0],
            .ok ())
        else ([], .error "unknown body")
    | .brotli _ => ([], .error "unknown body")
  decode coding written :=
    match coding with
    | .gzip =>
        if written =
            [31, 139, 8, 0, 0, 0, 0, 0, 0, 255, 75, 164, 16, 0, 0, 85, 101, 180, 137, 64, 0, 0, 0]
        then some sampleBody
        else none
    | .brotli => none
  grown := max

theorem sampleCodecs_inverse : sampleCodecs.Inverse := by
  intro algo body written encoded
  cases algo with
  | brotli quality => simp [sampleCodecs] at encoded
  | gzip level =>
      simp only [sampleCodecs] at encoded
      split at encoded
      · rename_i known
        obtain ⟨rfl, -⟩ := Prod.mk.inj encoded
        rw [known]
        rfl
      · simp at encoded

/-- A response with a length, and a `Vary` line that ends in a comma. -/
def sampleResponse : ResponseData where
  body := sampleBody
  contentType := "text/plain"
  status := .OK
  headers := [("Content-Length", "64"), ("vary", "Origin,"), ("x-id", "7")]

def sampleSettings : Settings where
  minSize := 64
  algos := .both
  gzipLevel := ⟨6, by decide⟩
  brotliQuality := ⟨4, by decide⟩

theorem compress_correct_gzip :
    ∃ result, (compress (fun _ => none) sampleCodecs sampleResponse "gzip, br;q=none".toList
        (some sampleSettings) .returned []).1 = result ∧ result ≠ sampleResponse ∧
      result.headers.getAll VARY = ["Origin, Accept-Encoding"] ∧
      CompressedWith sampleCodecs sampleSettings .gzip sampleResponse result := by
  refine ⟨_, rfl, by decide, by decide, ?_⟩
  have correct := compress_correct (fun _ => none) sampleCodecs sampleCodecs_inverse sampleResponse
    "gzip, br;q=none".toList (some sampleSettings)
  rcases correct.1 .returned [] with same | ⟨settings, coding, given, chosen, compressed⟩
  · exact absurd same (by decide)
  · obtain rfl := Option.some.inj given
    have gzip : coding = .gzip := Option.some.inj (chosen.symm.trans (by decide))
    rw [gzip] at compressed
    exact compressed

end Pyronova
