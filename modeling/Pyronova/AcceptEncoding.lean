import Mathlib.Tactic
import Pyronova.Negotiation
import Pyronova.RequestHeaders

/-!
# The `Accept-Encoding` of a request

A request's list of codings may come on several lines, which mean the list joined by commas.  The
server keeps the first line for the response and reads no other.
-/

namespace Pyronova

/-! ## What the server keeps of a request -/

def ACCEPT_ENCODING : String := "accept-encoding"

/-- `HeaderValue::to_str` of a line as it came: visible ASCII, spaces and tabs. -/
def lineText (value : Bytes) : Option (List Char) :=
  let text := value.map fun byte => Char.ofNat byte.toNat
  if text.all isVisibleAscii then some text else none

/-- The request's `Accept-Encoding`, kept for the response. -/
structure AcceptEncoding where
  value : Option Bytes
  deriving DecidableEq, Repr

def AcceptEncoding.of (headers : RequestHeaders) : AcceptEncoding :=
  { value := (headers.getAll ACCEPT_ENCODING).head? }

/-- The codings the client accepts, or `none` when nothing is known to be accepted. -/
def AcceptEncoding.asStr (acceptEncoding : AcceptEncoding) : Option (List Char) :=
  acceptEncoding.value.bind lineText

/-- A handler's result, or a logged failure's own response, as it goes out. -/
def httpResponse (parseF32 : List Char → Option F32) (codecs : Codecs)
    (result : Except ResponseData ResponseData) (acceptEncoding : AcceptEncoding)
    (compression : Option Settings) (task : TaskEnd) (pool : CompressPool) :
    ResponseData × CompressPool :=
  match result with
  | .ok data =>
      match acceptEncoding.asStr with
      | some accepted => compress parseF32 codecs data accepted compression task pool
      | none => (data, pool)
  | .error logged => (logged, pool)

/-! ## The coding of a response -/

/-- The algorithms a result may be compressed with: none for a failure, for a body with a coding of
its own, for a small one, and for a type not worth it. -/
def compressible (result : Except ResponseData ResponseData) (compression : Option Settings) :
    Option Algos :=
  match result, compression with
  | .ok data, some settings =>
      if data.headers.containsKey "content-encoding" ||
          data.body.length < settings.minSize.toNat then
        none
      else
        match (data.headers.get "content-type").or (toStr data.contentType) with
        | some contentType =>
            if isCompressible contentType then some settings.algos else none
        | none => none
  | _, _ => none

/-- The coding that a response to a request is compressed with. -/
def responseCoding (parseF32 : List Char → Option F32)
    (result : Except ResponseData ResponseData) (compression : Option Settings)
    (headers : RequestHeaders) : Option Coding :=
  match result with
  | .error _ => none
  | .ok data =>
      (AcceptEncoding.of headers).asStr.bind fun accepted =>
        (compression.bind (plan parseF32 data accepted)).map fun job => job.algo.coding

/-- A line with no text lists nothing. -/
def lineListing (parseF32 : List Char → Option F32) (line : Bytes) : List (List Char × F32) :=
  match lineText line with
  | some text => listing parseF32 text
  | none => []

/-- The header lines with those of a name on one. -/
def RequestHeaders.oneLine (headers : RequestHeaders) (name : String) : RequestHeaders :=
  match headers.getAll name with
  | [] => headers
  | lines =>
      (headers.filter fun line => headerName line.1 ≠ headerName name) ++
        [(name, (utf8Encode ", ").intercalate lines)]

/-- Every line is visible ASCII. -/
def readable (lines : List Bytes) : Bool := lines.all fun line => (lineText line).isSome

section Lines

variable {parseF32 : List Char → Option F32} {lines : List Bytes} {headers : RequestHeaders}

theorem lineText_eq_some {line : Bytes} {text : List Char} :
    lineText line = some text ↔ (line.map fun byte => Char.ofNat byte.toNat) = text ∧
      text.all isVisibleAscii = true := by
  rw [lineText]
  simp only [Option.ite_none_right_eq_some, Option.some.injEq]
  constructor
  · rintro ⟨visible, rfl⟩
    exact ⟨rfl, visible⟩
  · rintro ⟨rfl, visible⟩
    exact ⟨visible, rfl⟩

theorem getAll_oneLine {name : String} (sent : headers.getAll name ≠ []) :
    (headers.oneLine name).getAll name = [(utf8Encode ", ").intercalate (headers.getAll name)] := by
  have others : (headers.filter fun line => headerName line.1 ≠ headerName name).filter
      (fun line => headerName line.1 = headerName name) = [] := by
    simp [List.filter_filter]
  rw [RequestHeaders.oneLine]
  split
  · contradiction
  · rw [RequestHeaders.getAll, List.filter_append, others]
    simp

/-- Bytes joined by a comma and a blank, as characters. -/
theorem map_intercalate_comma (lines : List Bytes) :
    (((utf8Encode ", ").intercalate lines).map fun byte => Char.ofNat byte.toNat) =
      [',', ' '].intercalate
        (lines.map fun line => line.map fun byte => Char.ofNat byte.toNat) := by
  have comma : (utf8Encode ", ").map (fun byte => Char.ofNat byte.toNat) = [',', ' '] := by decide
  induction lines with
  | nil => rfl
  | cons first lines induction =>
      cases lines with
      | nil => simp
      | cons second lines =>
          rw [List.map_cons, List.map_cons, List.intercalate_cons_cons, List.map_append,
            List.map_append, comma, induction, List.map_cons, List.intercalate_cons_cons]

theorem all_intercalate {α : Type*} {test : α → Bool} {separator : List α}
    (own : separator.all test = true) (texts : List (List α)) :
    (separator.intercalate texts).all test = texts.all fun text => text.all test := by
  induction texts with
  | nil => rfl
  | cons first texts induction =>
      cases texts with
      | nil => simp
      | cons second texts =>
          rw [List.intercalate_cons_cons, List.all_append, List.all_append, own, induction,
            Bool.and_true]
          rfl

/-- The joined line lists what the lines list, if it is one that the server reads. -/
theorem lineListing_joined (parseF32 : List Char → Option F32) (lines : List Bytes) :
    lineListing parseF32 ((utf8Encode ", ").intercalate lines) =
      if readable lines then lines.flatMap (lineListing parseF32) else [] := by
  have visible : ([',', ' '].intercalate (lines.map fun line => line.map fun byte =>
      Char.ofNat byte.toNat)).all isVisibleAscii = readable lines := by
    rw [all_intercalate (by decide), List.all_map, readable]
    congr 1
    funext line
    simp only [Function.comp, lineText]
    split <;> simp_all
  rw [lineListing, lineText, map_intercalate_comma]
  simp only [visible]
  by_cases read : readable lines = true
  · simp only [read, if_true]
    rw [listing, List.elements_intercalate (by decide) (by decide), List.map_flatMap,
      List.flatMap_map]
    apply List.flatMap_congr
    intro line member
    obtain ⟨text, shown⟩ := Option.isSome_iff_exists.mp (List.all_eq_true.mp read line member)
    obtain ⟨rfl, -⟩ := lineText_eq_some.mp shown
    rw [lineListing, shown]
    rfl
  · simp [read]

/-- What the line that the server keeps lists. -/
def keptListing (parseF32 : List Char → Option F32) (lines : List Bytes) :
    List (List Char × F32) :=
  match lines.head? with
  | some line => lineListing parseF32 line
  | none => []

theorem preferred_accepted_nil (allowed : Algos) : preferred allowed (accepted []) = none := by
  cases allowed <;> rfl

theorem negotiate_nil (allowed : Algos) : negotiate parseF32 [] allowed = none := by
  rw [negotiate_eq_preferred, listing, List.elements_nil, List.map_nil, preferred_accepted_nil]

/-- A plan is the coding at the app's level for it. -/
theorem plan_eq (parseF32 : List Char → Option F32) (data : ResponseData)
    (accepted : List Char) (settings : Settings) :
    plan parseF32 data accepted settings =
      ((compressible (.ok data) (some settings)).bind fun allowed =>
        negotiate parseF32 accepted allowed).map fun coding =>
          { body := data.body, algo := coding.at settings } := by
  rw [plan, compressible]
  by_cases encoded : data.headers.containsKey "content-encoding" = true
  · simp [encoded]
  by_cases small : data.body.length < settings.minSize.toNat
  · simp [encoded, small]
  cases (data.headers.get "content-type").or (toStr data.contentType) with
  | none => simp [encoded, small]
  | some contentType =>
      by_cases worth : isCompressible contentType = true
      · cases accepted with
        | nil => simp [encoded, small, worth, negotiate_nil]
        | cons first rest => simp [encoded, small, worth]
      · simp [encoded, small, worth]

theorem plan_coding (parseF32 : List Char → Option F32) (data : ResponseData)
    (accepted : List Char) (settings : Settings) :
    (plan parseF32 data accepted settings).map (fun job => job.algo.coding) =
      (compressible (.ok data) (some settings)).bind fun allowed =>
        negotiate parseF32 accepted allowed := by
  rw [plan_eq, Option.map_map]
  have same : (fun job : Job => job.algo.coding) ∘
      (fun coding => { body := data.body, algo := coding.at settings }) = id := by
    funext coding
    exact Coding.coding_at coding settings
  rw [same, Option.map_id, id]

/-- The coding is the one preferred among those that the kept line accepts. -/
theorem responseCoding_eq (parseF32 : List Char → Option F32)
    (result : Except ResponseData ResponseData) (compression : Option Settings)
    (headers : RequestHeaders) :
    responseCoding parseF32 result compression headers =
      (compressible result compression).bind fun allowed =>
        preferred allowed (accepted (keptListing parseF32 (headers.getAll ACCEPT_ENCODING))) := by
  have kept : keptListing parseF32 (headers.getAll ACCEPT_ENCODING) =
      match (AcceptEncoding.of headers).asStr with
      | some accepted => listing parseF32 accepted
      | none => [] := by
    rw [keptListing, AcceptEncoding.asStr, AcceptEncoding.of]
    cases (headers.getAll ACCEPT_ENCODING).head? <;> rfl
  rw [kept]
  cases result with
  | error logged => rfl
  | ok data =>
      cases compression with
      | none =>
          cases read : (AcceptEncoding.of headers).asStr <;> simp [responseCoding, read] <;> rfl
      | some settings =>
          cases read : (AcceptEncoding.of headers).asStr with
          | none => simp [responseCoding, read, preferred_accepted_nil]
          | some accepted => simp [responseCoding, read, plan_coding, negotiate_eq_preferred]

/-- A response is what the plan on its body makes of it, where there is one. -/
theorem httpResponse_ok (codecs : Codecs) (data : ResponseData) (headers : RequestHeaders)
    (compression : Option Settings) (task : TaskEnd) (pool : CompressPool) :
    httpResponse parseF32 codecs (.ok data) (.of headers) compression task pool =
      match (AcceptEncoding.of headers).asStr.bind fun accepted =>
        compression.bind (plan parseF32 data accepted) with
      | none => (data, pool)
      | some job =>
          match if job.runsInline then job.run codecs pool
            else offTheWorker codecs task job pool with
          | (some compressed, pool) => (applyCompressed data compressed job.algo, pool)
          | (none, pool) => (data, pool) := by
  rw [httpResponse]
  cases (AcceptEncoding.of headers).asStr <;> rfl

/-- Requests with the same coding get the same response. -/
theorem httpResponse_congr {codecs : Codecs} {result : Except ResponseData ResponseData}
    {compression : Option Settings} {other : RequestHeaders}
    (same : responseCoding parseF32 result compression headers =
      responseCoding parseF32 result compression other) (task : TaskEnd) (pool : CompressPool) :
    httpResponse parseF32 codecs result (.of headers) compression task pool =
      httpResponse parseF32 codecs result (.of other) compression task pool := by
  cases result with
  | error logged => rfl
  | ok data =>
      have planned (headers : RequestHeaders) :
          ((AcceptEncoding.of headers).asStr.bind fun accepted =>
              compression.bind (plan parseF32 data accepted)) =
            (responseCoding parseF32 (.ok data) compression headers).bind fun coding =>
              compression.map fun settings =>
                { body := data.body, algo := coding.at settings } := by
        cases read : (AcceptEncoding.of headers).asStr with
        | none => simp [responseCoding, read]
        | some accepted =>
            cases compression with
            | none => simp [responseCoding, read]
            | some settings =>
                simp only [responseCoding, read, Option.bind_some, plan_eq]
                cases (compressible (.ok data) (some settings)).bind fun allowed =>
                  negotiate parseF32 accepted allowed <;> simp
      rw [httpResponse_ok, httpResponse_ok, planned, planned, same]

end Lines

/-! ## One line or several -/

/-- The listing names it, and with no positive weight. -/
def refuses (listed : List (List Char × F32)) (named : Named) : Bool :=
  names listed named && !grants listed named

/-- The lines after the first leave the coding as the first has it. -/
def Steady (parseF32 : List Char → Option F32) (lines : List Bytes) (coding : Coding) : Prop :=
  if accepted (keptListing parseF32 lines) coding then
    readable lines = true ∧
      ∀ line ∈ lines, refuses (lineListing parseF32 line) (.coding coding) = false
  else
    readable lines = false ∨
      (∀ line ∈ lines, grants (lineListing parseF32 line) (.coding coding) = false) ∧
        ((∃ line ∈ lines, weighs (lineListing parseF32 line) (.coding coding) = true) ∨
          ∀ line ∈ lines, grants (lineListing parseF32 line) .any = false)

theorem accepted_flatMap {α : Type*} (parts : List α) (listed : α → List (List Char × F32))
    (coding : Coding) :
    accepted (parts.flatMap listed) coding =
      (parts.any (fun part => grants (listed part) (.coding coding)) ||
        !parts.any (fun part => weighs (listed part) (.coding coding)) &&
          parts.any fun part => grants (listed part) .any) := by
  simp only [accepted, grants, weighs, List.any_flatMap]

/-- What a listing accepts and does not refuse, the listings after it accept together with it, where
none of them refuses it. -/
theorem accepted_of_not_refused {α : Type*} {first : α} {rest : List α}
    {listed : α → List (List Char × F32)} {coding : Coding}
    (takes : accepted (listed first) coding = true)
    (kept : ∀ part ∈ first :: rest, refuses (listed part) (.coding coding) = false) :
    accepted ((first :: rest).flatMap listed) coding = true := by
  rw [accepted_flatMap]
  by_cases granted : (first :: rest).any (fun part => grants (listed part) (.coding coding)) = true
  · rw [granted, Bool.true_or]
  have none : ∀ part ∈ first :: rest, grants (listed part) (.coding coding) = false := by
    simpa using granted
  -- a part that weighs the coding names it, and so would refuse it
  have unnamed : ∀ part ∈ first :: rest, weighs (listed part) (.coding coding) = false := by
    intro part member
    by_contra weighing
    have named := names_of_weighs (Bool.eq_true_of_not_eq_false weighing)
    have refused := kept part member
    rw [refuses, named, none part member] at refused
    cases refused
  have star : grants (listed first) .any = true := by
    rw [accepted, none first (by simp), unnamed first (by simp)] at takes
    simpa using takes
  have weighed : (first :: rest).any (fun part => weighs (listed part) (.coding coding)) = false :=
    List.any_eq_false.mpr fun part member => by simp [unnamed part member]
  have starred : (first :: rest).any (fun part => grants (listed part) .any) = true :=
    List.any_eq_true.mpr ⟨first, by simp, star⟩
  rw [weighed, starred, Bool.not_false, Bool.and_self, Bool.or_true]

theorem steady_iff {parseF32 : List Char → Option F32} {lines : List Bytes} {coding : Coding} :
    Steady parseF32 lines coding ↔
      accepted (keptListing parseF32 lines) coding =
          accepted (if readable lines then lines.flatMap (lineListing parseF32) else []) coding ∧
        (accepted (keptListing parseF32 lines) coding = true → ∀ line ∈ lines,
          refuses (lineListing parseF32 line) (.coding coding) = false) := by
  have empty : accepted [] coding = false := rfl
  rw [Steady]
  by_cases takes : accepted (keptListing parseF32 lines) coding = true
  · rw [if_pos takes, takes]
    cases lines with
    | nil => cases takes
    | cons first rest =>
        constructor
        · rintro ⟨read, kept⟩
          rw [if_pos read]
          have all : accepted ((first :: rest).flatMap (lineListing parseF32)) coding = true :=
            accepted_of_not_refused takes kept
          exact ⟨all.symm, fun _ => kept⟩
        · rintro ⟨same, kept⟩
          refine ⟨?_, kept rfl⟩
          by_contra unread
          rw [if_neg unread, empty] at same
          cases same
  · rw [if_neg takes, Bool.eq_false_iff.mpr takes]
    by_cases read : readable lines = true
    · rw [if_pos read, accepted_flatMap, eq_comm (a := false)]
      have weighing : (∃ line ∈ lines,
          weighs (lineListing parseF32 line) (.coding coding) = true) ↔
            ¬ ∀ line ∈ lines, weighs (lineListing parseF32 line) (.coding coding) = false := by
        simp
      rw [weighing, ← imp_iff_not_or]
      simp [read]
    · rw [if_neg read, empty]
      simp [read]

/-- Two ways to accept give one choice, and a choice within bounds, where they agree on the codings
whose turn it is. -/
theorem preferred_eq_iff {allowed : Algos} {first second : Coding → Bool} {kept : Coding → Prop} :
    (preferred allowed first = preferred allowed second ∧
        ∀ coding, preferred allowed first = some coding → kept coding) ↔
      (allowed.hasBrotli = true →
          first .brotli = second .brotli ∧ (first .brotli = true → kept .brotli)) ∧
        (allowed.hasGzip = true → ¬ (allowed.hasBrotli = true ∧ first .brotli = true) →
          first .gzip = second .gzip ∧ (first .gzip = true → kept .gzip)) := by
  rw [preferred, preferred]
  cases allowed.hasBrotli <;> cases allowed.hasGzip <;> cases first .brotli <;>
    cases second .brotli <;> cases first .gzip <;> cases second .gzip <;> simp

/-- A response has the coding that the lines joined would give it, and none that a line refuses,
where the later lines leave the codings whose turn it is as the first has them. -/
theorem responseCoding_oneLine_iff (parseF32 : List Char → Option F32)
    (result : Except ResponseData ResponseData) (compression : Option Settings)
    (headers : RequestHeaders) :
    (responseCoding parseF32 result compression headers =
          responseCoding parseF32 result compression (headers.oneLine ACCEPT_ENCODING) ∧
        ∀ coding, responseCoding parseF32 result compression headers = some coding →
          ∀ line ∈ headers.getAll ACCEPT_ENCODING,
            refuses (lineListing parseF32 line) (.coding coding) = false) ↔
      ∀ allowed, compressible result compression = some allowed →
        (allowed.hasBrotli = true →
            Steady parseF32 (headers.getAll ACCEPT_ENCODING) .brotli) ∧
          (allowed.hasGzip = true →
            ¬ (allowed.hasBrotli = true ∧
              accepted (keptListing parseF32 (headers.getAll ACCEPT_ENCODING)) .brotli = true) →
            Steady parseF32 (headers.getAll ACCEPT_ENCODING) .gzip) := by
  have joined : keptListing parseF32 ((headers.oneLine ACCEPT_ENCODING).getAll ACCEPT_ENCODING) =
      if readable (headers.getAll ACCEPT_ENCODING) then
        (headers.getAll ACCEPT_ENCODING).flatMap (lineListing parseF32)
      else [] := by
    by_cases sent : headers.getAll ACCEPT_ENCODING = []
    · rw [RequestHeaders.oneLine, sent]
      simp [sent, keptListing]
    · rw [getAll_oneLine sent, keptListing]
      exact lineListing_joined parseF32 _
  rw [responseCoding_eq, responseCoding_eq, joined]
  cases compressible result compression with
  | none => simp
  | some allowed =>
      simp only [Option.bind_some, Option.some.injEq, forall_eq', steady_iff]
      exact preferred_eq_iff

/-- A client that takes any coding on one line, and refuses both of the server's on another. -/
def sampleLines : RequestHeaders :=
  [("accept-encoding", utf8Encode "*"), ("Accept-Encoding", utf8Encode "gzip;q=0, br;q=0")]

/-- The weight 0. -/
def sampleWeights (text : List Char) : Option F32 :=
  if text = "0".toList then some (F32.ofRat 0) else none

theorem responseCoding_refused :
    responseCoding sampleWeights (.ok sampleResponse) (some sampleSettings) sampleLines =
        some .brotli ∧
      responseCoding sampleWeights (.ok sampleResponse) (some sampleSettings)
        (sampleLines.oneLine ACCEPT_ENCODING) = none ∧
      ∃ line ∈ sampleLines.getAll ACCEPT_ENCODING,
        refuses (lineListing sampleWeights line) (.coding .brotli) = true := by
  have sent : sampleLines.getAll ACCEPT_ENCODING =
      [utf8Encode "*", utf8Encode "gzip;q=0, br;q=0"] := by decide
  refine ⟨by decide, by decide, utf8Encode "gzip;q=0, br;q=0", ?_, by decide⟩
  rw [sent]
  simp

end Pyronova
