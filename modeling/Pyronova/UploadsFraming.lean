import Mathlib.Tactic
import Pyronova.UploadsHeaders

/-!
# The framing of a form

A client writes the parts of a form between delimiters.  No delimiter is within a part, so the body
is split into the parts as they were written, whatever follows the closing delimiter; a body that is
cut off before it is none.
-/

namespace Pyronova

namespace Uploads

/-! ## What a client writes -/

/-- A part of a form. -/
structure Part where
  name : String
  filename : GivenFilename
  contentType : Option String
  data : Bytes
  deriving DecidableEq, Repr

/-- Header lines, a blank line and the data. -/
def withLines (nl : Bytes) (lines : List Bytes) (data : Bytes) : Bytes :=
  (lines.flatMap fun line => line ++ nl) ++ nl ++ data

theorem withLines_cons (nl line : Bytes) (lines : List Bytes) (data : Bytes) :
    withLines nl (line :: lines) data = line ++ (nl ++ withLines nl lines data) := by
  simp [withLines]

/-- A header line. -/
def headerLine (key : String) (value : List Char) : List Char :=
  key.toList ++ ':' :: ' ' :: value

namespace Part

def headerLines (part : Part) : List (List Char) :=
  headerLine "Content-Disposition" (dispositionValue part.name part.filename) ::
    part.contentType.toList.map fun type => headerLine "Content-Type" type.toList

/-- The header lines of a part as bytes. -/
def lineBytes (part : Part) : List Bytes :=
  part.headerLines.map fun line => utf8Encode (String.ofList line)

def encode (nl : Bytes) (part : Part) : Bytes := withLines nl part.lineBytes part.data

end Part

/-- What follows the first delimiter of a form. -/
def afterDelimiter (nl : Bytes) (boundary : String) : List Part → Bytes
  | [] => dashes
  | part :: parts =>
      nl ++ part.encode nl ++ (nl ++ dashBoundary boundary ++ afterDelimiter nl boundary parts)

/-- The parts, a delimiter before each, and the closing delimiter. -/
def encodeParts (nl : Bytes) (boundary : String) (parts : List Part) : Bytes :=
  dashBoundary boundary ++ afterDelimiter nl boundary parts

/-- A part that can be written between delimiters. -/
structure Part.Valid (nl : Bytes) (boundary : String) (part : Part) : Prop where
  named : part.name ≠ ""
  nameLine : OneLine part.name.toList
  filename : part.filename.Valid
  typeLine : ∀ type ∈ part.contentType, OneLine type.toList ∧ strip type.toList = type.toList
  data : ¬ nl ++ dashBoundary boundary <:+: nl ++ part.data

/-! ## Marks

The first byte of a line break comes again in no line break, boundary or header line. -/

theorem OneLine.bytes {text : List Char} (line : OneLine text) :
    CR ∉ utf8Encode (String.ofList text) ∧ LF ∉ utf8Encode (String.ofList text) := by
  have chars := String.toList_ofList (l := text)
  refine ⟨fun member => line.1 ?_, fun member => line.2 ?_⟩
  · exact chars ▸ mem_of_mem_utf8Encode (by decide : ('\r' : Char).toNat < 128) member
  · exact chars ▸ mem_of_mem_utf8Encode (by decide : ('\n' : Char).toNat < 128) member

theorem OneLine.append {front back : List Char} (first : OneLine front) (second : OneLine back) :
    OneLine (front ++ back) :=
  ⟨fun member => (List.mem_append.mp member).elim first.1 second.1,
    fun member => (List.mem_append.mp member).elim first.2 second.2⟩

theorem oneLine_of_all {text : List Char}
    (clear : text.all (fun c => c ≠ '\r' ∧ c ≠ '\n') = true) : OneLine text := by
  have absent := fun c member => decide_eq_true_eq.mp (List.all_eq_true.mp clear c member)
  exact ⟨fun member => (absent _ member).1 rfl, fun member => (absent _ member).2 rfl⟩

theorem oneLine_of_plain {text : List Char} (plain : ∀ c ∈ text, IsPlain c) : OneLine text := by
  have absent (c : Char) (small : c.toNat < 33) : c ∉ text := fun member =>
    absurd (plain c member).1 (by omega)
  exact ⟨absent _ (by decide), absent _ (by decide)⟩

theorem oneLine_quoted {text : List Char} (line : OneLine text) : OneLine (quoted text) := by
  have absent (mark : Char) (other : mark ≠ '"' ∧ mark ≠ '\\') (notIn : mark ∉ text) :
      mark ∉ quoted text := by
    intro member
    simp only [quoted, List.mem_append, List.mem_cons, List.mem_flatMap, List.not_mem_nil,
      or_false, other.1, false_or] at member
    obtain ⟨c, inText, written⟩ := member
    unfold quoteChar at written
    split at written <;> simp only [List.mem_cons, List.not_mem_nil, or_false, other.2,
      false_or] at written <;> exact notIn (written ▸ inText)
  exact ⟨absent _ (by decide) line.1, absent _ (by decide) line.2⟩

/-- The line breaks that frame a body. -/
def IsLineBreak (nl : Bytes) : Prop := nl = crlf ∨ nl = lf

/-- A line break that starts with a mark, and a boundary without it. -/
structure Frames (mark : UInt8) (rest : Bytes) (boundary : String) : Prop where
  isMark : mark = CR ∨ mark = LF
  borderless : mark ∉ rest ++ dashBoundary boundary

theorem Frames.ne_dash {mark : UInt8} {rest : Bytes} {boundary : String}
    (frames : Frames mark rest boundary) : mark ≠ 45 := by
  rcases frames.isMark with rfl | rfl <;> decide

theorem Frames.not_mem_dashes {mark : UInt8} {rest : Bytes} {boundary : String}
    (frames : Frames mark rest boundary) : mark ∉ dashes := by
  simpa [dashes] using frames.ne_dash

theorem IsLineBreak.frames {nl : Bytes} (isBreak : IsLineBreak nl) {boundary : String}
    (line : OneLine boundary.toList) :
    ∃ mark rest, nl = mark :: rest ∧ Frames mark rest boundary := by
  have bytes := line.bytes
  rw [String.ofList_toList] at bytes
  have noDash : CR ∉ dashes ∧ LF ∉ dashes := by decide
  rcases isBreak with rfl | rfl
  · refine ⟨CR, lf, rfl, .inl rfl, ?_⟩
    have notLf : CR ∉ lf := by decide
    simp only [dashBoundary, List.mem_append, not_or]
    exact ⟨notLf, noDash.1, bytes.1⟩
  · refine ⟨LF, [], rfl, .inr rfl, ?_⟩
    simp only [dashBoundary, List.mem_append, not_or]
    exact ⟨List.not_mem_nil, noDash.2, bytes.2⟩

theorem oneLine_param {key : String} (clear : key.toList.all (fun c => c ≠ '\r' ∧ c ≠ '\n') = true)
    {value : List Char} (line : OneLine value) : OneLine (param key value) := by
  have blank : OneLine [' '] := oneLine_of_all (by decide)
  have equals : OneLine ['='] := oneLine_of_all (by decide)
  have whole : param key value = [' '] ++ key.toList ++ ['='] ++ value := by simp [param]
  rw [whole]
  exact ((blank.append (oneLine_of_all clear)).append equals).append line

theorem GivenFilename.oneLine_params {filename : GivenFilename} (valid : filename.Valid) :
    ∀ param ∈ filename.params, OneLine param := by
  cases filename with
  | absent => simp [params]
  | quotedString filename =>
      exact List.forall_mem_singleton.mpr (oneLine_param (by decide) (oneLine_quoted valid))
  | extValue filename value =>
      have plain : ∀ c ∈ value, IsPlain c := IsExtValue.plain valid
      exact List.forall_mem_singleton.mpr (oneLine_param (by decide) (oneLine_of_plain plain))

theorem oneLine_withParams {first : List Char} {params : List (List Char)} (line : OneLine first)
    (lines : ∀ param ∈ params, OneLine param) : OneLine (withParams first params) := by
  have semicolon : OneLine [';'] := oneLine_of_all (by decide)
  induction params generalizing first with
  | nil => simpa [withParams] using line
  | cons param params induction =>
      obtain ⟨here, later⟩ := List.forall_mem_cons.mp lines
      have whole : withParams first (param :: params) =
          withParams (first ++ [';'] ++ param) params := by simp [withParams]
      rw [whole]
      exact induction ((line.append semicolon).append here) later

theorem oneLine_headerLine {key : String}
    (clear : key.toList.all (fun c => c ≠ '\r' ∧ c ≠ '\n') = true) {value : List Char}
    (line : OneLine value) : OneLine (headerLine key value) := by
  have colon : OneLine [':', ' '] := oneLine_of_all (by decide)
  have whole : headerLine key value = key.toList ++ [':', ' '] ++ value := by simp [headerLine]
  rw [whole]
  exact ((oneLine_of_all clear).append colon).append line

theorem Part.Valid.oneLine_headerLines {nl : Bytes} {boundary : String} {part : Part}
    (valid : part.Valid nl boundary) : ∀ line ∈ part.headerLines, OneLine line := by
  have nameParam : OneLine (param "name" (quoted part.name.toList)) :=
    oneLine_param (by decide) (oneLine_quoted valid.nameLine)
  have disposition : OneLine (dispositionValue part.name part.filename) :=
    oneLine_withParams (oneLine_of_all (by decide))
      (List.forall_mem_cons.mpr ⟨nameParam, GivenFilename.oneLine_params valid.filename⟩)
  rw [Part.headerLines]
  refine List.forall_mem_cons.mpr
    ⟨oneLine_headerLine (by decide) disposition, fun line member => ?_⟩
  obtain ⟨type, given, rfl⟩ := List.mem_map.mp member
  exact oneLine_headerLine (by decide) (valid.typeLine type (Option.mem_toList.mp given)).1

/-- Every header line starts with a letter. -/
theorem Part.head_headerLines (part : Part) :
    ∀ line ∈ part.headerLines, ∃ rest, line = 'C' :: rest := by
  rw [Part.headerLines]
  refine List.forall_mem_cons.mpr ⟨⟨_, rfl⟩, fun line member => ?_⟩
  obtain ⟨type, -, rfl⟩ := List.mem_map.mp member
  exact ⟨_, rfl⟩

/-! ## Delimiters -/

section Framing

variable {mark : UInt8} {rest : Bytes} {boundary : String}

/-- No delimiter starts at a line that does not start with a dash. -/
theorem Frames.clear_line (frames : Frames mark rest boundary) {line after : Bytes}
    (noMark : mark ∉ line) (noDash : ∀ byte ∈ (line ++ after).head?, byte ≠ 45)
    (clear : ¬ mark :: (rest ++ dashBoundary boundary) <:+: after) :
    ¬ mark :: (rest ++ dashBoundary boundary) <:+: (mark :: rest) ++ (line ++ after) := by
  have notInRest : mark ∉ rest := fun member =>
    frames.borderless (List.mem_append_left _ member)
  have passed : mark ∉ rest ++ line := by
    rw [List.mem_append, not_or]
    exact ⟨notInRest, noMark⟩
  rw [List.cons_append, List.infix_cons_iff, ← List.append_assoc,
    List.infix_append_of_not_mem passed, not_or]
  refine ⟨fun here => ?_, clear⟩
  have start : dashBoundary boundary <+: line ++ after := by
    have inner := (List.cons_prefix_cons.mp here).2
    rwa [List.append_assoc, List.prefix_append_right_inj] at inner
  obtain ⟨back, whole⟩ := start
  exact noDash 45 (by rw [← whole]; rfl) rfl

/-- No delimiter is in header lines and the data after them. -/
theorem Frames.clear_lines (frames : Frames mark rest boundary) {lines : List Bytes}
    (noMark : ∀ line ∈ lines, mark ∉ line ∧ ∃ after, line = 67 :: after)
    {data : Bytes} (clear : ¬ mark :: (rest ++ dashBoundary boundary) <:+: (mark :: rest) ++ data) :
    ¬ mark :: (rest ++ dashBoundary boundary) <:+:
      (mark :: rest) ++ withLines (mark :: rest) lines data := by
  induction lines with
  | nil =>
      have noDash : ∀ byte ∈ ([] ++ ((mark :: rest) ++ data)).head?, byte ≠ 45 := by
        simpa using frames.ne_dash
      have first := frames.clear_line List.not_mem_nil noDash clear
      exact first
  | cons line lines induction =>
      obtain ⟨⟨absent, after, starts⟩, later⟩ := List.forall_mem_cons.mp noMark
      rw [withLines_cons]
      exact frames.clear_line absent (by simp [starts]) (induction later)

end Framing

theorem Part.Valid.lineBytes {nl : Bytes} {boundary : String} {part : Part}
    (valid : part.Valid nl boundary) {mark : UInt8} (isMark : mark = CR ∨ mark = LF) :
    ∀ line ∈ part.lineBytes, mark ∉ line ∧ ∃ after, line = 67 :: after := by
  intro line member
  obtain ⟨text, inLines, rfl⟩ := List.mem_map.mp member
  have bytes := (valid.oneLine_headerLines text inLines).bytes
  refine ⟨?_, ?_⟩
  · rcases isMark with rfl | rfl
    · exact bytes.1
    · exact bytes.2
  · obtain ⟨after, rfl⟩ := part.head_headerLines text inLines
    refine ⟨utf8Encode (String.ofList after), ?_⟩
    rw [utf8Encode_ofList, utf8Encode_ofList, List.flatMap_cons]
    rfl

/-- No delimiter is within a part. -/
theorem Part.Valid.clear {mark : UInt8} {rest : Bytes} {boundary : String} {part : Part}
    (valid : part.Valid (mark :: rest) boundary) (frames : Frames mark rest boundary) :
    ¬ mark :: (rest ++ dashBoundary boundary) <:+:
      (mark :: rest) ++ part.encode (mark :: rest) :=
  frames.clear_lines (valid.lineBytes frames.isMark) valid.data

/-! ## The parts of a body -/

theorem takeParts_after {mark : UInt8} {rest : Bytes} {boundary : String}
    (frames : Frames mark rest boundary) {parts : List Part}
    (valid : ∀ part ∈ parts, part.Valid (mark :: rest) boundary) (epilogue : Bytes) :
    takeParts boundary (mark :: rest) (List.split (mark :: (rest ++ dashBoundary boundary))
      (afterDelimiter (mark :: rest) boundary parts ++ epilogue)) =
      .ok (parts.map (Part.encode (mark :: rest))) := by
  induction parts with
  | nil =>
      obtain ⟨more, others, split⟩ : ∃ more others,
          List.split (mark :: (rest ++ dashBoundary boundary)) (dashes ++ epilogue) =
            (dashes ++ more) :: others :=
        List.split_append_of_not_mem frames.not_mem_dashes epilogue
      have closes : dashes.isPrefixOf (dashes ++ more) = true := by simp
      rw [afterDelimiter, split, takeParts, if_pos closes]
      rfl
  | cons part parts induction =>
      obtain ⟨here, later⟩ := List.forall_mem_cons.mp valid
      have whole : afterDelimiter (mark :: rest) boundary (part :: parts) ++ epilogue =
          ((mark :: rest) ++ part.encode (mark :: rest)) ++
            (mark :: (rest ++ dashBoundary boundary)) ++
            (afterDelimiter (mark :: rest) boundary parts ++ epilogue) := by
        simp [afterDelimiter]
      have split := List.split_of_cut (List.cons_ne_nil _ _) (List.cut_borderless
        frames.borderless (here.clear frames)
        (afterDelimiter (mark :: rest) boundary parts ++ epilogue))
      have opens : ¬ dashes.isPrefixOf ((mark :: rest) ++ part.encode (mark :: rest)) = true := by
        simp [dashes, frames.ne_dash.symm]
      have cut : List.cut (mark :: rest) ((mark :: rest) ++ part.encode (mark :: rest)) =
          some ([], part.encode (mark :: rest)) := List.cut_prefix _
      rw [whole, split, takeParts, if_neg opens, cut]
      simp only [List.all_nil, if_true, induction later]
      rfl

/-- A body is split into the parts it was written from. -/
theorem splitParts_encodeParts {mark : UInt8} {rest : Bytes} {boundary : String}
    (frames : Frames mark rest boundary) {parts : List Part}
    (valid : ∀ part ∈ parts, part.Valid (mark :: rest) boundary) (epilogue : Bytes) :
    splitParts (encodeParts (mark :: rest) boundary parts ++ epilogue) boundary (mark :: rest) =
      .ok (parts.map (Part.encode (mark :: rest))) := by
  have whole : (mark :: rest) ++ (encodeParts (mark :: rest) boundary parts ++ epilogue) =
      (mark :: (rest ++ dashBoundary boundary)) ++
        (afterDelimiter (mark :: rest) boundary parts ++ epilogue) := by
    simp [encodeParts]
  have split := List.split_of_cut (List.cons_ne_nil mark (rest ++ dashBoundary boundary))
    (List.cut_prefix (afterDelimiter (mark :: rest) boundary parts ++ epilogue))
  have taken := takeParts_after frames valid epilogue
  obtain ⟨segment, segments, later, -⟩ := List.split_eq_cons
    (afterDelimiter (mark :: rest) boundary parts ++ epilogue)
  rw [later] at split taken
  have delimiter : (mark :: rest) ++ dashBoundary boundary =
      mark :: (rest ++ dashBoundary boundary) := rfl
  rw [splitParts, delimiter, whole, split]
  exact taken

/-- The line break is told from what follows the first delimiter. -/
theorem lineBreak_encodeParts {nl : Bytes} (isBreak : IsLineBreak nl) (boundary : String)
    (part : Part) (parts : List Part) (epilogue : Bytes) :
    lineBreak (encodeParts nl boundary (part :: parts) ++ epilogue) boundary = .ok nl := by
  have found : List.cut (dashBoundary boundary)
      (encodeParts nl boundary (part :: parts) ++ epilogue) =
        some ([], afterDelimiter nl boundary (part :: parts) ++ epilogue) := by
    rw [encodeParts, List.append_assoc]
    exact List.cut_prefix _
  rw [lineBreak, found]
  rcases isBreak with rfl | rfl <;>
    simp [afterDelimiter, crlf, lf, CR, LF, MAX_PADDING, isPadding]

theorem lineBreak_encodeParts_nil (nl : Bytes) (boundary : String) (epilogue : Bytes) :
    lineBreak (encodeParts nl boundary [] ++ epilogue) boundary = .ok lf := by
  have found : List.cut (dashBoundary boundary) (encodeParts nl boundary [] ++ epilogue) =
      some ([], dashes ++ epilogue) := by
    rw [encodeParts, List.append_assoc]
    exact List.cut_prefix _
  rw [lineBreak, found]
  simp [dashes, crlf, lf, CR, LF, MAX_PADDING, isPadding]

/-! ## Bodies cut off -/

theorem closes_of_takeParts {boundary : String} {nl : Bytes} {segments parts : List Bytes}
    (taken : takeParts boundary nl segments = .ok parts) :
    ∃ segment ∈ segments, dashes <+: segment := by
  induction segments generalizing parts with
  | nil => cases taken
  | cons segment segments induction =>
      rw [takeParts] at taken
      split at taken
      · rename_i closes
        exact ⟨segment, List.mem_cons_self, List.isPrefixOf_iff_prefix.mp closes⟩
      · split at taken
        · cases taken
        · split at taken
          · cases later : takeParts boundary nl segments with
            | error error =>
                rw [later] at taken
                cases taken
            | ok parts =>
                obtain ⟨closing, member, closes⟩ := induction later
                exact ⟨closing, List.mem_cons_of_mem _ member, closes⟩
          · cases taken

/-- A body that is split holds a closing delimiter. -/
theorem closes_of_splitParts {body nl : Bytes} {boundary : String} {parts : List Bytes}
    (split : splitParts body boundary nl = .ok parts) :
    (nl ++ dashBoundary boundary) ++ dashes <:+: nl ++ body := by
  have nonempty : nl ++ dashBoundary boundary ≠ [] := by simp [dashBoundary, dashes]
  rw [splitParts] at split
  split at split
  · rename_i first segment segments whole
    obtain ⟨closing, member, closes⟩ := closes_of_takeParts split
    have inTail : closing ∈ (List.split (nl ++ dashBoundary boundary) (nl ++ body)).tail := by
      rwa [whole]
    have start := (List.prefix_append_right_inj (nl ++ dashBoundary boundary)).mpr closes
    exact start.isInfix.trans (List.infix_of_mem_split nonempty inTail)
  · cases split

/-- The closing delimiter ends a form. -/
theorem not_closing_before {mark : UInt8} {rest : Bytes} {boundary : String}
    (frames : Frames mark rest boundary) {parts : List Part}
    (valid : ∀ part ∈ parts, part.Valid (mark :: rest) boundary) (byte : UInt8) :
    ¬ (mark :: (rest ++ dashBoundary boundary)) ++ (dashes ++ [byte]) <:+:
      (mark :: (rest ++ dashBoundary boundary)) ++
        afterDelimiter (mark :: rest) boundary parts := by
  intro inside
  induction parts with
  | nil =>
      have length := inside.length_le
      simp only [afterDelimiter, List.length_append, List.length_cons, List.length_nil] at length
      omega
  | cons part parts induction =>
      obtain ⟨here, later⟩ := List.forall_mem_cons.mp valid
      rw [List.cons_append, List.cons_append, List.infix_cons_iff] at inside
      rcases inside with start | inside
      · have next := (List.cons_prefix_cons.mp start).2
        rw [List.prefix_append_right_inj] at next
        have dash : (45 : UInt8) = mark := (List.cons_prefix_cons.mp next).1
        exact frames.ne_dash dash.symm
      · have passed : (mark :: (rest ++ dashBoundary boundary)) ++ (dashes ++ [byte]) <:+:
            ((mark :: rest) ++ part.encode (mark :: rest)) ++
              ((mark :: (rest ++ dashBoundary boundary)) ++
                afterDelimiter (mark :: rest) boundary parts) :=
          (List.infix_append_of_not_mem frames.borderless _).mp inside
        exact induction later
          (List.infix_of_infix_append frames.borderless (here.clear frames) passed)

/-- A body cut off within a form holds no closing delimiter behind the form's line break. -/
theorem not_closing_of_cutOff {nl : Bytes} (isBreak : IsLineBreak nl) {boundary : String}
    (line : OneLine boundary.toList) {parts : List Part}
    (valid : ∀ part ∈ parts, part.Valid nl boundary) {body : Bytes}
    (cutOff : body <+: encodeParts nl boundary parts)
    (proper : body ≠ encodeParts nl boundary parts) :
    ¬ (nl ++ dashBoundary boundary) ++ dashes <:+: nl ++ body := by
  obtain ⟨mark, rest, rfl, frames⟩ := isBreak.frames line
  obtain ⟨missing, whole⟩ := cutOff
  rintro ⟨before, behind, inside⟩
  cases missing with
  | nil => exact proper (by rw [← whole, List.append_nil])
  | cons byte missing =>
      obtain ⟨next, after, follows⟩ : ∃ next after, behind ++ byte :: missing = next :: after := by
        cases behind with
        | nil => exact ⟨_, _, rfl⟩
        | cons next after => exact ⟨_, _, rfl⟩
      apply not_closing_before frames valid next
      refine ⟨before, after, ?_⟩
      calc
        before ++ ((mark :: (rest ++ dashBoundary boundary)) ++ (dashes ++ [next])) ++ after =
            before ++ ((mark :: rest) ++ dashBoundary boundary ++ dashes) ++
              (behind ++ byte :: missing) := by simp [follows]
        _ = (mark :: rest) ++ (body ++ byte :: missing) := by
          rw [← List.append_assoc _ behind, inside, List.append_assoc]
        _ = (mark :: (rest ++ dashBoundary boundary)) ++
            afterDelimiter (mark :: rest) boundary parts := by
          rw [whole, encodeParts]
          simp

/-- The first byte after the first delimiter, where it is no padding, starts the line break. -/
theorem startsCrlf_cons {byte : UInt8} (noPadding : isPadding byte = false) (after : Bytes) :
    crlf.isPrefixOf (((byte :: after).take MAX_PADDING).dropWhile isPadding) = true →
      ∃ more, byte :: after = CR :: LF :: more := by
  rw [MAX_PADDING, List.take_succ_cons, List.dropWhile_cons_of_neg (by simp [noPadding]),
    List.isPrefixOf_iff_prefix]
  intro start
  obtain ⟨same, next⟩ := List.cons_prefix_cons.mp start
  obtain ⟨more, whole⟩ := next.trans (List.take_prefix _ after)
  exact ⟨more, by rw [← whole, same]; rfl⟩

/-- The line break of a body cut off is that of the form, or no delimiter can follow the first. -/
theorem lineBreak_of_cutOff {nl found : Bytes} (isBreak : IsLineBreak nl) {boundary : String}
    {parts : List Part} {body : Bytes} (cutOff : body <+: encodeParts nl boundary parts)
    (proper : body ≠ encodeParts nl boundary parts) (told : lineBreak body boundary = .ok found) :
    found = nl ∨ (found = lf ∧ body.length ≤ (dashBoundary boundary).length + 1) := by
  have start : dashBoundary boundary <+: encodeParts nl boundary parts := List.prefix_append _ _
  rcases List.prefix_or_prefix_of_prefix cutOff start with short | ⟨after, rfl⟩
  · -- the body ends within the first delimiter
    have length := short.length_le
    rw [lineBreak] at told
    split at told
    · cases told
    · rename_i before after cut
      have whole := List.length_of_cut cut
      obtain rfl : after = [] := List.eq_nil_of_length_eq_zero (by omega)
      obtain rfl := Except.ok.inj told
      exact .inr ⟨rfl, by omega⟩
  · rw [encodeParts, List.prefix_append_right_inj] at cutOff
    have notAll : after ≠ afterDelimiter nl boundary parts := fun same => proper (by rw [same]; rfl)
    rw [lineBreak, List.cut_prefix] at told
    simp only at told
    cases after with
    | nil =>
        obtain rfl := Except.ok.inj told
        exact .inr ⟨rfl, by simp⟩
    | cons byte after =>
        cases parts with
        | nil =>
            obtain ⟨rfl, next⟩ := List.cons_prefix_cons.mp cutOff
            have notCrlf : ¬ crlf.isPrefixOf
                (((45 :: after).take MAX_PADDING).dropWhile isPadding) = true := fun starts => by
              obtain ⟨more, same⟩ := startsCrlf_cons (by decide) after starts
              exact absurd (List.cons.inj same).1 (by decide)
            rw [if_neg notCrlf] at told
            obtain rfl := Except.ok.inj told
            have other : after.length ≠ 1 := fun same =>
              notAll (by rw [next.eq_of_length same]; rfl)
            have short : after.length ≤ 1 := next.length_le
            refine .inr ⟨rfl, ?_⟩
            simp only [List.length_append, List.length_cons]
            omega
        | cons part parts =>
            rcases isBreak with rfl | rfl
            · split at told
              · exact .inl (Except.ok.inj told).symm
              · rename_i notCrlf
                obtain rfl := Except.ok.inj told
                obtain ⟨rfl, next⟩ := List.cons_prefix_cons.mp cutOff
                cases after with
                | nil => exact .inr ⟨rfl, by simp⟩
                | cons second after =>
                    obtain ⟨rfl, -⟩ := List.cons_prefix_cons.mp next
                    exact absurd (by simp [crlf, CR, LF, MAX_PADDING, isPadding]) notCrlf
            · obtain ⟨rfl, -⟩ := List.cons_prefix_cons.mp cutOff
              have notCrlf : ¬ crlf.isPrefixOf
                  (((LF :: after).take MAX_PADDING).dropWhile isPadding) = true := fun starts => by
                obtain ⟨more, same⟩ := startsCrlf_cons (by decide) after starts
                exact absurd (List.cons.inj same).1 (by decide)
              rw [if_neg notCrlf] at told
              exact .inl (Except.ok.inj told).symm

/-- A body cut off within a form is refused. -/
theorem parseBody_of_cutOff {nl : Bytes} (isBreak : IsLineBreak nl) {boundary : String}
    (line : OneLine boundary.toList) {parts : List Part}
    (valid : ∀ part ∈ parts, part.Valid nl boundary) {body : Bytes}
    (cutOff : body <+: encodeParts nl boundary parts)
    (proper : body ≠ encodeParts nl boundary parts) :
    ∃ error, parseBody boundary body = .error error := by
  cases told : lineBreak body boundary with
  | error error => exact ⟨error, by rw [parseBody, told]; rfl⟩
  | ok found =>
      cases split : splitParts body boundary found with
      | error error => exact ⟨error, by simp only [parseBody, told, split, bind, Except.bind]⟩
      | ok contents =>
          have closing := closes_of_splitParts split
          rcases lineBreak_of_cutOff isBreak cutOff proper told with rfl | ⟨rfl, short⟩
          · exact absurd closing (not_closing_of_cutOff isBreak line valid cutOff proper)
          · have length := closing.length_le
            simp only [lf, dashes, List.length_append, List.length_cons, List.length_nil] at length
            omega

end Uploads

end Pyronova
