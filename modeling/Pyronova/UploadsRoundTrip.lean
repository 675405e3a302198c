import Mathlib.Tactic
import Pyronova.UploadsFraming

/-!
# Forms read back

What `parse_multipart` reads from the body of a form are the parts that were written, grouped by
their names.
-/

namespace Pyronova

namespace Uploads

/-! ## The headers of a part -/

/-- Where the blank line is. -/
theorem cut_blankLine {mark : UInt8} {rest : Bytes} (noMark : mark ∉ rest) (notLetter : mark ≠ 67)
    {lines : List Bytes} (each : ∀ line ∈ lines, mark ∉ line ∧ ∃ after, line = 67 :: after)
    (data : Bytes) :
    List.cut (mark :: (rest ++ (mark :: rest)))
      ((mark :: rest) ++ withLines (mark :: rest) lines data) =
      some (lines.flatMap fun line => (mark :: rest) ++ line, data) := by
  induction lines with
  | nil =>
      have whole : (mark :: rest) ++ withLines (mark :: rest) [] data =
          (mark :: (rest ++ (mark :: rest))) ++ data := by simp [withLines]
      rw [whole]
      exact List.cut_prefix data
  | cons line lines induction =>
      obtain ⟨⟨absent, after, starts⟩, later⟩ := List.forall_mem_cons.mp each
      have passed : mark ∉ rest ++ line := by
        rw [List.mem_append, not_or]
        exact ⟨noMark, absent⟩
      have notHere : ¬ mark :: (rest ++ (mark :: rest)) <+:
          mark :: (rest ++ (line ++ ((mark :: rest) ++ withLines (mark :: rest) lines data))) := by
        intro here
        have next := (List.cons_prefix_cons.mp here).2
        rw [List.prefix_append_right_inj, starts] at next
        exact notLetter (List.cons_prefix_cons.mp next).1
      rw [withLines_cons, List.cons_append, List.cut, if_neg notHere, ← List.append_assoc,
        List.cut_append_of_not_mem passed, induction later]
      simp

/-- A part is cut at its blank line. -/
theorem headerAndData_encode {nl : Bytes} {boundary : String} {part : Part}
    (isBreak : IsLineBreak nl) (valid : part.Valid nl boundary) {first : Bytes}
    {others : List Bytes} (lines : part.lineBytes = first :: others) :
    headerAndData (part.encode nl) nl =
      some (first ++ others.flatMap fun line => nl ++ line, part.data) := by
  obtain ⟨mark, rest, rfl, isMark, noMark⟩ : ∃ mark rest, nl = mark :: rest ∧
      (mark = CR ∨ mark = LF) ∧ mark ∉ rest := by
    rcases isBreak with rfl | rfl
    · exact ⟨CR, lf, rfl, .inl rfl, by decide⟩
    · exact ⟨LF, [], rfl, .inr rfl, by decide⟩
  have notLetter : mark ≠ 67 := by rcases isMark with rfl | rfl <;> decide
  have each := valid.lineBytes isMark
  rw [lines] at each
  obtain ⟨⟨absent, after, starts⟩, later⟩ := List.forall_mem_cons.mp each
  have opens : ¬ (mark :: rest).isPrefixOf (part.encode (mark :: rest)) = true := by
    rw [Part.encode, lines, withLines_cons, starts, List.isPrefixOf_iff_prefix]
    exact fun here => notLetter (List.cons_prefix_cons.mp here).1
  have delimiter : (mark :: rest) ++ (mark :: rest) = mark :: (rest ++ (mark :: rest)) := rfl
  rw [headerAndData, if_neg opens, Part.encode, lines, withLines_cons, delimiter,
    List.cut_append_of_not_mem absent, cut_blankLine noMark notLetter later]
  rfl

/-- The entry of a header line. -/
def lineEntry (line : List Char) : Option (List Char × List Char) :=
  (List.cut [':'] (strip line)).map fun found => (lower (strip found.1), strip found.2)

theorem lineEntry_return (line : List Char) {cr : List Char} (isCr : cr = [] ∨ cr = ['\r']) :
    lineEntry (line ++ cr) = lineEntry line := by
  have blanks : ∀ c ∈ cr, isSpace c = true := by
    rcases isCr with rfl | rfl
    · simp
    · exact List.forall_mem_singleton.mpr (by decide)
  rw [lineEntry, lineEntry, strip, strip, List.trimBlanks_append line blanks]

/-- A header line is read as its key in lower case and its value without blanks around it. -/
theorem lineEntry_headerLine {key : String} (clear : ':' ∉ key.toList)
    (visible : ∀ c ∈ key.toList.head?, isSpace c = false) (value : List Char) :
    lineEntry (headerLine key value) = some (lower (strip key.toList), strip value) := by
  have front : key.toList.dropWhile isSpace = key.toList := by
    cases chars : key.toList with
    | nil => rfl
    | cons c rest => exact List.dropWhile_cons_of_neg (by simp [visible c (by rw [chars]; rfl)])
  have stripped : strip (headerLine key value) =
      key.toList ++ ':' :: (' ' :: value).rdropWhile isSpace := by
    rw [strip, headerLine, List.trimBlanks_append_cons _ _ (by decide), front]
  have inner : strip ((' ' :: value).rdropWhile isSpace) = strip value := by
    rw [strip, List.trimBlanks_rdropWhile, List.trimBlanks_cons (by decide), strip]
  rw [lineEntry, stripped, List.cut_singleton clear, Option.map_some, inner]

theorem filterMap_lines {cr : List Char} (isCr : cr = [] ∨ cr = ['\r']) {first : List Char}
    {others : List (List Char)} (oneLine : ∀ line ∈ first :: others, OneLine line) :
    ((first ++ others.flatMap fun line => cr ++ '\n' :: line).splitOn '\n').filterMap lineEntry =
      (first :: others).filterMap lineEntry := by
  induction others generalizing first with
  | nil =>
      obtain ⟨here, -⟩ := List.forall_mem_cons.mp oneLine
      rw [List.flatMap_nil, List.append_nil, List.splitOn_eq_singleton here.2]
  | cons second others induction =>
      obtain ⟨here, later⟩ := List.forall_mem_cons.mp oneLine
      have noBreak : '\n' ∉ first ++ cr := by
        rw [List.mem_append, not_or]
        refine ⟨here.2, ?_⟩
        rcases isCr with rfl | rfl <;> decide
      have whole : first ++ ((second :: others).flatMap fun line => cr ++ '\n' :: line) =
          (first ++ cr) ++ '\n' ::
            (second ++ others.flatMap fun line => cr ++ '\n' :: line) := by simp
      rw [whole, List.splitOn_append_cons_self, List.splitOn_eq_singleton noBreak,
        List.filterMap_append, induction later]
      have entry : [first ++ cr].filterMap lineEntry = [first].filterMap lineEntry := by
        simp only [List.filterMap_cons, lineEntry_return first isCr]
      rw [entry, ← List.filterMap_append, List.singleton_append]

/-- The header lines of a part, whatever line break is between them. -/
theorem partHeaders_lines {nl : Bytes} (isBreak : IsLineBreak nl) {first : List Char}
    {others : List (List Char)} (oneLine : ∀ line ∈ first :: others, OneLine line) :
    partHeaders (utf8Encode (String.ofList first) ++
      (others.map fun line => utf8Encode (String.ofList line)).flatMap fun line => nl ++ line) =
      (first :: others).filterMap lineEntry := by
  obtain ⟨cr, isCr, known⟩ : ∃ cr, (cr = [] ∨ cr = ['\r']) ∧
      nl = utf8Encode (String.ofList (cr ++ ['\n'])) := by
    rcases isBreak with rfl | rfl
    · exact ⟨['\r'], .inr rfl, by rw [utf8Encode_ofList]; rfl⟩
    · exact ⟨[], .inl rfl, by rw [utf8Encode_ofList]; rfl⟩
  have text : utf8Encode (String.ofList first) ++
      ((others.map fun line => utf8Encode (String.ofList line)).flatMap fun line => nl ++ line) =
      utf8Encode (String.ofList (first ++ others.flatMap fun line => cr ++ '\n' :: line)) := by
    simp only [known, utf8Encode_ofList, List.flatMap_append, List.flatMap_map,
      List.flatMap_assoc, List.flatMap_cons, List.flatMap_nil, List.append_assoc, List.nil_append]
  rw [text, partHeaders, decodeReplace, utf8Decode_encode]
  simp only [String.toList_ofList]
  exact filterMap_lines isCr oneLine

/-- The headers of a part as they are read. -/
def Part.entries (part : Part) : Entries :=
  ("content-disposition".toList, dispositionValue part.name part.filename) ::
    part.contentType.toList.map fun type => ("content-type".toList, type.toList)

theorem Part.Valid.filterMap_headerLines {nl : Bytes} {boundary : String} {part : Part}
    (valid : part.Valid nl boundary) : part.headerLines.filterMap lineEntry = part.entries := by
  have disposition (value : List Char) : lineEntry (headerLine "Content-Disposition" value) =
      some ("content-disposition".toList, strip value) := by
    have key : lower (strip "Content-Disposition".toList) = "content-disposition".toList := by
      decide
    rw [lineEntry_headerLine (by decide) (by simp; decide), key]
  have contentType (value : List Char) : lineEntry (headerLine "Content-Type" value) =
      some ("content-type".toList, strip value) := by
    have key : lower (strip "Content-Type".toList) = "content-type".toList := by decide
    rw [lineEntry_headerLine (by decide) (by simp; decide), key]
  rw [Part.headerLines, List.filterMap_cons_some (disposition _),
    strip_dispositionValue part.name valid.filename, Part.entries]
  refine congrArg _ ?_
  cases given : part.contentType with
  | none => rfl
  | some type =>
      have stripped := (valid.typeLine type given).2
      simp only [Option.toList_some, List.map_cons, List.map_nil, List.filterMap_cons,
        contentType, stripped, List.filterMap_nil]

/-! ## Parts read back -/

/-- What the parser gives for a part. -/
def Part.upload (part : Part) : UploadFile where
  name := part.name
  filename := part.filename.text
  contentType := part.contentType.getD (defaultType part.filename.text)
  data := part.data

theorem Part.lastValue_disposition (part : Part) : lastValue part.entries "content-disposition" =
    some (dispositionValue part.name part.filename) := by
  unfold Part.entries
  cases part.contentType <;> simp [lastValue, List.lookup_cons]

theorem Part.lastValue_contentType (part : Part) :
    lastValue part.entries "content-type" = part.contentType.map String.toList := by
  unfold Part.entries
  cases part.contentType <;> simp [lastValue, List.lookup_cons]

/-- A part is read as it was written. -/
theorem parsePart_encode {nl : Bytes} (isBreak : IsLineBreak nl) {boundary : String} {part : Part}
    (valid : part.Valid nl boundary) : parsePart (part.encode nl) nl = .ok part.upload := by
  have lines : part.lineBytes = utf8Encode (String.ofList
      (headerLine "Content-Disposition" (dispositionValue part.name part.filename))) ::
      (part.contentType.toList.map fun type => headerLine "Content-Type" type.toList).map
        fun line => utf8Encode (String.ofList line) := rfl
  have headers : partHeaders _ = part.entries :=
    (partHeaders_lines isBreak valid.oneLine_headerLines).trans valid.filterMap_headerLines
  have name : part.name.toList ≠ [] := fun empty =>
    valid.named (String.toList_eq_nil_iff.mp empty)
  rw [parsePart, headerAndData_encode isBreak valid lines]
  simp only [headers, part.lastValue_disposition, part.lastValue_contentType, Option.getD_some,
    headerParams_disposition part.name valid.filename, filenameOf_given part.name valid.filename,
    lastValue_name]
  cases chars : part.name.toList with
  | nil => exact absurd chars name
  | cons first rest =>
      have texts : (part.contentType.map String.toList).map String.ofList = part.contentType := by
        cases part.contentType <;> simp
      have whole : String.ofList (first :: rest) = part.name := by
        rw [← chars, String.ofList_toList]
      simp only [texts, whole]
      rfl

/-- The parts are added to the form one by one. -/
theorem addParts_encode {nl : Bytes} (isBreak : IsLineBreak nl) {boundary : String}
    {parts : List Part} (valid : ∀ part ∈ parts, part.Valid nl boundary) (form : Form) :
    addParts nl (parts.map (Part.encode nl)) form =
      .ok ((parts.map Part.upload).foldl Form.add form) := by
  induction parts generalizing form with
  | nil => rfl
  | cons part parts induction =>
      obtain ⟨here, later⟩ := List.forall_mem_cons.mp valid
      rw [List.map_cons, addParts, parsePart_encode isBreak here]
      exact induction later _

/-! ## Grouped by name -/

/-- The uploads under one name. -/
def entryOf : List UploadFile → FormEntry
  | [upload] => .one upload
  | uploads => .many uploads

/-- The uploads by name: the names in the order in which they come first, under each its uploads
in order. -/
def grouped (uploads : List UploadFile) : Form :=
  (uploads.map UploadFile.name).eraseDups.map fun name =>
    (name, entryOf (uploads.filter fun upload => upload.name = name))

theorem entryOf_concat {uploads : List UploadFile} (nonempty : uploads ≠ []) (upload : UploadFile) :
    (entryOf uploads).add upload = entryOf (uploads ++ [upload]) := by
  match uploads, nonempty with
  | [only], _ => rfl
  | first :: second :: rest, _ => rfl

/-- An upload under a new name comes last. -/
theorem add_new {form : Form} {upload : UploadFile} (new : upload.name ∉ form.map Prod.fst) :
    form.add upload = form ++ [(upload.name, .one upload)] := by
  induction form with
  | nil => rfl
  | cons entry form induction =>
      obtain ⟨other, later⟩ : upload.name ≠ entry.1 ∧ upload.name ∉ form.map Prod.fst := by
        simpa using new
      rw [Form.add, if_neg other.symm, induction later, List.cons_append]

/-- An upload under a known name goes to it. -/
theorem add_known {names : List String} (nodup : names.Nodup) {upload : UploadFile}
    (known : upload.name ∈ names) (entries : String → FormEntry) :
    Form.add (names.map fun name => (name, entries name)) upload =
      names.map fun name =>
        (name, if name = upload.name then (entries name).add upload else entries name) := by
  induction names with
  | nil => cases known
  | cons name names induction =>
      obtain ⟨notLater, nodupLater⟩ := List.nodup_cons.mp nodup
      rw [List.map_cons, List.map_cons, Form.add]
      by_cases same : name = upload.name
      · subst same
        rw [if_pos rfl, if_pos rfl]
        refine congrArg _ (List.map_congr_left fun other member => ?_)
        have different : other ≠ upload.name := fun equal => notLater (equal ▸ member)
        rw [if_neg different]
      · rw [if_neg same, if_neg same]
        have later : upload.name ∈ names :=
          (List.mem_cons.mp known).resolve_left fun equal => same equal.symm
        exact congrArg _ (induction nodupLater later)

theorem eraseDups_concat_known {names : List String} {name : String} (known : name ∈ names) :
    (names ++ [name]).eraseDups = names.eraseDups := by
  rw [List.eraseDups_append]
  simp [List.removeAll, known]

theorem eraseDups_concat_new {names : List String} {name : String} (new : name ∉ names) :
    (names ++ [name]).eraseDups = names.eraseDups ++ [name] := by
  rw [List.eraseDups_append]
  simp [List.removeAll, new, List.eraseDups_cons]

theorem eraseDups_spec (names : List String) :
    names.eraseDups.Nodup ∧ ∀ name, name ∈ names.eraseDups ↔ name ∈ names := by
  induction names using List.reverseRecOn with
  | nil => simp
  | append_singleton names last induction =>
      obtain ⟨nodup, same⟩ := induction
      by_cases known : last ∈ names
      · rw [eraseDups_concat_known known]
        refine ⟨nodup, fun name => ?_⟩
        rw [same, List.mem_append, List.mem_singleton]
        constructor
        · exact .inl
        · rintro (earlier | rfl)
          · exact earlier
          · exact known
      · rw [eraseDups_concat_new known]
        refine ⟨?_, fun name => ?_⟩
        · rw [List.nodup_append]
          refine ⟨nodup, List.nodup_singleton last, ?_⟩
          rintro name earlier other later equal
          obtain rfl := List.mem_singleton.mp later
          exact known ((same other).mp (equal ▸ earlier))
        · rw [List.mem_append, List.mem_append, same]

/-- One more upload. -/
theorem grouped_concat (uploads : List UploadFile) (upload : UploadFile) :
    Form.add (grouped uploads) upload = grouped (uploads ++ [upload]) := by
  obtain ⟨nodup, members⟩ := eraseDups_spec (uploads.map UploadFile.name)
  by_cases known : upload.name ∈ uploads.map UploadFile.name
  · have nonempty : (uploads.filter fun other => other.name = upload.name) ≠ [] := by
      obtain ⟨other, member, same⟩ := List.mem_map.mp known
      exact List.ne_nil_of_mem (List.mem_filter.mpr ⟨member, decide_eq_true same⟩)
    rw [grouped, add_known nodup ((members _).mpr known), grouped, List.map_append, List.map_cons,
      List.map_nil, eraseDups_concat_known known]
    refine List.map_congr_left fun name _ => ?_
    rw [List.filter_append]
    by_cases same : name = upload.name
    · subst same
      rw [if_pos rfl, entryOf_concat nonempty]
      simp
    · rw [if_neg same]
      simp [Ne.symm same]
  · have new : upload.name ∉ (grouped uploads).map Prod.fst := by
      rw [grouped, List.map_map]
      have keys : (Prod.fst ∘ fun name : String =>
          (name, entryOf (uploads.filter fun upload => upload.name = name))) = id := rfl
      rw [keys, List.map_id]
      exact fun member => known ((members _).mp member)
    have none : uploads.filter (fun other => other.name = upload.name) = [] := by
      refine List.filter_eq_nil_iff.mpr fun other member same => known ?_
      exact List.mem_map.mpr ⟨other, member, decide_eq_true_eq.mp same⟩
    have others : ∀ name ∈ (uploads.map UploadFile.name).eraseDups,
        (name, entryOf (uploads.filter fun other => other.name = name)) =
          (name, entryOf ((uploads ++ [upload]).filter fun other => other.name = name)) := by
      intro name member
      have different : upload.name ≠ name := fun same => known ((members _).mp (same ▸ member))
      simp [List.filter_append, different]
    rw [add_new new, grouped, grouped, List.map_append, List.map_cons, List.map_nil,
      eraseDups_concat_new known, List.map_append, List.map_congr_left others]
    simp [List.filter_append, none, entryOf]

/-- A form holds every upload under its name. -/
theorem foldl_add (uploads : List UploadFile) : uploads.foldl Form.add [] = grouped uploads := by
  induction uploads using List.reverseRecOn with
  | nil => rfl
  | append_singleton uploads upload induction =>
      rw [List.foldl_append, induction]
      exact grouped_concat uploads upload

/-! ## Forms read back -/

theorem parseBody_encodeParts {nl : Bytes} (isBreak : IsLineBreak nl) {boundary : String}
    (line : OneLine boundary.toList) {parts : List Part}
    (valid : ∀ part ∈ parts, part.Valid nl boundary) (epilogue : Bytes) :
    parseBody boundary (encodeParts nl boundary parts ++ epilogue) =
      .ok (grouped (parts.map Part.upload)) := by
  cases parts with
  | nil =>
      obtain ⟨mark, rest, isLf, frames⟩ := IsLineBreak.frames (.inr rfl) line
      have told := lineBreak_encodeParts_nil nl boundary epilogue
      have split : splitParts (encodeParts nl boundary [] ++ epilogue) boundary lf = .ok [] := by
        have none : ∀ part ∈ ([] : List Part), part.Valid (mark :: rest) boundary := by simp
        rw [isLf]
        exact splitParts_encodeParts frames none epilogue
      simp only [parseBody, told, split, bind, Except.bind]
      rfl
  | cons part parts =>
      have told := lineBreak_encodeParts isBreak boundary part parts epilogue
      have split : splitParts (encodeParts nl boundary (part :: parts) ++ epilogue) boundary nl =
          .ok ((part :: parts).map (Part.encode nl)) := by
        obtain ⟨mark, rest, rfl, frames⟩ := isBreak.frames line
        exact splitParts_encodeParts frames valid epilogue
      simp only [parseBody, told, split, bind, Except.bind, addParts_encode isBreak valid,
        foldl_add]

/-- A form is read back as the parts it was written from, grouped by name, whatever follows the
closing delimiter; what is cut off before the closing delimiter is complete is refused. -/
theorem multipart_round_trip {boundary : String} (nonempty : boundary ≠ "")
    (line : OneLine boundary.toList) {nl : Bytes} (isBreak : IsLineBreak nl) {parts : List Part}
    (valid : ∀ part ∈ parts, part.Valid nl boundary) {headers : RequestHeaders}
    {value : List Char} (isValue : IsBoundaryValue boundary value)
    (sent : headers.getAll "content-type" = [utf8Encode (formContentType value)])
    (epilogue : Bytes) :
    (∀ body : RawBody, body.encoded = encodeParts nl boundary parts ++ epilogue →
      parseMultipart ⟨headers, some body⟩ = .ok (grouped (parts.map Part.upload))) ∧
    ∀ body : RawBody, body.encoded <+: encodeParts nl boundary parts ++ epilogue →
      ¬ encodeParts nl boundary parts <+: body.encoded →
      ∃ error, parseMultipart ⟨headers, some body⟩ = .error error := by
  have read (body : RawBody) : parseMultipart ⟨headers, some body⟩ =
      parseBody boundary body.encoded := by
    simp only [parseMultipart, joinedValue_one sent, Option.getD_some,
      boundaryOf_formContentType nonempty isValue, bind, Except.bind]
  refine ⟨fun body whole => ?_, fun body cutOff unclosed => ?_⟩
  · rw [read, whole]
    exact parseBody_encodeParts isBreak line valid epilogue
  · have either := List.prefix_or_prefix_of_prefix cutOff (List.prefix_append _ epilogue)
    have within : body.encoded <+: encodeParts nl boundary parts := either.resolve_right unclosed
    have proper : body.encoded ≠ encodeParts nl boundary parts := fun same =>
      unclosed (same ▸ List.prefix_rfl)
    rw [read]
    exact parseBody_of_cutOff isBreak line valid within proper

theorem multipart_round_trip_names :
    let parts : List Part :=
      [⟨"a;\"b\\", .quotedString "c=\"d", some "text/x", [13, 10, 10, 45, 45, 88]⟩,
        ⟨"f", .extValue "\u00e9" (['U', 'T', 'F', '-', '8', '\x27', '\x27'] ++
          ['%', 'c', '3', '%', 'A', '9']), none, []⟩,
        ⟨"a;\"b\\", .absent, none, [13, 10]⟩]
    let headers : RequestHeaders :=
      [("Content-Type", utf8Encode (formContentType (quoted ['X'])))]
    parseMultipart ⟨headers, some (.bytes (encodeParts crlf "X" parts ++ [13, 10]))⟩ =
        .ok [("a;\"b\\", .many
            [⟨"a;\"b\\", some "c=\"d", "text/x", [13, 10, 10, 45, 45, 88]⟩,
              ⟨"a;\"b\\", none, "text/plain", [13, 10]⟩]),
          ("f", .one ⟨"f", some "\u00e9", "application/octet-stream", []⟩)] ∧
      ∃ error, parseMultipart ⟨headers, some (.bytes (encodeParts crlf "X" parts).dropLast)⟩ =
        .error error := by
  intro parts headers
  have ext : IsExtValue (['U', 'T', 'F', '-', '8', '\x27', '\x27'] ++
      ['%', 'c', '3', '%', 'A', '9']) "\u00e9" := by
    refine ⟨['U', 'T', 'F', '-', '8'], [], ['%', 'c', '3', '%', 'A', '9'],
      ⟨'U', 'T', 'F', .inr rfl, .inr rfl, .inr rfl, rfl⟩, by simp, ?_, rfl⟩
    exact .percent (by decide) (by decide) (.percent (by decide) (by decide) .nil)
  have line (text : String) (clear : text.toList.all (fun c => c ≠ '\r' ∧ c ≠ '\n') = true) :
      OneLine text.toList := oneLine_of_all clear
  have type : ∀ type ∈ some "text/x", OneLine type.toList ∧ strip type.toList = type.toList := by
    rintro type ⟨rfl⟩
    exact ⟨line _ (by decide), by decide⟩
  have valid : ∀ part ∈ parts, part.Valid crlf "X" := by
    refine List.forall_mem_cons.mpr ⟨?_, List.forall_mem_cons.mpr ⟨?_,
      List.forall_mem_singleton.mpr ?_⟩⟩
    · exact ⟨by decide, line _ (by decide), line _ (by decide), type, by decide⟩
    · exact ⟨by decide, line _ (by decide), ext, by simp, by decide⟩
    · exact ⟨by decide, line _ (by decide), trivial, by simp, by decide⟩
  have read := multipart_round_trip (by decide) (line _ (by decide)) (.inl rfl) valid .quotedString
    (rfl : headers.getAll "content-type" = _) [13, 10]
  have unclosed : ¬ encodeParts crlf "X" parts <+: (encodeParts crlf "X" parts).dropLast := by
    intro whole
    have length := whole.length_le
    rw [List.length_dropLast] at length
    simp only [encodeParts, dashBoundary, dashes, List.length_append, List.length_cons] at length
    omega
  refine ⟨(read.1 (.bytes _) rfl).trans ?_, read.2 (.bytes _) ?_ unclosed⟩
  · decide
  · exact (List.dropLast_prefix _).trans (List.prefix_append _ _)

end Uploads

end Pyronova
