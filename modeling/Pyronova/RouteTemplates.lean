import Mathlib.Data.List.TakeWhile
import Mathlib.Tactic
import Pyronova.Router

/-!
# Route templates

A template is literal text, with its braces doubled, around parameters, and at its end it may have a
parameter for the rest of the path.  The scan that the table makes of a path reads the parameters of
every template back, and ends on any path.
-/

namespace Pyronova

/-! ## Templates -/

/-- The name of a parameter. -/
structure ParamName where
  text : List Char
  nonempty : text ≠ []
  plain : ∀ c ∈ text, c ≠ '\x7b' ∧ c ≠ '\x7d' ∧ c ≠ '/'
  noStar : text.head? ≠ some '*'

/-- Literal text a character at a time, or a parameter. -/
inductive TemplatePiece
  | literal (c : Char)
  | param (name : ParamName)

/-- Pieces, and a catch-all at the end. -/
structure Template where
  pieces : List TemplatePiece
  catchAll : Option ParamName

namespace TemplatePiece

def render : TemplatePiece → List Char
  | literal c => if c = '\x7b' ∨ c = '\x7d' then [c, c] else [c]
  | param name => '\x7b' :: name.text ++ ['\x7d']

def name : TemplatePiece → Option ParamName
  | literal _ => none
  | param name => some name

end TemplatePiece

namespace Template

def render (template : Template) : List Char :=
  template.pieces.flatMap TemplatePiece.render ++
    match template.catchAll with
    | some name => '\x7b' :: '*' :: name.text ++ ['\x7d']
    | none => []

/-- The names of the parameters, in order. -/
def names (template : Template) : List ParamName :=
  template.pieces.filterMap TemplatePiece.name ++ template.catchAll.toList

end Template

/-- A segment that another framework would read as a parameter. -/
def IsColonSegment (segment : List Char) : Prop :=
  ∃ first rest, segment = ':' :: first :: rest ∧ (first.isAlpha = true ∨ first = '_')

/-! ## The scan -/

/-- What one turn of the scan finds, with what is left of the path. -/
inductive ScanTurn
  | done
  | escaped (rest : List Char)
  | param (name rest : List Char)

/-- A parameter up to its closing brace, if there is one. -/
def scanParam (after : List Char) : ScanTurn :=
  match after.dropWhile (· != '\x7d') with
  | [] => .done
  | _ :: rest =>
      let name := after.takeWhile (· != '\x7d')
      .param (if name.head? = some '*' then name.tail else name) rest

/-- One turn: to the next opening brace, and past it. -/
def scanTurn (rest : List Char) : ScanTurn :=
  match rest.dropWhile (· != '\x7b') with
  | [] => .done
  | _ :: after => if after.head? = some '\x7b' then .escaped after.tail else scanParam after

/-- The loop, given how many turns it may take. -/
def scanLoop : Nat → List Char → List (List Char) → Option (List (List Char))
  | 0, _, _ => none
  | turns + 1, rest, names =>
      match scanTurn rest with
      | .done => some names
      | .escaped rest => scanLoop turns rest names
      | .param name rest => scanLoop turns rest (names ++ [name])

theorem paramNames_plain {c : Char} (other : c ≠ '\x7b') (rest : List Char) :
    paramNames (c :: rest) = paramNames rest := by
  rw [paramNames]
  · rintro rest rfl
    exact absurd rfl other
  · rintro rfl
    exact absurd rfl other

theorem paramNames_escaped (rest : List Char) :
    paramNames ('\x7b' :: '\x7b' :: rest) = paramNames rest := by
  rw [paramNames]

/-- A brace that is not doubled. -/
theorem paramNames_open {after : List Char} (single : after.head? ≠ some '\x7b') :
    paramNames ('\x7b' :: after) =
      match after.dropWhile (· != '\x7d') with
      | [] => []
      | _ :: rest =>
          let name := after.takeWhile (· != '\x7d')
          (if name.head? = some '*' then name.tail else name) :: paramNames rest := by
  rw [paramNames]
  · split
    · rename_i closed
      simp only [closed]
    · rename_i closed
      simp only [closed]
  · rintro rest rfl
    exact single rfl

/-- A parameter whose name holds no brace. -/
theorem paramNames_param {name : List Char} (nonempty : name ≠ [])
    (plain : ∀ c ∈ name, c ≠ '\x7b' ∧ c ≠ '\x7d') (rest : List Char) :
    paramNames ('\x7b' :: name ++ '\x7d' :: rest) =
      (if name.head? = some '*' then name.tail else name) :: paramNames rest := by
  have single : (name ++ '\x7d' :: rest).head? ≠ some '\x7b' := by
    cases name with
    | nil => contradiction
    | cons first name =>
        rw [List.cons_append, List.head?_cons]
        exact fun same => (plain first (by simp)).1 (Option.some.inj same)
  have inside : ∀ c ∈ name, (c != '\x7d') = true := fun c member => by
    simpa using (plain c member).2
  have left : ('\x7d' :: rest).dropWhile (· != '\x7d') = '\x7d' :: rest :=
    List.dropWhile_cons_of_neg (by decide)
  have none : ('\x7d' :: rest).takeWhile (· != '\x7d') = [] :=
    List.takeWhile_cons_of_neg (by decide)
  rw [List.cons_append, paramNames_open single, List.dropWhile_append_of_pos inside,
    List.takeWhile_append_of_pos inside, left, none, List.append_nil]

/-! ## A template's names -/

theorem TemplatePiece.paramNames_render (piece : TemplatePiece) (rest : List Char) :
    paramNames (piece.render ++ rest) =
      (piece.name.map ParamName.text).toList ++ paramNames rest := by
  cases piece with
  | literal c =>
      rw [TemplatePiece.render]
      by_cases opens : c = '\x7b'
      · rw [if_pos (.inl opens), opens]
        exact paramNames_escaped rest
      by_cases closes : c = '\x7d'
      · rw [if_pos (.inr closes), closes]
        exact (paramNames_plain (by decide) _).trans (paramNames_plain (by decide) _)
      · rw [if_neg (by simp [opens, closes])]
        exact paramNames_plain opens rest
  | param name =>
      have plain : ∀ c ∈ name.text, c ≠ '\x7b' ∧ c ≠ '\x7d' :=
        fun c member => ⟨(name.plain c member).1, (name.plain c member).2.1⟩
      have read := paramNames_param name.nonempty plain rest
      rw [if_neg name.noStar] at read
      rw [TemplatePiece.render, List.append_assoc, List.singleton_append, read]
      rfl

/-- The scan reads the names of a template in order. -/
theorem Template.paramNames_render (template : Template) :
    paramNames template.render = template.names.map ParamName.text := by
  obtain ⟨pieces, catchAll⟩ := template
  rw [Template.render, Template.names]
  induction pieces with
  | nil =>
      cases catchAll with
      | none => simp [paramNames]
      | some name =>
          have plain : ∀ c ∈ '*' :: name.text, c ≠ '\x7b' ∧ c ≠ '\x7d' := by
            intro c member
            rcases List.mem_cons.mp member with rfl | member
            · decide
            · exact ⟨(name.plain c member).1, (name.plain c member).2.1⟩
          have read := paramNames_param (List.cons_ne_nil _ _) plain []
          simpa [paramNames] using read
  | cons piece pieces induction =>
      rw [List.flatMap_cons, List.append_assoc, TemplatePiece.paramNames_render, induction]
      cases piece <;> rfl

/-! ## Segments -/

theorem colonParam_isSome {segment : List Char} :
    (colonParam segment).isSome = true ↔ IsColonSegment segment := by
  constructor
  · intro named
    unfold colonParam at named
    split at named
    · rename_i first rest
      split at named
      · rename_i starts
        exact ⟨first, rest, rfl, starts⟩
      · cases named
    · cases named
  · rintro ⟨first, rest, rfl, starts⟩
    rw [colonParam, if_pos starts]
    rfl

/-- The error is for a colon segment, wherever it stands. -/
theorem templateParams_colon_iff (path : String) :
    (∃ name, templateParams path = .error (.colonParam name)) ↔
      ∃ segment ∈ path.toList.splitOn '/', IsColonSegment segment := by
  have found : ((path.toList.splitOn '/').findSome? colonParam).isSome = true ↔
      ∃ segment ∈ path.toList.splitOn '/', IsColonSegment segment := by
    simp only [List.isSome_findSome?, List.any_eq_true, colonParam_isSome]
  rw [← found, templateParams]
  cases (path.toList.splitOn '/').findSome? colonParam <;> simp

theorem templateParams_of_plain {path : String}
    (plain : ∀ segment ∈ path.toList.splitOn '/', ¬ IsColonSegment segment) :
    templateParams path = .ok ((paramNames path.toList).map String.ofList) := by
  have none : (path.toList.splitOn '/').findSome? colonParam = none := by
    rw [List.findSome?_eq_none_iff]
    intro segment member
    rw [← Option.not_isSome_iff_eq_none, colonParam_isSome]
    exact plain segment member
  rw [templateParams, none]

/-! ## The scan ends -/

theorem paramNames_append_plain {front : List Char} (plain : ∀ c ∈ front, c ≠ '\x7b')
    (rest : List Char) : paramNames (front ++ rest) = paramNames rest := by
  induction front with
  | nil => rfl
  | cons c front induction =>
      rw [List.cons_append, paramNames_plain (plain c (by simp)),
        induction fun other member => plain other (by simp [member])]

/-- What a turn reads is what the recursion reads, and it leaves less of the path. -/
def ReadsAs (rest : List Char) : ScanTurn → Prop
  | .done => paramNames rest = []
  | .escaped left => paramNames rest = paramNames left ∧ left.length < rest.length
  | .param name left => paramNames rest = name :: paramNames left ∧ left.length < rest.length

theorem readsAs_scanParam {after : List Char} (single : after.head? ≠ some '\x7b') :
    ReadsAs ('\x7b' :: after) (scanParam after) := by
  have read := paramNames_open single
  have length : (after.dropWhile (· != '\x7d')).length ≤ after.length :=
    (List.dropWhile_suffix _).length_le
  rw [scanParam]
  cases closes : after.dropWhile (· != '\x7d') with
  | nil =>
      rw [closes] at read
      exact read
  | cons brace rest =>
      rw [closes] at read length
      refine ⟨read, ?_⟩
      rw [List.length_cons] at length ⊢
      omega

theorem readsAs_scanTurn (rest : List Char) : ReadsAs rest (scanTurn rest) := by
  have front : ∀ c ∈ rest.takeWhile (· != '\x7b'), c ≠ '\x7b' := by
    intro c member
    simpa using List.mem_takeWhile_imp member
  have read : paramNames rest = paramNames (rest.dropWhile (· != '\x7b')) := by
    conv_lhs => rw [← List.takeWhile_append_dropWhile (p := (· != '\x7b')) (l := rest)]
    exact paramNames_append_plain front _
  have length : (rest.dropWhile (· != '\x7b')).length ≤ rest.length :=
    (List.dropWhile_suffix _).length_le
  -- the front without braces reads nothing
  have skip {turn : ScanTurn} (reads : ReadsAs (rest.dropWhile (· != '\x7b')) turn) :
      ReadsAs rest turn := by
    cases turn with
    | done => exact read.trans reads
    | escaped left => exact ⟨read.trans reads.1, reads.2.trans_le length⟩
    | param name left => exact ⟨read.trans reads.1, reads.2.trans_le length⟩
  apply skip
  rw [scanTurn]
  have stops := List.head?_dropWhile_not (· != '\x7b') rest
  cases opens : rest.dropWhile (· != '\x7b') with
  | nil => simp [ReadsAs, paramNames]
  | cons brace after =>
      rw [opens] at stops
      obtain rfl : brace = '\x7b' := by simpa using stops
      simp only
      split
      · rename_i escaped
        obtain ⟨left, rfl⟩ := List.head?_eq_some_iff.mp escaped
        exact ⟨paramNames_escaped left, by simp⟩
      · rename_i single
        exact readsAs_scanParam single

/-- The loop reads what the recursion reads, in at most one turn for each character and one more. -/
theorem scanLoop_eq (rest : List Char) (names : List (List Char)) {turns : Nat}
    (enough : rest.length < turns) :
    scanLoop turns rest names = some (names ++ paramNames rest) := by
  induction turns generalizing rest names with
  | zero => omega
  | succ turns induction =>
      have turn := readsAs_scanTurn rest
      rw [scanLoop]
      cases reads : scanTurn rest with
      | done =>
          rw [reads] at turn
          rw [turn, List.append_nil]
      | escaped left =>
          rw [reads] at turn
          obtain ⟨same, shorter⟩ := turn
          rw [same, ← induction left names (by omega)]
      | param name left =>
          rw [reads] at turn
          obtain ⟨same, shorter⟩ := turn
          simp only [induction left (names ++ [name]) (by omega), same, List.append_assoc,
            List.singleton_append]

/-- A template's names are read back in order; on any path the scan ends, and the error is for a
colon segment. -/
theorem templateParams_correct :
    (∀ template : Template,
      (∀ segment ∈ template.render.splitOn '/', ¬ IsColonSegment segment) →
        templateParams (String.ofList template.render) =
          .ok (template.names.map fun name => String.ofList name.text)) ∧
      ∀ path : String,
        scanLoop (path.toList.length + 1) path.toList [] = some (paramNames path.toList) ∧
          ((∃ name, templateParams path = .error (.colonParam name)) ↔
            ∃ segment ∈ path.toList.splitOn '/', IsColonSegment segment) := by
  refine ⟨?_, fun path => ⟨?_, templateParams_colon_iff path⟩⟩
  · intro template plain
    have own : (String.ofList template.render).toList = template.render := String.toList_ofList
    rw [templateParams_of_plain (own.symm ▸ plain), own, template.paramNames_render, List.map_map]
    rfl
  · exact scanLoop_eq path.toList [] (Nat.lt_succ_self _)

/-- A braced parameter between literal braces, one with a prefix and a suffix, and a catch-all. -/
def sampleTemplate : Template where
  pieces :=
    "/\x7b".toList.map .literal ++
      [.param ⟨"id".toList, by decide, by simp, by decide⟩] ++
      "\x7d/img".toList.map .literal ++
      [.param ⟨"n".toList, by decide, by simp, by decide⟩] ++ ".png/".toList.map .literal
  catchAll := some ⟨"rest".toList, by decide, by simp, by decide⟩

theorem templateParams_sampleTemplate :
    String.ofList sampleTemplate.render =
        "/\x7b\x7b\x7bid\x7d\x7d\x7d/img\x7bn\x7d.png/\x7b*rest\x7d" ∧
      templateParams (String.ofList sampleTemplate.render) = .ok ["id", "n", "rest"] := by
  refine ⟨by decide, templateParams_correct.1 sampleTemplate ?_⟩
  have plain : (sampleTemplate.render.splitOn '/').all (fun segment =>
      !(colonParam segment).isSome) = true := by decide
  intro segment member colon
  have free := List.all_eq_true.mp plain segment member
  rw [colonParam_isSome.mpr colon] at free
  cases free

end Pyronova
