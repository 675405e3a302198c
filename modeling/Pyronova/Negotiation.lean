import Mathlib.Tactic
import Pyronova.Compression

/-!
# What a client accepts

A client lists codings with weights, and the server takes the first of its own that the list
accepts: one named with a positive weight, or one that no element names where `*` has a positive
weight.  The server keeps the greatest weight of each coding in one number and reads a negative
one as not listed, so a coding named with negative weights or NaNs only is left to `*`.
-/

namespace Pyronova

/-! ## Weights -/

namespace F32

/-- A weight as it counts: a negative one and a NaN are 0. -/
def counted : F32 → WithBot (WithTop ℚ)
  | none => 0
  | some weight => Max.max weight 0

/-- A weight that lists a coding in the eyes of the server: not negative, and not a NaN. -/
def atLeastZero (weight : F32) : Bool := weight.isSome && !weight.lt (ofRat 0)

@[simp] theorem counted_none : counted none = 0 := rfl

@[simp] theorem counted_some (weight : WithBot (WithTop ℚ)) :
    counted (some weight) = Max.max weight 0 := rfl

@[simp] theorem atLeastZero_none : atLeastZero none = false := rfl

@[simp] theorem atLeastZero_some (weight : WithBot (WithTop ℚ)) :
    atLeastZero (some weight) = !decide (weight < 0) := rfl

theorem ofRat_zero : ofRat 0 = some 0 := rfl

theorem zero_lt_counted (weight : F32) : 0 < weight.counted ↔ (ofRat 0).lt weight = true := by
  cases weight with
  | none => simp [ofRat_zero]
  | some weight => simp [ofRat_zero]

theorem atLeastZero_of_zero_lt {weight : F32} (positive : (ofRat 0).lt weight = true) :
    weight.atLeastZero = true := by
  cases weight with
  | none => cases positive
  | some weight =>
      have above : (0 : WithBot (WithTop ℚ)) < weight := of_decide_eq_true positive
      simp [above.le]

theorem zero_lt_max (left right : F32) :
    (ofRat 0).lt (left.max right) = ((ofRat 0).lt left || (ofRat 0).lt right) := by
  cases left <;> cases right <;> simp [ofRat_zero]

theorem max_lt_zero {left right : F32} (number : left.isSome = true) :
    (left.max right).lt (ofRat 0) = (left.lt (ofRat 0) && !right.atLeastZero) := by
  cases left with
  | none => cases number
  | some left => cases right <;> simp [ofRat_zero]

theorem isSome_max {left : F32} (right : F32) (number : left.isSome = true) :
    (left.max right).isSome = true := by
  cases left with
  | none => cases number
  | some left => cases right <;> rfl

/-- The greatest weight is positive when one is. -/
theorem zero_lt_foldl_max (weights : List F32) (start : F32) :
    (ofRat 0).lt (weights.foldl F32.max start) =
      ((ofRat 0).lt start || weights.any (ofRat 0).lt) := by
  induction weights generalizing start with
  | nil => simp
  | cons weight weights induction =>
      rw [List.foldl_cons, induction, zero_lt_max, List.any_cons, Bool.or_assoc]

/-- The greatest weight is negative when no number among them is at least 0. -/
theorem foldl_max_lt_zero (weights : List F32) {start : F32} (number : start.isSome = true) :
    (weights.foldl F32.max start).lt (ofRat 0) =
      (start.lt (ofRat 0) && !weights.any atLeastZero) := by
  induction weights generalizing start with
  | nil => simp
  | cons weight weights induction =>
      rw [List.foldl_cons, induction (isSome_max weight number), max_lt_zero number, List.any_cons,
        Bool.not_or, Bool.and_assoc]

end F32

/-! ## Elements -/

/-- What an element of the list names: a coding, or any. -/
inductive Named
  | coding (coding : Coding)
  | any
  deriving DecidableEq, Repr

/-- The element's name is one for `named`; `x-gzip` is `gzip`. -/
def Named.by (named : Named) (name : List Char) : Bool :=
  match named with
  | .coding .brotli => eqIgnoreAsciiCase name "br".toList
  | .coding .gzip =>
      eqIgnoreAsciiCase name "gzip".toList || eqIgnoreAsciiCase name "x-gzip".toList
  | .any => name == "*".toList

section Listing

variable (parseF32 : List Char → Option F32)

/-- The names and weights of an `Accept-Encoding` text. -/
def listing (acceptEncoding : List Char) : List (List Char × F32) :=
  (acceptEncoding.elements ',' isWhitespace).map (nameAndWeight parseF32)

end Listing

/-- The weights that a listing gives. -/
def weightsFor (named : Named) (listed : List (List Char × F32)) : List F32 :=
  (listed.filter fun element => named.by element.1).map Prod.snd

/-- Some element names it. -/
def names (listed : List (List Char × F32)) (named : Named) : Bool :=
  listed.any fun element => named.by element.1

/-- Some element gives it a positive weight. -/
def grants (listed : List (List Char × F32)) (named : Named) : Bool :=
  listed.any fun element => named.by element.1 && decide (0 < element.2.counted)

/-- Some element gives it a weight of 0 or more. -/
def weighs (listed : List (List Char × F32)) (named : Named) : Bool :=
  listed.any fun element => named.by element.1 && element.2.atLeastZero

/-- The listing accepts the coding. -/
def acceptable (listed : List (List Char × F32)) (coding : Coding) : Bool :=
  grants listed (.coding coding) || !names listed (.coding coding) && grants listed .any

/-- The first coding of the server's that is allowed and accepted. -/
def preferred (allowed : Algos) (accepted : Coding → Bool) : Option Coding :=
  if allowed.hasBrotli && accepted .brotli then some .brotli
  else if allowed.hasGzip && accepted .gzip then some .gzip
  else none

/-! ## The server's choice -/

/-- The coding by the server's numbers: one listed with negative weights or NaNs only is left to
`*`, as one that is not listed. -/
def accepted (listed : List (List Char × F32)) (coding : Coding) : Bool :=
  grants listed (.coding coding) || !weighs listed (.coding coding) && grants listed .any

/-- The client names the coding, with negative weights or NaNs only, and `*` with a positive one. -/
def overridden (listed : List (List Char × F32)) (coding : Coding) : Bool :=
  names listed (.coding coding) && !weighs listed (.coding coding) && grants listed .any

section Choice

variable {listed : List (List Char × F32)} {named : Named} {coding : Coding}

theorem any_weightsFor (test : F32 → Bool) :
    (weightsFor named listed).any test =
      listed.any fun element => named.by element.1 && test element.2 := by
  rw [weightsFor, List.any_map, List.any_filter]
  rfl

theorem grants_eq_any (listed : List (List Char × F32)) (named : Named) :
    grants listed named = (weightsFor named listed).any (F32.ofRat 0).lt := by
  rw [any_weightsFor, grants]
  congr 1
  funext element
  congr 1
  rw [Bool.eq_iff_iff, decide_eq_true_iff]
  exact F32.zero_lt_counted element.2

theorem names_of_weighs (weighing : weighs listed named = true) : names listed named = true := by
  obtain ⟨element, member, own⟩ := List.any_eq_true.mp weighing
  exact List.any_eq_true.mpr ⟨element, member, (Bool.and_eq_true_iff.mp own).1⟩

theorem weighs_of_grants (granted : grants listed named = true) : weighs listed named = true := by
  obtain ⟨element, member, own⟩ := List.any_eq_true.mp granted
  obtain ⟨name, positive⟩ := Bool.and_eq_true_iff.mp own
  have listing : element.2.atLeastZero = true :=
    F32.atLeastZero_of_zero_lt ((F32.zero_lt_counted element.2).mp (of_decide_eq_true positive))
  exact List.any_eq_true.mpr ⟨element, member, Bool.and_eq_true_iff.mpr ⟨name, listing⟩⟩

/-- The two ways to accept a coding differ where `*` overrides a refusal. -/
theorem accepted_eq_acceptable (listed : List (List Char × F32)) (coding : Coding) :
    accepted listed coding = (acceptable listed coding || overridden listed coding) := by
  have named := @names_of_weighs listed (.coding coding)
  rw [accepted, acceptable, overridden]
  revert named
  cases names listed (.coding coding) <;> cases weighs listed (.coding coding) <;> simp

/-- What `*` overrides is not acceptable. -/
theorem acceptable_of_overridden (override : overridden listed coding = true) :
    acceptable listed coding = false := by
  have weighing := @weighs_of_grants listed (.coding coding)
  revert weighing override
  rw [overridden, acceptable]
  cases names listed (.coding coding) <;> cases weighs listed (.coding coding) <;> simp

theorem by_gzip_of_brotli {name : List Char} (brotli : (Named.coding .brotli).by name = true) :
    (Named.coding .gzip).by name = false := by
  have lowered : name.map Char.toLower = "br".toList := eq_of_beq brotli
  simp only [Named.by, eqIgnoreAsciiCase, lowered]
  decide

theorem by_any_of_coding {name : List Char} (own : (Named.coding coding).by name = true) :
    Named.any.by name = false := by
  by_contra star
  obtain rfl : name = "*".toList := eq_of_beq (Bool.eq_true_of_not_eq_false star)
  cases coding <;> revert own <;> decide

end Choice

variable {parseF32 : List Char → Option F32}

theorem Weights.read_of_nil {weights : Weights} {raw : List Char} (blank : trim raw = []) :
    weights.read parseF32 raw = weights := by
  rw [Weights.read]
  exact if_pos blank

/-- An element goes to the weights of what it names. -/
theorem Weights.read_eq {weights : Weights} {raw : List Char} (element : trim raw ≠ []) :
    weights.read parseF32 raw =
      let listed := [nameAndWeight parseF32 (trim raw)]
      { br := (weightsFor (.coding .brotli) listed).foldl F32.max weights.br
        gz := (weightsFor (.coding .gzip) listed).foldl F32.max weights.gz
        star := (weightsFor .any listed).foldl F32.max weights.star } := by
  rw [Weights.read]
  simp only [if_neg element]
  generalize nameAndWeight parseF32 (trim raw) = named
  obtain ⟨name, weight⟩ := named
  by_cases brotli : (Named.coding .brotli).by name = true
  · have gzip := by_gzip_of_brotli brotli
    have any := by_any_of_coding brotli
    refine (if_pos brotli).trans ?_
    simp [weightsFor, brotli, gzip, any]
  refine (if_neg brotli).trans ?_
  by_cases gzip : (Named.coding .gzip).by name = true
  · have any := by_any_of_coding gzip
    refine (if_pos gzip).trans ?_
    simp [weightsFor, brotli, gzip, any]
  refine (if_neg gzip).trans ?_
  by_cases any : Named.any.by name = true
  · refine (if_pos (eq_of_beq any)).trans ?_
    simp [weightsFor, brotli, gzip, any]
  · refine (if_neg fun star => any (beq_iff_eq.mpr star)).trans ?_
    simp [weightsFor, brotli, gzip, any]

theorem weightsFor_append (named : Named) (front back : List (List Char × F32)) :
    weightsFor named (front ++ back) = weightsFor named front ++ weightsFor named back := by
  simp only [weightsFor, List.filter_append, List.map_append]

/-- The loop keeps the greatest weight of each. -/
theorem foldl_read (parts : List (List Char)) (weights : Weights) :
    parts.foldl (Weights.read parseF32) weights =
      let listed :=
        ((parts.map trim).filter fun part => part ≠ []).map (nameAndWeight parseF32)
      { br := (weightsFor (.coding .brotli) listed).foldl F32.max weights.br
        gz := (weightsFor (.coding .gzip) listed).foldl F32.max weights.gz
        star := (weightsFor .any listed).foldl F32.max weights.star } := by
  induction parts generalizing weights with
  | nil => rfl
  | cons raw parts induction =>
      rw [List.foldl_cons, induction]
      by_cases blank : trim raw = []
      · rw [Weights.read_of_nil blank]
        simp [blank]
      · rw [Weights.read_eq blank]
        have listed : (((raw :: parts).map trim).filter fun part => part ≠ []).map
              (nameAndWeight parseF32) =
            [nameAndWeight parseF32 (trim raw)] ++
              ((parts.map trim).filter fun part => part ≠ []).map (nameAndWeight parseF32) := by
          simp [blank]
        simp only [listed, weightsFor_append, List.foldl_append]

/-- The server's choice is the one preferred among those it accepts. -/
theorem negotiate_eq_preferred (acceptEncoding : List Char) (allowed : Algos) :
    negotiate parseF32 acceptEncoding allowed =
      preferred allowed (accepted (listing parseF32 acceptEncoding)) := by
  have chosen (coding : Coding) : (F32.ofRat 0).lt
      (if ((weightsFor (.coding coding) (listing parseF32 acceptEncoding)).foldl F32.max
          (F32.ofRat (-1))).lt (F32.ofRat 0) then
        (weightsFor .any (listing parseF32 acceptEncoding)).foldl F32.max (F32.ofRat (-1))
      else (weightsFor (.coding coding) (listing parseF32 acceptEncoding)).foldl F32.max
        (F32.ofRat (-1))) = accepted (listing parseF32 acceptEncoding) coding := by
    generalize listing parseF32 acceptEncoding = listed
    have start : (F32.ofRat (-1)).lt (F32.ofRat 0) = true := by decide
    have unlisted : (F32.ofRat 0).lt (F32.ofRat (-1)) = false := by decide
    have positive (named : Named) : (F32.ofRat 0).lt
        ((weightsFor named listed).foldl F32.max (F32.ofRat (-1))) = grants listed named := by
      rw [F32.zero_lt_foldl_max, unlisted, Bool.false_or, grants_eq_any]
    have negative : ((weightsFor (.coding coding) listed).foldl F32.max (F32.ofRat (-1))).lt
        (F32.ofRat 0) = !weighs listed (.coding coding) := by
      rw [F32.foldl_max_lt_zero _ rfl, start, Bool.true_and, any_weightsFor, weighs]
    have weighing := @weighs_of_grants listed (.coding coding)
    rw [negative, apply_ite (F32.ofRat 0).lt, positive, positive, accepted]
    revert weighing
    cases weighs listed (.coding coding) <;> cases grants listed (.coding coding) <;> simp
  rw [negotiate, preferred, ← chosen, ← chosen, foldl_read]
  rfl

/-- The preferred coding is an accepted one. -/
theorem accepted_of_preferred {allowed : Algos} {accepted : Coding → Bool} {coding : Coding}
    (choice : preferred allowed accepted = some coding) : accepted coding = true := by
  rw [preferred] at choice
  split at choice
  · rename_i brotli
    obtain rfl := Option.some.inj choice
    exact (Bool.and_eq_true_iff.mp brotli).2
  · split at choice
    · rename_i gzip
      obtain rfl := Option.some.inj choice
      exact (Bool.and_eq_true_iff.mp gzip).2
    · cases choice

/-- The server takes the coding that the list accepts, and none that the list refuses, where `*`
overrides no refusal of a coding whose turn it is. -/
theorem negotiate_acceptable_iff (parseF32 : List Char → Option F32) (acceptEncoding : List Char)
    (allowed : Algos) :
    (negotiate parseF32 acceptEncoding allowed =
          preferred allowed (acceptable (listing parseF32 acceptEncoding)) ∧
        ∀ coding, names (listing parseF32 acceptEncoding) (.coding coding) = true →
          grants (listing parseF32 acceptEncoding) (.coding coding) = false →
          negotiate parseF32 acceptEncoding allowed ≠ some coding) ↔
      ¬ (allowed.hasBrotli = true ∧
        overridden (listing parseF32 acceptEncoding) .brotli = true) ∧
      ¬ (allowed.hasGzip = true ∧ overridden (listing parseF32 acceptEncoding) .gzip = true ∧
        ¬ (allowed.hasBrotli = true ∧
          acceptable (listing parseF32 acceptEncoding) .brotli = true)) := by
  rw [negotiate_eq_preferred]
  generalize listing parseF32 acceptEncoding = listed
  have refused (coding : Coding) (named : names listed (.coding coding) = true)
      (notGranted : grants listed (.coding coding) = false) :
      preferred allowed (acceptable listed) ≠ some coding := by
    intro choice
    have takes := accepted_of_preferred choice
    rw [acceptable, named, notGranted] at takes
    cases takes
  have same : preferred allowed (accepted listed) = preferred allowed (acceptable listed) ↔
      ¬ (allowed.hasBrotli = true ∧ overridden listed .brotli = true) ∧
        ¬ (allowed.hasGzip = true ∧ overridden listed .gzip = true ∧
          ¬ (allowed.hasBrotli = true ∧ acceptable listed .brotli = true)) := by
    have brotli := @acceptable_of_overridden listed .brotli
    have gzip := @acceptable_of_overridden listed .gzip
    rw [preferred, preferred, accepted_eq_acceptable, accepted_eq_acceptable]
    revert brotli gzip
    cases allowed.hasBrotli <;> cases allowed.hasGzip <;> cases overridden listed .brotli <;>
      cases overridden listed .gzip <;> cases acceptable listed .brotli <;>
      cases acceptable listed .gzip <;> simp
  rw [← same]
  constructor
  · exact And.left
  · intro equal
    refine ⟨equal, fun coding named notGranted => ?_⟩
    rw [equal]
    exact refused coding named notGranted

/-- The weight -1, and 1 for any other text. -/
def sampleParse (text : List Char) : Option F32 :=
  if text = "-1".toList then some (F32.ofRat (-1)) else some (F32.ofRat 1)

theorem negotiate_overrides :
    names (listing sampleParse "br;q=-1, *".toList) (.coding .brotli) = true ∧
      grants (listing sampleParse "br;q=-1, *".toList) (.coding .brotli) = false ∧
      preferred .both (acceptable (listing sampleParse "br;q=-1, *".toList)) = some .gzip ∧
      negotiate sampleParse "br;q=-1, *".toList .both = some .brotli := by
  decide

end Pyronova
