/-
Printing a tree: its one canonical template. Parameters are written in
decimal and without a plus sign, `v` is small, the colon comes before
the `@`, and every directive is written by its letter.

Printing is done twice, as a text and as the pieces the text is made of,
because reading goes over the pieces. A piece carries its offset, so the
pieces of a tree depend on where it is printed; `located` is the tree
with the offsets it is then read with.
-/
import TildeFormat.Proofs.Numeral
import TildeFormat.Proofs.Template.Spelling
import TildeFormat.Proofs.Template.WellFormed

namespace TildeFormat

-- =========================================================== directives

/-- A parameter as it is printed. -/
def ParamSource.print : ParamSource → Text
  | omitted => []
  | integer n => Numeral.integer n
  | character c => ['\'', c]
  | nextArgument => ['v']
  | remaining => ['#']

/-- Parameters with commas between them. -/
def printParams : List Param → Text
  | [] => []
  | [param] => param.source.print
  | param :: rest => param.source.print ++ .scalar ',' :: printParams rest

/-- A directive of a letter with this clause. -/
def Clause.print (clause : Clause) (letter : Character) : Text :=
  '~' :: (printParams clause.params
    ++ (clause.modifiers.text ++ [letter]))

/-- The clause of the closer of an iteration. -/
def iterationEnd (atLeastOnce : Bool) : Clause :=
  { modifiers := ⟨atLeastOnce, false⟩ }

/-- A piece as it is printed. -/
def Piece.print (piece : Piece) : Text :=
  match piece with
  | .text t _ => t
  | .simple kind clause => clause.print kind.letter
  | .opener shape clause => clause.print shape.opener
  | .closer shape clause => clause.print shape.closer
  | .separator clause => clause.print ';'
  | .escape clause => clause.print '^'

-- ================================================================ trees

/-- What stands between a segment and those behind it. -/
def separation (rest : List (List Node)) : Text :=
  if rest.isEmpty then [] else Clause.print {} ';'

mutual

/-- A node as a template. -/
def Node.print : Node → Text
  | .literal t _ => t
  | .simple kind clause => clause.print kind.letter
  | .iteration body atLeastOnce clause =>
    clause.print Shape.iteration.opener
      ++ (print body
        ++ (iterationEnd atLeastOnce).print Shape.iteration.closer)
  | .justification segments clause =>
    clause.print Shape.justification.opener
      ++ (printSegments segments
        ++ Clause.print {} Shape.justification.closer)
  | .escape _ clause => clause.print '^'
  | .group items => print items

/-- A tree as a template. -/
def print : List Node → Text
  | [] => []
  | node :: rest => node.print ++ print rest

/-- Segments with separators between them. -/
def printSegments : List (List Node) → Text
  | [] => []
  | segment :: rest =>
    print segment ++ (separation rest ++ printSegments rest)

end

-- ============================================================= offsets

/-- The parameters printed from an offset on. -/
def locatedParams (o : Nat) : List Param → List Param
  | [] => []
  | param :: rest =>
    ⟨param.source, o⟩
      :: locatedParams (o + param.source.print.length + 1) rest

/-- The clause printed from an offset on. -/
def Clause.located (clause : Clause) (o : Nat) : Clause :=
  ⟨locatedParams (o + 1) clause.params, clause.modifiers, o⟩

mutual

/-- The node printed from an offset on. -/
def Node.located (o : Nat) : Node → Node
  | .literal t _ => .literal t o
  | .simple kind clause => .simple kind (clause.located o)
  | .iteration body atLeastOnce clause =>
    .iteration
      (located (o + (clause.print Shape.iteration.opener).length) body)
      atLeastOnce (clause.located o)
  | .justification segments clause =>
    .justification
      (locatedSegments
        (o + (clause.print Shape.justification.opener).length) segments)
      (clause.located o)
  | .escape depth clause => .escape depth (clause.located o)
  | .group items => .group (located o items)

/-- The tree printed from an offset on. -/
def located (o : Nat) : List Node → List Node
  | [] => []
  | node :: rest =>
    node.located o :: located (o + node.print.length) rest

/-- The segments printed from an offset on. -/
def locatedSegments (o : Nat) : List (List Node) → List (List Node)
  | [] => []
  | segment :: rest =>
    located o segment
      :: locatedSegments
        (o + (print segment).length + (separation rest).length) rest

end

-- ============================================================== pieces

/-- The separator between a segment and those behind it. -/
def separator? (o : Nat) (rest : List (List Node)) : List Piece :=
  if rest.isEmpty then [] else [.separator (Clause.located {} o)]

mutual

/-- The pieces of a node printed from an offset on. -/
def Node.pieces (o : Nat) : Node → List Piece
  | .literal t _ => [.text t o]
  | .simple kind clause => [.simple kind (clause.located o)]
  | .iteration body atLeastOnce clause =>
    let inside := o + (clause.print Shape.iteration.opener).length
    .opener .iteration (clause.located o)
      :: (pieces inside body
        ++ [.closer .iteration ((iterationEnd atLeastOnce).located
            (inside + (print body).length))])
  | .justification segments clause =>
    let inside := o + (clause.print Shape.justification.opener).length
    .opener .justification (clause.located o)
      :: (segmentPieces inside segments
        ++ [.closer .justification (Clause.located {}
            (inside + (printSegments segments).length))])
  | .escape _ clause => [.escape (clause.located o)]
  | .group items => pieces o items

/-- The pieces of a tree printed from an offset on. -/
def pieces (o : Nat) : List Node → List Piece
  | [] => []
  | node :: rest =>
    node.pieces o ++ pieces (o + node.print.length) rest

/-- The pieces of segments and the separators between them. -/
def segmentPieces (o : Nat) : List (List Node) → List Piece
  | [] => []
  | segment :: rest =>
    pieces o segment
      ++ (separator? (o + (print segment).length) rest
        ++ segmentPieces
          (o + (print segment).length + (separation rest).length) rest)

end

-- ============================================== a canonical spelling

/-- An integer is spelled by its decimal numeral. -/
theorem spelling_integer (n : Int) :
    (ParamSource.integer n).Spelling (Numeral.integer n) := by
  have hnumeral : IsNumeral (Numeral.digits n.natAbs) :=
    ⟨Numeral.digits_ne_nil _, fun _ => Numeral.isDigit_of_mem_digits⟩
  unfold Numeral.integer
  split
  · have h := ParamSource.Spelling.minus hnumeral
    rwa [Numeral.value_digits, show -(n.natAbs : Int) = n by omega] at h
  · have h := ParamSource.Spelling.unsigned hnumeral
    rwa [Numeral.value_digits, show (n.natAbs : Int) = n by omega] at h

/-- A parameter is printed in one of its spellings. -/
theorem ParamSource.spelling_print (source : ParamSource) :
    source.Spelling source.print := by
  cases source with
  | omitted => exact .omitted
  | integer n => exact spelling_integer n
  | character c => exact .character c
  | nextArgument => exact .nextArgument (.inl rfl)
  | remaining => exact .remaining

/-- So are parameters, with commas between them, and then they stand where
they are located. -/
theorem slotsSpelling_print (o : Nat) {params : List Param}
    (h : params ≠ []) :
    SlotsSpelling o (locatedParams o params) (printParams params) := by
  induction params generalizing o with
  | nil => exact absurd rfl h
  | cons param rest ih =>
      cases rest with
      | nil => exact .last param.source.spelling_print
      | cons next rest =>
          exact .more param.source.spelling_print
            (ih _ (List.cons_ne_nil _ _))

/-- A parameter list that can be written is spelled by its print. -/
theorem paramsSpelling_print (o : Nat) {params : List Param}
    (h : params.map Param.source ≠ [.omitted]) :
    ParamsSpelling o (locatedParams o params) (printParams params) := by
  cases params with
  | nil => exact .none
  | cons param rest =>
      refine .some (slotsSpelling_print o (List.cons_ne_nil _ _)) ?_
      cases rest with
      | nil =>
          intro hnil
          apply h
          rw [List.map_singleton,
            param.source.spelling_print.eq_nil_iff.mp hnil]
      | cons next rest =>
          intro hnil
          cases List.append_eq_nil_iff.mp hnil with
          | intro _ hcons => cases hcons

/-- Being located does not change a parameter. -/
theorem map_source_locatedParams (o : Nat) (params : List Param) :
    (locatedParams o params).map Param.source
      = params.map Param.source := by
  induction params generalizing o with
  | nil => rfl
  | cons param rest ih =>
      show param.source :: _ = _
      rw [ih, List.map_cons]

variable {registry : Registry} {letter : Character} {clause : Clause}

/-- So it is allowed as it was. -/
theorem allows_located (o : Nat) (h : registry.Allows letter clause) :
    registry.Allows letter (clause.located o) :=
  h.congr (map_source_locatedParams _ _).symm rfl

/-- An allowed directive is spelled by its print, if its letter is its
own capital form. -/
theorem Clause.spelling_print (o : Nat)
    (h : registry.Allows letter clause) :
    (clause.located o).Spelling o letter (clause.print letter) :=
  .mk (paramsSpelling_print _ h.writable) (.refl _)

/-- One directive in front of a spelling. -/
theorem Spelling.print_cons {o : Nat} {piece : Piece} {rest : Text}
    {ps : List Piece}
    (hpiece : piece.directive? = some (letter, clause.located o))
    (hletter : upperChar letter = [letter])
    (hallows : registry.Allows letter clause)
    (hrest : Spelling registry (o + (clause.print letter).length) rest
      ps) :
    Spelling registry o (clause.print letter ++ rest) (piece :: ps) := by
  refine .directive ⟨letter, _, letter, hpiece, hletter,
    clause.spelling_print o hallows⟩ ?_ hrest
  intro letter' clause' hdirective
  rw [hpiece] at hdirective
  cases hdirective
  exact allows_located o hallows

end TildeFormat
