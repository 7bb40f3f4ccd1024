/-
The pieces of a template, read from left to right: runs of literal text
and whole directives, each checked against its specification but not yet
against the brackets around it. A directive that joins lines leaves no
piece behind, or the line break alone when it keeps it.

Reading moves along a place, an offset and the text ahead of it. A
directive is a tilde, parameters between commas, modifiers and a
character. An empty slot before a comma is an omitted parameter, and so
is the one after a last comma; no parameters at all is an empty list.
-/
import TildeFormat.Directive.Registry
import TildeFormat.Template.Error
import TildeFormat.Text.Blank

namespace TildeFormat

/-- A place in a template: how many characters are behind it, and the
text ahead. -/
structure Place where
  offset : Nat
  ahead : Text
deriving DecidableEq

namespace Place

/-- The start of a template. -/
def start (template : Text) : Place := ⟨0, template⟩

/-- The place after the characters that pass `test`. -/
def pass (p : Place) (test : Character → Bool) : Place :=
  ⟨p.offset + (p.ahead.takeWhile test).length, p.ahead.dropWhile test⟩

/-- Reading on from `p` comes to `q`: what is ahead of `p` is some text
read over and then what is ahead of `q`, and the offset counts it. -/
def Reaches (p q : Place) : Prop :=
  ∃ seen : Text, p.ahead = seen ++ q.ahead
    ∧ q.offset = p.offset + seen.length

theorem Reaches.refl (p : Place) : p.Reaches p := ⟨[], by simp⟩

/-- What is read in two steps is read in one. -/
theorem Reaches.trans {p q r : Place} (h : p.Reaches q)
    (k : q.Reaches r) : p.Reaches r := by
  obtain ⟨s, hs, hs'⟩ := h
  obtain ⟨t, ht, ht'⟩ := k
  exact ⟨s ++ t, by rw [hs, ht, List.append_assoc],
    by rw [ht', hs', List.length_append, Nat.add_assoc]⟩

/-- Reading leaves no more text than there was. -/
theorem Reaches.length_le {p q : Place} (h : p.Reaches q) :
    q.ahead.length ≤ p.ahead.length := by
  obtain ⟨s, hs, -⟩ := h
  simp [hs]

/-- One character further. -/
theorem reaches_cons {offset : Nat} {c : Character} {t : Text} :
    Reaches ⟨offset, c :: t⟩ ⟨offset + 1, t⟩ := ⟨[c], by simp⟩

/-- Passing characters over is reading. -/
theorem reaches_pass (p : Place) (test : Character → Bool) :
    p.Reaches (p.pass test) :=
  ⟨p.ahead.takeWhile test, by simp [pass], rfl⟩

end Place

-- ========================================================== parameters

/-- The characters a parameter can start with; none of them can follow a
parameter without a comma. -/
def startsParam (c : Character) : Bool :=
  c.isDigit || (['\'', '#', '+', '-', 'v', 'V'] : Text).contains c

/-- The integer a sign or first digit and the digits after it denote. -/
def signedValue (c : Character) (ds : Text) : Int :=
  if c = '-' then -(Numeral.value ds : Int)
  else if c = '+' then Numeral.value ds
  else Numeral.value (c :: ds)

/-- One parameter if one starts here, and the place after it. -/
def scanParam (p : Place) :
    Except ParseError (Option ParamSource × Place) :=
  match p.ahead with
  | [] => .ok (none, p)
  | c :: t =>
    if c = '+' ∨ c = '-' ∨ c.isDigit then
      let ds := t.takeWhile Character.isDigit
      if ds = [] ∧ !c.isDigit then
        .error ⟨.signWithoutDigits c, p.offset⟩
      else
        .ok (some (.integer (signedValue c ds)),
          Place.pass ⟨p.offset + 1, t⟩ Character.isDigit)
    else if c = '\'' then
      match t with
      | [] => .error ⟨.quoteWithoutCharacter, p.offset⟩
      | d :: rest => .ok (some (.character d), ⟨p.offset + 2, rest⟩)
    else if c = 'v' ∨ c = 'V' then
      .ok (some .nextArgument, ⟨p.offset + 1, t⟩)
    else if c = '#' then
      .ok (some .remaining, ⟨p.offset + 1, t⟩)
    else .ok (none, p)

/-- A parameter is read off the text in front of it. -/
theorem reaches_of_scanParam {p q : Place}
    {source? : Option ParamSource} (h : scanParam p = .ok (source?, q)) :
    p.Reaches q := by
  obtain ⟨offset, ahead⟩ := p
  cases ahead with
  | nil => cases h; exact .refl _
  | cons c t =>
    simp only [scanParam] at h
    split at h
    · split at h
      · cases h
      · cases h
        exact Place.reaches_cons.trans (Place.reaches_pass _ _)
    · split at h
      · split at h
        · cases h
        · cases h
          exact Place.reaches_cons.trans Place.reaches_cons
      · split at h
        · cases h; exact Place.reaches_cons
        · split at h
          · cases h; exact Place.reaches_cons
          · cases h; exact .refl _

/-- The parameters from here on, and the place after them. A comma
behind makes an empty slot an omitted parameter. -/
def scanParams (afterComma : Bool) (p : Place) :
    Except ParseError (List Param × Place) :=
  match _h : scanParam p with
  | .error e => .error e
  | .ok (source?, q) =>
    match _hq : q.ahead with
    | ',' :: rest =>
      match scanParams true ⟨q.offset + 1, rest⟩ with
      | .error e => .error e
      | .ok (more, r) =>
        .ok (⟨source?.getD .omitted, p.offset⟩ :: more, r)
    | ahead =>
      match source? with
      | none =>
        .ok (if afterComma then [⟨.omitted, p.offset⟩] else [], q)
      | some source =>
        match ahead.head? with
        | some c =>
          if startsParam c then .error ⟨.missingComma c, q.offset⟩
          else .ok ([⟨source, p.offset⟩], q)
        | none => .ok ([⟨source, p.offset⟩], q)
termination_by p.ahead.length
decreasing_by
  have := (reaches_of_scanParam _h).length_le
  rw [_hq] at this
  simp only [List.length_cons] at this ⊢
  omega

-- =========================================================== modifiers

/-- The modifiers from here on, on top of those already found. -/
def scanModifiers (found : Modifiers) (offset : Nat) :
    Text → Except ParseError (Modifiers × Place)
  | ':' :: t =>
    if found.colon then .error ⟨.repeatedModifier ':', offset⟩
    else scanModifiers { found with colon := true } (offset + 1) t
  | '@' :: t =>
    if found.atSign then .error ⟨.repeatedModifier '@', offset⟩
    else scanModifiers { found with atSign := true } (offset + 1) t
  | t => .ok (found, ⟨offset, t⟩)

-- ========================================================== directives

/-- A directive as it is written, before it is looked up. -/
structure Token where
  char : Character
  clause : Clause
deriving DecidableEq

/-- The directive whose tilde stands at `start`, read from the place
after the tilde. -/
def scanDirective (start : Nat) (p : Place) :
    Except ParseError (Token × Place) :=
  match scanParams false p with
  | .error e => .error e
  | .ok (params, q) =>
    match scanModifiers {} q.offset q.ahead with
    | .error e => .error e
    | .ok (modifiers, r) =>
      match r.ahead with
      | [] => .error ⟨.endsInDirective, start⟩
      | c :: rest =>
        .ok (⟨c, ⟨params, modifiers, start⟩⟩, ⟨r.offset + 1, rest⟩)

/-- Parameters that are written out, against their slots. -/
def checkSlots (directive : Text) :
    List Param → List ParamSpec → Except ParseError Unit
  | param :: params, slot :: slots =>
    match param.source.literal? with
    | none => checkSlots directive params slots
    | some value =>
      if !slot.accepts value.toValue then
        .error ⟨.wrongType directive slot value, param.position⟩
      else if !slot.inRange value.toValue then
        .error ⟨.belowMinimum directive slot value, param.position⟩
      else checkSlots directive params slots
  | _, _ => .ok ()

/-- A directive against its specification: the number of parameters, the
ones written out, the modifiers. -/
def Spec.check (spec : Spec) (clause : Clause) : Except ParseError Unit :=
  match clause.params[spec.params.length]? with
  | some extra =>
    .error ⟨.tooManyParams spec.name spec.params.length
      clause.params.length, extra.position⟩
  | none =>
    match checkSlots spec.name clause.params spec.params with
    | .error e => .error e
    | .ok () =>
      let extra := clause.modifiers.without spec.modifiers
      if extra.isEmpty then .ok ()
      else .error ⟨.unsupportedModifiers spec.name extra, clause.position⟩

-- ============================================================== pieces

/-- A piece of a template. -/
inductive Piece where
  | text (t : Text) (position : Nat)
  | simple (kind : Kind) (clause : Clause)
  | opener (shape : Shape) (clause : Clause)
  | closer (shape : Shape) (clause : Clause)
  | separator (clause : Clause)
  | escape (clause : Clause)
deriving DecidableEq

/-- The piece of a structural directive, by its character as written. A
character that is no bracket and no separator has none. -/
def structuralPiece (token : Token) : Option Piece :=
  if token.char = Shape.iteration.opener then
    some (.opener .iteration token.clause)
  else if token.char = Shape.justification.opener then
    some (.opener .justification token.clause)
  else if token.char = Shape.iteration.closer then
    some (.closer .iteration token.clause)
  else if token.char = Shape.justification.closer then
    some (.closer .justification token.clause)
  else if token.char = ';' then some (.separator token.clause)
  else none

/-- The white space a directive that joins lines swallows. -/
def isIndentation (c : Character) : Bool := c != '\n' && isBlank c

/-- The piece of a checked directive, if it leaves one, and the place
where reading goes on. -/
def Spec.piece (spec : Spec) (token : Token) (after : Place) :
    Except ParseError (Option Piece × Place) :=
  match spec.category with
  | .whitespace =>
    let kept :=
      if token.clause.modifiers.atSign then
        some (Piece.text ['\n'] token.clause.position)
      else none
    .ok (kept,
      if token.clause.modifiers.colon then after
      else after.pass isIndentation)
  | .structural => .ok (structuralPiece token, after)
  | .escape => .ok (some (.escape token.clause), after)
  | _ =>
    match spec.kind with
    | some kind => .ok (some (.simple kind token.clause), after)
    | none =>
      .error ⟨.unknownDirective token.char, token.clause.position⟩

/-- The directive whose tilde stands at `start`: read, looked up and
checked. -/
def readDirective (registry : Registry) (start : Nat) (p : Place) :
    Except ParseError (Option Piece × Place) :=
  match scanDirective start p with
  | .error e => .error e
  | .ok (token, after) =>
    match registry.get? [token.char] with
    | none => .error ⟨.unknownDirective token.char, start⟩
    | some spec =>
      match spec.check token.clause with
      | .error e => .error e
      | .ok () => spec.piece token after

-- ====================================================== reading forward

/-- So are parameters with commas between them. -/
theorem reaches_of_scanParams {afterComma : Bool} {p q : Place}
    {params : List Param} (h : scanParams afterComma p = .ok (params, q)) :
    p.Reaches q := by
  fun_induction scanParams afterComma p generalizing params q with
  | case1 => cases h
  | case2 => cases h
  | case3 _ p _ q' hp rest hq more r hr ih =>
    cases h
    have comma : Place.Reaches q' ⟨q'.offset + 1, rest⟩ := by
      obtain ⟨offset, ahead⟩ := q'
      cases hq
      exact Place.reaches_cons
    exact ((reaches_of_scanParam hp).trans comma).trans (ih hr)
  | case4 _ _ _ hp => cases h; exact reaches_of_scanParam hp
  | case5 => cases h
  | case6 _ _ _ _ hp => cases h; exact reaches_of_scanParam hp
  | case7 _ _ _ _ hp => cases h; exact reaches_of_scanParam hp

/-- And the modifiers behind them. -/
theorem reaches_of_scanModifiers {found modifiers : Modifiers}
    {offset : Nat} {t : Text} {q : Place}
    (h : scanModifiers found offset t = .ok (modifiers, q)) :
    Place.Reaches ⟨offset, t⟩ q := by
  fun_induction scanModifiers found offset t with
  | case1 => cases h
  | case2 _ _ _ _ ih => exact Place.reaches_cons.trans (ih h)
  | case3 => cases h
  | case4 _ _ _ _ ih => exact Place.reaches_cons.trans (ih h)
  | case5 => cases h; exact .refl _

/-- A directive is read over at least one character, its own. -/
theorem length_lt_of_scanDirective {start : Nat} {p q : Place}
    {token : Token} (h : scanDirective start p = .ok (token, q)) :
    p.Reaches q ∧ q.ahead.length < p.ahead.length := by
  unfold scanDirective at h
  split at h
  · cases h
  · rename_i params q' hp
    split at h
    · cases h
    · rename_i modifiers r hm
      split at h
      · cases h
      · rename_i c rest hr
        cases h
        have h1 := reaches_of_scanParams hp
        have h2 := reaches_of_scanModifiers hm
        have h3 : Place.Reaches r ⟨r.offset + 1, rest⟩ := by
          obtain ⟨offset, ahead⟩ := r
          cases hr
          exact Place.reaches_cons
        have h4 : rest.length < r.ahead.length := by rw [hr]; simp
        refine ⟨(h1.trans h2).trans h3, ?_⟩
        exact Nat.lt_of_lt_of_le h4 (h1.trans h2).length_le

/-- A directive reads on from its character, if at all. -/
theorem reaches_of_piece {spec : Spec} {token : Token} {p q : Place}
    {piece? : Option Piece} (h : spec.piece token p = .ok (piece?, q)) :
    p.Reaches q := by
  unfold Spec.piece at h
  split at h
  · cases h
    split
    · exact .refl _
    · exact Place.reaches_pass _ _
  · cases h; exact .refl _
  · cases h; exact .refl _
  · split at h
    · cases h; exact .refl _
    · cases h

/-- A whole directive takes at least its character, so reading directives
comes to an end. -/
theorem length_lt_of_readDirective {registry : Registry} {start : Nat}
    {p q : Place} {piece? : Option Piece}
    (h : readDirective registry start p = .ok (piece?, q)) :
    p.Reaches q ∧ q.ahead.length < p.ahead.length := by
  unfold readDirective at h
  split at h
  · cases h
  · rename_i token after hd
    split at h
    · cases h
    · split at h
      · cases h
      · have h1 := length_lt_of_scanDirective hd
        have h2 := reaches_of_piece h
        exact ⟨h1.1.trans h2, Nat.lt_of_le_of_lt h2.length_le h1.2⟩

-- ========================================================= the template

/-- The pieces of a template up to its end or to the first directive
that cannot be read. -/
structure Reading where
  pieces : List Piece
  error? : Option ParseError

/-- The pieces from a place on. -/
def readPieces (registry : Registry) (p : Place) : Reading :=
  match _hp : p.ahead with
  | [] => ⟨[], none⟩
  | c :: t =>
    if c = '~' then
      match _h : readDirective registry p.offset ⟨p.offset + 1, t⟩ with
      | .error e => ⟨[], some e⟩
      | .ok (piece?, q) =>
        let rest := readPieces registry q
        ⟨piece?.toList ++ rest.pieces, rest.error?⟩
    else
      let run := c :: t.takeWhile (· != '~')
      let rest := readPieces registry
        (Place.pass ⟨p.offset + 1, t⟩ (· != '~'))
      ⟨.text run p.offset :: rest.pieces, rest.error?⟩
termination_by p.ahead.length
decreasing_by
  · have := (length_lt_of_readDirective _h).2
    rw [_hp]
    simp only [List.length_cons] at this ⊢
    omega
  · have := (Place.reaches_pass ⟨p.offset + 1, t⟩ (· != '~')).length_le
    rw [_hp]
    simp only [List.length_cons] at this ⊢
    omega

end TildeFormat
