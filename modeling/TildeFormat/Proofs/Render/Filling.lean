/-
Parameters from the arguments and the same parameters written out. A `v`
in the parameters of a directive takes its value from the next argument,
so a list of values can be given in either way: as arguments in front of
the others, or as parameters in place of the `v`. The slots check both
alike, when the directive is rendered or when it is read.

If the slots take all the values, the parameters come to the same and use
up just the values given, so the runs are the same from there on. If they
do not, the first value refused is what both are refused for.
-/
import TildeFormat.Proofs.Render.Joining
import TildeFormat.Proofs.Template.Refusal

namespace TildeFormat

-- ================================================================ values

/-- A value for a parameter. -/
inductive Given where
  | nothing
  | integer (n : Int)
  | character (c : Character)

namespace Given

/-- The value as an argument. -/
def argument : Given → Value
  | nothing => .nothing
  | integer n => .int n
  | character c => .str [c]

/-- The value as a parameter that is written out. -/
def source : Given → ParamSource
  | nothing => .omitted
  | integer n => .integer n
  | character c => .character c

end Given

/-- Parameters that take these values from the arguments, and the
parameters with the values written in place. None of them is the number
of arguments left, to which the values themselves would count. -/
inductive Fills : List Given → List Param → List Param → Prop
  | nil : Fills [] [] []
  | given {value : Given} {values : List Given} {position : Nat}
      {params written : List Param} (h : Fills values params written) :
      Fills (value :: values) (⟨.nextArgument, position⟩ :: params)
        (⟨value.source, position⟩ :: written)
  | kept {values : List Given} {param : Param}
      {params written : List Param}
      (hargument : param.source ≠ .nextArgument)
      (hcount : param.source ≠ .remaining)
      (h : Fills values params written) :
      Fills values (param :: params) (param :: written)

variable {settings : Settings} {values : List Given}
  {params written : List Param} {slots : List ParamSpec}
  {slot : ParamSpec} {directive : Text} {i : Nat} {value : ParamValue}

theorem Fills.length_eq (h : Fills values params written) :
    written.length = params.length := by
  induction h with
  | nil => rfl
  | given _ ih => exact congrArg (· + 1) ih
  | kept _ _ _ ih => exact congrArg (· + 1) ih

-- ============================================================ parameters

theorem resolve_of_takes (position : Nat) (shown : Text)
    (hvalue : value.toValue.param? = some value)
    (h : slot.Takes value) :
    slot.resolve directive position value.toValue shown = .ok value := by
  rw [ParamSpec.resolve, hvalue]
  simp [h.1, h.2]

/-- A value that is not taken is refused for its type or its size. -/
theorem resolve_of_not_takes (directive : Text) (position : Nat)
    (shown : Text)
    (hvalue : value.toValue.param? = some value)
    (h : ¬slot.Takes value) :
    ∃ e, slot.resolve directive position value.toValue shown = .error e
      ∧ e.position = some position
      ∧ e.cause.family = if slot.accepts value.toValue
        then .unsupportedFormat else .typeMismatch := by
  rw [ParamSpec.resolve, hvalue]
  cases haccepts : slot.accepts value.toValue with
  | false => exact ⟨_, rfl, rfl, rfl⟩
  | true =>
      have hrange : slot.inRange value.toValue = false :=
        Bool.eq_false_iff.mpr fun hrange => h ⟨haccepts, hrange⟩
      simp only [hrange]
      exact ⟨_, rfl, rfl, rfl⟩

/-- A parameter that asks nothing of the arguments. -/
theorem resolveParam_kept (directive : Text) {param : Param}
    (hargument : param.source ≠ .nextArgument)
    (hcount : param.source ≠ .remaining) (slot : ParamSpec) :
    ∃ value, ∀ cursor, resolveParam directive (some param) slot cursor
      = .ok (value, cursor) := by
  obtain ⟨source, position⟩ := param
  cases source with
  | omitted | integer | character => exact ⟨_, fun _ => rfl⟩
  | nextArgument => exact absurd rfl hargument
  | remaining => exact absurd rfl hcount

/-- A value that can be written out, as an argument: it goes through the
check of its slot. -/
theorem resolveParam_argument (directive : Text) (slot : ParamSpec)
    {given : Given} (hwritten : given.source.literal? = some value)
    (position m : Nat) (rest : List Value) :
    value.toValue.param? = some value
      ∧ resolveParam directive (some ⟨.nextArgument, position⟩) slot
          ⟨m, given.argument :: rest⟩
        = slot.resolve directive position value.toValue
            (value.toValue.text .machine)
          >>= fun value => .ok (value, ⟨m + 1, rest⟩) := by
  cases given <;> cases hwritten <;> exact ⟨rfl, rfl⟩

/-- A value that is taken comes to the same as an argument and written
out. -/
theorem resolveParam_taken (directive : Text) {given : Given}
    (htaken : ∀ v, given.source.literal? = some v → slot.Takes v)
    (position m : Nat) (rest : List Value) :
    ∃ value, resolveParam directive (some ⟨.nextArgument, position⟩) slot
        ⟨m, given.argument :: rest⟩ = .ok (value, ⟨m + 1, rest⟩)
      ∧ ∀ cursor, resolveParam directive
        (some ⟨given.source, position⟩) slot cursor
          = .ok (value, cursor) := by
  cases hwritten : given.source.literal? with
  | none =>
      cases given with
      | nothing => exact ⟨slot.default, rfl, fun _ => rfl⟩
      | integer | character => cases hwritten
  | some value =>
      obtain ⟨hvalue, hresolve⟩ :=
        resolveParam_argument directive slot hwritten position m rest
      refine ⟨value, ?_, fun cursor => ?_⟩
      · rw [hresolve, resolve_of_takes _ _ hvalue (htaken value hwritten)]
        rfl
      · cases given <;> cases hwritten <;> rfl

/-- A value that is not taken is refused as an argument. -/
theorem resolveParam_refused (directive : Text) {given : Given}
    (hwritten : given.source.literal? = some value)
    (hrefused : ¬slot.Takes value) (position m : Nat)
    (rest : List Value) :
    ∃ e, resolveParam directive (some ⟨.nextArgument, position⟩) slot
        ⟨m, given.argument :: rest⟩ = .error e
      ∧ e.position = some position
      ∧ e.cause.family = if slot.accepts value.toValue
        then .unsupportedFormat else .typeMismatch := by
  obtain ⟨hvalue, hresolve⟩ :=
    resolveParam_argument directive slot hwritten position m rest
  obtain ⟨e, he, hposition, hfamily⟩ := resolve_of_not_takes directive
    position (value.toValue.text .machine) hvalue hrefused
  refine ⟨e, ?_, hposition, hfamily⟩
  rw [hresolve, he]
  rfl

/-- The parameters after the first. -/
theorem resolveParams_cons {param : Param} {cursor next : Cursor}
    (h : resolveParam directive (some param) slot cursor
      = .ok (value, next)) :
    resolveParams directive (param :: params) (slot :: slots) cursor
      = (resolveParams directive params slots next
          >>= fun (values, last) => .ok (value :: values, last)) := by
  rw [resolveParams, List.head?_cons, h]
  rfl

/-- Values that are all taken come to the same as arguments and written
out, and as arguments they alone are used up. -/
theorem resolveParams_taken (h : Fills values params written)
    (hcount : params.length ≤ slots.length)
    (htaken : SlotsTake written slots) (m : Nat) (rest : List Value) :
    resolveParams directive params slots
        ⟨m, values.map Given.argument ++ rest⟩
      = resolveParams directive written slots
        ⟨m + values.length, rest⟩ := by
  induction h generalizing slots m with
  | nil => rfl
  | @given given values position params written _ ih =>
      cases slots with
      | nil => cases hcount
      | cons slot slots =>
          obtain ⟨hfirst, hrest⟩ := slotsTake_cons.mp htaken
          obtain ⟨value, hargument, hwritten⟩ := resolveParam_taken
            directive hfirst position m
            (values.map Given.argument ++ rest)
          rw [List.map_cons, List.cons_append,
            resolveParams_cons hargument, resolveParams_cons (hwritten _),
            ih (Nat.le_of_succ_le_succ hcount) hrest, List.length_cons,
            Nat.add_right_comm, Nat.add_assoc]
  | @kept values param params written hargument hremaining _ ih =>
      cases slots with
      | nil => cases hcount
      | cons slot slots =>
          obtain ⟨-, hrest⟩ := slotsTake_cons.mp htaken
          obtain ⟨value, hvalue⟩ :=
            resolveParam_kept directive hargument hremaining slot
          rw [resolveParams_cons (hvalue _), resolveParams_cons (hvalue _),
            ih (Nat.le_of_succ_le_succ hcount) hrest]

/-- Values that are not all taken are refused as arguments, at the first
one written out that is. -/
theorem resolveParams_refused (h : Fills values params written)
    (hparams : SlotsTake params slots)
    (hrefused : FirstRefused written slots i slot value) (m : Nat)
    (rest : List Value) :
    ∃ e, resolveParams directive params slots
        ⟨m, values.map Given.argument ++ rest⟩ = .error e
      ∧ e.position = params[i]?.map Param.position
      ∧ e.cause.family = if slot.accepts value.toValue
        then .unsupportedFormat else .typeMismatch := by
  induction h generalizing slots i m with
  | nil => cases hrefused
  | @given given values position params written _ ih =>
      cases hrefused with
      | @here _ _ slot slots _ hwritten hrefused =>
          obtain ⟨e, he, hplace⟩ := resolveParam_refused
            directive hwritten hrefused position m
            (values.map Given.argument ++ rest)
          refine ⟨e, ?_, hplace⟩
          rw [List.map_cons, List.cons_append, resolveParams,
            List.head?_cons, he]
          rfl
      | later htaken hlater =>
          obtain ⟨-, hrest⟩ := slotsTake_cons.mp hparams
          obtain ⟨value, hargument, -⟩ := resolveParam_taken
            directive htaken position m
            (values.map Given.argument ++ rest)
          obtain ⟨e, he, hplace⟩ := ih hrest hlater (m + 1)
          refine ⟨e, ?_, hplace⟩
          rw [List.map_cons, List.cons_append,
            resolveParams_cons hargument, he]
          rfl
  | kept hargument hremaining _ ih =>
      cases hrefused with
      | here hwritten hrefused =>
          obtain ⟨hfirst, -⟩ := slotsTake_cons.mp hparams
          exact absurd (hfirst _ hwritten) hrefused
      | @later _ _ first slot _ _ _ _ hlater =>
          obtain ⟨-, hrest⟩ := slotsTake_cons.mp hparams
          obtain ⟨value, hvalue⟩ :=
            resolveParam_kept directive hargument hremaining first
          obtain ⟨e, he, hplace⟩ := ih hrest hlater m
          refine ⟨e, ?_, hplace⟩
          rw [resolveParams_cons (hvalue _), he]
          rfl

-- ============================================================ directives

/-- The letter and the clause of a node that is a directive. -/
def Node.directive? : Node → Option (Character × Clause)
  | .literal _ _ => none
  | .simple kind clause => some (kind.letter, clause)
  | .iteration _ _ clause => some (Shape.iteration.opener, clause)
  | .justification _ clause => some (Shape.justification.opener, clause)
  | .escape _ clause => some ('^', clause)
  | .group _ => none

/-- The clause with other parameters. -/
def Clause.withParams (clause : Clause) (params : List Param) : Clause :=
  { clause with params }

/-- The directive with other parameters. -/
def Node.withParams (params : List Param) : Node → Node
  | .literal t position => .literal t position
  | .simple kind clause => .simple kind (clause.withParams params)
  | .iteration body atLeastOnce clause =>
    .iteration body atLeastOnce (clause.withParams params)
  | .justification segments clause =>
    .justification segments (clause.withParams params)
  | .escape depth clause => .escape depth (clause.withParams params)
  | .group items => .group items

section

variable {registry : Registry} {scope : List Construct} {node : Node}
  {letter : Character} {clause : Clause} {cursor cursor' : Cursor}

/-- A directive depends on its parameters by what they come to, and an
escape by how many they are. -/
theorem renderNode_withParams
    (hnode : node.directive? = some (letter, clause))
    (hresolve : ∀ directive,
      resolveParams directive clause.params
          ((Registry.builtin settings).slots letter) cursor
        = resolveParams directive written
          ((Registry.builtin settings).slots letter) cursor')
    (hlength : written.length = clause.params.length) :
    renderNode (.builtin settings) scope node cursor
      = renderNode (.builtin settings) scope (node.withParams written)
          cursor' := by
  cases node with
  | literal | group => cases hnode
  | simple kind clause =>
      cases hnode
      have hresolve := hresolve kind.name
      rw [slots_kind] at hresolve
      show orFail (resolveParams kind.name clause.params
          (Registry.stepSpec settings kind).params cursor) _ = _
      rw [hresolve]
      cases kind <;> rfl
  | iteration body atLeastOnce clause =>
      cases hnode
      show renderIteration _ _ _ clause cursor = _
      rw [renderIteration, hresolve]
      rfl
  | justification segments clause =>
      cases hnode
      show renderJustification _ _ clause cursor = _
      rw [renderJustification, hresolve]
      rfl
  | escape depth clause =>
      cases hnode
      have hempty : written.isEmpty = clause.params.isEmpty := by
        rw [Bool.eq_iff_iff, List.isEmpty_iff_length_eq_zero, hlength,
          List.isEmpty_iff_length_eq_zero]
      cases scope with
      | nil => rfl
      | cons inner scope =>
          simp only [renderNode, Node.withParams, renderEscape, hresolve,
            Clause.withParams, hlength, hempty]
          rfl

/-- A directive whose parameters are refused is given up at once. -/
theorem renderNode_refused {P : RenderError → Prop}
    (hnode : node.directive? = some (letter, clause))
    (hscope : letter = '^' → scope ≠ [])
    (hresolve : ∀ directive, ∃ e,
      resolveParams directive clause.params
        ((Registry.builtin settings).slots letter) cursor = .error e
      ∧ P e) :
    ∃ e events, renderNode (.builtin settings) scope node cursor
        = ⟨[], events, .stopped (.error e)⟩
      ∧ P e := by
  cases node with
  | literal | group => cases hnode
  | simple kind clause =>
      cases hnode
      obtain ⟨e, he, hP⟩ := hresolve kind.name
      rw [slots_kind] at he
      refine ⟨e, [], ?_, hP⟩
      show orFail (resolveParams kind.name clause.params
          (Registry.stepSpec settings kind).params cursor) _ = _
      rw [he]
      rfl
  | iteration body atLeastOnce clause =>
      cases hnode
      obtain ⟨e, he, hP⟩ := hresolve Shape.iteration.name
      refine ⟨e, [], ?_, hP⟩
      show renderIteration _ _ _ clause cursor = _
      rw [renderIteration, he]
      rfl
  | justification segments clause =>
      cases hnode
      obtain ⟨e, he, hP⟩ := hresolve Shape.justification.name
      refine ⟨e, [], ?_, hP⟩
      show renderJustification _ _ clause cursor = _
      rw [renderJustification, he]
      rfl
  | escape depth clause =>
      cases hnode
      obtain ⟨e, he, hP⟩ := hresolve escapeName
      cases scope with
      | nil => exact absurd rfl (hscope rfl)
      | cons inner scope =>
          refine ⟨e, (renderEscape (.builtin settings) (inner :: scope) depth
            clause cursor).events, ?_, hP⟩
          simp only [renderNode, renderEscape, he]
          rfl

/-- A node that is a directive of a letter makes a piece of that letter
of every clause. -/
theorem Node.exists_piece
    (hnode : node.directive? = some (letter, clause)) :
    ∃ piece : Clause → Piece, ∀ clause,
      (piece clause).directive? = some (letter, clause) := by
  cases node with
  | literal | group => cases hnode
  | simple kind => cases hnode; exact ⟨.simple kind, fun _ => rfl⟩
  | iteration => cases hnode; exact ⟨.opener .iteration, fun _ => rfl⟩
  | justification =>
      cases hnode
      exact ⟨.opener .justification, fun _ => rfl⟩
  | escape => cases hnode; exact ⟨.escape, fun _ => rfl⟩

/-- Values that are all taken can be written out. One that is nothing
and the only parameter is written by leaving the parameter out. -/
theorem isRead_withParams
    (hnode : node.directive? = some (letter, clause))
    (hallows : (Registry.builtin settings).Allows letter clause)
    (hlength : written.length = clause.params.length)
    (htaken : SlotsTake written
      ((Registry.builtin settings).slots letter)) :
    (clause.withParams written).IsRead (.builtin settings) letter := by
  obtain ⟨piece, hpiece⟩ := node.exists_piece hnode
  obtain ⟨-, spec, hspec, hadmits⟩ := hallows
  rw [Registry.slots, hspec] at htaken
  by_cases homitted : written.map Param.source = [.omitted]
  · have hnone : (Registry.builtin settings).Allows letter
        (clause.withParams []) :=
      ⟨(List.cons_ne_nil _ _).symm, spec, hspec, Nat.zero_le _,
        slotsTake_nil_left _, hadmits.within⟩
    obtain ⟨w, hw, hread⟩ := isRead_of_allows hpiece hnone
    refine ⟨w, ?_, hread⟩
    obtain ⟨⟨_, position⟩, rfl, rfl⟩ := List.map_eq_singleton_iff.mp homitted
    exact hw
  · exact isRead_of_allows hpiece
      ⟨homitted, spec, hspec, hlength ▸ hadmits.count, htaken,
        hadmits.within⟩

end

/-- Values from the arguments and values written out. If the slots of a
directive take all the values given for the `v` in its parameters,
rendering it on these values and further arguments is rendering it, with
the values written out, on the further arguments alone; and so written it
is read. Otherwise both are refused for the first value that is not
taken: the render by an error that tells its type or its size, and at the
place of its `v`, the template by one at the place it is written at. -/
theorem renderNode_filled {node : Node} {letter : Character} {clause : Clause}
    {scope : List Construct}
    (hnode : node.directive? = some (letter, clause))
    (hallows : (Registry.builtin settings).Allows letter clause)
    (hscope : letter = '^' → scope ≠ [])
    (hfills : Fills values clause.params written) (m n : Nat)
    (rest : List Value) :
    let registry := Registry.builtin settings
    let slots := registry.slots letter
    let run := renderNode registry scope node
      ⟨m, values.map Given.argument ++ rest⟩
    let literal := clause.withParams written
    (SlotsTake written slots →
        Run.Tracks id SameRest
            (renderNode registry scope (node.withParams written) ⟨n, rest⟩)
            run
          ∧ literal.IsRead registry letter)
      ∧ (¬SlotsTake written slots → ∃ i slot value,
        FirstRefused written slots i slot value
          ∧ (∃ e events, run = ⟨[], events, .stopped (.error e)⟩
            ∧ e.position = clause.params[i]?.map Param.position
            ∧ e.cause.family = if slot.accepts value.toValue
              then .unsupportedFormat else .typeMismatch)
          ∧ ∃ e, (∀ after, parse registry (literal.print letter ++ after)
              = .error e)
            ∧ e.cause.family = .invalidParameter
            ∧ some e.position
              = (literal.located 0).params[i]?.map Param.position) := by
  intro registry slots run literal
  have hcount : clause.params.length ≤ slots.length := hallows.length_le
  have hlength : written.length = clause.params.length := hfills.length_eq
  refine ⟨fun htaken => ⟨?_, ?_⟩, fun hrefused => ?_⟩
  · have hrun : run = renderNode registry scope (node.withParams written)
        ⟨m + values.length, rest⟩ :=
      renderNode_withParams hnode
        (fun _ => resolveParams_taken hfills hcount htaken m rest) hlength
    have hsame : SameRest ⟨n, rest⟩ ⟨m + values.length, rest⟩ := rfl
    have htracks : Run.Tracks id SameRest
        (renderNode registry scope (node.withParams written) ⟨n, rest⟩)
        (renderNode registry scope ((node.withParams written).moved id)
          ⟨m + values.length, rest⟩) :=
      tracking_sameRest.renderNode scope hsame
    rw [Node.moved_id, ← hrun] at htracks
    exact htracks
  · exact isRead_withParams hnode hallows hlength htaken
  · obtain ⟨i, slot, value, hfirst⟩ := exists_firstRefused hrefused
    refine ⟨i, slot, value, hfirst, ?_, ?_⟩
    · exact renderNode_refused hnode hscope fun _ =>
        resolveParams_refused hfills hallows.slotsTake hfirst m rest
    · obtain ⟨-, spec, hspec, hadmits⟩ := hallows
      have hslots : slots = spec.params := by
        show Registry.slots _ letter = _
        rw [Registry.slots, hspec]
      rw [hslots] at hfirst
      exact parse_of_firstRefused hspec
        (show literal.params.length ≤ _ from hlength ▸ hadmits.count)
        hfirst

/-- A width that is taken and one that is not, from the arguments and
written out. -/
theorem renderNode_filled_width :
    let clause : Clause :=
      ⟨[⟨.nextArgument, 1⟩, ⟨.character '0', 3⟩], {}, 0⟩
    let written (n : Int) : List Param :=
      [⟨.integer n, 1⟩, ⟨.character '0', 3⟩]
    let node := Node.simple .decimal clause
    let run (n : Int) :=
      renderNode .standard [] node ⟨0, [.int n, .int 42]⟩
    (run 5).text = word "00042"
      ∧ Run.Tracks id SameRest (renderNode .standard []
          (node.withParams (written 5)) ⟨0, [.int 42]⟩) (run 5)
      ∧ (clause.withParams (written 5)).IsRead .standard 'D'
      ∧ (∃ e events, run (-1) = ⟨[], events, .stopped (.error e)⟩
        ∧ e.position = some 1 ∧ e.cause.family = .unsupportedFormat)
      ∧ ∃ e, (∀ after, parse .standard (word "~-1,'0D" ++ after) = .error e)
        ∧ e.cause.family = .invalidParameter
        ∧ some e.position = some 1 := by
  intro clause written node run
  have hslots : Registry.standard.slots 'D'
      = Registry.decimalSlots .standard := rfl
  have htaken : SlotsTake (written 5) (Registry.standard.slots 'D') := by
    have hcheck : checkSlots [] (written 5) (Registry.standard.slots 'D')
        = .ok () := rfl
    exact (checkSlots_eq_ok_iff _ _).mp hcheck
  have hrefused :
      ¬SlotsTake (written (-1)) (Registry.standard.slots 'D') := by
    intro h
    obtain ⟨hfirst, -⟩ := slotsTake_cons.mp (hslots ▸ h)
    obtain ⟨-, hrange⟩ := hfirst (.integer (-1)) rfl
    cases hrange
  have hallows : Registry.standard.Allows 'D' clause := by
    have hcheck : checkSlots [] clause.params
        (Registry.standard.slots 'D') = .ok () := rfl
    exact ⟨nofun, _, rfl, by decide, (checkSlots_eq_ok_iff _ _).mp hcheck,
      nofun, nofun⟩
  have hfills (n : Int) :
      Fills [.integer n] clause.params (written n) :=
    .given (.kept nofun nofun .nil)
  obtain ⟨htracks, hread⟩ :=
    (renderNode_filled
      (show node.directive? = some (.scalar 'D', clause) from rfl) hallows
      (fun h => absurd h (by decide)) (hfills 5) 0 0
      [.int 42]).1 htaken
  obtain ⟨i, slot, value, hfirst, hrender, hparse⟩ :=
    (renderNode_filled
      (show node.directive? = some (.scalar 'D', clause) from rfl) hallows
      (fun h => absurd h (by decide)) (hfills (-1)) 0 0
      [.int 42]).2 hrefused
  refine ⟨by decide +kernel, htracks, hread, ?_⟩
  have hfirst : FirstRefused (written (-1))
      (Registry.decimalSlots .standard) i slot value := hslots ▸ hfirst
  cases hfirst with
  | here hwritten _ =>
      cases hwritten
      have hprint : (clause.withParams (written (-1))).print 'D'
          = word "~-1,'0D" := by decide +kernel
      rw [hprint] at hparse
      exact ⟨hrender, hparse⟩
  | later hwidth _ =>
      obtain ⟨-, hrange⟩ := hwidth (.integer (-1)) rfl
      cases hrange

end TildeFormat
