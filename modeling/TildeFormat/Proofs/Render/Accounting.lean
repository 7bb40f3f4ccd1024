/-
What the events of a render say about it. A render of a well-formed tree
does only what its directives are made for: fields are drawn in their
domain, counts and limits are not negative, and an escape finds as many
constructs around it as its node says. And the events account for the
ending: a render ends in a fault when, and only when, one of its events
has one, a field that cannot be drawn or a quotient beyond binary64, and
then that is the only one.

Both are kept when runs follow one another, because a run that goes on
has no fault to account for. So it is enough to look at what each node
does by itself, with the induction on the tree for what is inside the
constructs.
-/
import TildeFormat.Proofs.Render.Loop
import TildeFormat.Proofs.Render.Params
import TildeFormat.Proofs.Template.WellFormed

namespace TildeFormat

variable {settings : Settings}

-- ============================================================== faults

instance (n : Int) (d : Nat) : Decidable (Beyond n d) :=
  inferInstanceAs (Decidable (_ ∧ _))

/-- An event happens as it is meant to. -/
def Event.Proper : Event → Prop
  | drawn field => field.InDomain
  | rounded _ _ => True
  | skipped count => 0 ≤ count
  | looping _ limit => ∀ n, limit = some n → 0 ≤ n
  | looped _ _ => True
  | tested depth active wholeLoop overSublists =>
    depth = active ∧ (wholeLoop = true → overSublists = true)

/-- The family of the fault an event has, if any. -/
def Event.fault? : Event → Option FaultFamily
  | drawn field =>
    match field.draw with
    | .ok _ | .error (.fixed _) => none
    | .error fault => some fault.family
  | rounded n d => if Beyond n d then some .range else none
  | _ => none

/-- The family of the fault a run ends in, if any. -/
def Ending.fault? : Ending → Option FaultFamily
  | stopped (.fault fault) => some fault.family
  | _ => none

/-- Events account for an ending: they are proper, and the fault of the
ending is the one fault among them. -/
structure Accounts (events : List Event) (ending : Ending) : Prop where
  proper : ∀ event ∈ events, event.Proper
  faults : events.filterMap Event.fault? = ending.fault?.toList

/-- The events of a run account for its ending. -/
def Run.Accounts (run : Run) : Prop :=
  TildeFormat.Accounts run.events run.ending

/-- With nothing noted there must be no fault. -/
theorem Accounts.nil {ending : Ending} (h : ending.fault? = none) :
    Accounts [] ending where
  proper := by simp
  faults := by rw [h]; rfl

/-- What follows a run without a fault accounts for the ending of both. -/
theorem Accounts.append {first rest : List Event} {ending last : Ending}
    (h : Accounts first ending) (hgoes : ending.fault? = none)
    (hrest : Accounts rest last) : Accounts (first ++ rest) last where
  proper event hevent :=
    (List.mem_append.mp hevent).elim (h.proper event) (hrest.proper event)
  faults := by
    rw [List.filterMap_append, h.faults, hgoes, hrest.faults]
    rfl

/-- An event without a fault. -/
theorem Accounts.cons {event : Event} {events : List Event}
    {ending : Ending} (hproper : event.Proper)
    (hfault : event.fault? = none) (h : Accounts events ending) :
    Accounts (event :: events) ending where
  proper := List.forall_mem_cons.mpr ⟨hproper, h.proper⟩
  faults := by rw [List.filterMap_cons_none hfault, h.faults]

/-- One event, with the fault of the ending. -/
theorem Accounts.single {event : Event} {ending : Ending}
    (hproper : event.Proper) (hfault : event.fault? = ending.fault?) :
    Accounts [event] ending where
  proper := List.forall_mem_singleton.mpr hproper
  faults := by
    rw [← hfault]
    cases h : event.fault? with
    | none => rw [List.filterMap_cons_none h]; rfl
    | some family => rw [List.filterMap_cons_some h]; rfl

/-- An ending with the same fault. -/
theorem Accounts.ending {events : List Event} {ending last : Ending}
    (h : Accounts events ending) (heq : last.fault? = ending.fault?) :
    Accounts events last where
  proper := h.proper
  faults := by rw [h.faults, heq]

-- ================================================================ runs

namespace Run

theorem accounts_idle (cursor : Cursor) : (idle cursor).Accounts :=
  .nil rfl

theorem accounts_emit (text : Text) (cursor : Cursor) :
    (emit text cursor).Accounts :=
  .nil rfl

theorem accounts_fail (error : RenderError) : (fail error).Accounts :=
  .nil rfl

/-- An attempt that fails is an error, and no fault. -/
theorem accounts_orFail {α : Type} {attempt : Except RenderError α}
    {next : α → Run}
    (h : ∀ a, attempt = .ok a → (next a).Accounts) :
    (orFail attempt next).Accounts := by
  cases attempt with
  | error e => exact accounts_fail e
  | ok a => exact h a rfl

/-- Two runs in a row: the fault is of the last that ran. -/
theorem accounts_andThen {run : Run} {next : Cursor → Run}
    (h : run.Accounts) (hnext : ∀ cursor, (next cursor).Accounts) :
    (run.andThen next).Accounts := by
  unfold andThen
  split
  · next cursor hending =>
    exact h.append (by rw [hending]; rfl) (hnext cursor)
  · exact h

/-- A field in its domain faults only by what is noted of it. -/
theorem accounts_drawField {directive : Text} {position : Nat}
    {field : Field} {cursor : Cursor} (h : field.InDomain) :
    (drawField directive position field cursor).Accounts := by
  unfold drawField
  cases hdraw : field.draw with
  | ok text => exact .single h (by simp only [Event.fault?, hdraw]; rfl)
  | error fault =>
      cases fault with
      | fixed fault =>
          exact .single h (by simp only [Event.fault?, hdraw]; rfl)
      | _ => exact .single h (by simp only [Event.fault?, hdraw]; rfl)

end Run

-- ============================================================= actions

/-- The directives that put out an argument, their slots holding what they
may. -/
theorem accounts_renderText {form : Form} {directive : Text}
    {clause : Clause} {values : List ParamValue} {cursor : Cursor}
    (h : SlotsHold Registry.paddingSlots values) :
    (renderText form directive clause values cursor).Accounts := by
  obtain ⟨mincol, colinc, minpad, padchar, rfl, hdomain⟩ :=
    padding_values h
  exact Run.accounts_orFail fun _ _ => Run.accounts_drawField hdomain

/-- A decimal integer. -/
theorem accounts_renderDecimal {directive : Text} {clause : Clause}
    {values : List ParamValue} {cursor : Cursor}
    (h : SlotsHold (Registry.decimalSlots settings) values) :
    (renderDecimal directive clause values cursor).Accounts := by
  obtain ⟨mincol, padchar, commachar, interval, rfl, hdomain⟩ :=
    decimal_values h
  exact Run.accounts_orFail fun _ _ =>
    Run.accounts_drawField (hdomain _ _)

/-- A number beyond binary64 is accounted for by its rounding, any other
one by its field. -/
theorem accounts_renderFixed {directive : Text} {clause : Clause}
    {values : List ParamValue} {cursor : Cursor}
    (h : SlotsHold Registry.fixedSlots values) :
    (renderFixed directive clause values cursor).Accounts := by
  obtain ⟨width, width?, digits, digits?, scale, overflowchar,
    overflowchar?, padchar, rfl, hwidth, hdigits, hover, hdomain⟩ :=
    fixed_values h
  simp only [renderFixed, hwidth, hdigits, hover]
  refine Run.accounts_orFail ?_
  rintro ⟨argument, next⟩ -
  simp only
  cases hquotient : argument.quotient? with
  | none =>
      obtain ⟨x?, hfloat⟩ := Value.float?_of_not_quotient hquotient
      rw [Value.rounding, hquotient, hfloat]
      cases x? with
      | none => exact Run.accounts_fail _
      | some number => exact Run.accounts_drawField (hdomain _)
  | some quotient =>
      obtain ⟨n, d⟩ := quotient
      obtain ⟨x?, fault, hfloat, hnone, hfamily⟩ :=
        Value.float?_of_quotient hquotient
      rw [Value.rounding, hquotient, hfloat]
      cases x? with
      | none =>
          refine Accounts.single trivial ?_
          rw [Event.fault?, if_pos (hnone.mp rfl), ← hfamily]
          rfl
      | some number =>
          have hwithin : ¬Beyond n d := fun h => by cases hnone.mpr h
          exact Accounts.cons trivial (if_neg hwithin)
            (Run.accounts_drawField (hdomain _))

/-- Arguments that are skipped, by a number their slot may hold. -/
theorem accounts_renderSkip {directive : Text} {clause : Clause}
    {values : List ParamValue} {cursor : Cursor}
    (h : SlotsHold Registry.countSlots values) :
    (renderSkip directive clause values cursor).Accounts := by
  obtain ⟨count, rfl, hcount⟩ := count_values h
  exact Accounts.cons hcount rfl
    (Run.accounts_orFail fun _ _ => Run.accounts_idle _)

/-- Copies of a character fault by their number alone. -/
theorem accounts_renderCopies {c : Character} {directive : Text}
    {clause : Clause} {values : List ParamValue} {cursor : Cursor}
    (h : SlotsHold Registry.countSlots values) :
    (renderCopies c directive clause values cursor).Accounts := by
  obtain ⟨count, rfl, hcount⟩ := count_values h
  exact Run.accounts_drawField hcount

/-- Each built-in action accounts for its faults. -/
theorem accounts_act {kind : Kind} {directive : Text} {clause : Clause}
    {values : List ParamValue} {cursor : Cursor}
    (h : SlotsHold (Registry.stepSpec settings kind).params values) :
    (kind.act directive clause values cursor).Accounts := by
  cases kind with
  | human | machine => exact accounts_renderText h
  | decimal => exact accounts_renderDecimal h
  | fixed => exact accounts_renderFixed h
  | skip => exact accounts_renderSkip h
  | newline | tilde => exact accounts_renderCopies h

-- ========================================================== directives

variable {clause : Clause} {cursor : Cursor}

/-- A simple directive that the registry allows has what it needs in its
slots. -/
theorem accounts_renderSimple {kind : Kind}
    (h : (Registry.builtin settings).Allows kind.letter clause) :
    (renderSimple (.builtin settings) kind clause cursor).Accounts := by
  have haction : ((Registry.builtin settings).ofKind kind).action
      = some kind := by
    cases kind with
    | _ => rfl
  refine Run.accounts_orFail ?_
  rintro ⟨values, next⟩ hvalues
  have hhold := resolveParams_hold
    (slots_kind settings kind ▸ h.slotsTake) hvalues
  simp only [haction]
  exact accounts_act hhold

/-- An escape with as many values as it has slots can be tested. -/
theorem escapeFires_fault {count : Nat} {values : List ParamValue}
    (hcount : 0 < count) (hslots : count ≤ 3)
    (h : SlotsHold Registry.escapeSlots values) {fault : Fault} :
    escapeFires clause count values ≠ .error (.fault fault) := by
  obtain ⟨a, b, c, rfl⟩ := escape_values h
  match count, hcount, hslots with
  | 1, _, _ | 2, _, _ => simp [escapeFires]
  | 3, _, _ =>
      simp only [escapeFires]
      split
      · simp
      · simp

/-- The constructs around a node: as many as its depth, and the innermost
a loop over sublists where the node is said to be in one. -/
structure Around (scope : List Construct) (depth : Nat) (direct : Bool) :
    Prop where
  length : scope.length = depth
  sublists : direct = true → ∃ left rest, scope = .sublists left :: rest

/-- An escape where the parser lets one stand: its slots are integers, and
`~:^` has lists around it. -/
theorem accounts_renderEscape {scope : List Construct} {depth : Nat}
    {direct : Bool} (hscope : Around scope depth direct)
    (hallows : (Registry.builtin settings).Allows '^' clause)
    (hcolon : clause.modifiers.colon = true → direct = true) :
    (renderEscape (.builtin settings) scope depth clause cursor).Accounts
    := by
  cases scope with
  | nil => exact Run.accounts_fail _
  | cons inner scope =>
      refine Accounts.cons ⟨hscope.length.symm, ?_⟩ rfl
        (Run.accounts_orFail ?_)
      · intro hwhole
        obtain ⟨left, rest, heq⟩ := hscope.sublists (hcolon hwhole)
        cases heq
        rfl
      · rintro ⟨values, next⟩ hvalues
        have hhold : SlotsHold Registry.escapeSlots values :=
          resolveParams_hold hallows.slotsTake hvalues
        simp only
        split
        · next why htest =>
          cases why with
          | error e => exact Run.accounts_fail e
          | fault fault =>
              split at htest
              · cases htest
              · next hparams =>
                have hcount : 0 < clause.params.length :=
                  List.length_pos_iff.mpr fun h => hparams (by simp [h])
                exact absurd htest
                  (escapeFires_fault hcount hallows.length_le hhold)
        · exact .nil rfl
        · exact Run.accounts_idle next

-- ========================================================== iterations

/-- A run that was not stopped has no fault. -/
theorem Ending.fault?_of_not_isStopped {ending : Ending}
    (h : ending.isStopped = false) : ending.fault? = none := by
  cases ending with
  | finished | escaped => rfl
  | stopped => cases h

/-- Whatever a loop does with a pass, its faults stay accounted for. -/
theorem carries_accounts {pass : Run} (h : pass.Accounts) :
    Carries Run.Accounts pass where
  last _ := h
  caught hgoes _ := h.ending (Ending.fault?_of_not_isStopped hgoes).symm
  front hgoes _ hrun :=
    h.append (Ending.fault?_of_not_isStopped hgoes) hrun

/-- The passes of a loop account for its ending when each pass does. -/
theorem accounts_overElements {body : Cursor → Run}
    (hbody : ∀ source, (body source).Accounts) (stuck : RenderError)
    (forced : Bool) (limit : Option Nat) (source : Cursor) :
    (overElements body stuck forced limit source).run.Accounts := by
  refine overElements_keeps Run.accounts_idle
    (fun source => carries_accounts (hbody source)) ?_ forced limit source
  intro source next hending
  exact (hbody source).ending (by rw [hending]; rfl)

/-- A loop over lists. -/
theorem accounts_overSublists {body : Nat → Cursor → Run}
    (hbody : ∀ left source, (body left source).Accounts)
    (open? : Value → Except RenderError (List Value)) (forced : Bool)
    (limit : Option Nat) (consumed : Nat) (items : List Value) :
    (overSublists body open? forced limit consumed items).run.Accounts :=
  overSublists_keeps Run.accounts_idle
    (fun left source => carries_accounts (hbody left source))
    (fun _ e _ => Run.accounts_fail e) forced limit consumed items

/-- The passes of a loop as one run. -/
theorem accounts_toRun {passes : Passes} (h : passes.run.Accounts)
    (position : Nat) (resume : Cursor → Cursor) :
    (passes.toRun position resume).Accounts := by
  unfold Passes.toRun
  split
  · next source hending =>
    refine h.append (by rw [hending]; rfl) ?_
    exact Accounts.single trivial rfl
  · exact h

/-- An iteration that the registry allows, over a body that accounts for
its faults in every construct it may be in. -/
theorem accounts_renderIteration {body : Construct → Cursor → Run}
    {atLeastOnce : Bool}
    (hallows : (Registry.builtin settings).Allows Shape.iteration.opener
      clause)
    (hbody : ∀ construct, (clause.modifiers.colon = true →
      ∃ left, construct = .sublists left) →
      ∀ source, (body construct source).Accounts) :
    (renderIteration (.builtin settings) body atLeastOnce clause
      cursor).Accounts := by
  have hloop (limit : Option Int) (source : Cursor) :
      (iterate body atLeastOnce clause limit source).run.Accounts := by
    unfold iterate
    split
    · exact accounts_overSublists
        (fun left => hbody _ fun _ => ⟨left, rfl⟩) _ _ _ _ _
    · next hplain =>
      exact accounts_overElements
        (hbody _ fun hcolon => absurd hcolon hplain) _ _ _ _
  refine Run.accounts_orFail ?_
  rintro ⟨values, next⟩ hvalues
  obtain ⟨limit, hlimit, hpos⟩ :=
    passes_values (resolveParams_hold hallows.slotsTake hvalues)
  simp only [hlimit]
  refine Accounts.cons hpos rfl ?_
  split
  · exact accounts_toRun (hloop _ _) _ _
  · exact Run.accounts_orFail fun _ _ => Run.accounts_orFail fun _ _ =>
      accounts_toRun (hloop _ _) _ _

-- ====================================================== justifications

/-- The events of segments account for their ending. -/
def SegmentRun.Accounts (laid : SegmentRun) : Prop :=
  TildeFormat.Accounts laid.events laid.ending

/-- A segment and the ones behind it. -/
theorem accounts_thenSegments {segment : Run}
    {next : Cursor → SegmentRun} (h : segment.Accounts)
    (hnext : ∀ cursor, (next cursor).Accounts) :
    (segment.thenSegments next).Accounts := by
  unfold Run.thenSegments
  split
  · next cursor hending =>
    exact Accounts.append h (by rw [hending]; rfl) (hnext cursor)
  · exact h

/-- A justification that the registry allows, over its segments. -/
theorem accounts_renderJustification {segments : Cursor → SegmentRun}
    (hallows : (Registry.builtin settings).Allows
      Shape.justification.opener clause)
    (hsegments : ∀ source, (segments source).Accounts) :
    (renderJustification (.builtin settings) segments clause
      cursor).Accounts := by
  refine Run.accounts_orFail ?_
  rintro ⟨values, next⟩ hvalues
  obtain ⟨mincol, colinc, minpad, padchar, rfl, hdomain⟩ :=
    padding_values (resolveParams_hold hallows.slotsTake hvalues)
  have hlaid := hsegments next
  simp only
  cases hending : (segments next).ending with
  | stopped why =>
      have hall : TildeFormat.Accounts ((segments next).events ++ [])
          (.stopped why) := by
        rw [List.append_nil, ← hending]
        exact hlaid
      exact hall
  | finished last | escaped wholeLoop last =>
      exact hlaid.append (by rw [hending]; rfl)
        (Run.accounts_drawField hdomain)

-- =============================================================== trees

mutual

/-- The events of a well-formed node account for its ending. -/
theorem renderNode_accounts {node : Node} {scope : List Construct}
    {depth : Nat} {direct : Bool}
    (h : node.WellFormed (.builtin settings) depth direct)
    (hscope : Around scope depth direct) (cursor : Cursor) :
    (renderNode (.builtin settings) scope node cursor).Accounts := by
  match node with
  | .literal t _ => exact Run.accounts_emit t cursor
  | .simple kind clause => exact accounts_renderSimple h
  | .escape d clause =>
      obtain ⟨hallows, rfl, -, hcolon⟩ := h
      exact accounts_renderEscape hscope hallows hcolon
  | .group items => exact h.elim
  | .iteration body atLeastOnce clause =>
      obtain ⟨hallows, -, hbody⟩ := h
      refine accounts_renderIteration hallows fun construct hcolon => ?_
      refine renderAll_accounts hbody ⟨?_, ?_⟩
      · rw [List.length_cons, hscope.length]
      · intro hdirect
        obtain ⟨left, rfl⟩ := hcolon hdirect
        exact ⟨left, scope, rfl⟩
  | .justification segments clause =>
      obtain ⟨hallows, -, hsegments⟩ := h
      refine accounts_renderJustification hallows
        (renderSegments_accounts hsegments ?_)
      rw [List.length_cons, hscope.length]
termination_by structural node

/-- The events of well-formed nodes account for their ending. -/
theorem renderAll_accounts {nodes : List Node} {scope : List Construct}
    {depth : Nat} {direct : Bool}
    (h : WellFormed (.builtin settings) depth direct nodes)
    (hscope : Around scope depth direct) (cursor : Cursor) :
    (renderAll (.builtin settings) scope nodes cursor).Accounts := by
  match nodes with
  | [] => exact Run.accounts_idle cursor
  | node :: rest =>
      obtain ⟨hnode, -, hrest⟩ := h
      exact Run.accounts_andThen (renderNode_accounts hnode hscope cursor)
        (renderAll_accounts hrest hscope)
termination_by structural nodes

/-- The events of well-formed segments account for their ending. -/
theorem renderSegments_accounts {segments : List (List Node)}
    {scope : List Construct} {depth : Nat}
    (h : SegmentsWellFormed (.builtin settings) depth segments)
    (hlength : scope.length = depth) (cursor : Cursor) :
    (renderSegments (.builtin settings) scope segments cursor).Accounts
    := by
  match segments with
  | [] => exact Accounts.nil rfl
  | segment :: rest =>
      obtain ⟨hsegment, hrest⟩ := h
      have hscope : Around scope depth false := ⟨hlength, by simp⟩
      exact accounts_thenSegments
        (renderAll_accounts hsegment hscope cursor)
        (renderSegments_accounts hrest hlength)
termination_by structural segments

end

end TildeFormat
